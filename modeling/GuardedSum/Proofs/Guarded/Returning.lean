import GuardedSum.Proofs.Guarded.TryCatchFinally

namespace GuardedSum

variable {τ σ ε ζ α β : Type} {inv : σ → Prop}

def Outcome.Returned (o : Outcome ε α) : Prop :=
  ∃ x, o = .ofExcept x

theorem Outcome.returned_ite {p : Prop} [Decidable p] (a : α) (e : ε) :
    (if p then .ok a else .error e : Outcome ε α).Returned := by
  split
  case isTrue => exact ⟨.ok a, rfl⟩
  case isFalse => exact ⟨.error e, rfl⟩

theorem Outcome.Returned.ne_abort {o : Outcome ε α} : o.Returned → o ≠ .abort
  | ⟨.ok _, h⟩ | ⟨.error _, h⟩ => h ▸ nofun

theorem Outcome.Returned.ne_panic {o : Outcome ε α} (m : String) : o.Returned → o ≠ .panic m
  | ⟨.ok _, h⟩ | ⟨.error _, h⟩ => h ▸ nofun

theorem Outcome.Returned.mapError {o : Outcome ε α} (f : ε → ζ) :
    o.Returned → (o.mapError f).Returned
  | ⟨.ok a, h⟩ => ⟨.ok a, h ▸ rfl⟩
  | ⟨.error e, h⟩ => ⟨.error (f e), h ▸ rfl⟩

theorem Guarded.returned_verdict {o : Outcome ε α} {p q : Outcome ζ Unit} :
    o.Returned → p.Returned → q.Returned → (verdict o p q).Returned
  | ⟨.ok a, ho⟩, ⟨.ok (), hp⟩, ⟨.ok (), hq⟩ => ⟨.ok (.completed a), by simp [ho, hp, hq]; rfl⟩
  | ⟨.error e, ho⟩, ⟨.ok (), hp⟩, ⟨.ok (), hq⟩ => ⟨.ok (.caught e), by simp [ho, hp, hq]; rfl⟩
  | ⟨.ok _, ho⟩, ⟨.error x, hp⟩, ⟨.ok (), hq⟩ | ⟨.error _, ho⟩, ⟨.error x, hp⟩, ⟨.ok (), hq⟩
  | ⟨.ok _, ho⟩, ⟨.ok (), hp⟩, ⟨.error x, hq⟩ | ⟨.error _, ho⟩, ⟨.ok (), hp⟩, ⟨.error x, hq⟩
  | ⟨.ok _, ho⟩, ⟨.error _, hp⟩, ⟨.error x, hq⟩ | ⟨.error _, ho⟩, ⟨.error _, hp⟩, ⟨.error x, hq⟩ =>
    ⟨.error x, by simp [ho, hp, hq]; rfl⟩

def Action.Returns (inv : σ → Prop) (x : Action τ σ ε α) : Prop :=
  ∀ s, inv s → inv (x s).state ∧ (x s).outcome.Returned

namespace Action.Returns

variable {x : Action τ σ ε α}

theorem pure (a : α) : Returns inv (pure a : Action τ σ ε α) :=
  fun _ h => ⟨h, .ok a, rfl⟩

theorem throw (e : ε) : Returns inv (throw e : Action τ σ ε α) :=
  fun _ h => ⟨h, .error e, rfl⟩

theorem emit (entry : Log.Entry) : Returns inv (emit entry : Action τ σ ε Unit) :=
  fun _ h => ⟨h, .ok (), rfl⟩

theorem bind {f : α → Action τ σ ε β} (hx : x.Returns inv) (hf : ∀ a, (f a).Returns inv) :
    (x >>= f).Returns inv := by
  intro s h
  have ⟨inv', returned⟩ := hx s h
  rw [bind_apply]
  match hs : x s with
  | ⟨.ok a, s', r, l⟩ =>
    rw [hs] at inv'
    exact hf a s' inv'
  | ⟨.error e, s', r, l⟩ =>
    rw [hs] at inv'
    exact ⟨inv', .error e, rfl⟩
  | ⟨.panic m, s', r, l⟩ => exact absurd (congrArg Exit.outcome hs) (returned.ne_panic m)
  | ⟨.abort, s', r, l⟩ => exact absurd (congrArg Exit.outcome hs) returned.ne_abort

theorem mapError (f : ε → ζ) (hx : x.Returns inv) : (x.mapError f).Returns inv :=
  fun s h => ⟨(hx s h).1, (hx s h).2.mapError f⟩

theorem inSpan (span : Log.Span) (hx : x.Returns inv) : (x.inSpan span).Returns inv :=
  hx

theorem guarded {onError : ε → Action τ σ ζ Unit} {completion : Action τ σ ζ Unit}
    (hx : x.Returns inv) (hh : ∀ e, (onError e).Returns inv) (hc : completion.Returns inv) :
    (guarded x onError completion).Returns inv := by
  intro s h
  obtain ⟨inv₁, body_returned⟩ := hx s h
  obtain ⟨inv₂, handler_returned⟩ :
      inv ((x s).handled onError).state ∧ ((x s).handled onError).outcome.Returned := by
    match hs : x s with
    | ⟨.error e, s', _, _⟩ => exact hh e s' (by simpa [hs] using inv₁)
    | ⟨.ok _, s', _, _⟩ | ⟨.panic _, s', _, _⟩ | ⟨.abort, s', _, _⟩ =>
      exact ⟨by simpa [Exit.handled, hs] using inv₁, .ok (), rfl⟩
  obtain ⟨inv₃, completion_returned⟩ := hc _ inv₂
  rw [guarded_of_ends body_returned.ne_abort handler_returned.ne_abort]
  exact ⟨inv₃, Guarded.returned_verdict body_returned handler_returned completion_returned⟩

end Action.Returns

end GuardedSum
