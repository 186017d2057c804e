import GuardedSum.Proofs.Guarded.TryCatchFinally

namespace GuardedSum

variable {τ σ ε ζ α β : Type} {n m l : Nat}

def Action.RecordsAtMost (n : Nat) (x : Action τ σ ε α) : Prop :=
  ∀ s, (x s).record.length ≤ n

namespace Action.RecordsAtMost

variable {x : Action τ σ ε α}

theorem pure (a : α) : RecordsAtMost n (pure a : Action τ σ ε α) :=
  fun _ => Nat.zero_le n

theorem throw (e : ε) : RecordsAtMost n (throw e : Action τ σ ε α) :=
  fun _ => Nat.zero_le n

theorem emit (entry : Log.Entry) : RecordsAtMost n (emit entry : Action τ σ ε Unit) :=
  fun _ => Nat.zero_le n

theorem bind {f : α → Action τ σ ε β} (hx : x.RecordsAtMost n)
    (hf : ∀ a, (f a).RecordsAtMost m) : (x >>= f).RecordsAtMost (n + m) := by
  intro s
  have first := hx s
  rw [bind_apply]
  match hs : x s with
  | ⟨.ok a, s', r, _⟩ =>
    rw [hs] at first
    rw [Exit.bind_ok, Exit.after, List.length_append]
    exact Nat.add_le_add first (hf a s')
  | ⟨.error _, _, r, _⟩ | ⟨.panic _, _, r, _⟩ | ⟨.abort, _, r, _⟩ =>
    rw [hs] at first
    exact Nat.le_add_right_of_le first

theorem inSpan (span : Log.Span) (hx : x.RecordsAtMost n) : (x.inSpan span).RecordsAtMost n :=
  hx

section

variable {onError : ε → Action τ σ ζ Unit} {completion : Action τ σ ζ Unit}

theorem handled (hh : ∀ e, (onError e).RecordsAtMost m) (b : Exit τ σ ε α) :
    (b.handled onError).record.length ≤ m := by
  match b with
  | ⟨.error e, s, _, _⟩ => exact hh e s
  | ⟨.ok _, _, _, _⟩ | ⟨.panic _, _, _, _⟩ | ⟨.abort, _, _, _⟩ => exact Nat.zero_le m

theorem guarded_of_ends (hx : x.RecordsAtMost n) (hh : ∀ e, (onError e).RecordsAtMost m)
    (hc : completion.RecordsAtMost l) {s : σ} (body_ends : (x s).outcome ≠ .abort)
    (handler_ends : ((x s).handled onError).outcome ≠ .abort) :
    (guarded x onError completion s).record.length ≤ n + m + l := by
  rw [GuardedSum.guarded_of_ends body_ends handler_ends, List.length_append, List.length_append]
  exact Nat.add_le_add (Nat.add_le_add (hx s) (handled hh (x s))) (hc _)

-- An abort only keeps the steps behind it from leaving anything behind.
theorem guarded (hx : x.RecordsAtMost n) (hh : ∀ e, (onError e).RecordsAtMost m)
    (hc : completion.RecordsAtMost l) :
    (guarded x onError completion).RecordsAtMost (n + m + l) := by
  intro s
  have body_le := hx s
  match hb : x s with
  | ⟨.abort, s₁, r₁, _⟩ =>
    rw [hb] at body_le
    rw [guarded_of_abort hb]
    exact Nat.le_add_right_of_le (Nat.le_add_right_of_le body_le)
  | ⟨.error e, s₁, r₁, _⟩ =>
    have handler_le := hh e s₁
    match hy : onError e s₁ with
    | ⟨.abort, s₂, r₂, _⟩ =>
      rw [hb] at body_le
      rw [hy] at handler_le
      rw [guarded_of_handler_abort hb hy, List.length_append]
      exact Nat.le_add_right_of_le (Nat.add_le_add body_le handler_le)
    | ⟨.ok (), _, _, _⟩ | ⟨.error _, _, _, _⟩ | ⟨.panic _, _, _, _⟩ =>
      exact guarded_of_ends hx hh hc (by simp [hb]) (by simp [hb, hy])
  | ⟨.ok _, _, _, _⟩ | ⟨.panic _, _, _, _⟩ =>
    exact guarded_of_ends hx hh hc (by simp [hb]) (by simp [Exit.handled, hb])

end

end Action.RecordsAtMost

variable {xs : List (Action τ σ ε α)}

theorem Action.length_records_runEach_le (h : ∀ x ∈ xs, x.RecordsAtMost n) (s : σ) :
    ((runEach s xs).flatMap Exit.record).length ≤ n * xs.length := by
  induction xs generalizing s with
  | nil => exact Nat.zero_le _
  | cons x xs ih =>
    have first := h x List.mem_cons_self s
    have rest := ih (fun y hy => h y (List.mem_cons_of_mem x hy)) (x s).state
    rw [List.length_cons, Nat.mul_succ]
    by_cases hx : (x s).outcome = .abort
    case pos =>
      rw [runEach_of_abort hx, List.flatMap_singleton]
      exact Nat.le_add_left_of_le first
    case neg =>
      rw [runEach_of_ne_abort hx, List.flatMap_cons, List.length_append, Nat.add_comm]
      exact Nat.add_le_add rest first

end GuardedSum
