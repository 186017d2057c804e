import GuardedSum.Guarded

namespace GuardedSum

variable {τ σ ε ζ α : Type}

-- What the handler leaves behind after an exit of the body. Without an error it is not called, and
-- the state stays as the body left it.
def Exit.handled (b : Exit τ σ ε α) (onError : ε → Action τ σ ζ Unit) : Exit τ σ ζ Unit :=
  match b.outcome with
  | .error e => onError e b.state
  | _ => { outcome := .ok (), state := b.state }

-- The end that wins, of the ends of a body, a handler and a completion. Two panics at once abort.
def Guarded.verdict : Outcome ε α → Outcome ζ Unit → Outcome ζ Unit → Outcome ζ (Guarded α ε)
  | .abort, _, _ | _, .abort, _ | _, _, .abort => .abort
  | .panic _, _, .panic _ | _, .panic _, .panic _ => .abort
  | .panic m, _, _ | _, .panic m, _ | _, _, .panic m => .panic m
  | _, _, .error x | _, .error x, _ => .error x
  | .error e, _, _ => .ok (.caught e)
  | .ok a, _, _ => .ok (.completed a)

-- The structured block: there is no completion object in it that could be finished or dropped, the
-- completion is just the third of three steps, each on the state that the one before it left.
def tryCatchFinally (body : Action τ σ ε α) (onError : ε → Action τ σ ζ Unit)
    (completion : Action τ σ ζ Unit) : Action τ σ ζ (Guarded α ε) :=
  fun s =>
    let b := body s
    let h := b.handled onError
    let c := completion h.state
    { outcome := Guarded.verdict b.outcome h.outcome c.outcome
      state := c.state
      record := b.record ++ h.record ++ c.record
      log := b.log ++ h.log ++ c.log }

-- What is logged when an outcome leaves the completion to be dropped.
def Outcome.unwound : Outcome ε α → List Log.Entry
  | .panic _ => [Completion.dropped]
  | _ => []

def Outcome.panicked : Outcome ε α → Bool
  | .panic _ => true
  | _ => false

def Outcome.aborted : Outcome ε α → Bool
  | .abort => true
  | _ => false

theorem Outcome.aborted_eq_false {o : Outcome ε α} (h : o ≠ .abort) : o.aborted = false := by
  cases o with
  | abort => exact absurd rfl h
  | _ => rfl

theorem Outcome.unwound_eq (o : Outcome ε α) :
    o.unwound = if o.panicked then [Completion.dropped] else [] := by
  cases o <;> rfl

namespace Exit

variable (onError : ε → Action τ σ ζ Unit) (s : σ) (r : List τ) (l : List Log.Entry)

@[simp]
theorem handled_error (e : ε) : (⟨.error e, s, r, l⟩ : Exit τ σ ε α).handled onError = onError e s :=
  rfl

theorem handled_of_ne_error {o : Outcome ε α} (h : ∀ e, o ≠ .error e) :
    (⟨o, s, r, l⟩ : Exit τ σ ε α).handled onError = { outcome := .ok (), state := s } := by
  cases o with
  | error e => exact absurd rfl (h e)
  | _ => rfl

end Exit

theorem Guarded.ne_abort_of_verdict {o : Outcome ε α} {p q : Outcome ζ Unit}
    (h : verdict o p q ≠ .abort) : o ≠ .abort ∧ p ≠ .abort ∧ q ≠ .abort := by
  cases o <;> cases p <;> cases q <;> simp_all [verdict]

theorem Guarded.error_of_verdict {o : Outcome ε α} {p q : Outcome ζ Unit} {x : ζ}
    (h : verdict o p q = .error x) : p = .error x ∨ q = .error x := by
  cases o <;> cases p <;> cases q <;> simp_all [verdict]

theorem Guarded.caught_of_verdict {o : Outcome ε α} {p q : Outcome ζ Unit} {e : ε}
    (h : verdict o p q = .ok (.caught e)) : o = .error e := by
  cases o <;> cases p <;> cases q <;> simp_all [verdict]

theorem Guarded.verdict_eq_panic {o : Outcome ε α} {p q : Outcome ζ Unit} {m : String}
    (ends : verdict o p q ≠ .abort) :
    verdict o p q = .panic m ↔
      o = .panic m ∨ (o.panicked = false ∧ p = .panic m) ∨ q = .panic m := by
  cases o <;> cases p <;> cases q <;> simp_all [verdict, Outcome.panicked]

section

variable (body : Action τ σ ε α) (onError : ε → Action τ σ ζ Unit) (completion : Action τ σ ζ Unit)
variable (s : σ)

-- The three steps show how the block ends even if they abort. What it leaves behind is then of no
-- one's concern: after an abort the block skips steps that are not skipped here.
def Guarded.Agrees : Prop :=
  let g := guarded body onError completion s
  let b := body s
  let h := b.handled onError
  let t := tryCatchFinally body onError completion s
  g.outcome = t.outcome ∧ (t.outcome ≠ .abort →
    g = { t with
      log := b.log ++ h.log ++ b.outcome.unwound ++ h.outcome.unwound ++
        (completion h.state).log })

variable {body onError completion s}

theorem guarded_of_ends (body_ends : (body s).outcome ≠ .abort)
    (handler_ends : ((body s).handled onError).outcome ≠ .abort) :
    let b := body s
    let h := b.handled onError
    let c := completion h.state
    guarded body onError completion s =
      { outcome := Guarded.verdict b.outcome h.outcome c.outcome
        state := c.state
        record := b.record ++ h.record ++ c.record
        log := b.log ++ h.log ++ b.outcome.unwound ++ h.outcome.unwound ++ c.log } := by
  intro b h c
  match hb : body s with
  | ⟨.error e, s₁, r₁, l₁⟩ =>
    match hh : onError e s₁ with
    | ⟨.ok (), s₂, r₂, l₂⟩ =>
      rw [guarded_of_caught hb hh]
      cases hc : (completion s₂).outcome <;>
        simp [b, h, c, Outcome.unwound, Guarded.verdict, Exit.bind, Exit.after, hb, hh, hc]
    | ⟨.error x, s₂, r₂, l₂⟩ =>
      rw [guarded_of_handler_error hb hh]
      cases hc : (completion s₂).outcome <;>
        simp [b, h, c, Outcome.unwound, Guarded.verdict, Exit.bind, Exit.after, hb, hh, hc]
    | ⟨.panic m, s₂, r₂, l₂⟩ =>
      rw [guarded_of_handler_panic hb hh]
      cases hc : (completion s₂).outcome <;>
        simp [b, h, c, Outcome.unwound, Guarded.verdict, Outcome.discard, hb, hh, hc]
    | ⟨.abort, s₂, r₂, l₂⟩ => simp [hb, hh] at handler_ends
  | ⟨.ok a, s₁, r₁, l₁⟩ =>
    rw [guarded_of_ok hb]
    cases hc : (completion s₁).outcome <;>
      simp [b, h, c, Exit.handled, Outcome.unwound, Guarded.verdict, Exit.bind, Exit.after, hb, hc]
  | ⟨.panic m, s₁, r₁, l₁⟩ =>
    rw [guarded_of_panic hb]
    cases hc : (completion s₁).outcome <;>
      simp [b, h, c, Exit.handled, Outcome.unwound, Guarded.verdict, Outcome.discard, hb, hc]
  | ⟨.abort, s₁, r₁, l₁⟩ => simp [hb] at body_ends

theorem guarded_agrees_of_ends (body_ends : (body s).outcome ≠ .abort)
    (handler_ends : ((body s).handled onError).outcome ≠ .abort) :
    Guarded.Agrees body onError completion s := by
  unfold Guarded.Agrees
  rw [guarded_of_ends body_ends handler_ends]
  exact ⟨rfl, fun _ => rfl⟩

variable (body onError completion s)

theorem guarded_agrees : Guarded.Agrees body onError completion s := by
  match hb : body s with
  | ⟨.ok a, s₁, r₁, l₁⟩ | ⟨.panic m, s₁, r₁, l₁⟩ =>
    exact guarded_agrees_of_ends (by simp [hb]) (by simp [Exit.handled, hb])
  | ⟨.error e, s₁, r₁, l₁⟩ =>
    match hh : onError e s₁ with
    | ⟨.ok (), s₂, r₂, l₂⟩ | ⟨.error x, s₂, r₂, l₂⟩ | ⟨.panic m, s₂, r₂, l₂⟩ =>
      exact guarded_agrees_of_ends (by simp [hb]) (by simp [hb, hh])
    | ⟨.abort, s₂, r₂, l₂⟩ =>
      simp [Guarded.Agrees, guarded_of_handler_abort hb hh, tryCatchFinally, Guarded.verdict, hb, hh]
  | ⟨.abort, s₁, r₁, l₁⟩ =>
    simp [Guarded.Agrees, guarded_of_abort hb, tryCatchFinally, Guarded.verdict, hb]

variable {body onError completion s}

theorem guarded_of_ne_abort (h : (guarded body onError completion s).outcome ≠ .abort) :
    let b := body s
    let h := b.handled onError
    let c := completion h.state
    guarded body onError completion s =
      { outcome := Guarded.verdict b.outcome h.outcome c.outcome
        state := c.state
        record := b.record ++ h.record ++ c.record
        log := b.log ++ h.log ++ b.outcome.unwound ++ h.outcome.unwound ++ c.log } := by
  have agrees := guarded_agrees body onError completion s
  exact agrees.2 (agrees.1 ▸ h)

end

namespace Action

-- Leaves alone what stands beside its state.
def beside {κ : Type} (x : Action τ σ ε α) : Action τ (σ × κ) ε α :=
  x.onPart Prod.fst fun s p => (s, p.2)

def tallied (x : Action τ σ ε α) : Action τ (σ × Nat) ε α :=
  fun p => (x p.1).mapState (·, p.2 + 1)

end Action

theorem tryCatchFinally_tallied (body : Action τ σ ε α) (onError : ε → Action τ σ ζ Unit)
    (completion : Action τ σ ζ Unit) (s : σ) (n : Nat) :
    tryCatchFinally body.beside (fun e => (onError e).beside) completion.tallied (s, n) =
      (tryCatchFinally body onError completion s).mapState (·, n + 1) := by
  match hb : body s with
  | ⟨.ok _, _, _, _⟩ | ⟨.error _, _, _, _⟩ | ⟨.panic _, _, _, _⟩ | ⟨.abort, _, _, _⟩ =>
    simp [tryCatchFinally, Exit.handled, Action.beside, Action.tallied, Action.onPart,
      Exit.mapState, hb]

-- A guarded block does what the structured block does, and its completion runs once, however often
-- the completion object is finished and dropped on the way out.
theorem guarded_refines_tryCatchFinally (body : Action τ σ ε α)
    (onError : ε → Action τ σ ζ Unit) (completion : Action τ σ ζ Unit) (s : σ) :
    let g := guarded body onError completion s
    let t := tryCatchFinally body onError completion s
    let counted := guarded body.beside (fun e => (onError e).beside) completion.tallied (s, 0)
    g.outcome = t.outcome ∧
      (g.outcome ≠ .abort →
        g.state = t.state ∧ g.record = t.record ∧ counted.state = (t.state, 1)) := by
  intro g t counted
  have agrees := guarded_agrees body onError completion s
  have agrees' := guarded_agrees body.beside (fun e => (onError e).beside) completion.tallied (s, 0)
  rw [Guarded.Agrees, tryCatchFinally_tallied] at agrees'
  refine ⟨agrees.1, fun h => ?_⟩
  have ht : t.outcome ≠ .abort := agrees.1 ▸ h
  have state_eq := congrArg Exit.state (agrees.2 ht)
  have record_eq := congrArg Exit.record (agrees.2 ht)
  have counted_eq := congrArg Exit.state (agrees'.2 ht)
  exact ⟨state_eq, record_eq, counted_eq⟩

theorem guarded_refines_tryCatchFinally_panic :
    let body : Action String Nat String Nat := do .modify (· + 1); .throw "body"
    let onError (_ : String) : Action String Nat String Unit := .throw "handler"
    let completion : Action String Nat String Unit := do .note "ran"; .ofOutcome (.panic "late")
    let g := guarded body onError completion 0
    let counted := guarded body.beside (fun e => (onError e).beside) completion.tallied (0, 0)
    g.outcome = .panic "late" ∧ g.outcome ≠ .abort ∧ g.state = 1 ∧ g.record = ["ran"] ∧
      counted.state = (1, 1) := by
  intro body onError completion g counted
  have h := guarded_refines_tryCatchFinally body onError completion 0
  have outcome_eq : g.outcome = .panic "late" := h.1
  have ne_abort : g.outcome ≠ .abort := by simp [outcome_eq]
  exact ⟨outcome_eq, ne_abort, h.2 ne_abort⟩

end GuardedSum
