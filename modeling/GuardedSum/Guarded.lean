import GuardedSum.Completion

namespace GuardedSum

-- What a guarded block comes to that did not fail itself.
inductive Guarded (α ε : Type) where
  | completed (value : α)
  -- The body failed, and the handler has seen the error.
  | caught (cause : ε)
  deriving DecidableEq

namespace Guarded

variable {α ε : Type}

def completed? : Guarded α ε → Option α
  | completed a => some a
  | caught _ => none

def caught? : Guarded α ε → Option ε
  | completed _ => none
  | caught e => some e

end Guarded

variable {τ σ ε ζ α : Type}

open Completion in
-- Runs a body on a state and hands its error to the handler. The completion runs once, after both.
-- An error of the handler is raised after the completion ran, unless the completion raises one
-- itself.
def guarded (body : Action τ σ ε α) (onError : ε → Action τ σ ζ Unit)
    (completion : Action τ σ ζ Unit) : Action τ σ ζ (Guarded α ε) :=
  guarding completion do
    match ← access body.attempt with
    | .ok a =>
      finish
      pure (.completed a)
    | .error e =>
      match ← access (onError e).attempt with
      | .ok () =>
        finish
        pure (.caught e)
      | .error h =>
        -- An error of the completion ends the block here, and `h` is lost.
        finish
        .throw h

section Lemmas

open Completion

variable {body : Action τ σ ε α} {onError : ε → Action τ σ ζ Unit} {completion : Action τ σ ζ Unit}
variable {s s₁ s₂ : σ} {r₁ r₂ : List τ} {l₁ l₂ : List Log.Entry} {a : α} {e : ε} {h : ζ}
variable {m : String}

theorem guarded_of_ok (hb : body s = ⟨.ok a, s₁, r₁, l₁⟩) :
    guarded body onError completion s =
      ((completion s₁).bind fun () => pure (.completed a)).after r₁ l₁ := by
  unfold guarded guarding
  rw [scope_of_step_eq_none] <;>
  · rcases hc : completion s₁ with ⟨o, s', r', l'⟩
    cases o <;>
      simp [Completion.new, Action.attempt_apply, hb, hc, Exit.mapState, Exit.after, Exit.bind]

theorem guarded_of_caught (hb : body s = ⟨.error e, s₁, r₁, l₁⟩)
    (hh : onError e s₁ = ⟨.ok (), s₂, r₂, l₂⟩) :
    guarded body onError completion s =
      ((completion s₂).bind fun () => pure (.caught e)).after (r₁ ++ r₂) (l₁ ++ l₂) := by
  unfold guarded guarding
  rw [scope_of_step_eq_none] <;>
  · rcases hc : completion s₂ with ⟨o, s', r', l'⟩
    cases o <;>
      simp [Completion.new, Action.attempt_apply, hb, hh, hc, Exit.mapState, Exit.after, Exit.bind]

theorem guarded_of_handler_error (hb : body s = ⟨.error e, s₁, r₁, l₁⟩)
    (hh : onError e s₁ = ⟨.error h, s₂, r₂, l₂⟩) :
    guarded body onError completion s =
      ((completion s₂).bind fun () => Action.throw h).after (r₁ ++ r₂) (l₁ ++ l₂) := by
  unfold guarded guarding
  rw [scope_of_step_eq_none] <;>
  · rcases hc : completion s₂ with ⟨o, s', r', l'⟩
    cases o <;>
      simp [Completion.new, Action.attempt_apply, hb, hh, hc, Exit.mapState, Exit.after, Exit.bind]

-- A panic of the body skips the handler and throws away what the completion returns.
theorem guarded_of_panic (hb : body s = ⟨.panic m, s₁, r₁, l₁⟩) :
    guarded body onError completion s =
      { outcome := (Outcome.panic m).afterCleanup (completion s₁).outcome.discard
        state := (completion s₁).state
        record := r₁ ++ (completion s₁).record
        log := l₁ ++ dropped :: (completion s₁).log } := by
  simp [guarded, guarding, scope, Action.ensuring, Completion.new, Action.attempt_apply, hb,
    Exit.mapState, Exit.after, Exit.bind]

theorem guarded_of_handler_panic (hb : body s = ⟨.error e, s₁, r₁, l₁⟩)
    (hh : onError e s₁ = ⟨.panic m, s₂, r₂, l₂⟩) :
    guarded body onError completion s =
      { outcome := (Outcome.panic m).afterCleanup (completion s₂).outcome.discard
        state := (completion s₂).state
        record := r₁ ++ r₂ ++ (completion s₂).record
        log := l₁ ++ l₂ ++ dropped :: (completion s₂).log } := by
  simp [guarded, guarding, scope, Action.ensuring, Completion.new, Action.attempt_apply, hb, hh,
    Exit.mapState, Exit.after, Exit.bind]

theorem guarded_of_abort (hb : body s = ⟨.abort, s₁, r₁, l₁⟩) :
    guarded body onError completion s = ⟨.abort, s₁, r₁, l₁⟩ := by
  simp [guarded, guarding, scope, Action.ensuring, Completion.new, Action.attempt_apply, hb,
    Exit.mapState, Exit.bind]

theorem guarded_of_handler_abort (hb : body s = ⟨.error e, s₁, r₁, l₁⟩)
    (hh : onError e s₁ = ⟨.abort, s₂, r₂, l₂⟩) :
    guarded body onError completion s = ⟨.abort, s₂, r₁ ++ r₂, l₁ ++ l₂⟩ := by
  simp [guarded, guarding, scope, Action.ensuring, Completion.new, Action.attempt_apply, hb, hh,
    Exit.mapState, Exit.after, Exit.bind]

end Lemmas

end GuardedSum
