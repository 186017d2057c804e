import GuardedSum.Action

namespace GuardedSum

-- A state and the step owed to it, which is gone once it was taken to be run.
structure Completion (τ σ ε α : Type) where
  state : σ
  step : Option (Action τ σ ε α)

namespace Completion

variable {τ σ ε ζ α β : Type}

def new (state : σ) (step : Action τ σ ε α) : Completion τ σ ε α where
  state := state
  step := some step

def access (x : Action τ σ ζ β) : Action τ (Completion τ σ ε α) ζ β :=
  x.onPart state fun s g => { g with state := s }

def take : Action τ (Completion τ σ ε α) ζ (Option (Action τ σ ε α)) :=
  fun g => { outcome := .ok g.step, state := { g with step := none } }

def dropped : Log.Entry where
  level := .trace
  target := "testcfg_core::guard"
  fields := [("message", .text "running completion step on drop")]

-- Runs the step if it is still owed, whatever it returns. Its panic goes on unwinding.
def drop : Action τ (Completion τ σ ε α) Empty Unit := do
  match ← take with
  | none => pure ()
  | some step =>
    .emit dropped
    access step.discard

def scope (x : Action τ (Completion τ σ ε α) ζ β) : Action τ (Completion τ σ ε α) ζ β :=
  x.ensuring drop

-- Runs the step now and returns its result. The completion ends its scope here.
def finish : Action τ (Completion τ σ ε α) ε α :=
  scope do
    -- The step is gone before it runs, so a failure of it leaves nothing for the scope to drop.
    match ← take with
    | none =>
      .ofOutcome (.panic "internal error: entered unreachable code: completion step already ran")
    | some step => access step

def guarding (step : Action τ σ ε α) (x : Action τ (Completion τ σ ε α) ζ β) : Action τ σ ζ β :=
  fun s => (scope x (new s step)).mapState state

@[simp]
theorem access_apply (x : Action τ σ ζ β) (g : Completion τ σ ε α) :
    access x g = (x g.state).mapState ({ g with state := · }) :=
  rfl

@[simp]
theorem take_apply (g : Completion τ σ ε α) :
    (take : Action τ (Completion τ σ ε α) ζ _) g =
      { outcome := .ok g.step, state := { g with step := none } } :=
  rfl

variable (s : σ) (step : Action τ σ ε α)

@[simp]
theorem drop_none :
    drop (⟨s, none⟩ : Completion τ σ ε α) = { outcome := .ok (), state := ⟨s, none⟩ } :=
  rfl

@[simp]
theorem drop_some :
    drop ⟨s, some step⟩ =
      { outcome := (step s).outcome.discard
        state := ⟨(step s).state, none⟩
        record := (step s).record
        log := dropped :: (step s).log } :=
  rfl

-- A step that was finished runs no second time when its completion ends its scope.
@[simp]
theorem finish_some : finish ⟨s, some step⟩ = (step s).mapState (⟨·, none⟩) := by
  rcases h : step s with ⟨o, s', r, l⟩
  cases o <;> simp [finish, scope, Action.ensuring, Exit.mapState, Exit.after, h]

theorem scope_of_step_eq_none {x : Action τ (Completion τ σ ε α) ζ β} {g : Completion τ σ ε α}
    (h : (x g).state.step = none) : scope x g = x g := by
  rcases e : x g with ⟨o, ⟨s, t⟩, r, l⟩
  obtain rfl : t = none := by simpa [e] using h
  cases o <;> simp [scope, Action.ensuring, Exit.after, e]

end Completion

end GuardedSum
