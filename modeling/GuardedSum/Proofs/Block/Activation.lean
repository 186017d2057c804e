import GuardedSum.Proofs.Block.Steps

namespace GuardedSum

namespace Outcome

variable {ε α : Type}

@[simp]
theorem void_eq_error {o : Outcome ε α} {e : ε} : o.void = .error e ↔ o = .error e := by
  cases o <;> simp [void]

@[simp]
theorem void_eq_panic {o : Outcome ε α} {m : String} : o.void = .panic m ↔ o = .panic m := by
  cases o <;> simp [void]

@[simp]
theorem void_eq_abort {o : Outcome ε α} : o.void = .abort ↔ o = .abort := by
  cases o <;> simp [void]

end Outcome

namespace Block

-- A run has no choices, so the block and the accumulator it starts from settle all that follows.
structure Activation where
  block : Block
  acc : Int32
  deriving DecidableEq

namespace Activation

variable (x : Activation)

def exit : Exit Event Int32 String (Guarded Int32 String) :=
  x.block.run x.acc

def body : Exit Event Int32 String Int32 :=
  x.block.body.run x.acc

-- Without an error of the body, the handler does nothing.
def handler : Exit Event Int32 String Unit :=
  x.body.handled fun e => do mark (.handler · e); discard x.block.handler.run

def completion : Exit Event Int32 String Int32 :=
  x.block.completion.run x.handler.state

def within (mode : Mode) : Exit Event Int32 String Unit where
  outcome := mode.passed x.exit.outcome
  state := x.exit.state
  record := x.exit.record ++ mode.noted x.exit.outcome
  log := x.exit.log

theorem run_eq_within (mode : Mode) : mode.run x.block.run x.acc = x.within mode :=
  mode.run_apply x.block.run x.acc

variable {x}

theorem handler_of_error {e : String} (h : x.body.outcome = .error e) :
    let k := x.block.handler.run x.body.state
    x.handler =
      { outcome := k.outcome.void
        state := k.state
        record := .handler x.body.state e :: k.record
        log := k.log } := by
  intro k
  unfold handler Exit.handled
  rw [h]
  exact mark_then_discard rfl

theorem handler_of_ne_error (h : ∀ e, x.body.outcome ≠ .error e) :
    x.handler = { outcome := .ok (), state := x.body.state } :=
  Exit.handled_of_ne_error _ _ _ _ h

theorem exit_eq (ends : x.exit.outcome ≠ .abort) :
    x.exit =
      { outcome := Guarded.verdict x.body.outcome x.handler.outcome x.completion.outcome.void
        state := x.completion.state
        record := .body x.acc :: x.body.record ++ x.handler.record ++
          .completion x.handler.state :: x.completion.record
        log := x.body.log ++ x.handler.log ++ x.body.outcome.unwound ++
          x.handler.outcome.unwound ++ x.completion.log } := by
  unfold exit run bracket at ends ⊢
  rw [guarded_of_ne_abort ends, mark_then rfl, mark_then_discard rfl]
  rfl

theorem exit_outcome (ends : x.exit.outcome ≠ .abort) :
    x.exit.outcome =
      Guarded.verdict x.body.outcome x.handler.outcome x.completion.outcome.void :=
  congrArg Exit.outcome (exit_eq ends)

theorem exit_record (ends : x.exit.outcome ≠ .abort) :
    x.exit.record = .body x.acc :: x.body.record ++ x.handler.record ++
      .completion x.handler.state :: x.completion.record :=
  congrArg Exit.record (exit_eq ends)

theorem exit_log (ends : x.exit.outcome ≠ .abort) :
    x.exit.log = x.body.log ++ x.handler.log ++ x.body.outcome.unwound ++
      x.handler.outcome.unwound ++ x.completion.log :=
  congrArg Exit.log (exit_eq ends)

variable {e m : String}

theorem error_of_exit (h : x.exit.outcome = .error e) :
    x.handler.outcome = .error e ∨ x.completion.outcome = .error e := by
  rw [exit_outcome (h ▸ nofun)] at h
  cases Guarded.error_of_verdict h with
  | inl handler => exact .inl handler
  | inr completion => exact .inr (Outcome.void_eq_error.mp completion)

theorem caught_of_exit (h : x.exit.outcome = .ok (.caught e)) : x.body.outcome = .error e := by
  rw [exit_outcome (h ▸ nofun)] at h
  exact Guarded.caught_of_verdict h

theorem panic_of_exit (h : x.exit.outcome = .panic m) :
    x.body.outcome = .panic m ∨ x.handler.outcome = .panic m ∨ x.completion.outcome = .panic m := by
  rw [exit_outcome (h ▸ nofun)] at h
  rcases (Guarded.verdict_eq_panic (h ▸ nofun)).mp h with body | ⟨_, handler⟩ | completion
  · exact .inl body
  · exact .inr (.inl handler)
  · exact .inr (.inr (Outcome.void_eq_panic.mp completion))

theorem handler_outcome_of_ne_ok (h : x.handler.outcome ≠ .ok ()) :
    x.handler.outcome = (x.block.handler.run x.body.state).outcome.void := by
  by_cases failed : ∃ c, x.body.outcome = .error c
  case pos =>
    have ⟨c, hc⟩ := failed
    rw [handler_of_error hc]
  case neg => exact absurd (congrArg Exit.outcome (handler_of_ne_error (not_exists.mp failed))) h

end Activation

theorem Part.run_nested_within (mode : Mode) (body handler completion next : Part) (acc : Int32) :
    (nested mode body handler completion next).run acc =
      (Activation.within ⟨⟨body, handler, completion⟩, acc⟩ mode).bind fun _ => next.run :=
  run_nested acc next rfl

end Block
end GuardedSum
