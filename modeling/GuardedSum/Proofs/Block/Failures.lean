import GuardedSum.Proofs.Block.Activation

namespace GuardedSum

namespace Block

namespace Ending

def errors : Ending → List String
  | error e => [e]
  | _ => []

def panics : Ending → List String
  | panic m => [m]
  | _ => []

end Ending

namespace Part

def errors : Part → List String
  | done ending => ending.errors
  | log _ next | set _ next | add _ next => next.errors
  | failAbove _ e next => e :: next.errors
  -- An error of the body goes no further than to the handler.
  | nested .propagate _ handler completion next =>
    handler.errors ++ completion.errors ++ next.errors
  | nested _ _ _ _ next => next.errors

def panics : Part → List String
  | done ending => ending.panics
  | log _ next | set _ next | add _ next | failAbove _ _ next => next.panics
  | nested .catchAll _ _ _ next => next.panics
  | nested _ body handler completion next =>
    body.panics ++ handler.panics ++ completion.panics ++ next.panics

end Part

def errors (b : Block) : List String :=
  b.handler.errors ++ b.completion.errors

def panics (b : Block) : List String :=
  b.body.panics ++ b.handler.panics ++ b.completion.panics

section

variable {mode : Mode} {body handler completion next : Part} {x : String}

theorem Part.mem_errors_nested
    (h : mode = .propagate ∧ x ∈ Block.errors ⟨body, handler, completion⟩) :
    x ∈ (nested mode body handler completion next).errors := by
  obtain ⟨rfl, h⟩ := h
  exact List.mem_append_left next.errors h

theorem Part.mem_errors_nested_of_next (h : x ∈ next.errors) :
    x ∈ (nested mode body handler completion next).errors := by
  cases mode with
  | propagate => exact List.mem_append_right _ h
  | ignore | catchAll => exact h

theorem Part.mem_panics_nested
    (h : mode ≠ .catchAll ∧ x ∈ Block.panics ⟨body, handler, completion⟩) :
    x ∈ (nested mode body handler completion next).panics := by
  obtain ⟨uncaught, h⟩ := h
  cases mode with
  | propagate | ignore => exact List.mem_append_left next.panics h
  | catchAll => exact absurd rfl uncaught

theorem Part.mem_panics_nested_of_next (h : x ∈ next.panics) :
    x ∈ (nested mode body handler completion next).panics := by
  cases mode with
  | propagate | ignore => exact List.mem_append_right _ h
  | catchAll => exact h

end

theorem Mode.error_of_passed {mode : Mode} {o : Outcome String (Guarded Int32 String)} {x : String}
    (h : mode.passed o = .error x) : mode = .propagate ∧ o = .error x := by
  cases mode <;> cases o <;> simp_all [passed]

theorem Mode.panic_of_passed {mode : Mode} {o : Outcome String (Guarded Int32 String)} {m : String}
    (h : mode.passed o = .panic m) : mode ≠ .catchAll ∧ o = .panic m := by
  cases mode <;> cases o <;> simp_all [passed]

-- A part fails only as its text has it, whatever accumulator it starts from.
structure Part.Accounted (p : Part) : Prop where
  error {acc x} : (p.run acc).outcome = .error x → x ∈ p.errors
  panic {acc m} : (p.run acc).outcome = .panic m → m ∈ p.panics

structure Accounted (b : Block) : Prop where
  error {acc x} : (b.run acc).outcome = .error x → x ∈ b.errors
  caught {acc e} : (b.run acc).outcome = .ok (.caught e) → e ∈ b.body.errors
  panic {acc m} : (b.run acc).outcome = .panic m → m ∈ b.panics

theorem accounted_of_parts {b : Block} (hb : b.body.Accounted) (hh : b.handler.Accounted)
    (hc : b.completion.Accounted) : b.Accounted := by
  constructor
  case error =>
    intro acc x h
    let a : Activation := ⟨b, acc⟩
    -- An error of the body is not used here: it cannot leave the block.
    cases a.error_of_exit h with
    | inl handler =>
      rw [a.handler_outcome_of_ne_ok (handler ▸ nofun)] at handler
      exact List.mem_append_left _ (hh.error (Outcome.void_eq_error.mp handler))
    | inr completion => exact List.mem_append_right _ (hc.error completion)
  case caught =>
    intro acc e h
    exact hb.error (Activation.caught_of_exit (x := ⟨b, acc⟩) h)
  case panic =>
    intro acc m h
    let a : Activation := ⟨b, acc⟩
    rcases a.panic_of_exit h with body | handler | completion
    · exact List.mem_append_left _ (List.mem_append_left _ (hb.panic body))
    · rw [a.handler_outcome_of_ne_ok (handler ▸ nofun)] at handler
      have mem := hh.panic (Outcome.void_eq_panic.mp handler)
      exact List.mem_append_left _ (List.mem_append_right _ mem)
    · exact List.mem_append_right _ (hc.panic completion)

namespace Part.Accounted

theorem done (ending : Ending) : (done ending).Accounted := by
  constructor
  case error =>
    intro acc x h
    cases ending <;> simp_all [run, Ending.run, errors, Ending.errors]
  case panic =>
    intro acc m h
    cases ending <;> simp_all [run, Ending.run, panics, Ending.panics]

theorem failAbove {limit : Int32} {e : String} {next : Part} (rest : next.Accounted) :
    (failAbove limit e next).Accounted := by
  constructor
  case error =>
    intro acc x h
    rw [run_failAbove] at h
    split at h
    case isTrue =>
      cases h
      exact List.mem_cons_self
    case isFalse => exact List.mem_cons_of_mem e (rest.error h)
  case panic =>
    intro acc m h
    rw [run_failAbove] at h
    split at h
    case isTrue => nomatch h
    case isFalse => exact rest.panic h

theorem nested {mode : Mode} {body handler completion next : Part}
    (block : Block.Accounted ⟨body, handler, completion⟩) (rest : next.Accounted) :
    (nested mode body handler completion next).Accounted := by
  constructor
  case error =>
    intro acc x h
    let a : Activation := ⟨⟨body, handler, completion⟩, acc⟩
    rw [run_nested_within] at h
    match hw : a.within mode with
    | ⟨.ok u, s, r, l⟩ =>
      rw [hw] at h
      exact mem_errors_nested_of_next (rest.error h)
    | ⟨.error e, s, r, l⟩ =>
      rw [hw] at h
      cases h
      have ⟨propagates, failed⟩ := Mode.error_of_passed (congrArg Exit.outcome hw)
      exact mem_errors_nested ⟨propagates, block.error failed⟩
    | ⟨.panic _, _, _, _⟩ | ⟨.abort, _, _, _⟩ => nomatch hw ▸ h
  case panic =>
    intro acc m h
    let a : Activation := ⟨⟨body, handler, completion⟩, acc⟩
    rw [run_nested_within] at h
    match hw : a.within mode with
    | ⟨.ok u, s, r, l⟩ =>
      rw [hw] at h
      exact mem_panics_nested_of_next (rest.panic h)
    | ⟨.panic n, s, r, l⟩ =>
      rw [hw] at h
      cases h
      have ⟨uncaught, failed⟩ := Mode.panic_of_passed (congrArg Exit.outcome hw)
      exact mem_panics_nested ⟨uncaught, block.panic failed⟩
    | ⟨.error _, _, _, _⟩ | ⟨.abort, _, _, _⟩ => nomatch hw ▸ h

end Part.Accounted

theorem Part.accounted (p : Part) : p.Accounted := by
  induction p with
  | done ending => exact .done ending
  | log _ _ ih | set _ _ ih | add _ _ ih => exact ⟨ih.error, ih.panic⟩
  | failAbove _ _ _ ih => exact .failAbove ih
  | nested _ _ _ _ _ hb hh hc ih => exact .nested (accounted_of_parts hb hh hc) ih

theorem accounted (b : Block) : b.Accounted :=
  accounted_of_parts b.body.accounted b.handler.accounted b.completion.accounted

-- What leaves a block that failed was raised by its handler or its completion, unless it is a
-- panic, and the text of the block has it. A nested block passes an error on only if it is to
-- propagate it, and a panic only if it is not to catch all.
theorem run_failures (b : Block) (acc : Int32) :
    let x : Activation := ⟨b, acc⟩
    (∀ e, x.exit.outcome = .error e →
        e ∈ b.errors ∧ (x.handler.outcome = .error e ∨ x.completion.outcome = .error e)) ∧
      (∀ e, x.exit.outcome = .ok (.caught e) → e ∈ b.body.errors ∧ x.body.outcome = .error e) ∧
      (∀ m, x.exit.outcome = .panic m → m ∈ b.panics) ∧
      ∀ mode : Mode,
        (∀ e, (mode.run b.run acc).outcome = .error e → mode = .propagate ∧ e ∈ b.errors) ∧
          ∀ m, (mode.run b.run acc).outcome = .panic m → mode ≠ .catchAll ∧ m ∈ b.panics := by
  intro x
  refine ⟨fun e h => ?_, fun e h => ?_, fun m h => b.accounted.panic h, fun mode => ?_⟩
  · exact ⟨b.accounted.error h, x.error_of_exit h⟩
  · exact ⟨b.accounted.caught h, x.caught_of_exit h⟩
  · rw [x.run_eq_within mode]
    refine ⟨fun e h => ?_, fun m h => ?_⟩
    · have ⟨propagates, failed⟩ := Mode.error_of_passed h
      exact ⟨propagates, b.accounted.error failed⟩
    · have ⟨uncaught, failed⟩ := Mode.panic_of_passed h
      exact ⟨uncaught, b.accounted.panic failed⟩

-- The error of the body and the panic in the block that catches all stay inside. The error of the
-- handler comes out, after an ignored one.
theorem run_failures_handler_error :
    let silent : Part := .done .accumulator
    let b : Block :=
      { body := .nested .catchAll (.done (.panic "caught")) silent silent (.done (.error "body"))
        handler :=
          .nested .ignore silent silent (.done (.error "ignored")) (.done (.error "handler"))
        completion := silent }
    let x : Activation := ⟨b, 0⟩
    x.exit.outcome = .error "handler" ∧ b.errors = ["handler"] ∧ b.panics = [] ∧
      (x.handler.outcome = .error "handler" ∨ x.completion.outcome = .error "handler") := by
  intro silent b x
  have failed : x.exit.outcome = .error "handler" := by decide
  have ⟨_, raised⟩ := (run_failures b 0).1 "handler" failed
  exact ⟨failed, rfl, rfl, raised⟩

end Block
end GuardedSum
