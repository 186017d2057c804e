import GuardedSum.Proofs.Block.Phase

namespace GuardedSum.Block

-- A panic has left an activation during one of its phases, and this is all that the activation has
-- recorded. The completion was run once, behind all that went before; what it returned does not
-- matter. No handler was run for the panic.
inductive Left (m : String) : Phase → Prop
  | body {x} :
    x.exit.outcome = .panic m →
    x.exit.record = .body x.acc :: x.body.record ++
      .completion x.body.state :: x.completion.record →
    Left m ⟨x, .body⟩
  | handler {x e} :
    x.exit.outcome = .panic m →
    x.exit.record = .body x.acc :: x.body.record ++
      .handler x.body.state e :: (Phase.exit ⟨x, .handler⟩).record ++
      .completion x.handler.state :: x.completion.record →
    Left m ⟨x, .handler⟩
  | completion {x} :
    x.exit.outcome = .panic m →
    x.exit.record = .body x.acc :: x.body.record ++ x.handler.record ++
      .completion x.handler.state :: x.completion.record →
    Left m ⟨x, .completion⟩

-- The way of a panic out of a phase, through the phases around it. It ends where a block is nested
-- so as to catch all, or outside of the root.
inductive Unwinds (m : String) : Phase → List Phase → Prop
  | out {f} : Left m f → Unwinds m f []
  | passed {f g gs mode rest r} :
    Left m f → g.part.Activates g.acc mode f.activation rest → mode ≠ .catchAll →
    g.exit.outcome = .panic m → g.exit.record = r ++ f.activation.exit.record →
    Unwinds m g gs → Unwinds m f (g :: gs)
  | caught {f g gs rest r l} :
    Left m f → g.part.Activates g.acc .catchAll f.activation rest →
    g.exit = (rest.run f.activation.exit.state).after
      (r ++ f.activation.exit.record ++ [.caught (.panic m)]) l →
    Unwinds m f (g :: gs)

section

variable {f : Phase} {x : Activation} {mode : Mode} {rest : Part} {m : String}

theorem Left.outcome : Left m f → f.activation.exit.outcome = .panic m
  | .body outcome _ | .handler outcome _ | .completion outcome _ => outcome

namespace Left

variable (ends : x.exit.outcome ≠ .abort)
include ends

theorem of_body (panics : x.body.outcome = .panic m) : Left m ⟨x, .body⟩ := by
  have outcome := Activation.exit_outcome ends
  have unhandled : x.handler = _ := Activation.handler_of_ne_error (by simp [panics])
  apply body
  · rw [outcome]
    exact (Guarded.verdict_eq_panic (outcome ▸ ends)).mpr (.inl panics)
  · simp [Activation.exit_record ends, unhandled]

theorem of_handler {e : String} (failed : x.body.outcome = .error e)
    (panics : (Phase.exit ⟨x, .handler⟩).outcome = .panic m) : Left m ⟨x, .handler⟩ := by
  have outcome := Activation.exit_outcome ends
  have handled : x.handler = _ := Activation.handler_of_error failed
  have handler_panics : x.handler.outcome = .panic m := by
    rw [handled]
    exact Outcome.void_eq_panic.mpr panics
  have body_returns : x.body.outcome.panicked = false := by simp [failed, Outcome.panicked]
  apply handler (e := e)
  · rw [outcome]
    exact (Guarded.verdict_eq_panic (outcome ▸ ends)).mpr
      (.inr (.inl ⟨body_returns, handler_panics⟩))
  · rw [Activation.exit_record ends, handled]
    rfl

theorem of_completion (panics : x.completion.outcome = .panic m) : Left m ⟨x, .completion⟩ := by
  have outcome := Activation.exit_outcome ends
  apply completion
  · rw [outcome]
    have completion_panics := Outcome.void_eq_panic.mpr panics
    exact (Guarded.verdict_eq_panic (outcome ▸ ends)).mpr (.inr (.inr completion_panics))
  · exact Activation.exit_record ends

end Left

theorem Phase.left (runs : f.Runs) (ends : f.activation.exit.outcome ≠ .abort)
    (panics : f.exit.outcome = .panic m) : Left m f := by
  obtain ⟨x, role⟩ := f
  cases role with
  | body => exact .of_body ends panics
  | handler =>
    have ⟨e, failed⟩ := runs rfl
    exact .of_handler ends failed panics
  | completion => exact .of_completion ends panics

theorem Part.Activates.run_of_caught {p : Part} {acc : Int32}
    (h : p.Activates acc .catchAll x rest) (panics : x.exit.outcome = .panic m) :
    ∃ r l, p.run acc =
      (rest.run x.exit.state).after (r ++ x.exit.record ++ [.caught (.panic m)]) l := by
  have ⟨r, l, eq⟩ := h.run_eq
  have within : x.within .catchAll =
      ⟨.ok (), x.exit.state, x.exit.record ++ [.caught (.panic m)], x.exit.log⟩ := by
    simp [Activation.within, panics, Mode.passed, Mode.noted]
  exact ⟨r, l ++ x.exit.log, by rw [eq, within, Exit.bind_ok, Exit.after_after, List.append_assoc]⟩

theorem Part.Activates.run_of_passed {p : Part} {acc : Int32} (h : p.Activates acc mode x rest)
    (uncaught : mode ≠ .catchAll) (panics : x.exit.outcome = .panic m) :
    ∃ r l, p.run acc =
      { outcome := .panic m, state := x.exit.state, record := r ++ x.exit.record, log := l } := by
  have ⟨r, l, eq⟩ := h.run_eq
  have within : x.within mode = ⟨.panic m, x.exit.state, x.exit.record, x.exit.log⟩ := by
    cases mode <;> simp_all [Activation.within, Mode.passed, Mode.noted]
  exact ⟨r, l ++ x.exit.log, by rw [eq, within]; rfl⟩

theorem Entered.unwinds {root : Activation} {fs : List Phase} (h : Entered root f fs)
    (ends : root.exit.outcome ≠ .abort) (panics : f.exit.outcome = .panic m) :
    Unwinds m f fs := by
  have left : Left m f := Phase.left h.runs (h.ends ends) panics
  induction h with
  | root _ => exact .out left
  | @nested g gs mode x rest role entered activates _ ih =>
    by_cases catches : mode = .catchAll
    case pos =>
      subst catches
      have ⟨r, l, eq⟩ := activates.run_of_caught left.outcome
      exact .caught left activates eq
    case neg =>
      -- The phase around the block panics in its turn, and so the panic goes on from there.
      have ⟨r, l, eq⟩ := activates.run_of_passed catches left.outcome
      have panics : g.exit.outcome = .panic m := congrArg Exit.outcome eq
      have record : g.exit.record = r ++ x.exit.record := congrArg Exit.record eq
      have left' : Left m g := Phase.left entered.runs (entered.ends ends) panics
      exact .passed left activates catches panics record (ih panics left')

end

namespace Activation

variable (x : Activation)

def dropped : Bool :=
  x.body.outcome.panicked || x.handler.outcome.panicked

end Activation

def drops (xs : List Activation) : List Log.Entry :=
  List.replicate (xs.countP Activation.dropped) Completion.dropped

@[simp]
theorem drops_nil : drops [] = [] :=
  rfl

@[simp]
theorem drops_append (xs ys : List Activation) : drops (xs ++ ys) = drops xs ++ drops ys := by
  simp [drops]

-- At most one of body and handler panics, as there is no handler for a panic.
theorem Activation.unwound_eq (x : Activation) :
    x.body.outcome.unwound ++ x.handler.outcome.unwound =
      if x.dropped then [Completion.dropped] else [] := by
  match hb : x.body.outcome with
  | .error e =>
    rw [dropped, hb, x.handler.outcome.unwound_eq]
    rfl
  | .ok _ | .panic _ | .abort =>
    have unhandled : x.handler = _ := handler_of_ne_error (by simp [hb])
    rw [dropped, hb, unhandled]
    rfl

theorem drops_cons (x : Activation) (xs : List Activation) :
    drops (x :: xs) = x.body.outcome.unwound ++ x.handler.outcome.unwound ++ drops xs := by
  rw [x.unwound_eq, drops, List.countP_cons]
  split
  case isTrue => rw [List.replicate_succ]; rfl
  case isFalse => rfl

def Part.Logs (p : Part) : Prop :=
  ∀ acc, (p.run acc).outcome ≠ .abort → (p.run acc).log = drops (p.activations acc)

section

variable {x : Activation} (ends : x.exit.outcome ≠ .abort)
include ends

theorem Activation.handler_log (logs : x.block.handler.Logs) :
    x.handler.log = drops (x.handled x.block.handler.activations) := by
  unfold handled
  match failed : x.body.outcome with
  | .error e =>
    have runs : Phase.Runs ⟨x, .handler⟩ := fun _ => ⟨e, failed⟩
    rw [handler_of_error failed]
    exact logs x.body.state (Phase.ends runs ends)
  | .ok _ | .panic _ | .abort => rw [handler_of_ne_error (by simp [failed]), drops_nil]

theorem Activation.exit_log_eq_drops (hb : x.block.body.Logs) (hh : x.block.handler.Logs)
    (hc : x.block.completion.Logs) :
    x.exit.log = drops x.activations := by
  have body_log : x.body.log = drops (x.block.body.activations x.acc) :=
    hb x.acc (Phase.ends (f := ⟨x, .body⟩) nofun ends)
  have completion_log :
      x.completion.log = drops (x.block.completion.activations x.handler.state) :=
    hc x.handler.state (Phase.ends (f := ⟨x, .completion⟩) nofun ends)
  rw [exit_log ends, body_log, handler_log ends hh, completion_log]
  simp [activations, among, drops_cons]

end

namespace Part.Logs

theorem failAbove {limit : Int32} {e : String} {next : Part} (rest : next.Logs) :
    (failAbove limit e next).Logs := by
  intro acc ends
  rw [run_failAbove] at ends ⊢
  rw [activations]
  split at ends
  case isTrue above => simp [above]
  case isFalse below => simpa [below] using rest acc ends

theorem nested {mode : Mode} {body handler completion next : Part} (hb : body.Logs)
    (hh : handler.Logs) (hc : completion.Logs) (rest : next.Logs) :
    (nested mode body handler completion next).Logs := by
  intro acc ends
  let x : Activation := ⟨⟨body, handler, completion⟩, acc⟩
  have inside : x.exit.log = drops x.activations :=
    Activation.exit_log_eq_drops (Activates.here.ends ends) hb hh hc
  change _ = drops (x.activations ++ x.behind mode next.activations)
  rw [drops_append, ← inside]
  rw [run_nested_within] at ends ⊢
  match within : x.within mode with
  | ⟨.ok (), s, r, l⟩ =>
    have state_eq : x.exit.state = s := congrArg Exit.state within
    have log_eq : x.exit.log = l := congrArg Exit.log within
    have goes_on : (x.within mode).outcome = .ok () := congrArg Exit.outcome within
    rw [within] at ends
    rw [Activation.behind_of_ok goes_on, state_eq, log_eq, Exit.bind_ok, Exit.after, rest s ends]
  | ⟨.error _, _, _, l⟩ | ⟨.panic _, _, _, l⟩ | ⟨.abort, _, _, l⟩ =>
    have log_eq : x.exit.log = l := congrArg Exit.log within
    rw [Activation.behind_of_ne_ok (by simp [within]), log_eq, drops_nil, List.append_nil]
    rfl

end Part.Logs

theorem Part.logs (p : Part) : p.Logs := by
  induction p with
  | done ending =>
    intro acc _
    cases ending <;> rfl
  | log _ _ ih => exact ih
  | set n _ ih => exact fun _ => ih n
  | add n _ ih => exact fun acc => ih (sum acc n)
  | failAbove _ _ _ ih => exact .failAbove ih
  | nested _ _ _ _ _ hb hh hc ih => exact .nested hb hh hc ih

-- A panic takes its way out through the blocks around it, wherever it is raised; and the log tells
-- of each block that the run gets to and whose completion was dropped, and of nothing else.
theorem run_unwinds (b : Block) (acc : Int32) (ends : (b.run acc).outcome ≠ .abort) :
    let root : Activation := ⟨b, acc⟩
    (∀ f fs m, Entered root f fs → f.exit.outcome = .panic m → Unwinds m f fs) ∧
      (∀ x, x ∈ root.activations ↔ ∃ fs, Entered root ⟨x, .body⟩ fs) ∧
      Log.atLevel .trace (b.run acc).log =
        List.replicate (root.activations.countP Activation.dropped) Completion.dropped := by
  intro root
  refine ⟨fun f fs m entered panics => entered.unwinds ends panics,
    fun x => mem_activations_iff_entered, ?_⟩
  have log : (b.run acc).log = drops root.activations :=
    Activation.exit_log_eq_drops (x := root) ends b.body.logs b.handler.logs b.completion.logs
  rw [Log.atLevel_trace, log]
  rfl

-- The completion that runs while the panic unwinds catches another panic and then fails. Both
-- panics leave a completion to be dropped.
theorem run_unwinds_through_completion :
    let silent : Part := .done .accumulator
    let noisy : Part := .done (.panic "second")
    let inner : Block :=
      { body := .add 1 (.done (.panic "first"))
        handler := silent
        completion := .nested .catchAll noisy silent silent (.done (.error "lost")) }
    let b : Block :=
      { body := .nested .catchAll inner.body inner.handler inner.completion silent
        handler := silent
        completion := silent }
    let f : Phase := ⟨⟨inner, 0⟩, .body⟩
    let g : Phase := ⟨⟨b, 0⟩, .body⟩
    (b.run 0).outcome ≠ .abort ∧ Entered ⟨b, 0⟩ f [g] ∧ f.exit.outcome = .panic "first" ∧
      Unwinds "first" f [g] ∧
      Log.atLevel .trace (b.run 0).log = [Completion.dropped, Completion.dropped] := by
  intro silent noisy inner b f g
  have ends : (b.run 0).outcome ≠ .abort := by decide
  have entered : Entered ⟨b, 0⟩ f [g] := .nested (.root nofun) .here nofun
  have panics : f.exit.outcome = .panic "first" := by decide
  have ⟨unwinds, _, log⟩ := run_unwinds b 0 ends
  have count : (Activation.activations ⟨b, 0⟩).countP Activation.dropped = 2 := by decide
  rw [count] at log
  exact ⟨ends, entered, panics, unwinds f [g] "first" entered panics, log⟩

end GuardedSum.Block
