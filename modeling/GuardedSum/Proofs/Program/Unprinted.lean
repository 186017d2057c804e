import GuardedSum.Console.Sink
import GuardedSum.Proofs.Program.Protocol
import Mathlib.Data.List.Forall2

namespace GuardedSum

variable {τ σ ε ζ α β : Type}

def Outcome.map (f : α → β) : Outcome ε α → Outcome ε β
  | .ok a => .ok (f a)
  | .error e => .error e
  | .panic m => .panic m
  | .abort => .abort

-- All of an exit that does not go to the log.
def Exit.unlogged (e : Exit τ σ ε α) : Exit τ σ ε α :=
  { e with log := [] }

theorem Exit.eq_of_unlogged {e e' : Exit τ σ ε α} (h : e.unlogged = e'.unlogged) :
    e.outcome = e'.outcome ∧ e.state = e'.state ∧ e.record = e'.record := by
  simpa [unlogged] using h

theorem guarded_unlogged_congr {x y : Action τ σ ε α} {onError : ε → Action τ σ ζ Unit}
    {completion : Action τ σ ζ Unit} {s : σ} (h : (x s).unlogged = (y s).unlogged) :
    (guarded x onError completion s).unlogged = (guarded y onError completion s).unlogged := by
  match hx : x s, hy : y s with
  | ⟨o, s₁, r₁, l⟩, ⟨o', s₁', r₁', l'⟩ =>
    rw [hx, hy] at h
    obtain ⟨rfl, rfl, rfl⟩ : o = o' ∧ s₁ = s₁' ∧ r₁ = r₁' := Exit.eq_of_unlogged h
    match o with
    | .ok a =>
      rw [guarded_of_ok hx, guarded_of_ok hy]
      rfl
    | .panic m =>
      rw [guarded_of_panic hx, guarded_of_panic hy]
      rfl
    | .abort =>
      rw [guarded_of_abort hx, guarded_of_abort hy]
      rfl
    | .error e =>
      match hh : onError e s₁ with
      | ⟨.ok (), s₂, r₂, k⟩ =>
        rw [guarded_of_caught hx hh, guarded_of_caught hy hh]
        rfl
      | ⟨.error c, s₂, r₂, k⟩ =>
        rw [guarded_of_handler_error hx hh, guarded_of_handler_error hy hh]
        rfl
      | ⟨.panic m, s₂, r₂, k⟩ =>
        rw [guarded_of_handler_panic hx hh, guarded_of_handler_panic hy hh]
        rfl
      | ⟨.abort, s₂, r₂, k⟩ =>
        rw [guarded_of_handler_abort hx hh, guarded_of_handler_abort hy hh]
        rfl

namespace Program

-- Options that differ only in operands that are not printed: in the trailing ones, and if there is
-- a fault, in all of them.
structure Options.Alike (opts opts' : Options) : Prop where
  fault : opts.fault = opts'.fault
  operands : opts.operands = opts'.operands ∨ opts.fault.isSome

def Report.shown (r : Report) : Option Int32 × Option String :=
  (r.sum, r.caught)

variable {γ κ : Type} {console : Console γ κ} {opts opts' : Options} {k : κ}

theorem body_alike (alike : opts.Alike opts') :
    (body console opts k).unlogged = (body console opts' k).unlogged := by
  match hf : opts.fault with
  | some m => rw [body_of_fault hf, body_of_fault (alike.fault ▸ hf)]; rfl
  | none =>
    have same : opts.operands = opts'.operands := by
      rcases alike.operands with same | fault
      · exact same
      · rw [hf] at fault
        nomatch fault
    have hf' : opts'.fault = none := alike.fault ▸ hf
    simp [body, same, hf, hf']

theorem reported_shown (o : Outcome ProgramError (Guarded Int32 ProgramError)) :
    (reported opts o).map Report.shown = (reported opts' o).map Report.shown := by
  cases o <;> rfl

theorem trailing_of_run_eq_ok {r : Report} (h : (run console opts k).outcome = .ok r) :
    r.trailing = opts.trailingSum := by
  rw [run_agrees_guarded] at h
  match hg : (guarded (body console opts) (handler console) (completion console) k).outcome with
  | .ok g =>
    rw [hg] at h
    exact congrArg Report.trailing (Outcome.ok.inj h).symm
  | .error _ | .panic _ | .abort => nomatch hg ▸ h

-- Exits that the console cannot tell apart, nor anyone who does not look at the trailing sum.
structure Indistinct (e e' : Exit (Request γ) κ ProgramError Report) : Prop where
  record : e.record = e'.record
  state : e.state = e'.state
  outcome : e.outcome.map Report.shown = e'.outcome.map Report.shown

theorem run_indistinct (alike : opts.Alike opts') :
    Indistinct (run console opts k) (run console opts' k) := by
  have block_alike :
      (guarded (body console opts) (handler console) (completion console) k).unlogged =
        (guarded (body console opts') (handler console) (completion console) k).unlogged :=
    guarded_unlogged_congr (body_alike alike)
  have ⟨outcome, state, record⟩ := Exit.eq_of_unlogged block_alike
  rw [run_agrees_guarded, run_agrees_guarded]
  constructor
  case record => exact record
  case state => exact state
  case outcome =>
    rw [outcome]
    exact reported_shown _

theorem Indistinct.abort_iff {e e' : Exit (Request γ) κ ProgramError Report}
    (h : Indistinct e e') : e.outcome = .abort ↔ e'.outcome = .abort := by
  have outcome := h.outcome
  cases he : e.outcome <;> cases he' : e'.outcome <;> simp_all [Outcome.map]

theorem runEach_indistinct {runs runs' : List Options}
    (alike : List.Forall₂ Options.Alike runs runs') :
    List.Forall₂ Indistinct (runEach console k runs) (runEach console k runs') := by
  induction alike generalizing k with
  | nil => exact .nil
  | @cons opts opts' runs runs' alike _ ih =>
    have indistinct : Indistinct (run console opts k) (run console opts' k) := run_indistinct alike
    by_cases ends : (run console opts k).outcome = .abort
    case pos =>
      rw [runEach_of_abort ends, runEach_of_abort (indistinct.abort_iff.mp ends)]
      exact .cons indistinct .nil
    case neg =>
      rw [runEach_of_ne_abort ends, runEach_of_ne_abort (mt indistinct.abort_iff.mpr ends)]
      rw [← indistinct.state]
      exact .cons indistinct ih

theorem flatMap_calls {exits exits' : List (Exit (Request γ) κ ProgramError Report)}
    (h : List.Forall₂ Indistinct exits exits') :
    exits.flatMap Exit.calls = exits'.flatMap Exit.calls := by
  induction h with
  | nil => rfl
  | cons indistinct _ ih =>
    rw [List.flatMap_cons, List.flatMap_cons, ih, Exit.calls, Exit.calls, indistinct.record]

theorem trailing_of_mem_zip {runs : List Options} {r : Report}
    {p : Options × Exit (Request γ) κ ProgramError Report}
    (mem : p ∈ runs.zip (runEach console k runs)) (ok : p.2.outcome = .ok r) :
    r.trailing = p.1.trailingSum := by
  have ⟨k', eq⟩ := exists_run_of_mem_zip console k runs mem
  rw [eq] at ok
  exact trailing_of_run_eq_ok ok

-- What the console is asked for, what it answers and does for it, and how the runs end does not
-- depend on operands that are not printed. A report shows the trailing sum of its own run.
theorem runEach_unprinted (console : Console γ κ) (k : κ) (runs runs' : List Options)
    (alike : List.Forall₂ Options.Alike runs runs') :
    let exits := runEach console k runs
    let exits' := runEach console k runs'
    List.Forall₂ Indistinct exits exits' ∧
      exits.flatMap Exit.calls = exits'.flatMap Exit.calls ∧
      (∀ p ∈ runs.zip exits, ∀ r, p.2.outcome = .ok r → r.trailing = p.1.trailingSum) ∧
      ∀ p ∈ runs'.zip exits', ∀ r, p.2.outcome = .ok r → r.trailing = p.1.trailingSum := by
  intro exits exits'
  have indistinct : List.Forall₂ Indistinct exits exits' := runEach_indistinct alike
  refine ⟨indistinct, flatMap_calls indistinct, ?_, ?_⟩
  all_goals exact fun p mem r ok => trailing_of_mem_zip mem ok

theorem runEach_unprinted_on_full_sink :
    let s : Console.Sink :=
      { writes := [.accept (some 3), .fail (.ofErrno .interruptedCall)], room := some 40 }
    let runs : List Options := [{}, { fault := some "boom" }]
    let runs' : List Options :=
      [{ trailing := (1, 1) }, { operands := (2, 2), trailing := (-1, 0), fault := some "boom" }]
    let exits := runEach Console.Sink.console s runs
    let exits' := runEach Console.Sink.console s runs'
    List.Forall₂ Options.Alike runs runs' ∧ List.Forall₂ Indistinct exits exits' ∧
      exits.flatMap Exit.calls = exits'.flatMap Exit.calls := by
  intro s runs runs' exits exits'
  have alike : List.Forall₂ Options.Alike runs runs' :=
    .cons ⟨rfl, .inl rfl⟩ (.cons ⟨rfl, .inr rfl⟩ .nil)
  have ⟨indistinct, calls, _⟩ := runEach_unprinted Console.Sink.console s runs runs' alike
  exact ⟨alike, indistinct, calls⟩

end Program

end GuardedSum
