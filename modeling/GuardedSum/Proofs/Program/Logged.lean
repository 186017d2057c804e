import GuardedSum.Console.Script
import GuardedSum.Proofs.Program.Result
import Mathlib.Data.List.Forall2

namespace GuardedSum.Program

variable {γ κ : Type}

namespace Transcript

variable {t : Transcript γ} {opts : Options}

theorem isSome_message? :
    (t.message? opts).isSome ↔
      opts.fault.isSome ∨ ∃ q e, t.sum? = some q ∧ q.answer = .error e := by
  constructor
  case mp =>
    intro h
    have ⟨m, hm⟩ := Option.isSome_iff_exists.mp h
    match hf : opts.fault with
    | some _ => exact .inl rfl
    | none => exact .inr (sum_failed_of_message? hf hm)
  case mpr =>
    intro h
    rcases h with fault | ⟨q, e, hq, failed⟩
    · have ⟨m, hf⟩ := Option.isSome_iff_exists.mp fault
      simp [message?, hf]
    · cases hf : opts.fault <;> simp [message?, hf, hq, failed]

theorem spans_of_mem_entries {entry : Log.Entry} (h : entry ∈ t.entries opts) :
    entry.spans = [] := by
  simp only [entries, List.mem_append, List.mem_singleton] at h
  rcases h with ((summed | caught) | dropped) | trailing
  · rw [summed]
    rfl
  · have ⟨m, _, eq⟩ := Option.map_eq_some_iff.mp (Option.mem_toList.mp caught)
    rw [← eq]
    rfl
  · split at dropped
    case isTrue =>
      rw [List.mem_singleton.mp dropped]
      rfl
    case isFalse => nomatch dropped
  · unfold trailed at trailing
    split at trailing
    case h_1 =>
      rw [List.mem_singleton.mp trailing]
      rfl
    case h_2 => nomatch trailing

-- The levels that leave out the span of the run leave out no more of what they admit.
theorem atLevel_within (level : Log.Level) {entries : List Log.Entry}
    (h : ∀ entry ∈ entries, entry.spans = []) :
    Log.atLevel level (entries.map (·.within span)) =
      (entries.filter (level.admits ·.level)).map fun entry =>
        { entry with spans := if level = .error ∨ level = .warn then [] else [span] } := by
  unfold Log.atLevel Log.select
  rw [List.filter_map, List.map_map]
  refine List.map_congr_left fun entry mem => ?_
  have no_spans := h entry (List.mem_of_mem_filter mem)
  cases level <;> simp [Log.Entry.within, no_spans, Log.Level.admits, Log.Level.rank, span]

-- The lines, the end and the log of a run, as the transcript has them.
structure Logged (t : Transcript γ) (opts : Options)
    (e : Exit (Request γ) κ ProgramError Report) : Prop where
  record : e.record = t.requests
  follows : t.Follows opts
  outcome : e.outcome = t.result opts
  warned : (t.message? opts).isSome ↔
    opts.fault.isSome ∨ ∃ q e, t.sum? = some q ∧ q.answer = .error e
  reported : ∀ r, e.outcome = .ok r →
    r.caught = t.message? opts ∧ r.trailing = opts.trailingSum
  log : e.log = (t.entries opts).map (·.within span)
  spans : ∀ entry ∈ e.log, entry.spans = [span]

theorem Tells.logged {console : Console γ κ} {k : κ}
    {e : Exit (Request γ) κ ProgramError Report} (tells : t.Tells opts console k e)
    (silent : console.Silent) : t.Logged opts e where
  record := tells.record
  follows := tells.follows
  outcome := tells.outcome
  warned := isSome_message?
  reported r ok := by
    have ⟨_, _, r_eq⟩ := answers_of_result_eq_ok (tells.outcome ▸ ok)
    rw [r_eq]
    exact ⟨rfl, rfl⟩
  log := tells.log silent
  spans entry h := by
    rw [tells.log silent] at h
    have ⟨entry', h', eq⟩ := List.mem_map.mp h
    rw [← eq, Log.Entry.within_spans, spans_of_mem_entries h']

end Transcript

theorem flatMap_log {ps : List (Options × Transcript γ)}
    {exits : List (Exit (Request γ) κ ProgramError Report)}
    (h : List.Forall₂ (fun p e => p.2.Logged p.1 e) ps exits) :
    exits.flatMap Exit.log = (ps.flatMap fun p => p.2.entries p.1).map (·.within span) := by
  induction h with
  | nil => rfl
  | cons logged _ ih =>
    rw [List.flatMap_cons, List.flatMap_cons, List.map_append, ih, logged.log]

section

variable {console : Console γ κ} (silent : console.Silent)
include silent

theorem runEach_logged (k : κ) (runs : List Options) :
    ∃ ts : List (Transcript γ),
      List.Forall₂ (fun p e => p.2.Logged p.1 e) (runs.zip ts)
        ((runEach console k runs).filter (!·.outcome.aborted)) := by
  induction runs generalizing k with
  | nil => exact ⟨[], .nil⟩
  | cons opts runs ih =>
    by_cases ends : (run console opts k).outcome = .abort
    case pos =>
      refine ⟨[], ?_⟩
      rw [runEach_of_abort ends]
      simp [ends, Outcome.aborted]
    case neg =>
      have ⟨t, tells⟩ := run_tells ends
      have ⟨ts, logged⟩ := ih (run console opts k).state
      refine ⟨t :: ts, ?_⟩
      rw [runEach_of_ne_abort ends, List.filter_cons, Outcome.aborted_eq_false ends]
      exact .cons (tells.logged silent) logged

-- The log of a list of runs is the concatenation of what the runs log that were not aborted, each
-- by its own answers and within a span of its own. A level keeps some of the entries, and the span
-- if it keeps any that are not warnings.
theorem runEach_log (k : κ) (runs : List Options) :
    let exits := (runEach console k runs).filter (!·.outcome.aborted)
    ∃ ts : List (Transcript γ),
      List.Forall₂ (fun p e => p.2.Logged p.1 e) (runs.zip ts) exits ∧
        ∀ level, Log.atLevel level (exits.flatMap Exit.log) =
          (((runs.zip ts).flatMap fun p => p.2.entries p.1).filter (level.admits ·.level)).map
            fun entry =>
              { entry with spans := if level = .error ∨ level = .warn then [] else [span] } := by
  intro exits
  have ⟨ts, logged⟩ := runEach_logged silent k runs
  refine ⟨ts, logged, fun level => ?_⟩
  rw [flatMap_log logged]
  refine Transcript.atLevel_within level fun entry h => ?_
  have ⟨_, _, mem⟩ := List.mem_flatMap.mp h
  exact Transcript.spans_of_mem_entries mem

end

-- The line for a sum fails and the one that shows this panics. The next run has its own span, and
-- the last one fails without a report.
theorem runEach_log_after_panic :
    let failure : Outcome IoError Unit := .error .writeZero
    let script : Console.Script :=
      [failure, .panic "closed", .ok (), .ok (), .ok (), .ok (), failure]
    let runs : List Options := [{}, { fault := some "boom" }, {}]
    let exits := (runEach Console.Script.console script runs).filter (!·.outcome.aborted)
    Console.Script.console.Silent ∧
      (exits.flatMap Exit.log).map (·.level) =
        [.debug, .warn, .trace, .debug, .warn, .debug, .debug] ∧
      ∃ ts : List (Transcript Empty),
        List.Forall₂ (fun p e => p.2.Logged p.1 e) (runs.zip ts) exits ∧
          Log.atLevel .warn (exits.flatMap Exit.log) =
            (((runs.zip ts).flatMap fun p => p.2.entries p.1).filter
              (Log.Level.warn.admits ·.level)).map fun entry => { entry with spans := [] } := by
  intro failure script runs exits
  have silent : Console.Script.console.Silent := fun _ _ => rfl
  have ⟨ts, logged, atLevel⟩ := runEach_log silent script runs
  exact ⟨silent, by decide, ts, logged, atLevel .warn⟩

end GuardedSum.Program
