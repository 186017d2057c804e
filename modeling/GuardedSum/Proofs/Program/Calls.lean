import GuardedSum.Proofs.Console.Sink.Budget
import GuardedSum.Proofs.Program.Protocol
import GuardedSum.Proofs.Program.Replay

namespace GuardedSum.Program

open Console (Sink)

section

variable {γ κ : Type} (console : Console γ κ)

theorem ask_recordsAtMost (text : String) : (ask console text).RecordsAtMost 1 :=
  fun _ => Nat.le_refl 1

theorem body_recordsAtMost (opts : Options) : (body console opts).RecordsAtMost 1 := by
  refine .bind (n := 0) (m := 1) (.emit _) fun _ => ?_
  match opts.fault with
  | some m => exact .throw _
  | none => exact .bind (m := 0) (ask_recordsAtMost console _) fun _ => .pure _

theorem handler_recordsAtMost (e : ProgramError) : (handler console e).RecordsAtMost 1 :=
  .bind (n := 0) (.emit _) fun _ => ask_recordsAtMost console _

theorem run_recordsAtMost (opts : Options) : (run console opts).RecordsAtMost 3 := by
  refine .inSpan span (.bind (n := 3) (m := 0) ?block fun _ => ?rest)
  case block =>
    have completion_le := ask_recordsAtMost console completionLine
    exact (body_recordsAtMost console opts).guarded (handler_recordsAtMost console) completion_le
  case rest => exact .bind (n := 0) (m := 0) (.emit _) fun _ => .pure _

theorem length_records_runEach_le (k : κ) (runs : List Options) :
    ((runEach console k runs).flatMap Exit.record).length ≤ 3 * runs.length := by
  have each : ∀ x ∈ runs.map (run console), x.RecordsAtMost 3 :=
    List.forall_mem_map.mpr fun opts _ => run_recordsAtMost console opts
  have le := Action.length_records_runEach_le each k
  rwa [List.length_map] at le

end

-- Whatever a sink does, the loop that writes to it comes to its end, and no line and no run has it
-- called more often than its script and their number allow, however long the texts are.
theorem calls_bounded (s : Sink) (texts : List String) (runs : List Options) :
    let lines := Sink.console.requestEach s texts
    let exits := runEach Sink.console s runs
    (∀ bs, let e := Sink.writeAll bs s
        (Sink.written e.record).length ≤ s.writes.length + 2 ∧
          Sink.turn^[(Sink.written e.record).length] (bs, s) = ([], e.state)) ∧
      ((Sink.written (lines.flatMap Exit.calls)).length ≤ s.writes.length + 2 * texts.length ∧
        (Sink.flushed (lines.flatMap Exit.calls)).length ≤ texts.length ∧
        ((∀ o ∈ s.flushes, o ≠ .abort) → lines.length = texts.length)) ∧
      (Sink.written (exits.flatMap Exit.calls)).length ≤ s.writes.length + 6 * runs.length ∧
      (Sink.flushed (exits.flatMap Exit.calls)).length ≤ 3 * runs.length ∧
      ((∀ e ∈ exits, e.outcome ≠ .abort) → exits.length = runs.length) := by
  intro lines exits
  refine ⟨fun bs => ?loop, ?lines, ?runs⟩
  case loop => exact ⟨Sink.length_written_writeAll_le bs s, Sink.turn_writeAll bs s⟩
  case lines =>
    have asked := Sink.console.requestEach_asked s texts
    have le := Sink.length_records_requestEach_le s texts
    exact ⟨Sink.length_written_le asked le, Sink.length_flushed_le asked le,
      fun unaborted => Sink.length_requestEach unaborted texts⟩
  case runs =>
    have asked := runEach_asked sink_silent s runs
    have le := length_records_runEach_le Sink.console s runs
    refine ⟨?writes, Sink.length_flushed_le asked le, fun ends => ?ends⟩
    case writes =>
      have writes_le : (Sink.written (exits.flatMap Exit.calls)).length ≤ _ :=
        Sink.length_written_le asked le
      omega
    case ends =>
      have ⟨k', told⟩ := runEach_told Sink.console s runs ends
      exact told.length_eq

-- The bounds are met. The sum is interrupted once and then written, but not flushed, so the run
-- asks for three lines, and each of them is written whole. The loop takes its two further turns
-- when the room ends within the bytes.
theorem calls_bounded_met :
    let s : Sink :=
      { writes := [.fail (.ofErrno .interruptedCall)], flushes := [.error (.ofKind .brokenPipe)] }
    let narrow : Sink := { s with room := some 2 }
    let lines := Sink.console.requestEach s ["first"]
    let exits := runEach Sink.console s [{}]
    (Sink.turn^[3] (Sink.utf8 "first", narrow)).1 = [] ∧
      (Sink.turn^[2] (Sink.utf8 "first", narrow)).1 = Sink.utf8 "rst" ∧
      ((∀ o ∈ s.flushes, o ≠ .abort) ∧ lines.length = 1 ∧
        (Sink.written (lines.flatMap Exit.calls)).length = 3 ∧
        (Sink.flushed (lines.flatMap Exit.calls)).length = 1) ∧
      (∀ e ∈ exits, e.outcome ≠ .abort) ∧ exits.length = 1 ∧
      (Sink.written (exits.flatMap Exit.calls)).length = 7 ∧
      (Sink.flushed (exits.flatMap Exit.calls)).length = 3 := by
  intro s narrow lines exits
  obtain ⟨loop, _⟩ := calls_bounded narrow [] []
  obtain ⟨_, ⟨_, _, lines_length⟩, _, _, length⟩ := calls_bounded s ["first"] [{}]
  have turns : (Sink.written (Sink.writeAll (Sink.utf8 "first") narrow).record).length = 3 := by
    unfold narrow s
    decide +kernel
  have last := (loop (Sink.utf8 "first")).2
  rw [turns] at last
  have unaborted : ∀ o ∈ s.flushes, o ≠ .abort := by simp [s]
  have all_end : exits.all (fun e => !e.outcome.aborted) = true := by
    unfold exits s
    decide +kernel
  have ends : ∀ e ∈ exits, e.outcome ≠ .abort := by
    intro e he h
    have e_ends := List.all_eq_true.mp all_end e he
    simp [h, Outcome.aborted] at e_ends
  refine ⟨congrArg Prod.fst last, ?_, ⟨unaborted, lines_length unaborted, ?_, ?_⟩, ends,
    length ends, ?_, ?_⟩
  · decide
  · unfold lines s
    decide +kernel
  · unfold lines s
    decide +kernel
  · unfold exits s
    decide +kernel
  · unfold exits s
    decide +kernel

end GuardedSum.Program
