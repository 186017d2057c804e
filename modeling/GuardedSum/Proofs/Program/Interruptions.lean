import GuardedSum.Proofs.Console.Sink.Interruptions
import GuardedSum.Proofs.Program.Replay

namespace GuardedSum

open Console (Sink)

variable {ε α : Type}

-- The flushes of a sink are not tried again. Each one is the end of a line that was accepted whole,
-- and they are answered as the script has it.
structure FlushedOnce (s : Sink) (exits : List (Exit (Request Sink.Call) Sink ε α)) : Prop where
  once : ∀ e ∈ exits, ∀ r ∈ e.record, Sink.flushed r.calls =
    if Sink.accepted r.calls = Sink.lineBytes r.text then [r.answer] else []
  scripted : ∀ i o, (Sink.flushed (exits.flatMap Exit.calls))[i]? = some o →
    o = s.flushes.getD i (.ok ())

theorem FlushedOnce.of_asked {s s' : Sink} {exits : List (Exit (Request Sink.Call) Sink ε α)}
    (asked : Sink.console.Asked s (exits.flatMap Exit.record) s') : FlushedOnce s exits where
  once e he r hr := Sink.flushed_of_asked asked (List.mem_flatMap.mpr ⟨e, he, hr⟩)
  scripted i o h := by
    refine Sink.flush_answer_of_asked asked (i := i) ?_
    rwa [List.flatMap_assoc]

namespace Program

-- A sink that is never interrupted gives the same lines and the same runs.
theorem interrupts_unseen (s : Sink) (texts : List String) (runs : List Options) :
    let lines := Sink.console.requestEach s texts
    let exits := runEach Sink.console s runs
    (Unseen lines (Sink.console.requestEach s.uninterrupted texts) ∧
        Unseen exits (runEach Sink.console s.uninterrupted runs)) ∧
      s.uninterrupted.flushes = s.flushes ∧ FlushedOnce s lines ∧ FlushedOnce s exits := by
  intro lines exits
  refine ⟨⟨?lines, ?exits⟩, rfl, ?linesFlushed, ?exitsFlushed⟩
  case lines =>
    refine unseen_runEach (fun x hx s => ?_) s
    have ⟨text, _, eq⟩ := List.mem_map.mp hx
    exact eq ▸ Echoed.request sink_silent sink_silent text
  case exits =>
    refine unseen_runEach (fun x hx s => ?_) s
    have ⟨opts, _, eq⟩ := List.mem_map.mp hx
    exact eq ▸ run_echoed sink_silent sink_silent opts s
  case linesFlushed =>
    have ⟨_, asked⟩ := Sink.console.requestEach_asked s texts
    exact .of_asked asked
  case exitsFlushed =>
    have ⟨_, asked⟩ := runEach_asked sink_silent s runs
    exact .of_asked asked

end Program

end GuardedSum
