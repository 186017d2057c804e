import GuardedSum.Console.Script
import GuardedSum.Program.Run
import GuardedSum.Proofs.Console.Echoed
import GuardedSum.Proofs.Console.Sink.Writing

namespace GuardedSum.Program

variable {γ δ κ ι : Type} {console : Console γ κ} {other : Console δ ι}

section

variable (silent : console.Silent) (silent' : other.Silent) (opts : Options) (k : κ)
include silent silent'

theorem ask_echoed (text : String) :
    Echoed console other k (ask console text k) (ask other text) :=
  (Echoed.request silent silent' text).mapError ProgramError.output

theorem body_echoed : Echoed console other k (body console opts k) (body other opts) := by
  refine (Echoed.emit _).bind fun _ s => ?_
  match opts.fault with
  | some m => exact Echoed.throw _
  | none => exact (ask_echoed silent silent' s _).bind fun _ _ => Echoed.pure _

theorem handler_echoed (e : ProgramError) :
    Echoed console other k (handler console e k) (handler other e) :=
  (Echoed.emit _).bind fun _ s => ask_echoed silent silent' s _

theorem run_echoed : Echoed console other k (run console opts k) (run other opts) := by
  refine Echoed.inSpan span (Echoed.bind ?block fun _ _ => ?rest)
  case block =>
    have hh (e s) := handler_echoed silent silent' s e
    have hc (s) := ask_echoed silent silent' s completionLine
    exact (body_echoed silent silent' opts k).guarded hh hc
  case rest => exact (Echoed.emit _).bind fun _ _ => Echoed.pure _

end

section

variable (silent : console.Silent)
include silent

theorem runEach_asked (k : κ) (runs : List Options) :
    ∃ k', console.Asked k ((runEach console k runs).flatMap Exit.record) k' := by
  refine Console.Asked.runEach (fun x hx k => ?_) k
  have ⟨opts, _, eq⟩ := List.mem_map.mp hx
  exact eq ▸ (run_echoed silent silent opts k).asked

variable (silent' : other.Silent)
include silent'

theorem runEach_seen {k : κ} {runs : List Options} {j j' : ι} {rs : List (Request δ)}
    (asked : other.Asked j rs j')
    (face : rs.map Request.face =
      ((runEach console k runs).flatMap Exit.record).map Request.face) :
    (runEach other j runs).map Exit.seen = (runEach console k runs).map Exit.seen := by
  induction runs generalizing k j rs with
  | nil => rfl
  | cons opts runs ih =>
    have echoed := run_echoed silent silent' opts k
    by_cases h : (run console opts k).outcome = .abort
    case pos =>
      rw [runEach_of_abort h, List.flatMap_singleton] at face
      have h' : (run other opts j).outcome = .abort := by rw [echoed.again asked face, h]
      rw [runEach_of_abort h, runEach_of_abort h', List.map_singleton, List.map_singleton,
        echoed.seen_eq asked face]
    case neg =>
      rw [runEach_of_ne_abort h, List.flatMap_cons, List.map_append] at face
      -- The first of the answers are those to the lines of this run.
      have ⟨rs₁, rs₂, rs_eq, face₁, face₂⟩ := List.map_eq_append_iff.mp face
      subst rs_eq
      have ⟨i, asked₁, asked₂⟩ := asked.split
      have again := echoed.again asked₁ face₁
      have h' : (run other opts j).outcome ≠ .abort := by rwa [again]
      have state_eq : (run other opts j).state = i := by rw [again]
      rw [runEach_of_ne_abort h, runEach_of_ne_abort h', List.map_cons, List.map_cons,
        echoed.seen_eq asked₁ face₁, state_eq, ih asked₂ face₂]

end

end GuardedSum.Program

namespace GuardedSum

-- A request of a console that answers without making any calls.
def Request.bare {γ δ : Type} (r : Request γ) : Request δ where
  text := r.text
  answer := r.answer
  calls := []

theorem Console.Script.asked {γ : Type} (rs : List (Request γ)) (rest : Script) :
    console.Asked (rs.map Request.answer ++ rest) (rs.map Request.bare) rest := by
  induction rs with
  | nil => exact .nil
  | cons r rs ih =>
    have bare_eq : r.bare =
        console.asking r.text (r.answer :: (rs.map Request.answer ++ rest)) := rfl
    rw [List.map_cons, List.map_cons, bare_eq]
    exact .cons ih

namespace Program

open Console (Script Sink)

theorem sink_silent : Sink.console.Silent :=
  Sink.line_log

theorem seen_runEach_script (s : Sink) (runs : List Options) :
    let exits := runEach Sink.console s runs
    let answers := exits.flatMap (·.record.map Request.answer)
    (runEach Script.console answers runs).map Exit.seen = exits.map Exit.seen := by
  intro exits answers
  have ⟨_, asked⟩ := runEach_asked sink_silent s runs
  have scripted := Script.asked (exits.flatMap Exit.record) []
  rw [List.append_nil, List.map_flatMap] at scripted
  refine runEach_seen sink_silent (fun _ _ => rfl) scripted ?_
  rw [List.map_map]
  rfl

-- A run over a sink is done again, line for line, over a script of the answers that the sink gave.
-- So there is no telling it from a run over any other sink that gives these answers.
theorem runEach_replayed (s : Sink) (runs : List Options) :
    let exits := runEach Sink.console s runs
    let answers := exits.flatMap (·.record.map Request.answer)
    (runEach Script.console answers runs).map Exit.seen = exits.map Exit.seen ∧
      ∀ s', let exits' := runEach Sink.console s' runs
        exits'.flatMap (·.record.map Request.answer) = answers →
          exits'.map Exit.seen = exits.map Exit.seen := by
  intro exits answers
  refine ⟨seen_runEach_script s runs, ?_⟩
  intro s' exits' same_answers
  let answers' := exits'.flatMap (·.record.map Request.answer)
  have same : answers' = answers := same_answers
  calc exits'.map Exit.seen
    _ = (runEach Script.console answers' runs).map Exit.seen := (seen_runEach_script s' runs).symm
    _ = (runEach Script.console answers runs).map Exit.seen := by rw [same]
    _ = exits.map Exit.seen := seen_runEach_script s runs

-- One sink runs out of room in the second line, after a short write and an interrupt. The other
-- takes everything and then fails to flush it.
theorem runEach_replayed_failed_flush :
    let s : Sink :=
      { writes := [.accept (some 4), .fail (.ofErrno .interruptedCall)], room := some 30 }
    let s' : Sink := { flushes := [.ok (), .error .writeZero] }
    let exits := runEach Sink.console s [{}]
    let exits' := runEach Sink.console s' [{}]
    exits.flatMap (·.record.map Request.answer) = [.ok (), .error .writeZero] ∧
      exits'.flatMap (·.record.map Request.answer) = [.ok (), .error .writeZero] ∧
      exits'.map Exit.seen = exits.map Exit.seen := by
  intro s s' exits exits'
  have answers : exits.flatMap (·.record.map Request.answer) = [.ok (), .error .writeZero] := by
    unfold exits s
    decide +kernel
  have answers' : exits'.flatMap (·.record.map Request.answer) = [.ok (), .error .writeZero] := by
    unfold exits' s'
    decide +kernel
  have replayed := runEach_replayed s [{}]
  exact ⟨answers, answers', replayed.2 s' (answers'.trans answers.symm)⟩

end Program

end GuardedSum
