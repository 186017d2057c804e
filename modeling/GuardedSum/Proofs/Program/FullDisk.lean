import GuardedSum.Proofs.Console.Sink.Line
import GuardedSum.Proofs.Console.Sink.Room
import GuardedSum.Proofs.Program.Protocol
import GuardedSum.Proofs.Program.Result
import GuardedSum.Proofs.Program.Returning

namespace GuardedSum.Program

open Console (Sink)

-- The bytes of a run if nothing fails but for the fault.
def ideal (opts : Options) : List UInt8 :=
  let first := match opts.fault with
    | some m => exceptionLine m
    | none => sumLine opts.operandsSum
  Sink.lineBytes first ++ Sink.lineBytes completionLine

section

variable {opts : Options} {t : Transcript Sink.Call} {s s' : Sink}

theorem owed_eq_flatMap_texts (rs : List (Request Sink.Call)) :
    Sink.owed rs = (rs.map Request.text).flatMap Sink.lineBytes := by
  rw [List.flatMap_map]
  rfl

-- If the line for the sum does not fit, nothing of what is asked for after it does.
theorem Transcript.Follows.owed_agrees (follows : t.Follows opts) (willing : s.Willing)
    (asked : Sink.console.Asked s t.requests s') :
    Sink.Agree s.room (Sink.owed t.requests) (ideal opts) := by
  have texts := follows.texts_requests
  match hf : opts.fault, hm : t.message? opts with
  | none, some m =>
    have ⟨q, e, hq, failed⟩ := sum_failed_of_message? hf hm
    have sum := follows.sum
    rw [hq, hf] at sum
    have text_eq : q.text = sumLine opts.operandsSum := Option.some.inj sum
    rw [requests, hq] at asked
    have answer := willing.first_answer asked
    have not_fits : ¬Sink.Fits s.room (Sink.lineBytes (sumLine opts.operandsSum)) := by
      intro fits
      rw [failed, text_eq, if_pos fits] at answer
      cases answer
    have owed_eq : Sink.owed t.requests =
        Sink.lineBytes (sumLine opts.operandsSum) ++
          (Sink.lineBytes (exceptionLine m) ++ Sink.lineBytes completionLine) := by
      simp [owed_eq_flatMap_texts, texts, hf, hm]
    rw [owed_eq, ideal, hf]
    exact .of_not_fits not_fits
  | some m, message =>
    obtain rfl : message = some m := by rw [← hm, message?, hf]
    refine .of_eq ?_
    simp [owed_eq_flatMap_texts, texts, ideal, hf, hm]
  | none, none =>
    refine .of_eq ?_
    simp [owed_eq_flatMap_texts, texts, ideal, hf, hm]

-- A run returns a report if there is room for some bytes, and fails for lack of it otherwise.
structure Decided (room : Option Nat) (bs : List UInt8) (o : Outcome ProgramError Report) :
    Prop where
  ok : Sink.Fits room bs → ∃ r, o = .ok r
  error : ¬Sink.Fits room bs → o = .error (.output .writeZero)

theorem Decided.ok_iff {room : Option Nat} {bs : List UInt8} {o : Outcome ProgramError Report}
    (h : Decided room bs o) : (∃ r, o = .ok r) ↔ Sink.Fits room bs := by
  constructor
  case mp =>
    intro ⟨r, ok⟩
    exact Decidable.byContradiction fun not_fits => nomatch ok.symm.trans (h.error not_fits)
  case mpr => exact h.ok

theorem Decided.congr {room room' : Option Nat} {bs cs : List UInt8}
    {o : Outcome ProgramError Report} (h : Decided room bs o)
    (fits : Sink.Fits room bs ↔ Sink.Fits room' cs) : Decided room' cs o :=
  ⟨fun h' => h.ok (fits.mpr h'), fun h' => h.error (mt fits.mp h')⟩

structure Filled (opts : Options) (s : Sink)
    (e : Exit (Request Sink.Call) Sink ProgramError Report) : Prop where
  accepted : Sink.accepted e.calls = Sink.within s.room (ideal opts)
  room : e.state.room = Sink.beside s.room (ideal opts)
  willing : e.state.Willing
  decided : Decided s.room (ideal opts) e.outcome

theorem run_ends (willing : s.Willing) (opts : Options) :
    (run Sink.console opts s).outcome ≠ .abort := by
  have line_returns (text) : (Sink.console.line text).Returns Sink.Willing :=
    fun _ willing => ⟨willing.line text, willing.line_returned text⟩
  exact (run_returns line_returns opts s willing).2.ne_abort

theorem run_filled (willing : s.Willing) (opts : Options) :
    Filled opts s (run Sink.console opts s) := by
  have ⟨t, tells⟩ := run_tells (run_ends willing opts)
  have ⟨willing', room_eq, accepted_eq⟩ := willing.of_asked tells.asked
  have agree := tells.follows.owed_agrees willing tells.asked
  constructor
  case accepted => rw [Sink.accepted_calls, tells.record, accepted_eq, agree.within]
  case room => rw [room_eq, agree.beside]
  case willing => exact willing'
  case decided =>
    rw [tells.outcome]
    refine Decided.congr ⟨fun fits => ?_, fun not_fits => ?_⟩ agree.fits
    · exact Transcript.result_of_answers_ok (willing.answers_of_fits tells.asked fits)
    · have completion : t.completion.answer = _ := willing.answer_of_asked tells.asked
      have returned := willing.answers_returned tells.asked
      exact Transcript.result_of_completion_error returned (completion.trans (if_neg not_fits))

end

theorem ideal_ne_nil (opts : Options) : ideal opts ≠ [] :=
  List.append_ne_nil_of_right_ne_nil _ (Sink.lineBytes_ne_nil completionLine)

theorem flatMap_ideal_ne_nil {runs : List Options} (h : runs ≠ []) : runs.flatMap ideal ≠ [] := by
  cases runs with
  | nil => exact absurd rfl h
  | cons opts runs => exact List.append_ne_nil_of_left_ne_nil (ideal_ne_nil opts) _

structure EachFilled (runs : List Options) (s : Sink)
    (exits : List (Exit (Request Sink.Call) Sink ProgramError Report)) : Prop where
  accepted : Sink.accepted (exits.flatMap Exit.calls) = Sink.within s.room (runs.flatMap ideal)
  length : exits.length = runs.length
  decided : ∀ i e, exits[i]? = some e →
    Decided s.room ((runs.take (i + 1)).flatMap ideal) e.outcome

theorem runEach_filled {s : Sink} (willing : s.Willing) (runs : List Options) :
    EachFilled runs s (runEach Sink.console s runs) := by
  induction runs generalizing s with
  | nil => exact ⟨Sink.within_nil.symm, rfl, nofun⟩
  | cons opts runs ih =>
    have filled := run_filled willing opts
    have rest := ih filled.willing
    rw [runEach_of_ne_abort (run_ends willing opts)]
    constructor
    case accepted =>
      rw [List.flatMap_cons, Sink.accepted_append, filled.accepted, rest.accepted, filled.room,
        ← Sink.within_append]
      rfl
    case length => exact congrArg (· + 1) rest.length
    case decided =>
      intro i e he
      cases i with
      | zero =>
        obtain rfl : run Sink.console opts s = e := Option.some.inj he
        simpa using filled.decided
      | succ i =>
        have decided := rest.decided i e he
        have ⟨i_lt, _⟩ := List.getElem?_eq_some_iff.mp he
        have ne_nil : runs.take (i + 1) ≠ [] := by
          have runs_pos : 0 < runs.length :=
            rest.length ▸ Nat.zero_lt_of_lt (Nat.lt_of_succ_lt_succ i_lt)
          simpa using List.length_pos_iff.mp runs_pos
        rw [filled.room] at decided
        exact decided.congr (Sink.fits_beside (flatMap_ideal_ne_nil ne_nil))

-- The bytes of a list of runs are cut off where the room of the sink ends, and the runs that fail
-- are those that would go beyond it.
theorem runEach_on_full_disk (s : Sink) (willing : s.Willing) (runs : List Options) :
    let exits := runEach Sink.console s runs
    Sink.accepted (exits.flatMap Exit.calls) = Sink.within s.room (runs.flatMap ideal) ∧
      exits.length = runs.length ∧
      ∀ i e, exits[i]? = some e →
        let total := (runs.take (i + 1)).flatMap ideal
        ((∃ r, e.outcome = .ok r) ↔ Sink.Fits s.room total) ∧
          (¬Sink.Fits s.room total → e.outcome = .error (.output .writeZero)) := by
  intro exits
  have filled := runEach_filled willing runs
  refine ⟨filled.accepted, filled.length, fun i e he => ?_⟩
  have decided := filled.decided i e he
  exact ⟨decided.ok_iff, decided.error⟩

theorem runEach_on_full_disk_cut :
    let s : Sink :=
      { writes := [.accept (some 3), .fail (.ofErrno .interruptedCall), .accept none,
          .fail (.custom .interrupted (.text "again"))]
        room := some 40 }
    let runs : List Options := [{}, { fault := some "boom" }]
    let exits := runEach Sink.console s runs
    s.Willing ∧
      Sink.accepted (exits.flatMap Exit.calls) =
        (Sink.lineBytes "Sum: 15" ++ Sink.lineBytes completionLine) ++ Sink.utf8 "Exception" ∧
      (∃ e r, exits[0]? = some e ∧ e.outcome = .ok r) ∧
      ∃ e, exits[1]? = some e ∧ e.outcome = .error (.output .writeZero) := by
  intro s runs exits
  have willing : s.Willing := by
    constructor
    case steady =>
      intro w hw
      simp only [s, List.mem_cons, List.not_mem_nil, or_false] at hw
      obtain rfl | rfl | rfl | rfl := hw
      · exact Nat.zero_lt_succ 2
      · rfl
      · trivial
      · rfl
    case flushes => exact nofun
  have ⟨bytes, length, decided⟩ := runEach_on_full_disk s willing runs
  have exits_length : exits.length = 2 := length
  have first : exits[0]? = some exits[0] := List.getElem?_eq_getElem (by omega)
  have second : exits[1]? = some exits[1] := List.getElem?_eq_getElem (by omega)
  have first_fits : Sink.Fits s.room ((runs.take 1).flatMap ideal) := by
    unfold s runs
    decide +kernel
  have second_cut : ¬Sink.Fits s.room ((runs.take 2).flatMap ideal) := by
    unfold s runs
    decide +kernel
  have cut : Sink.within s.room (runs.flatMap ideal) =
      (Sink.lineBytes "Sum: 15" ++ Sink.lineBytes completionLine) ++ Sink.utf8 "Exception" := by
    unfold s runs
    decide +kernel
  have ⟨r, ok⟩ := (decided 0 _ first).1.mpr first_fits
  have failed := (decided 1 _ second).2 second_cut
  exact ⟨willing, bytes.trans cut, ⟨exits[0], r, first, ok⟩, exits[1], second, failed⟩

end GuardedSum.Program
