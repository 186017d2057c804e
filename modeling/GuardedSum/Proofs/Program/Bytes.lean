import GuardedSum.Proofs.Console.Sink.Line
import GuardedSum.Proofs.Program.Replay
import GuardedSum.Proofs.Program.Result

namespace GuardedSum.Program

open Console (Sink)

variable {γ : Type} {opts : Options} {r : Report}

namespace Transcript

variable {t : Transcript γ}

theorem completion_answer_of_result_eq_ok (h : t.result opts = .ok r) :
    t.completion.answer = .ok () := by
  unfold result at h
  split at h
  case h_11 => cases hc : t.completion.answer <;> simp_all
  all_goals nomatch h

theorem Follows.requests_of_completed (follows : t.Follows opts) (h : t.result opts = .ok r)
    (completed : t.message? opts = none) :
    ∃ q, t.requests = [q, t.completion] ∧ q.text = sumLine opts.operandsSum ∧
      q.answer = .ok () := by
  have ⟨q, hq, text_eq, ok⟩ := follows.sum_of_completed h completed
  have hx : t.exception? = none := by
    rw [← Option.map_eq_none_iff (f := Request.text), follows.exception, completed]
    rfl
  refine ⟨q, ?_, text_eq, ok⟩
  simp [requests, hq, hx]

theorem Follows.requests_of_caught (follows : t.Follows opts) (h : t.result opts = .ok r)
    {m : String} (caught : t.message? opts = some m) :
    ∃ x, t.requests = t.sum?.toList ++ [x, t.completion] ∧ x.text = exceptionLine m ∧
      x.answer = .ok () := by
  have ⟨x, hx, text_eq, ok⟩ := follows.exception_of_caught h caught
  refine ⟨x, ?_, text_eq, ok⟩
  simp [requests, hx]

end Transcript

section

variable {t : Transcript Sink.Call} {s s' : Sink}
variable (follows : t.Follows opts) (asked : Sink.console.Asked s t.requests s')
variable (h : t.result opts = .ok r)
include follows asked h

theorem accepted_of_completed (completed : t.message? opts = none) :
    (t.requests.flatMap fun q => Sink.accepted q.calls) =
      Sink.lineBytes (sumLine opts.operandsSum) ++ Sink.lineBytes completionLine := by
  have ⟨q, requests_eq, text_eq, ok⟩ := follows.requests_of_completed h completed
  rw [requests_eq] at asked ⊢
  have sum_bytes := Sink.accepted_of_asked asked (by simp) ok
  have completion_bytes :=
    Sink.accepted_of_asked asked (by simp) (t.completion_answer_of_result_eq_ok h)
  rw [text_eq] at sum_bytes
  rw [follows.completion] at completion_bytes
  simp [sum_bytes, completion_bytes]

theorem accepted_of_caught {m : String} (caught : t.message? opts = some m) :
    ∃ p, p <+: Sink.lineBytes (sumLine opts.operandsSum) ∧ (opts.fault.isSome → p = []) ∧
      (t.requests.flatMap fun q => Sink.accepted q.calls) =
        p ++ Sink.lineBytes (exceptionLine m) ++ Sink.lineBytes completionLine := by
  have ⟨x, requests_eq, text_eq, ok⟩ := follows.requests_of_caught h caught
  rw [requests_eq] at asked ⊢
  have exception_bytes := Sink.accepted_of_asked asked (r := x) (by simp) ok
  have completion_bytes :=
    Sink.accepted_of_asked asked (by simp) (t.completion_answer_of_result_eq_ok h)
  rw [text_eq] at exception_bytes
  rw [follows.completion] at completion_bytes
  have sum := follows.sum
  match hq : t.sum? with
  | none =>
    refine ⟨[], List.nil_prefix, fun _ => rfl, ?_⟩
    simp [exception_bytes, completion_bytes]
  | some q =>
    rw [hq] at sum asked
    have ⟨no_fault, sum_text⟩ : opts.fault.isNone ∧ q.text = sumLine opts.operandsSum := by
      split at sum
      case isTrue no_fault => exact ⟨no_fault, Option.some.inj sum⟩
      case isFalse => nomatch sum
    have sum_bytes := Sink.accepted_isPrefix_of_asked asked (r := q) (by simp)
    rw [sum_text] at sum_bytes
    refine ⟨Sink.accepted q.calls, sum_bytes, fun fault => ?_, ?_⟩
    · simp [Option.isNone_iff_eq_none.mp no_fault] at fault
    · simp [exception_bytes, completion_bytes]

end

-- Whatever fails, a line has only left its first bytes behind, and the report of a run tells which
-- bytes these are.
theorem run_bytes (opts : Options) (s : Sink) :
    let e := run Sink.console opts s
    let bytes := Sink.accepted e.calls
    (bytes = (e.record.flatMap fun q => Sink.accepted q.calls) ∧
        ∀ q ∈ e.record, Sink.accepted q.calls <+: Sink.lineBytes q.text) ∧
      ∀ r, e.outcome = .ok r →
        (r.caught = none → ∃ c, r.sum = some c ∧
          bytes = Sink.lineBytes (sumLine c) ++ Sink.lineBytes completionLine) ∧
        ∀ m, r.caught = some m →
          ∃ p, p <+: Sink.lineBytes (sumLine opts.operandsSum) ∧ (opts.fault.isSome → p = []) ∧
            bytes = p ++ Sink.lineBytes (exceptionLine m) ++ Sink.lineBytes completionLine := by
  intro e bytes
  have bytes_eq := Sink.accepted_calls e
  have asked := (run_echoed sink_silent sink_silent opts s).asked
  refine ⟨⟨bytes_eq, fun q hq => Sink.accepted_isPrefix_of_asked asked hq⟩, fun r ok => ?_⟩
  have ends : (run Sink.console opts s).outcome ≠ .abort := by simp [e, ok]
  have ⟨t, tells⟩ := run_tells ends
  have h : t.result opts = .ok r := tells.outcome.symm.trans ok
  have ⟨_, _, r_eq⟩ := Transcript.answers_of_result_eq_ok h
  have bytes_eq : bytes = t.requests.flatMap fun q => Sink.accepted q.calls :=
    tells.record ▸ bytes_eq
  rw [bytes_eq, r_eq]
  refine ⟨fun completed => ⟨opts.operandsSum, ?_, ?_⟩, fun m caught => ?_⟩
  · exact if_pos (Option.isNone_iff_eq_none.mpr completed)
  · exact accepted_of_completed tells.follows tells.asked h completed
  · exact accepted_of_caught tells.follows tells.asked h caught

theorem run_bytes_failed_flush :
    let s : Sink := { flushes := [.error (.ofKind .brokenPipe)] }
    let e := run Sink.console {} s
    let m := "failed to write output: broken pipe"
    e.outcome = .ok { sum := none, caught := some m, trailing := 7 } ∧
      ∃ p, p <+: Sink.lineBytes (sumLine (sum 5 10)) ∧
        Sink.accepted e.calls =
          p ++ Sink.lineBytes (exceptionLine m) ++ Sink.lineBytes completionLine := by
  intro s e m
  have ok : e.outcome = .ok { sum := none, caught := some m, trailing := 7 } := by
    unfold e s m
    decide +kernel
  obtain ⟨p, sum_bytes, _, bytes_eq⟩ := ((run_bytes {} s).2 _ ok).2 m rfl
  exact ⟨ok, p, sum_bytes, bytes_eq⟩

end GuardedSum.Program
