import GuardedSum.Console.Script
import GuardedSum.Proofs.Guarded.Returning
import GuardedSum.Proofs.Program.Transcript

namespace GuardedSum.Program

variable {γ κ : Type} {opts : Options} {r : Report}

namespace Transcript

variable {t : Transcript γ}

-- A report, and the answers that it goes back to. It has either a sum or the message of an error
-- that was caught, and the line that shows the one or the other has been written.
inductive Supports (t : Transcript γ) (opts : Options) : Report → Prop
  | completed {q} : t.sum? = some q → q.answer = .ok () →
    t.Supports opts { sum := some opts.operandsSum, caught := none, trailing := opts.trailingSum }
  | caught {m x} : t.exception? = some x → x.text = exceptionLine m → x.answer = .ok () →
    t.Supports opts { sum := none, caught := some m, trailing := opts.trailingSum }

theorem Supports.isSome_sum : t.Supports opts r → r.sum.isSome = r.caught.isNone
  | .completed _ _ | .caught _ _ _ => rfl

theorem result_ne_injected (m : String) : t.result opts ≠ .error (.injected m) := by
  unfold result
  split <;> simp

theorem answer_of_result_eq_error {e : IoError} (h : t.result opts = .error (.output e)) :
    t.completion.answer = .error e ∨ ∃ x, t.exception? = some x ∧ x.answer = .error e := by
  unfold result at h
  split at h <;> simp_all

theorem answers_of_result_eq_ok (h : t.result opts = .ok r) :
    (∀ q, t.sum? = some q → q.answer = .ok () ∨ ∃ e, q.answer = .error e) ∧
      (∀ x, t.exception? = some x → x.answer = .ok ()) ∧
      r =
        { sum := if (t.message? opts).isNone then some opts.operandsSum else none
          caught := t.message? opts
          trailing := opts.trailingSum } := by
  unfold result at h
  split at h
  case h_11 =>
    cases h
    refine ⟨fun q hq => ?_, fun x hx => ?_, rfl⟩
    · cases hq' : q.answer <;> simp_all
    · cases hx' : x.answer <;> simp_all
  all_goals nomatch h

theorem result_of_answers_ok (h : ∀ q ∈ t.requests, q.answer = .ok ()) :
    ∃ r, t.result opts = .ok r := by
  obtain ⟨q, x, c⟩ := t
  cases q <;> cases x <;> simp_all [requests, result]

theorem result_of_completion_error {e : IoError}
    (returned : ∀ q ∈ t.requests, q.answer.Returned)
    (failed : t.completion.answer = .error e) : t.result opts = .error (.output e) := by
  obtain ⟨q, x, c⟩ := t
  match q, x with
  | none, none => simp_all [result]
  | some q, none | none, some q =>
    obtain ⟨_ | _, hq⟩ := returned q (by simp [requests])
    all_goals simp_all [result, Outcome.ofExcept]
  | some q, some x =>
    obtain ⟨_ | _, hq⟩ := returned q (by simp [requests])
    all_goals
      obtain ⟨_ | _, hx⟩ := returned x (by simp [requests])
      all_goals simp_all [result, Outcome.ofExcept]

theorem fault_of_message?_eq_none (h : t.message? opts = none) : opts.fault = none := by
  cases hf : opts.fault with
  | none => rfl
  | some m => simp [message?, hf] at h

theorem sum_failed_of_message? {m : String} (hf : opts.fault = none)
    (hm : t.message? opts = some m) : ∃ q e, t.sum? = some q ∧ q.answer = .error e := by
  simp only [message?, hf] at hm
  split at hm
  case h_1 heq => cases heq
  case h_2 e _ answer_eq =>
    obtain ⟨q, hq, he⟩ := Option.map_eq_some_iff.mp answer_eq
    exact ⟨q, e, hq, he⟩
  case h_3 => cases hm

theorem sum_answer_of_message?_eq_none {q : Request γ} {e : IoError} (h : t.message? opts = none)
    (hq : t.sum? = some q) : q.answer ≠ .error e := by
  intro he
  simp [message?, fault_of_message?_eq_none h, hq, he] at h

theorem Follows.sum_of_completed (follows : t.Follows opts) (h : t.result opts = .ok r)
    (completed : t.message? opts = none) :
    ∃ q, t.sum? = some q ∧ q.text = sumLine opts.operandsSum ∧ q.answer = .ok () := by
  have ⟨sum_answer, _, _⟩ := answers_of_result_eq_ok h
  have sum := follows.sum
  rw [fault_of_message?_eq_none completed] at sum
  have ⟨q, hq, text_eq⟩ := Option.map_eq_some_iff.mp sum
  cases sum_answer q hq with
  | inl ok => exact ⟨q, hq, text_eq, ok⟩
  | inr failed =>
    have ⟨e, he⟩ := failed
    exact absurd he (sum_answer_of_message?_eq_none completed hq)

theorem Follows.exception_of_caught (follows : t.Follows opts) (h : t.result opts = .ok r)
    {m : String} (caught : t.message? opts = some m) :
    ∃ x, t.exception? = some x ∧ x.text = exceptionLine m ∧ x.answer = .ok () := by
  have ⟨_, exception_answer, _⟩ := answers_of_result_eq_ok h
  have exception := follows.exception
  rw [caught] at exception
  have ⟨x, hx, text_eq⟩ := Option.map_eq_some_iff.mp exception
  exact ⟨x, hx, text_eq, exception_answer x hx⟩

theorem Follows.supports (follows : t.Follows opts) (h : t.result opts = .ok r) :
    t.Supports opts r := by
  have ⟨_, _, eq⟩ := answers_of_result_eq_ok h
  subst eq
  match hm : t.message? opts with
  | none =>
    have ⟨q, hq, _, ok⟩ := follows.sum_of_completed h hm
    exact .completed hq ok
  | some m =>
    have ⟨x, hx, text_eq, ok⟩ := follows.exception_of_caught h hm
    exact .caught hx text_eq ok

end Transcript

variable (console : Console γ κ) (opts : Options) (k : κ)

-- The result of a run, by the lines that it asked for and their answers.
theorem run_result (ends : (run console opts k).outcome ≠ .abort) :
    let e := run console opts k
    ∃ t : Transcript γ,
      e.record = t.requests ∧ t.Follows opts ∧ e.outcome = t.result opts ∧
      (∀ r, e.outcome = .ok r → t.Supports opts r ∧ r.sum.isSome = r.caught.isNone) ∧
      (∀ m, e.outcome ≠ .error (.injected m)) ∧
      ∀ c, e.outcome = .error (.output c) →
        t.completion.answer = .error c ∨ ∃ x, t.exception? = some x ∧ x.answer = .error c := by
  intro e
  have ⟨t, tells⟩ := run_tells ends
  refine ⟨t, tells.record, tells.follows, tells.outcome, fun r h => ?_, fun m h => ?_, fun c h => ?_⟩
  · have supports := tells.follows.supports (tells.outcome ▸ h)
    exact ⟨supports, supports.isSome_sum⟩
  · exact Transcript.result_ne_injected m (tells.outcome ▸ h)
  · exact Transcript.answer_of_result_eq_error (tells.outcome ▸ h)

theorem run_result_exception_line_fails :
    let cause : IoError := .ofKind .brokenPipe
    let script : Console.Script := [.error .writeZero, .error cause, .ok ()]
    let e := run Console.Script.console {} script
    e.outcome = .error (.output cause) ∧ e.outcome ≠ .abort ∧
      ∃ t : Transcript Empty,
        e.record = t.requests ∧ t.Follows {} ∧ e.outcome = t.result {} ∧
        (t.completion.answer = .error cause ∨ ∃ x, t.exception? = some x ∧ x.answer = .error cause) := by
  intro cause script e
  have outcome_eq : e.outcome = .error (.output cause) := rfl
  have ends : e.outcome ≠ .abort := by simp [outcome_eq]
  have ⟨t, record_eq, follows, result_eq, _, _, attributed⟩ :=
    run_result Console.Script.console {} script ends
  exact ⟨outcome_eq, ends, t, record_eq, follows, result_eq, attributed cause outcome_eq⟩

end GuardedSum.Program
