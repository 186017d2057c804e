import GuardedSum.Console.Stdout
import GuardedSum.Proofs.Program.Protocol
import GuardedSum.Proofs.Program.Result
import GuardedSum.Proofs.Program.Returning

namespace GuardedSum.Console.Stdout

theorem of_asked {k k' : Stdout} {rs : List (Request String)} (asked : console.Asked k rs k')
    (writable : k = .writable) :
    (∀ r ∈ rs, r.answer = .ok ()) ∧
      rs.flatMap Request.calls = (rs.map Request.text).map (· ++ "\n") := by
  induction asked with
  | nil => exact ⟨nofun, rfl⟩
  | @cons text k rs k' _ ih =>
    subst writable
    have ⟨answers, calls⟩ := ih rfl
    constructor
    · exact List.forall_mem_cons.mpr ⟨rfl, answers⟩
    · rw [List.flatMap_cons, calls]
      rfl

end GuardedSum.Console.Stdout

namespace GuardedSum.Program

open Console (Stdout)

def firstLine (opts : Options) : String :=
  opts.fault.elim (sumLine opts.operandsSum) exceptionLine

variable {γ : Type} {opts : Options}

theorem Transcript.message?_of_answers_ok {t : Transcript γ}
    (ok : ∀ q ∈ t.requests, q.answer = .ok ()) : t.message? opts = opts.fault := by
  match hf : opts.fault, hq : t.sum? with
  | some m, _ => simp [message?, hf]
  | none, none => simp [message?, hf, hq]
  | none, some q => simp [message?, hf, hq, ok q (by simp [requests, hq])]

theorem Transcript.Follows.texts_of_answers_ok {t : Transcript γ} (follows : t.Follows opts)
    (ok : ∀ q ∈ t.requests, q.answer = .ok ()) :
    t.requests.map Request.text = [firstLine opts, completionLine] := by
  rw [follows.texts_requests, message?_of_answers_ok ok, firstLine]
  cases opts.fault <;> rfl

theorem run_on_writable (opts : Options) :
    let e := run Stdout.console opts .writable
    (∃ r, e.outcome = .ok r) ∧
      e.record.flatMap Request.calls = [firstLine opts ++ "\n", completionLine ++ "\n"] := by
  intro e
  have line_returns (text) : (Stdout.console.line text).Returns (· = .writable) := by
    rintro _ rfl
    exact ⟨rfl, .ok (), rfl⟩
  have ends : e.outcome ≠ .abort := (run_returns line_returns opts .writable rfl).2.ne_abort
  have ⟨t, tells⟩ := run_tells ends
  have ⟨ok, calls⟩ := Stdout.of_asked tells.asked rfl
  have texts := tells.follows.texts_of_answers_ok ok
  constructor
  · rw [tells.outcome]
    exact Transcript.result_of_answers_ok ok
  · rw [tells.record, calls, texts]
    rfl

end GuardedSum.Program
