import GuardedSum.Console.Script
import GuardedSum.Proofs.Program.Transcript

namespace GuardedSum.Program

variable {γ κ : Type} {opts : Options}

theorem sumLine_ne_completionLine (c : Int32) : sumLine c ≠ completionLine := by
  intro h
  have h := congrArg (·.toList.head?) h
  simp [sumLine, completionLine] at h

theorem exceptionLine_ne_completionLine (m : String) : exceptionLine m ≠ completionLine := by
  intro h
  have h := congrArg (·.toList.head?) h
  simp [exceptionLine, completionLine] at h

namespace Transcript.Follows

variable {t : Transcript γ} (follows : t.Follows opts)
include follows

theorem texts_requests :
    t.requests.map Request.text =
      (if opts.fault.isNone then [sumLine opts.operandsSum] else []) ++
        ((t.message? opts).map exceptionLine).toList ++ [completionLine] := by
  rw [requests, List.map_append, List.map_append, ← Option.toList_map, ← Option.toList_map,
    follows.sum, follows.exception, List.map_singleton, follows.completion]
  split <;> rfl

theorem length_requests : t.requests.length = 2 ∨ t.requests.length = 3 := by
  rw [← List.length_map Request.text, follows.texts_requests]
  match hf : opts.fault with
  | some m => simp [message?, hf]
  | none => cases t.message? opts <;> simp

theorem completions_requests : t.requests.countP (·.text = completionLine) = 1 := by
  have eq : t.requests.countP (·.text = completionLine) =
      (t.requests.map Request.text).countP (· = completionLine) := by
    rw [List.countP_map]
    rfl
  have ne_sum := sumLine_ne_completionLine opts.operandsSum
  rw [eq, follows.texts_requests]
  match opts.fault, t.message? opts with
  | some _, some m | none, some m => simp [ne_sum, exceptionLine_ne_completionLine m]
  | some _, none | none, none => simp [ne_sum]

end Transcript.Follows

-- The runs were made one after another, each in the state that the one before it left the console
-- in, and none was aborted.
inductive Told (console : Console γ κ) :
    κ → List Options → List (Exit (Request γ) κ ProgramError Report) → κ → Prop
  | nil {k} : Told console k [] [] k
  | cons {t : Transcript γ} {opts k e runs exits k'} :
    t.Tells opts console k e → Told console e.state runs exits k' →
    Told console k (opts :: runs) (e :: exits) k'

namespace Told

variable {console : Console γ κ} {k k' : κ} {runs : List Options}
variable {exits : List (Exit (Request γ) κ ProgramError Report)}

theorem length_eq (h : Told console k runs exits k') : exits.length = runs.length := by
  induction h with
  | nil => rfl
  | cons _ _ ih => simp [ih]

theorem asked (h : Told console k runs exits k') :
    console.Asked k (exits.flatMap Exit.record) k' := by
  induction h with
  | nil => exact .nil
  | cons tells _ ih =>
    rw [List.flatMap_cons, tells.record]
    exact tells.asked.append ih

theorem completions_eq (h : Told console k runs exits k') :
    (exits.flatMap Exit.record).countP (·.text = completionLine) = runs.length := by
  induction h with
  | nil => rfl
  | cons tells _ ih =>
    rw [List.flatMap_cons, List.countP_append, ih, tells.record,
      tells.follows.completions_requests, List.length_cons, Nat.add_comm]

end Told

variable (console : Console γ κ) (k : κ) (runs : List Options)

theorem runEach_told (ends : ∀ e ∈ runEach console k runs, e.outcome ≠ .abort) :
    ∃ k', Told console k runs (runEach console k runs) k' := by
  induction runs generalizing k with
  | nil => exact ⟨k, .nil⟩
  | cons opts runs ih =>
    have head_ends : (run console opts k).outcome ≠ .abort := by
      intro h
      have eq : runEach console k (opts :: runs) = [run console opts k] :=
        Action.runEach_of_abort h
      exact ends (run console opts k) (by simp [eq]) h
    have eq : runEach console k (opts :: runs) =
        run console opts k :: runEach console (run console opts k).state runs :=
      Action.runEach_of_ne_abort head_ends
    rw [eq] at ends ⊢
    have ⟨t, tells⟩ := run_tells head_ends
    have ⟨k', told⟩ := ih (run console opts k).state (List.forall_mem_cons.mp ends).2
    exact ⟨k', .cons tells told⟩

theorem exists_run_of_mem_zip {opts : Options} {e : Exit (Request γ) κ ProgramError Report}
    (h : (opts, e) ∈ runs.zip (runEach console k runs)) : ∃ k', e = run console opts k' := by
  have h : (run console opts, e) ∈ (runs.map (run console)).zip (runEach console k runs) := by
    rw [List.zip_map_left]
    exact List.mem_map.mpr ⟨(opts, e), h, rfl⟩
  exact Action.exists_of_mem_zip_runEach h

-- A run that fails or panics leaves the protocol of the runs after it alone.
theorem runEach_follows (console : Console γ κ) (k : κ) (runs : List Options) :
    let exits := runEach console k runs
    exits.length ≤ runs.length ∧
      (∀ p ∈ runs.zip exits, p.2.outcome ≠ .abort →
        ∃ t : Transcript γ,
          p.2.record = t.requests ∧ t.Follows p.1 ∧
          (p.2.record.length = 2 ∨ p.2.record.length = 3) ∧
          p.2.record.countP (·.text = completionLine) = 1) ∧
      ((∀ e ∈ exits, e.outcome ≠ .abort) →
        exits.length = runs.length ∧
          (∃ k', console.Asked k (exits.flatMap Exit.record) k') ∧
          (exits.flatMap Exit.record).countP (·.text = completionLine) = runs.length) := by
  intro exits
  refine ⟨?_, fun p hp ends => ?_, fun ends => ?_⟩
  · have le := Action.length_runEach_le k (runs.map (run console))
    rwa [List.length_map] at le
  · have ⟨k', eq⟩ := exists_run_of_mem_zip console k runs hp
    rw [eq] at ends ⊢
    have ⟨t, tells⟩ := run_tells ends
    rw [tells.record]
    exact ⟨t, rfl, tells.follows, tells.follows.length_requests, tells.follows.completions_requests⟩
  · have ⟨k', told⟩ := runEach_told console k runs ends
    exact ⟨told.length_eq, ⟨k', told.asked⟩, told.completions_eq⟩

theorem runEach_follows_failures :
    let failure : Outcome IoError Unit := .error .writeZero
    let script : Console.Script := [failure, .ok (), .ok (), .panic "closed", .ok (), .ok (), failure]
    let runs : List Options := [{}, {}, { fault := some "boom" }]
    let exits := runEach Console.Script.console script runs
    (∀ e ∈ exits, e.outcome ≠ .abort) ∧ exits.length = 3 ∧
      (exits.flatMap Exit.record).countP (·.text = completionLine) = 3 := by
  intro failure script runs exits
  have all_end : exits.all (fun e => e.outcome matches .ok _ | .error _ | .panic _) = true := by
    decide
  have ends : ∀ e ∈ exits, e.outcome ≠ .abort := by
    intro e he h
    have e_ends := List.all_eq_true.mp all_end e he
    simp [h] at e_ends
  have h := (runEach_follows Console.Script.console script runs).2.2 ends
  exact ⟨ends, h.1, h.2.2⟩

end GuardedSum.Program
