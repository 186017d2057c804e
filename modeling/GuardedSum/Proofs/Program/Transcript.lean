import GuardedSum.Program.Run
import GuardedSum.Proofs.Console.Echoed
import GuardedSum.Proofs.Guarded.TryCatchFinally

namespace GuardedSum

theorem ProgramError.message_injected (m : String) : (injected m).message = m := by
  have h : (injected m).sources = [] := AnyError.sources_of_source?_eq_none rfl
  simp [message, display, h]

namespace Program

abbrev Options.operandsSum (opts : Options) : Int32 :=
  sum opts.operands.1 opts.operands.2

abbrev Options.trailingSum (opts : Options) : Int32 :=
  sum opts.trailing.1 opts.trailing.2

def trailed (opts : Options) : Outcome ProgramError Report → List Log.Entry
  | .ok _ => [summed "computed trailing sum" opts.trailing.1 opts.trailing.2]
  | _ => []

structure Transcript (γ : Type) where
  sum? : Option (Request γ)
  exception? : Option (Request γ)
  completion : Request γ

namespace Transcript

variable {γ : Type} (t : Transcript γ) (opts : Options)

def requests : List (Request γ) :=
  t.sum?.toList ++ t.exception?.toList ++ [t.completion]

-- The message of the error that the block caught: the fault, or what became of the sum's line.
def message? : Option String :=
  match opts.fault, t.sum?.map Request.answer with
  | some m, _ => some m
  | none, some (.error e) => some (ProgramError.output e).message
  | none, _ => none

-- The protocol of a run: which lines it asks for. What is asked next depends on the answers only
-- through the message of the error that was caught.
structure Follows : Prop where
  sum : t.sum?.map Request.text =
    if opts.fault.isNone then some (sumLine opts.operandsSum) else none
  exception : t.exception?.map Request.text = (t.message? opts).map exceptionLine
  completion : t.completion.text = completionLine

-- What the answers make of a run. The first panic of a line wins, then an error of the last line,
-- then one of the line before it. An error of the sum's line is not among them.
def result : Outcome ProgramError Report :=
  match t.sum?.map Request.answer, t.exception?.map Request.answer, t.completion.answer with
  | some .abort, _, _ | _, some .abort, _ | _, _, .abort => .abort
  | some (.panic _), _, .panic _ | _, some (.panic _), .panic _ => .abort
  | some (.panic m), _, _ | _, some (.panic m), _ | _, _, .panic m => .panic m
  | _, _, .error e | _, some (.error e), _ => .error (.output e)
  | _, _, _ =>
    .ok
      { sum := if (t.message? opts).isNone then some opts.operandsSum else none
        caught := t.message? opts
        trailing := opts.trailingSum }

def dropped : Bool :=
  t.sum?.any (·.answer.panicked) || t.exception?.any (·.answer.panicked)

def entries : List Log.Entry :=
  [summed "computed guarded sum" opts.operands.1 opts.operands.2] ++
    ((t.message? opts).map failed).toList ++
    (if t.dropped then [Completion.dropped] else []) ++ trailed opts (t.result opts)

-- The transcript tells what an exit of the program has to show for a run.
structure Tells {κ : Type} (console : Console γ κ) (k : κ)
    (e : Exit (Request γ) κ ProgramError Report) : Prop where
  record : e.record = t.requests
  asked : console.Asked k t.requests e.state
  follows : t.Follows opts
  outcome : e.outcome = t.result opts
  log : console.Silent → e.log = (t.entries opts).map (·.within span)

end Transcript

variable {γ κ : Type}

abbrev asOutput : Outcome IoError Unit → Outcome ProgramError Unit :=
  Outcome.mapError .output

def answered (a : Int32) : Outcome IoError Unit → Outcome ProgramError Int32
  | .ok () => .ok a
  | .error e => .error (.output e)
  | .panic m => .panic m
  | .abort => .abort

theorem answered_ne_error {a : Int32} {o : Outcome IoError Unit} (h : ∀ e, o ≠ .error e)
    (e : ProgramError) : answered a o ≠ .error e := by
  cases o with
  | error e => exact absurd rfl (h e)
  | ok _ | panic _ | abort => nofun

def reported (opts : Options) :
    Outcome ProgramError (Guarded Int32 ProgramError) → Outcome ProgramError Report
  | .ok g => .ok (report g opts.trailingSum)
  | .error e => .error e
  | .panic m => .panic m
  | .abort => .abort

section

variable (opts : Options) (t : Transcript γ) {x c : Outcome IoError Unit}

-- The error that the block caught is not one that the run may end with: the exception's line has
-- been asked for, and its answer decides.
theorem reported_of_caught {e : ProgramError}
    (hs : ∀ a ∈ t.sum?.map Request.answer, ∃ e', a = .error e')
    (hx : t.exception?.map Request.answer = some x) (hc : t.completion.answer = c)
    (hm : t.message? opts = some e.message) :
    reported opts (Guarded.verdict (.error e) (asOutput x) (asOutput c)) = t.result opts := by
  unfold Transcript.result
  rw [hx, hc, hm]
  match ha : t.sum?.map Request.answer with
  | none => cases x <;> cases c <;> rfl
  | some a =>
    have ⟨e', he⟩ := hs a ha
    subst he
    cases x <;> cases c <;> rfl

theorem reported_of_ne_error {o : Outcome IoError Unit} (ne_error : ∀ e, o ≠ .error e)
    (hs : t.sum?.map Request.answer = some o) (hx : t.exception? = none)
    (hc : t.completion.answer = c) (hm : t.message? opts = none) :
    reported opts (Guarded.verdict (answered opts.operandsSum o) (.ok ()) (asOutput c)) =
      t.result opts := by
  unfold Transcript.result
  rw [hs, hx, hc, hm]
  cases o with
  | error e => exact absurd rfl (ne_error e)
  | ok _ | panic _ | abort => cases c <;> rfl

end

variable {console : Console γ κ} {opts : Options} {k : κ}

theorem body_of_fault {m : String} (h : opts.fault = some m) :
    body console opts k =
      { outcome := .error (.injected m)
        state := k
        log := [summed "computed guarded sum" opts.operands.1 opts.operands.2] } := by
  simp [body, Exit.after, h]

theorem body_of_answer {o : Outcome IoError Unit} (h : opts.fault = none)
    (ho : (console.line (sumLine opts.operandsSum) k).outcome = o) :
    body console opts k =
      { outcome := answered opts.operandsSum o
        state := (console.line (sumLine opts.operandsSum) k).state
        record := [console.asking (sumLine opts.operandsSum) k]
        log :=
          summed "computed guarded sum" opts.operands.1 opts.operands.2 ::
            (console.line (sumLine opts.operandsSum) k).log } := by
  have ask_eq : ask console (sumLine opts.operandsSum) k =
      { outcome := asOutput o
        state := (console.line (sumLine opts.operandsSum) k).state
        record := [console.asking (sumLine opts.operandsSum) k]
        log := (console.line (sumLine opts.operandsSum) k).log } :=
    ho ▸ rfl
  cases o <;> simp [body, answered, asOutput, Outcome.mapError, Exit.after, h, ask_eq]

theorem run_agrees_guarded (console : Console γ κ) (opts : Options) (k : κ) :
    let g := guarded (body console opts) (handler console) (completion console) k
    run console opts k =
      { outcome := reported opts g.outcome
        state := g.state
        record := g.record
        log := (g.log ++ trailed opts (reported opts g.outcome)).map (·.within span) } := by
  unfold run
  match hx : guarded (body console opts) (handler console) (completion console) k with
  | ⟨.ok g, _, _, _⟩ | ⟨.error e, _, _, _⟩ | ⟨.panic m, _, _, _⟩ | ⟨.abort, _, _, _⟩ =>
    simp [Action.inSpan, Exit.after, reported, trailed, hx]

theorem run_of_exits {b : Exit (Request γ) κ ProgramError Int32}
    {h c : Exit (Request γ) κ ProgramError Unit} (hb : body console opts k = b)
    (hh : b.handled (handler console) = h) (hc : completion console h.state = c)
    (ends : (run console opts k).outcome ≠ .abort) :
    let o := reported opts (Guarded.verdict b.outcome h.outcome c.outcome)
    run console opts k =
      { outcome := o
        state := c.state
        record := b.record ++ h.record ++ c.record
        log := (b.log ++ h.log ++ b.outcome.unwound ++ h.outcome.unwound ++ c.log ++
          trailed opts o).map (·.within span) } := by
  subst hb hh hc
  rw [run_agrees_guarded] at ends ⊢
  have block_ends :
      (guarded (body console opts) (handler console) (completion console) k).outcome ≠ .abort := by
    intro h
    rw [h] at ends
    exact ends rfl
  rw [guarded_of_ne_abort block_ends]

theorem tells_of_exits {t : Transcript γ} {b : Exit (Request γ) κ ProgramError Int32}
    {h c : Exit (Request γ) κ ProgramError Unit} (hb : body console opts k = b)
    (hh : b.handled (handler console) = h) (hc : completion console h.state = c)
    (record : b.record ++ h.record ++ c.record = t.requests)
    (asked : console.Asked k t.requests c.state) (follows : t.Follows opts)
    (decided : reported opts (Guarded.verdict b.outcome h.outcome c.outcome) = t.result opts)
    (logged : console.Silent → b.log ++ h.log =
      [summed "computed guarded sum" opts.operands.1 opts.operands.2] ++
        ((t.message? opts).map failed).toList)
    (unwound : b.outcome.unwound ++ h.outcome.unwound =
      if t.dropped then [Completion.dropped] else [])
    (ends : (run console opts k).outcome ≠ .abort) : t.Tells opts console k (run console opts k) := by
  rw [run_of_exits hb hh hc ends]
  constructor
  case record => exact record
  case asked => exact asked
  case follows => exact follows
  case outcome => exact decided
  case log =>
    intro silent
    have completion_log : c.log = [] := hc ▸ silent completionLine h.state
    simp only [decided, logged silent, completion_log, List.append_nil]
    rw [List.append_assoc _ b.outcome.unwound, unwound]
    rfl

theorem handler_log (silent : console.Silent) (e : ProgramError) :
    (handler console e k).log = [failed e.message] := by
  change failed e.message :: (console.line (exceptionLine e.message) k).log = _
  rw [silent]

theorem unwound_asOutput (o : Outcome IoError Unit) :
    (asOutput o).unwound = if o.panicked then [Completion.dropped] else [] := by
  cases o <;> rfl

theorem unwound_answered {a : Int32} (o : Outcome IoError Unit) :
    (answered a o).unwound = if o.panicked then [Completion.dropped] else [] := by
  cases o <;> rfl

theorem tells_of_caught {e : ProgramError} {k₁ : κ} {l : List Log.Entry} {sum? : Option (Request γ)}
    (hb : body console opts k = ⟨.error e, k₁, sum?.toList, l⟩)
    (asked : console.Asked k sum?.toList k₁)
    (sum : sum?.map Request.text =
      if opts.fault.isNone then some (sumLine opts.operandsSum) else none)
    (failed : ∀ a ∈ sum?.map Request.answer, ∃ e', a = .error e')
    (hm : ∀ x c, Transcript.message? ⟨sum?, x, c⟩ opts = some e.message)
    (logged : console.Silent → l = [summed "computed guarded sum" opts.operands.1 opts.operands.2])
    (ends : (run console opts k).outcome ≠ .abort) :
    ∃ t : Transcript γ, t.Tells opts console k (run console opts k) := by
  let x := console.asking (exceptionLine e.message) k₁
  let c := console.asking completionLine (console.line x.text k₁).state
  let t : Transcript γ := ⟨sum?, some x, c⟩
  have hm : t.message? opts = some e.message := hm _ _
  have follows : t.Follows opts := ⟨sum, by rw [hm]; rfl, rfl⟩
  have decided := reported_of_caught opts t failed rfl rfl hm
  refine ⟨t, tells_of_exits hb rfl rfl ?record ?asked follows decided ?logged ?unwound ends⟩
  case record => rfl
  case asked =>
    rw [Transcript.requests, List.append_assoc]
    exact asked.append (.cons (.cons .nil))
  case logged =>
    intro silent
    rw [hm, logged silent]
    exact congrArg (_ ++ ·) (handler_log silent e)
  case unwound =>
    have sum_in : sum?.any (·.answer.panicked) = false := by
      cases sum? with
      | none => rfl
      | some s =>
        have ⟨e', he⟩ := failed s.answer rfl
        simp [he, Outcome.panicked]
    simp only [Transcript.dropped, t, sum_in]
    exact unwound_asOutput x.answer

theorem tells_of_ne_error (hf : opts.fault = none)
    (ne_error : ∀ e, (console.asking (sumLine opts.operandsSum) k).answer ≠ .error e)
    (ends : (run console opts k).outcome ≠ .abort) :
    ∃ t : Transcript γ, t.Tells opts console k (run console opts k) := by
  let s := console.asking (sumLine opts.operandsSum) k
  let t : Transcript γ := ⟨some s, none, console.asking completionLine (console.line s.text k).state⟩
  have hm : t.message? opts = none := by
    cases hs : s.answer with
    | error e => exact absurd hs (ne_error e)
    | ok _ | panic _ | abort => simp [Transcript.message?, t, hf, hs]
  have follows : t.Follows opts := ⟨by rw [hf]; rfl, by rw [hm]; rfl, rfl⟩
  have decided := reported_of_ne_error opts t ne_error rfl rfl rfl hm
  let b : Exit (Request γ) κ ProgramError Int32 :=
    { outcome := answered opts.operandsSum s.answer
      state := (console.line s.text k).state
      record := [s]
      log :=
        summed "computed guarded sum" opts.operands.1 opts.operands.2 ::
          (console.line s.text k).log }
  have hb : body console opts k = b := body_of_answer hf rfl
  have unhandled : b.handled (handler console) = { outcome := .ok (), state := b.state } :=
    Exit.handled_of_ne_error _ _ _ _ (answered_ne_error ne_error)
  refine ⟨t, tells_of_exits hb unhandled rfl rfl (.cons (.cons .nil)) follows decided
    (fun silent => ?logged) ?unwound ends⟩
  case logged => simp [b, hm, silent s.text k]
  case unwound =>
    simp only [Transcript.dropped, t, Option.any_some, Option.any_none, Bool.or_false]
    exact (List.append_nil _).trans (unwound_answered s.answer)

theorem run_tells (ends : (run console opts k).outcome ≠ .abort) :
    ∃ t : Transcript γ, t.Tells opts console k (run console opts k) := by
  -- There are two errors to catch: the fault, and what the line for the sum fails with.
  match hf : opts.fault with
  | some m =>
    have hm (x) (c : Request γ) : Transcript.message? ⟨none, x, c⟩ opts =
        some (ProgramError.injected m).message := by
      simp [Transcript.message?, ProgramError.message_injected, hf]
    exact tells_of_caught (body_of_fault hf) .nil (by rw [hf]; rfl) (by simp) hm (fun _ => rfl) ends
  | none =>
    let s := console.asking (sumLine opts.operandsSum) k
    match hs : s.answer with
    | .ok _ | .panic _ | .abort => exact tells_of_ne_error hf (by simp [s, hs]) ends
    | .error e =>
      have hm (x c) : Transcript.message? ⟨some s, x, c⟩ opts =
          some (ProgramError.output e).message := by
        simp [Transcript.message?, hf, hs]
      have hb : body console opts k = ⟨.error (.output e), _, (some s).toList, _⟩ :=
        body_of_answer hf hs
      refine tells_of_caught hb (.cons .nil) (by rw [hf]; rfl) (by simp [hs]) hm
        (fun silent => ?_) ends
      rw [silent (sumLine opts.operandsSum) k]

end Program
end GuardedSum
