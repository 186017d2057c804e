import GuardedSum.Proofs.Console.Asked
import GuardedSum.Proofs.Console.Sink.Writing

namespace GuardedSum.Console.Sink

def Call.flushed? : Call → Option (Outcome IoError Unit)
  | .write _ _ => none
  | .flush answer => some answer

def flushed (calls : List Call) : List (Outcome IoError Unit) :=
  calls.filterMap Call.flushed?

@[simp]
theorem flushed_cons (c : Call) (cs : List Call) :
    flushed (c :: cs) = c.flushed?.toList ++ flushed cs := by
  cases c <;> rfl

@[simp]
theorem flushed_append (cs ds : List Call) : flushed (cs ++ ds) = flushed cs ++ flushed ds :=
  List.filterMap_append

-- The end of an action that offers these bytes in order, and succeeds if all were accepted.
structure Offered (bs : List UInt8) (s : Sink) (e : Exit Call Sink IoError Unit) : Prop where
  isPrefix : accepted e.record <+: bs
  ok_iff : e.outcome = .ok () ↔ accepted e.record = bs
  flushes : e.state.flushes = s.flushes
  flushed : flushed e.record = []

section

variable {bs cs : List UInt8} {s s' : Sink} {e : Exit Call Sink IoError Unit}

theorem Offered.after {r : List Call} {l : List Log.Entry} (h : Offered cs s' e)
    (front : accepted r = bs) (unflushed : Sink.flushed r = [])
    (flushes_eq : s'.flushes = s.flushes) : Offered (bs ++ cs) s (e.after r l) := by
  have accepted_eq : accepted (e.after r l).record = bs ++ accepted e.record :=
    front ▸ accepted_append r e.record
  constructor
  case isPrefix =>
    rw [accepted_eq]
    exact (List.prefix_append_right_inj bs).mpr h.isPrefix
  case ok_iff =>
    rw [accepted_eq, List.append_cancel_left_eq]
    exact h.ok_iff
  case flushes => exact h.flushes.trans flushes_eq
  case flushed => simp [Exit.after, unflushed, h.flushed]

theorem Offered.cut (h : Offered bs s e) (failed : e.outcome ≠ .ok ()) :
    Offered (bs ++ cs) s e where
  isPrefix := h.isPrefix.trans (List.prefix_append bs cs)
  ok_iff := by
    refine iff_of_false failed fun whole => failed (h.ok_iff.mpr ?_)
    refine h.isPrefix.eq_of_length_le ?_
    rw [whole, List.length_append]
    exact Nat.le_add_right _ _
  flushes := h.flushes
  flushed := h.flushed

theorem Writing.offered (h : Writing bs s e) : Offered bs s e := by
  induction h with
  | done => exact ⟨List.nil_prefix, iff_of_true rfl rfl, rfl, rfl⟩
  | stuck _ | failed _ _ | panicked _ =>
    exact ⟨List.nil_prefix, iff_of_false nofun nofun, write_flushes _ _, rfl⟩
  | @took b bs s n e _ _ ih =>
    have front : accepted [.write (b :: bs) (.ok (n + 1))] = (b :: bs).take (n + 1) :=
      List.append_nil _
    have offered := ih.after (l := []) front rfl (write_flushes _ _)
    rwa [List.take_append_drop] at offered
  | @again b bs _ c _ _ _ _ ih =>
    have front : accepted [.write (b :: bs) (.error c)] = [] := rfl
    exact ih.after (l := []) front rfl (write_flushes _ _)

end

def writeLine (text : String) : Action Call Sink IoError Unit := do
  writeAll (utf8 text)
  writeAll (utf8 "\n")

section

variable (text : String) (s : Sink)

theorem writeLine_apply :
    writeLine text s = (writeAll (utf8 text) s).bind fun _ => writeAll (utf8 "\n") :=
  rfl

theorem writeLine_offered : Offered (lineBytes text) s (writeLine text s) := by
  have first := (writeAll_writing (utf8 text) s).offered
  match hx : writeAll (utf8 text) s with
  | ⟨.ok (), s₁, r, l⟩ =>
    have second := (writeAll_writing (utf8 "\n") s₁).offered
    rw [hx] at first
    rw [writeLine_apply, hx]
    exact second.after (first.ok_iff.mp rfl) first.flushed first.flushes
  | ⟨.error _, s₁, r, l⟩ | ⟨.panic _, s₁, r, l⟩ | ⟨.abort, s₁, r, l⟩ =>
    rw [hx] at first
    rw [writeLine_apply, hx]
    exact first.cut nofun

theorem line_eq_bind : line text s = (writeLine text s).bind fun _ => flush :=
  congrFun (bind_assoc (m := Action Call Sink IoError) _ _ _).symm s

variable {text s}

theorem line_of_written (h : (writeLine text s).outcome = .ok ()) :
    line text s =
      (flush (writeLine text s).state).after (writeLine text s).record (writeLine text s).log := by
  rw [line_eq_bind, Exit.bind, h]

theorem line_of_unwritten (h : (writeLine text s).outcome ≠ .ok ()) :
    line text s = writeLine text s := by
  rw [line_eq_bind]
  match hx : writeLine text s with
  | ⟨.ok (), _, _, _⟩ => exact absurd (congrArg Exit.outcome hx) h
  | ⟨.error _, _, _, _⟩ | ⟨.panic _, _, _, _⟩ | ⟨.abort, _, _, _⟩ => rfl

variable (text s)

theorem accepted_line : accepted (line text s).record = accepted (writeLine text s).record := by
  by_cases h : (writeLine text s).outcome = .ok ()
  case pos =>
    rw [line_of_written h]
    exact (accepted_append _ _).trans (List.append_nil _)
  case neg => rw [line_of_unwritten h]

theorem accepted_line_eq_iff :
    accepted (line text s).record = lineBytes text ↔ (writeLine text s).outcome = .ok () := by
  rw [accepted_line]
  exact (writeLine_offered text s).ok_iff.symm

theorem accepted_line_isPrefix : accepted (line text s).record <+: lineBytes text :=
  accepted_line text s ▸ (writeLine_offered text s).isPrefix

theorem accepted_line_of_ok (ok : (line text s).outcome = .ok ()) :
    accepted (line text s).record = lineBytes text := by
  rw [accepted_line_eq_iff]
  by_cases h : (writeLine text s).outcome = .ok ()
  case pos => exact h
  case neg => exact line_of_unwritten h ▸ ok

-- A line that was accepted whole is flushed, and fails or panics as its flush does.
theorem flushed_line :
    flushed (line text s).record =
      if accepted (line text s).record = lineBytes text then [(line text s).outcome] else [] := by
  have offered := writeLine_offered text s
  by_cases h : (writeLine text s).outcome = .ok ()
  case pos =>
    rw [if_pos ((accepted_line_eq_iff text s).mpr h), line_of_written h]
    simp only [Exit.after, flushed_append, offered.flushed]
    rfl
  case neg =>
    rw [if_neg (mt (accepted_line_eq_iff text s).mp h), line_of_unwritten h]
    exact offered.flushed

theorem flushed_line_cases :
    (flushed (line text s).record = [] ∧ (line text s).state.flushes = s.flushes) ∨
      (flushed (line text s).record = [s.flushes.headD (.ok ())] ∧
        (line text s).state.flushes = s.flushes.tail) := by
  have offered := writeLine_offered text s
  by_cases h : (writeLine text s).outcome = .ok ()
  case pos =>
    rw [line_of_written h, ← offered.flushes]
    simp only [Exit.after, flushed_append, offered.flushed]
    exact .inr ⟨rfl, rfl⟩
  case neg =>
    rw [line_of_unwritten h]
    exact .inl ⟨offered.flushed, offered.flushes⟩

variable {text s} in
theorem mem_flushes_of_line {o : Outcome IoError Unit} (mem : o ∈ (line text s).state.flushes) :
    o ∈ s.flushes := by
  rcases flushed_line_cases text s with ⟨_, flushes_eq⟩ | ⟨_, flushes_eq⟩
  · rwa [flushes_eq] at mem
  · exact List.mem_of_mem_tail (flushes_eq ▸ mem)

end

section

variable {s s' : Sink} {r : Request Call} {rs : List (Request Call)}
variable (asked : console.Asked s rs s')
include asked

section

variable (hr : r ∈ rs)
include hr

theorem accepted_isPrefix_of_asked : accepted r.calls <+: lineBytes r.text := by
  have ⟨k, eq⟩ := asked.exists_asking hr
  rw [eq]
  exact accepted_line_isPrefix r.text k

theorem accepted_of_asked (ok : r.answer = .ok ()) : accepted r.calls = lineBytes r.text := by
  have ⟨k, eq⟩ := asked.exists_asking hr
  rw [eq] at ok ⊢
  exact accepted_line_of_ok r.text k ok

theorem flushed_of_asked :
    flushed r.calls = if accepted r.calls = lineBytes r.text then [r.answer] else [] := by
  have ⟨k, eq⟩ := asked.exists_asking hr
  rw [eq]
  exact flushed_line r.text k

end

theorem flush_answer_of_asked {i : Nat} {o : Outcome IoError Unit}
    (h : (flushed (rs.flatMap Request.calls))[i]? = some o) : o = s.flushes.getD i (.ok ()) := by
  induction asked generalizing i with
  | nil => nomatch h
  | @cons text s rs s' _ ih =>
    rw [List.flatMap_cons, flushed_append] at h
    change (flushed (line text s).record ++ _)[i]? = some o at h
    match flushed_line_cases text s, i with
    -- A line that is not flushed takes no step of the script, so the index stays as it is.
    | .inl ⟨unflushed, flushes_eq⟩, i =>
      rw [unflushed, List.nil_append] at h
      exact flushes_eq ▸ ih h
    | .inr ⟨flushed_eq, _⟩, 0 =>
      rw [flushed_eq] at h
      rw [← Option.some.inj h]
      cases s.flushes <;> rfl
    | .inr ⟨flushed_eq, flushes_eq⟩, i + 1 =>
      rw [flushed_eq] at h
      have rest := ih h
      change o = (line text s).state.flushes.getD i (.ok ()) at rest
      rw [rest, flushes_eq]
      cases s.flushes <;> rfl

end

theorem accepted_calls {κ ε α : Type} (e : Exit (Request Call) κ ε α) :
    accepted e.calls = e.record.flatMap fun r => accepted r.calls :=
  List.flatMap_assoc

end GuardedSum.Console.Sink
