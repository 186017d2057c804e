import GuardedSum.Proofs.Console.Sink.Line

namespace GuardedSum.Console.Sink

-- Writes that go through some bytes. Each offers all that is left of them, which is never nothing,
-- and leaves what it does not get accepted to the next.
inductive Through : List UInt8 → List Call → Prop
  | nil {bs} : Through bs []
  | cons {bs answer rest cs} :
    bs ≠ [] → (Call.write bs answer).accepted ++ rest = bs → Through rest cs →
    Through bs (.write bs answer :: cs)

-- More calls are to come: the sink has taken something, or it was interrupted.
inductive Call.GoesOn : Call → Prop
  | took {bs n} : GoesOn (.write bs (.ok (n + 1)))
  | interrupted {bs e} : e.kind = .interrupted → GoesOn (.write bs (.error e))

-- The line ends here.
inductive Call.Stops : Call → Outcome IoError Unit → Prop
  | stuck {bs} : Stops (.write bs (.ok 0)) (.error .writeZero)
  | failed {bs e} : e.kind ≠ .interrupted → Stops (.write bs (.error e)) (.error e)
  | panicked {bs m} : Stops (.write bs (.panic m)) (.panic m)
  | flushed {o} : Stops (.flush o) o

-- Calls that go on until one of them stops.
inductive Decides : List Call → Outcome IoError Unit → Prop
  | stop {c o} : c.Stops o → Decides [c] o
  | go {c cs o} : c.GoesOn → Decides cs o → Decides (c :: cs) o

section

variable {bs : List UInt8} {cs ds : List Call} {c : Call} {o : Outcome IoError Unit}

theorem Through.ne_nil {answer : Outcome IoError Nat} (h : Through bs cs) {offered : List UInt8}
    (mem : .write offered answer ∈ cs) : offered ≠ [] := by
  induction h with
  | nil => nomatch mem
  | cons ne_nil _ _ ih =>
    cases mem with
    | head => exact ne_nil
    | tail _ mem => exact ih mem

namespace Decides

theorem append (going : ∀ c ∈ cs, c.GoesOn) (h : Decides ds o) : Decides (cs ++ ds) o := by
  induction cs with
  | nil => exact h
  | cons c cs ih =>
    have ⟨head, rest⟩ := List.forall_mem_cons.mp going
    exact .go head (ih rest)

theorem ne_nil (h : Decides cs o) : cs ≠ [] := by
  cases h with
  | stop _ | go _ _ => exact List.cons_ne_nil _ _

theorem getLast? (h : Decides cs o) : ∃ c, cs.getLast? = some c ∧ c.Stops o := by
  induction h with
  | stop stops => exact ⟨_, rfl, stops⟩
  | go _ h ih =>
    rwa [List.getLast?_cons_of_ne_nil h.ne_nil]

theorem goesOn_of_mem_dropLast (h : Decides cs o) (mem : c ∈ cs.dropLast) : c.GoesOn := by
  induction h with
  | stop _ => nomatch mem
  | go goesOn h ih =>
    rw [List.dropLast_cons_of_ne_nil h.ne_nil] at mem
    cases mem with
    | head => exact goesOn
    | tail _ mem => exact ih mem

variable (h : Decides cs o)
include h

theorem ok_iff : o = .ok () ↔ cs.getLast? = some (.flush (.ok ())) := by
  have ⟨c, last_eq, stops⟩ := h.getLast?
  rw [last_eq]
  cases stops <;> simp

theorem error_iff (e : IoError) :
    o = .error e ↔
      cs.getLast? = some (.flush (.error e)) ∨
      (∃ bs, cs.getLast? = some (.write bs (.error e))) ∧ e.kind ≠ .interrupted ∨
      (∃ bs, cs.getLast? = some (.write bs (.ok 0))) ∧ e = .writeZero := by
  have ⟨c, last_eq, stops⟩ := h.getLast?
  rw [last_eq]
  cases stops with
  | stuck => simp [eq_comm]
  | @failed _ c ne =>
    have kind_ne : c = e → e.kind ≠ .interrupted := fun eq => eq ▸ ne
    simpa using kind_ne
  | panicked | flushed => simp

theorem panic_iff (m : String) :
    o = .panic m ↔
      cs.getLast? = some (.flush (.panic m)) ∨ ∃ bs, cs.getLast? = some (.write bs (.panic m)) := by
  have ⟨c, last_eq, stops⟩ := h.getLast?
  rw [last_eq]
  cases stops <;> simp

theorem abort_iff : o = .abort ↔ cs.getLast? = some (.flush .abort) := by
  have ⟨c, last_eq, stops⟩ := h.getLast?
  rw [last_eq]
  cases stops <;> simp

end Decides

end

-- The calls of an action that offers some bytes. They either take them all or stop on the way.
structure Ran (cs : List Call) (o : Outcome IoError Unit) : Prop where
  goesOn : o = .ok () → ∀ c ∈ cs, c.GoesOn
  decides : o ≠ .ok () → Decides cs o

theorem Ran.cons {c : Call} {cs : List Call} {o : Outcome IoError Unit} (goesOn : c.GoesOn)
    (h : Ran cs o) : Ran (c :: cs) o where
  goesOn ok := List.forall_mem_cons.mpr ⟨goesOn, h.goesOn ok⟩
  decides failed := .go goesOn (h.decides failed)

theorem Ran.append {cs ds : List Call} {o : Outcome IoError Unit} (going : ∀ c ∈ cs, c.GoesOn)
    (h : Ran ds o) : Ran (cs ++ ds) o where
  goesOn ok := List.forall_mem_append.mpr ⟨going, h.goesOn ok⟩
  decides failed := (h.decides failed).append going

theorem Ran.of_stops {c : Call} {o : Outcome IoError Unit} (stops : c.Stops o) (ne : o ≠ .ok ()) :
    Ran [c] o where
  goesOn ok := absurd ok ne
  decides _ := .stop stops

section

variable {bs : List UInt8} {s : Sink} {e : Exit Call Sink IoError Unit}

theorem Writing.through (h : Writing bs s e) : Through bs e.record := by
  induction h with
  | done => exact .nil
  | stuck _ | failed _ _ | panicked _ => exact .cons (List.cons_ne_nil _ _) rfl .nil
  | took _ _ ih => exact .cons (List.cons_ne_nil _ _) (List.take_append_drop _ _) ih
  | again _ _ _ ih => exact .cons (List.cons_ne_nil _ _) rfl ih

theorem Writing.ran (h : Writing bs s e) : Ran e.record e.outcome := by
  induction h with
  | done => exact ⟨fun _ => nofun, fun failed => absurd rfl failed⟩
  | stuck _ => exact .of_stops .stuck nofun
  | took _ _ ih => exact ih.cons .took
  | again _ interrupted _ ih => exact ih.cons (.interrupted interrupted)
  | failed _ ne => exact .of_stops (.failed ne) nofun
  | panicked _ => exact .of_stops .panicked nofun

end

-- The calls of a line, and what it comes to.
structure Delivers (text : String) (cs : List Call) (o : Outcome IoError Unit) : Prop where
  -- The newline comes after all of the text, and the only flush after all of both.
  buffers : ∃ front back,
    cs = front ++ back ++ (if accepted cs = lineBytes text then [.flush o] else []) ∧
      Through (utf8 text) front ∧ Through (utf8 "\n") back ∧ (back ≠ [] → accepted front = utf8 text)
  offered_ne_nil : ∀ bs answer, .write bs answer ∈ cs → bs ≠ []
  isPrefix : accepted cs <+: lineBytes text
  -- An error before the last call is one of a write that is tried again.
  goesOn : ∀ c ∈ cs.dropLast, c.GoesOn
  ok_iff : o = .ok () ↔ cs.getLast? = some (.flush (.ok ()))
  error_iff : ∀ e, o = .error e ↔
    cs.getLast? = some (.flush (.error e)) ∨
    (∃ bs, cs.getLast? = some (.write bs (.error e))) ∧ e.kind ≠ .interrupted ∨
    (∃ bs, cs.getLast? = some (.write bs (.ok 0))) ∧ e = .writeZero
  panic_iff : ∀ m, o = .panic m ↔
    cs.getLast? = some (.flush (.panic m)) ∨ ∃ bs, cs.getLast? = some (.write bs (.panic m))
  -- Only a flush can abort, so no write is given up in silence.
  abort_iff : o = .abort ↔ cs.getLast? = some (.flush .abort)

section

variable (text : String) (s : Sink)

theorem writeLine_through :
    ∃ front back, (writeLine text s).record = front ++ back ∧
      Through (utf8 text) front ∧ Through (utf8 "\n") back ∧
      (back ≠ [] → accepted front = utf8 text) := by
  have first := writeAll_writing (utf8 text) s
  match hx : writeAll (utf8 text) s with
  | ⟨.ok (), s₁, r, l⟩ =>
    have second := writeAll_writing (utf8 "\n") s₁
    rw [hx] at first
    rw [writeLine_apply, hx]
    exact ⟨r, _, rfl, first.through, second.through, fun _ => first.offered.ok_iff.mp rfl⟩
  | ⟨.error _, s₁, r, l⟩ | ⟨.panic _, s₁, r, l⟩ | ⟨.abort, s₁, r, l⟩ =>
    rw [hx] at first
    rw [writeLine_apply, hx]
    exact ⟨r, [], (List.append_nil r).symm, first.through, .nil, fun ne => absurd rfl ne⟩

theorem writeLine_ran : Ran (writeLine text s).record (writeLine text s).outcome := by
  have first := (writeAll_writing (utf8 text) s).ran
  match hx : writeAll (utf8 text) s with
  | ⟨.ok (), s₁, r, l⟩ =>
    have second := (writeAll_writing (utf8 "\n") s₁).ran
    rw [hx] at first
    rw [writeLine_apply, hx]
    exact second.append (first.goesOn rfl)
  | ⟨.error _, s₁, r, l⟩ | ⟨.panic _, s₁, r, l⟩ | ⟨.abort, s₁, r, l⟩ =>
    rw [hx] at first
    rw [writeLine_apply, hx]
    exact first

theorem line_decides : Decides (line text s).record (line text s).outcome := by
  have ran := writeLine_ran text s
  by_cases h : (writeLine text s).outcome = .ok ()
  case pos =>
    rw [line_of_written h]
    exact .append (ran.goesOn h) (.stop .flushed)
  case neg =>
    rw [line_of_unwritten h]
    exact ran.decides h

theorem line_record :
    (line text s).record = (writeLine text s).record ++
      if accepted (line text s).record = lineBytes text then [.flush (line text s).outcome]
      else [] := by
  by_cases h : (writeLine text s).outcome = .ok ()
  case pos =>
    rw [if_pos ((accepted_line_eq_iff text s).mpr h), line_of_written h]
    rfl
  case neg =>
    rw [if_neg (mt (accepted_line_eq_iff text s).mp h), line_of_unwritten h, List.append_nil]

-- A line offers its bytes in order, and each again until it is accepted. It is flushed if it was
-- accepted whole, and the last call, whichever it is, decides what it comes to.
theorem line_delivers : Delivers text (line text s).record (line text s).outcome := by
  have ⟨front, back, record_eq, text_through, newline_through, whole⟩ := writeLine_through text s
  have decides := line_decides text s
  constructor
  case buffers =>
    refine ⟨front, back, ?_, text_through, newline_through, whole⟩
    rw [← record_eq]
    exact line_record text s
  case offered_ne_nil =>
    intro bs answer mem
    rw [line_record, record_eq, List.mem_append, List.mem_append] at mem
    obtain (mem | mem) | mem := mem
    · exact text_through.ne_nil mem
    · exact newline_through.ne_nil mem
    · split at mem <;> nomatch mem
  case isPrefix => exact accepted_line_isPrefix text s
  case goesOn => exact fun c mem => decides.goesOn_of_mem_dropLast mem
  case ok_iff => exact decides.ok_iff
  case error_iff => exact decides.error_iff
  case panic_iff => exact decides.panic_iff
  case abort_iff => exact decides.abort_iff

end

end GuardedSum.Console.Sink
