import GuardedSum.Proofs.Console.Sink.Turns
import GuardedSum.Proofs.Guarded.Recording

namespace GuardedSum.Console.Sink

def Call.written? : Call → Option (Outcome IoError Nat)
  | .write _ answer => some answer
  | .flush _ => none

def written (calls : List Call) : List (Outcome IoError Nat) :=
  calls.filterMap Call.written?

@[simp]
theorem written_append (cs ds : List Call) : written (cs ++ ds) = written cs ++ written ds :=
  List.filterMap_append

theorem length_written_of_unflushed {calls : List Call} (h : flushed calls = []) :
    (written calls).length = calls.length := by
  induction calls with
  | nil => rfl
  | cons c cs ih =>
    cases c with
    | write bs answer => exact congrArg (· + 1) (ih h)
    | flush answer => nomatch h

-- Calls that led from one sink to another, with so many writes granted behind the script, and so
-- many flushes.
structure Paid (writes flushes : Nat) (s s' : Sink) (calls : List Call) : Prop where
  writes : (written calls).length + s'.writes.length ≤ s.writes.length + writes
  flushes : (flushed calls).length ≤ flushes

namespace Paid

variable {n n' m m' : Nat} {s s' s'' : Sink} {cs ds : List Call}

theorem nil : Paid 0 0 s s [] where
  writes := Nat.le_of_eq (Nat.zero_add _)
  flushes := Nat.le_refl 0

theorem append (hc : Paid n m s s' cs) (hd : Paid n' m' s' s'' ds) :
    Paid (n + n') (m + m') s s'' (cs ++ ds) where
  writes := by
    have first := hc.writes
    have second := hd.writes
    rw [written_append, List.length_append]
    omega
  flushes := by
    rw [flushed_append, List.length_append]
    exact Nat.add_le_add hc.flushes hd.flushes

theorem mono (h : Paid n m s s' cs) (le : n ≤ n') : Paid n' m s s' cs where
  writes := Nat.le_trans h.writes (Nat.add_le_add_left le _)
  flushes := h.flushes

end Paid

section

variable (bs : List UInt8) (s : Sink)

theorem length_written_writeAll :
    (written (writeAll bs s).record).length = (writeAll bs s).record.length :=
  length_written_of_unflushed (writeAll_writing bs s).offered.flushed

theorem writeAll_paid :
    Paid (closing s.room bs) 0 s (writeAll bs s).state (writeAll bs s).record where
  writes := by
    rw [length_written_writeAll]
    exact (writeAll_writing bs s).turned.paid
  flushes := Nat.le_of_eq (congrArg List.length (writeAll_writing bs s).offered.flushed)

theorem length_written_writeAll_le :
    (written (writeAll bs s).record).length ≤ s.writes.length + 2 := by
  have writes_le := ((writeAll_paid bs s).mono (closing_le s.room bs)).writes
  omega

theorem turn_writeAll :
    turn^[(written (writeAll bs s).record).length] (bs, s) = ([], (writeAll bs s).state) := by
  rw [length_written_writeAll]
  exact (writeAll_writing bs s).turned.last

end

section

variable (text : String) (s : Sink)

-- A text that takes two writes behind the script does not fit, and the newline is not offered then.
theorem writeLine_paid : Paid 2 0 s (writeLine text s).state (writeLine text s).record := by
  have first := writeAll_paid (utf8 text) s
  have text_fits := (writeAll_writing (utf8 text) s).fits
  match hx : writeAll (utf8 text) s with
  | ⟨.ok (), s₁, r, l⟩ =>
    rw [hx] at first text_fits
    have second := writeAll_paid (utf8 "\n") s₁
    have text_le := closing_le_one (.inl (text_fits rfl))
    have newline_le : closing s₁.room (utf8 "\n") ≤ 1 := closing_byte_le s₁.room 10
    rw [writeLine_apply, hx]
    exact (first.append second).mono (Nat.add_le_add text_le newline_le)
  | ⟨.error _, s₁, r, l⟩ | ⟨.panic _, s₁, r, l⟩ | ⟨.abort, s₁, r, l⟩ =>
    rw [hx] at first
    rw [writeLine_apply, hx]
    exact first.mono (closing_le _ _)

theorem flush_paid : Paid 0 1 s (flush s).state (flush s).record where
  writes := Nat.le_of_eq (Nat.zero_add _)
  flushes := Nat.le_refl 1

theorem line_paid : Paid 2 1 s (line text s).state (line text s).record := by
  have paid := writeLine_paid text s
  by_cases h : (writeLine text s).outcome = .ok ()
  case pos =>
    rw [line_of_written h]
    exact paid.append (flush_paid _)
  case neg =>
    rw [line_of_unwritten h]
    exact ⟨paid.writes, Nat.le_trans paid.flushes (Nat.zero_le 1)⟩

end

theorem paid_of_asked {s s' : Sink} {rs : List (Request Call)} (asked : console.Asked s rs s') :
    Paid (2 * rs.length) rs.length s s' (rs.flatMap Request.calls) := by
  induction asked with
  | nil => exact .nil
  | @cons text s rs s' _ ih =>
    rw [List.length_cons, Nat.mul_succ, Nat.add_comm, Nat.add_comm rs.length]
    exact (line_paid text s).append ih

section

variable {ε α : Type} {s : Sink} {exits : List (Exit (Request Call) Sink ε α)} {n : Nat}
variable (asked : ∃ s', console.Asked s (exits.flatMap Exit.record) s')
variable (le : (exits.flatMap Exit.record).length ≤ n)
include asked le

theorem length_written_le :
    (written (exits.flatMap Exit.calls)).length ≤ s.writes.length + 2 * n := by
  have ⟨s', asked⟩ := asked
  have paid := (paid_of_asked asked).writes
  rw [List.flatMap_assoc] at paid
  unfold Exit.calls
  omega

theorem length_flushed_le : (flushed (exits.flatMap Exit.calls)).length ≤ n := by
  have ⟨s', asked⟩ := asked
  have paid := (paid_of_asked asked).flushes
  rw [List.flatMap_assoc] at paid
  exact Nat.le_trans paid le

end

theorem length_records_requestEach_le (s : Sink) (texts : List String) :
    ((console.requestEach s texts).flatMap Exit.record).length ≤ texts.length := by
  have each : ∀ x ∈ texts.map console.request, x.RecordsAtMost 1 :=
    List.forall_mem_map.mpr fun _ _ _ => Nat.le_refl 1
  have le := Action.length_records_runEach_le each s
  rwa [List.length_map, Nat.one_mul] at le

theorem Writing.ne_abort {bs : List UInt8} {s : Sink} {e : Exit Call Sink IoError Unit}
    (h : Writing bs s e) : e.outcome ≠ .abort := by
  induction h with
  | done | stuck _ | failed _ _ | panicked _ => nofun
  | took _ _ ih | again _ _ _ ih => exact ih

section

variable {s : Sink} (unaborted : ∀ o ∈ s.flushes, o ≠ .abort)
include unaborted

theorem line_ne_abort (text : String) : (line text s).outcome ≠ .abort := by
  by_cases h : (writeLine text s).outcome = .ok ()
  case pos =>
    rw [line_of_written h]
    refine forall_headD (fun o mem => unaborted o ?_) nofun
    rwa [(writeLine_offered text s).flushes] at mem
  case neg =>
    have first := (writeAll_writing (utf8 text) s).ne_abort
    rw [line_of_unwritten h, writeLine_apply]
    match hx : writeAll (utf8 text) s with
    | ⟨.ok (), s₁, _, _⟩ => exact (writeAll_writing (utf8 "\n") s₁).ne_abort
    | ⟨.error _, _, _, _⟩ | ⟨.panic _, _, _, _⟩ => nofun
    | ⟨.abort, _, _, _⟩ => exact absurd (congrArg Exit.outcome hx) first

theorem length_requestEach (texts : List String) :
    (console.requestEach s texts).length = texts.length := by
  induction texts generalizing s with
  | nil => rfl
  | cons text texts ih =>
    have rest := ih (s := (line text s).state) fun o mem => unaborted o (mem_flushes_of_line mem)
    have exits_eq : console.requestEach s (text :: texts) =
        console.request text s :: console.requestEach (line text s).state texts :=
      Action.runEach_of_ne_abort (line_ne_abort unaborted text)
    rw [exits_eq, List.length_cons, rest, List.length_cons]

end

end GuardedSum.Console.Sink
