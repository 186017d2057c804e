import GuardedSum.Proofs.Console.Sink.Line
import GuardedSum.Proofs.Guarded.Returning

namespace GuardedSum.Console

-- Takes something if there is room for it, or is tried again.
def Write.Steady : Write → Prop
  | .accept none => True
  | .accept (some n) => 0 < n
  | .fail e => e.kind = .interrupted
  | .panic _ => False

namespace Sink

def Steady (s : Sink) : Prop :=
  ∀ w ∈ s.writes, w.Steady

section Room

variable {room : Option Nat} {bs cs ds : List UInt8}

def Fits (room : Option Nat) (bs : List UInt8) : Prop :=
  ∀ n ∈ room, bs.length ≤ n

instance : Decidable (Fits room bs) :=
  inferInstanceAs (Decidable (∀ n ∈ room, bs.length ≤ n))

def within : Option Nat → List UInt8 → List UInt8
  | none, bs => bs
  | some n, bs => bs.take n

-- The room that is left next to some bytes.
def beside (room : Option Nat) (bs : List UInt8) : Option Nat :=
  room.map (· - bs.length)

@[simp]
theorem fits_nil : Fits room [] :=
  fun n _ => Nat.zero_le n

@[simp]
theorem within_nil : within room [] = [] := by
  cases room with
  | none => rfl
  | some n => exact List.take_nil

@[simp]
theorem beside_nil : beside room [] = room := by
  cases room <;> rfl

theorem within_of_fits (h : Fits room bs) : within room bs = bs := by
  cases room with
  | none => rfl
  | some n => exact List.take_of_length_le (h n rfl)

theorem within_eq_self_iff : within room bs = bs ↔ Fits room bs := by
  refine ⟨fun whole n hn => ?_, within_of_fits⟩
  obtain rfl : room = some n := hn
  rw [← whole]
  exact List.length_take_le n bs

theorem within_append : within room (bs ++ cs) = within room bs ++ within (beside room bs) cs := by
  cases room with
  | none => rfl
  | some n => exact List.take_append

theorem beside_append : beside room (bs ++ cs) = beside (beside room bs) cs := by
  cases room with
  | none => rfl
  | some n => simp [beside, Nat.sub_sub]

theorem fits_append : Fits room (bs ++ cs) ↔ Fits room bs ∧ Fits (beside room bs) cs := by
  cases room with
  | none => simp [Fits, beside]
  | some n =>
    simp only [Fits, beside, Option.map_some, Option.mem_some_iff, forall_eq', List.length_append]
    omega

theorem fits_beside (h : cs ≠ []) : Fits (beside room bs) cs ↔ Fits room (bs ++ cs) := by
  have pos := List.length_pos_iff.mpr h
  cases room with
  | none => simp [Fits, beside]
  | some n =>
    simp only [Fits, beside, Option.map_some, Option.mem_some_iff, forall_eq', List.length_append]
    omega

theorem within_append_of_not_fits (h : ¬Fits room bs) :
    within room (bs ++ cs) = within room bs := by
  cases room with
  | none => exact absurd nofun h
  | some n =>
    have lt : n < bs.length := by simpa [Fits] using h
    exact List.take_append_of_le_length (Nat.le_of_lt lt)

theorem beside_append_of_not_fits (h : ¬Fits room bs) :
    beside room (bs ++ cs) = beside room bs := by
  cases room with
  | none => exact absurd nofun h
  | some n =>
    have lt : n < bs.length := by simpa [Fits] using h
    simp only [beside, Option.map_some, List.length_append, Option.some.injEq]
    omega

-- There is no telling from what the room holds of them which of two lists of bytes were offered.
structure Agree (room : Option Nat) (bs cs : List UInt8) : Prop where
  within : within room bs = within room cs
  beside : beside room bs = beside room cs
  fits : Fits room bs ↔ Fits room cs

theorem Agree.of_eq (h : bs = cs) : Agree room bs cs :=
  h ▸ ⟨rfl, rfl, .rfl⟩

theorem not_fits_append_of_not_fits (h : ¬Fits room bs) : ¬Fits room (bs ++ cs) :=
  fun fits => h (fits_append.mp fits).1

theorem Agree.of_not_fits (h : ¬Fits room bs) : Agree room (bs ++ cs) (bs ++ ds) where
  within := (within_append_of_not_fits h).trans (within_append_of_not_fits h).symm
  beside := (beside_append_of_not_fits h).trans (beside_append_of_not_fits h).symm
  fits := iff_of_false (not_fits_append_of_not_fits h) (not_fits_append_of_not_fits h)

end Room

section

variable {b : UInt8} {offered bs cs : List UInt8} {s : Sink} {e : Exit Call Sink IoError Unit}

theorem forall_headD {α : Type} {p : α → Prop} {xs : List α} {a : α} (h : ∀ x ∈ xs, p x)
    (ha : p a) : p (xs.headD a) := by
  cases xs with
  | nil => exact ha
  | cons x xs => exact h x List.mem_cons_self

namespace Steady

theorem headD (steady : s.Steady) : (s.writes.headD (.accept none)).Steady :=
  forall_headD steady trivial

theorem write (steady : s.Steady) (offered : List UInt8) : (write offered s).state.Steady := by
  intro w hw
  rw [write_writes] at hw
  exact steady w (List.mem_of_mem_tail hw)

end Steady

theorem fits_of_write_ok {n : Nat} (h : (write offered s).outcome = .ok n) :
    Fits s.room (offered.take n) ∧
      (write offered s).state.room = beside s.room (offered.take n) := by
  have ⟨most, _, n_eq, room_eq⟩ := of_write_ok h
  have le_room : n ≤ atMost offered.length s.room := n_eq ▸ atMost_le _ most
  have length_eq : (offered.take n).length = n :=
    List.length_take_of_le (Nat.le_trans le_room (atMost_le _ _))
  rw [room_eq, beside, Fits, length_eq]
  exact ⟨fun m hm => Nat.le_trans le_room (atMost_le_of_mem _ hm), rfl⟩

-- A sink that takes nothing of some bytes has no room left.
theorem room_of_stuck (steady : s.Steady) (h : (write (b :: bs) s).outcome = .ok 0) :
    s.room = some 0 := by
  have ⟨most, head, zero_eq, _⟩ := of_write_ok h
  have steady := steady.headD
  rw [head] at steady
  have full : atMost (bs.length + 1) s.room = 0 := by
    match most with
    | none => exact zero_eq.symm
    | some n =>
      have pos : 0 < n := steady
      have zero_eq : 0 = min n (atMost (bs.length + 1) s.room) := zero_eq
      omega
  match hr : s.room with
  | none =>
    rw [hr] at full
    nomatch full
  | some m =>
    rw [hr] at full
    have full : min m (bs.length + 1) = 0 := full
    exact congrArg some (by omega)

-- The end of an action that offers bytes to a steady sink: as many are accepted as there is room
-- for, and it is an error if these are not all.
structure Filled (bs : List UInt8) (s : Sink) (e : Exit Call Sink IoError Unit) : Prop where
  accepted : accepted e.record = within s.room bs
  room : e.state.room = beside s.room bs
  steady : e.state.Steady
  outcome : e.outcome = if Fits s.room bs then .ok () else .error .writeZero

theorem Filled.after {s' : Sink} {r : List Call} {l : List Log.Entry} (h : Filled cs s' e)
    (front : Sink.accepted r = bs) (fits : Fits s.room bs)
    (room_eq : s'.room = beside s.room bs) : Filled (bs ++ cs) s (e.after r l) where
  accepted := by
    rw [within_append, within_of_fits fits, ← room_eq, ← h.accepted, ← front]
    exact accepted_append r e.record
  room := by
    rw [beside_append, ← room_eq]
    exact h.room
  steady := h.steady
  outcome := by
    simp only [fits_append, fits, true_and, ← room_eq]
    exact h.outcome

theorem Writing.filled (h : Writing bs s e) (steady : s.Steady) : Filled bs s e := by
  induction h with
  | @done s =>
    constructor
    case steady => exact steady
    all_goals simp
  | @stuck b bs s h =>
    have room_eq := room_of_stuck steady h
    have ⟨_, beside_eq⟩ := fits_of_write_ok h
    constructor
    case accepted => rw [room_eq]; rfl
    case room => simp [beside_eq, room_eq, beside]
    case steady => exact steady.write _
    case outcome => simp [room_eq, Fits]
  | @took b bs s n e h _ ih =>
    have ⟨fits, room_eq⟩ := fits_of_write_ok h
    have front : accepted [.write (b :: bs) (.ok (n + 1))] = (b :: bs).take (n + 1) :=
      List.append_nil _
    have filled := (ih (steady.write _)).after (l := []) front fits room_eq
    rwa [List.take_append_drop] at filled
  | @again b bs s c e h _ _ ih =>
    -- Nothing was accepted, so there is as much room as before.
    have room_eq : (write (b :: bs) s).state.room = beside s.room [] := by
      rw [write_of_fail (of_write_error h), beside_nil]
    have front : accepted [.write (b :: bs) (.error c)] = [] := rfl
    exact (ih (steady.write _)).after (l := []) front fits_nil room_eq
  | failed h ne =>
    have steady := steady.headD
    rw [of_write_error h] at steady
    exact absurd steady ne
  | panicked h =>
    have steady := steady.headD
    rw [of_write_panic h] at steady
    exact steady.elim

theorem Filled.cut (h : Filled bs s e) (not_fits : ¬Fits s.room bs) : Filled (bs ++ cs) s e where
  accepted := h.accepted.trans (within_append_of_not_fits not_fits).symm
  room := h.room.trans (beside_append_of_not_fits not_fits).symm
  steady := h.steady
  outcome := by
    rw [h.outcome, if_neg not_fits, if_neg (not_fits_append_of_not_fits not_fits)]

end

section

variable (text : String) {s : Sink} (steady : s.Steady)
include steady

theorem writeLine_filled : Filled (lineBytes text) s (writeLine text s) := by
  have first := (writeAll_writing (utf8 text) s).filled steady
  rw [writeLine_apply]
  match hx : writeAll (utf8 text) s with
  | ⟨o, s₁, r, l⟩ =>
    rw [hx] at first
    by_cases fits : Fits s.room (utf8 text)
    case pos =>
      obtain rfl : o = .ok () := first.outcome.trans (if_pos fits)
      have second := (writeAll_writing (utf8 "\n") s₁).filled first.steady
      exact second.after (first.accepted.trans (within_of_fits fits)) fits first.room
    case neg =>
      obtain rfl : o = .error .writeZero := first.outcome.trans (if_neg fits)
      exact first.cut fits

-- The end of a line on a steady sink. Only what was accepted whole is flushed.
structure LineFilled (text : String) (s : Sink) (e : Exit Call Sink IoError Unit) : Prop where
  accepted : accepted e.record = within s.room (lineBytes text)
  room : e.state.room = beside s.room (lineBytes text)
  steady : e.state.Steady
  flushes : e.state.flushes = if Fits s.room (lineBytes text) then s.flushes.tail else s.flushes
  outcome : e.outcome =
    if Fits s.room (lineBytes text) then s.flushes.headD (.ok ()) else .error .writeZero

theorem line_filled : LineFilled text s (line text s) := by
  have filled := writeLine_filled text steady
  have flushes_eq := (writeLine_offered text s).flushes
  have accepted_eq := (accepted_line text s).trans filled.accepted
  by_cases fits : Fits s.room (lineBytes text)
  case pos =>
    have written := filled.outcome.trans (if_pos fits)
    rw [line_of_written written] at accepted_eq ⊢
    constructor
    case accepted => exact accepted_eq
    case room => exact filled.room
    case steady => exact filled.steady
    case flushes => rw [if_pos fits, ← flushes_eq]; rfl
    case outcome => rw [if_pos fits, ← flushes_eq]; rfl
  case neg =>
    have cut := filled.outcome.trans (if_neg fits)
    rw [line_of_unwritten (cut ▸ nofun)] at accepted_eq ⊢
    constructor
    case accepted => exact accepted_eq
    case room => exact filled.room
    case steady => exact filled.steady
    case flushes => exact flushes_eq.trans (if_neg fits).symm
    case outcome => exact cut.trans (if_neg fits).symm

end

structure Willing (s : Sink) : Prop where
  steady : s.Steady
  flushes : ∀ o ∈ s.flushes, o = .ok ()

theorem lineBytes_ne_nil (text : String) : lineBytes text ≠ [] :=
  List.append_ne_nil_of_right_ne_nil _ (by decide)

-- The bytes that some requests should have a sink accept.
def owed (rs : List (Request Call)) : List UInt8 :=
  rs.flatMap fun r => lineBytes r.text

namespace Willing

variable {s s' : Sink} {r : Request Call} {rs front back : List (Request Call)}

theorem line (willing : s.Willing) (text : String) : (line text s).state.Willing where
  steady := (line_filled text willing.steady).steady
  flushes o mem := willing.flushes o (mem_flushes_of_line mem)

theorem line_outcome (willing : s.Willing) (text : String) :
    (Sink.line text s).outcome =
      if Fits s.room (lineBytes text) then .ok () else .error .writeZero := by
  have head_ok : s.flushes.headD (.ok ()) = .ok () := forall_headD willing.flushes rfl
  rw [(line_filled text willing.steady).outcome, head_ok]

theorem line_returned (willing : s.Willing) (text : String) :
    (Sink.line text s).outcome.Returned :=
  willing.line_outcome text ▸ Outcome.returned_ite () IoError.writeZero

theorem of_asked (willing : s.Willing) (asked : console.Asked s rs s') :
    s'.Willing ∧ s'.room = beside s.room (owed rs) ∧
      (rs.flatMap fun r => accepted r.calls) = within s.room (owed rs) := by
  induction asked with
  | nil => exact ⟨willing, by simp [owed], by simp [owed]⟩
  | @cons text s rs s' _ ih =>
    have ⟨willing', room_eq, accepted_eq⟩ := ih (willing.line text)
    have filled := line_filled text willing.steady
    have first : accepted (console.asking text s).calls = _ := filled.accepted
    have room_eq' : (console.line text s).state.room = _ := filled.room
    refine ⟨willing', ?_, ?_⟩
    · rw [room_eq, room_eq', ← beside_append]
      rfl
    · rw [List.flatMap_cons, accepted_eq, room_eq', first, ← within_append]
      rfl

theorem first_answer (willing : s.Willing) (asked : console.Asked s (r :: rs) s') :
    r.answer = if Fits s.room (lineBytes r.text) then .ok () else .error .writeZero := by
  cases asked with
  | @cons text => exact willing.line_outcome text

-- A line is written if there is room for it after all that was asked for before.
theorem answer_of_asked (willing : s.Willing) (asked : console.Asked s (front ++ r :: back) s') :
    r.answer = if Fits s.room (owed (front ++ [r])) then .ok () else .error .writeZero := by
  have ⟨k, asked_front, asked_back⟩ := asked.split
  have ⟨willing', room_eq, _⟩ := willing.of_asked asked_front
  cases asked_back with
  | @cons text _ _ _ _ =>
    have answer_eq : (console.asking text k).answer = _ := willing'.line_outcome text
    rw [answer_eq, room_eq]
    simp only [fits_beside (lineBytes_ne_nil text), owed, List.flatMap_append,
      List.flatMap_singleton, Console.asking]

theorem answers_of_fits (willing : s.Willing) (asked : console.Asked s rs s')
    (fits : Fits s.room (owed rs)) : ∀ r ∈ rs, r.answer = .ok () := by
  intro r hr
  have ⟨front, back, eq⟩ := List.append_of_mem hr
  have split : rs = (front ++ [r]) ++ back := by simp [eq]
  rw [split, owed, List.flatMap_append, fits_append] at fits
  rw [eq] at asked
  exact (willing.answer_of_asked asked).trans (if_pos fits.1)

theorem answers_returned (willing : s.Willing) (asked : console.Asked s rs s') :
    ∀ r ∈ rs, r.answer.Returned := by
  intro r hr
  have ⟨front, back, eq⟩ := List.append_of_mem hr
  rw [eq] at asked
  exact willing.answer_of_asked asked ▸ Outcome.returned_ite () IoError.writeZero

end Willing

end Sink

end GuardedSum.Console
