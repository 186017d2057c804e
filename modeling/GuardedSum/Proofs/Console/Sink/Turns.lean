import Mathlib.Logic.Function.Iterate
import GuardedSum.Proofs.Console.Sink.Room

namespace GuardedSum.Console.Sink

section Closing

variable {room : Option Nat} {bs : List UInt8}

-- How many writes some bytes take when only the room is in the way: one that takes all of them, or
-- one that takes what there is room for and one that takes nothing.
def closing (room : Option Nat) (bs : List UInt8) : Nat :=
  if bs = [] then 0 else if Fits room bs ∨ room = some 0 then 1 else 2

@[simp]
theorem closing_nil : closing room [] = 0 :=
  if_pos rfl

theorem closing_pos (ne_nil : bs ≠ []) : 0 < closing room bs := by
  rw [closing, if_neg ne_nil]
  split
  case isTrue => exact Nat.zero_lt_one
  case isFalse => exact Nat.zero_lt_two

theorem closing_le (room : Option Nat) (bs : List UInt8) : closing room bs ≤ 2 := by
  unfold closing
  split
  case isTrue => decide
  case isFalse => split <;> decide

theorem closing_le_one (h : Fits room bs ∨ room = some 0) : closing room bs ≤ 1 := by
  rw [closing, if_pos h]
  split <;> decide

theorem closing_eq_two (ne_nil : bs ≠ []) (not_fits : ¬Fits room bs) (ne_zero : room ≠ some 0) :
    closing room bs = 2 := by
  rw [closing, if_neg ne_nil, if_neg (not_or.mpr ⟨not_fits, ne_zero⟩)]

theorem closing_byte_le (room : Option Nat) (b : UInt8) : closing room [b] ≤ 1 := by
  match room with
  | none => exact closing_le_one (.inl nofun)
  | some 0 => exact closing_le_one (.inr rfl)
  | some (n + 1) => exact closing_le_one (.inl fun m hm => by cases hm; exact Nat.le_add_left 1 n)

end Closing

-- What is left to offer of some bytes after a write of them. After a failure that is nothing.
def leftover (bs : List UInt8) : Outcome IoError Nat → List UInt8
  | .ok 0 => []
  | .ok (n + 1) => bs.drop (n + 1)
  | .error e => if e.kind = .interrupted then bs else []
  | .panic _ => []
  | .abort => []

-- One turn of the loop. When nothing is left to offer the loop is over, and stands still.
def turn : List UInt8 × Sink → List UInt8 × Sink
  | ([], s) => ([], s)
  | (b :: bs, s) => (leftover (b :: bs) (write (b :: bs) s).outcome, (write (b :: bs) s).state)

-- A bound for the turns that are still to come. Neither of the two gets smaller in every turn: an
-- interrupted write leaves all the bytes, and a script that is used up cannot get any shorter.
def ahead (p : List UInt8 × Sink) : Nat :=
  p.2.writes.length + closing p.2.room p.1

section

variable {b : UInt8} {bs : List UInt8} {s : Sink} {e : Exit Call Sink IoError Unit}

variable (b bs s) in
-- No write makes it harder to write the bytes that it leaves.
theorem closing_leftover_le :
    closing (write (b :: bs) s).state.room (leftover (b :: bs) (write (b :: bs) s).outcome) ≤
      closing s.room (b :: bs) := by
  match h : (write (b :: bs) s).outcome with
  | .ok 0 | .panic _ | .abort => simp [leftover]
  | .error e =>
    rw [write_of_fail (of_write_error h), leftover]
    split
    case isTrue => exact Nat.le_refl _
    case isFalse => simp
  | .ok (n + 1) =>
    have ⟨taken_fits, room_eq⟩ := fits_of_write_ok h
    rw [room_eq, leftover]
    by_cases fits : Fits s.room (b :: bs)
    case pos =>
      rw [← List.take_append_drop (n + 1) (b :: bs), fits_append] at fits
      exact Nat.le_trans (closing_le_one (.inl fits.2)) (closing_pos (List.cons_ne_nil b bs))
    case neg =>
      have ne_zero : s.room ≠ some 0 := fun zero => nomatch taken_fits 0 zero
      rw [closing_eq_two (List.cons_ne_nil b bs) fits ne_zero]
      exact closing_le _ _

section

variable (unscripted : s.writes = [])
include unscripted

theorem write_of_unscripted :
    (write (b :: bs) s).outcome = .ok (atMost (bs.length + 1) s.room) ∧
      (write (b :: bs) s).state.room = s.room.map (· - atMost (bs.length + 1) s.room) := by
  have accept : s.writes.headD (.accept none) = .accept none := by rw [unscripted]; rfl
  rw [write_of_accept accept]
  exact ⟨rfl, rfl⟩

theorem leftover_of_unscripted (h : Fits s.room (b :: bs) ∨ s.room = some 0) :
    leftover (b :: bs) (write (b :: bs) s).outcome = [] := by
  rw [(write_of_unscripted unscripted).1]
  obtain fits | full := h
  · have whole : atMost (bs.length + 1) s.room = bs.length + 1 := by
      match hr : s.room with
      | none => rfl
      | some n => exact Nat.min_eq_right (fits n hr)
    rw [whole]
    exact List.drop_length
  · have none_taken : atMost (bs.length + 1) s.room = 0 := by
      rw [full]
      exact Nat.zero_min _
    rw [none_taken, leftover]

theorem room_of_unscripted (not_fits : ¬Fits s.room (b :: bs)) :
    (write (b :: bs) s).state.room = some 0 := by
  rw [(write_of_unscripted unscripted).2]
  match hr : s.room with
  | none => exact absurd (hr ▸ nofun) not_fits
  | some n =>
    have le : n ≤ bs.length + 1 := by
      rw [hr] at not_fits
      exact Nat.le_of_not_le fun le => not_fits fun m hm => by cases hm; exact le
    simp [atMost, Nat.min_eq_left le]

variable (b bs) in
theorem closing_leftover_lt :
    closing (write (b :: bs) s).state.room (leftover (b :: bs) (write (b :: bs) s).outcome) <
      closing s.room (b :: bs) := by
  have ne_nil := List.cons_ne_nil b bs
  by_cases h : Fits s.room (b :: bs) ∨ s.room = some 0
  case pos =>
    rw [leftover_of_unscripted unscripted h, closing_nil]
    exact closing_pos ne_nil
  case neg =>
    have ⟨not_fits, ne_zero⟩ := not_or.mp h
    rw [closing_eq_two ne_nil not_fits ne_zero]
    exact Nat.lt_succ_of_le (closing_le_one (.inr (room_of_unscripted unscripted not_fits)))

end

variable (b bs s) in
theorem ahead_turn_lt : ahead (turn (b :: bs, s)) < ahead (b :: bs, s) := by
  simp only [ahead, turn, write_writes, List.length_tail]
  by_cases unscripted : s.writes = []
  case pos =>
    -- Without a script it is the closing writes that get fewer.
    have lt := closing_leftover_lt b bs unscripted
    omega
  case neg =>
    have pos := List.length_pos_iff.mpr unscripted
    have le := closing_leftover_le b bs s
    omega

-- The end of a loop that made a write in each turn. A turn takes a step of the script or is one of
-- those that come behind it, so the rest of the script is left for the turns of another loop.
structure Turned (p : List UInt8 × Sink) (e : Exit Call Sink IoError Unit) : Prop where
  last : turn^[e.record.length] p = ([], e.state)
  paid : e.record.length + e.state.writes.length ≤ ahead p

theorem Turned.done {o : Outcome IoError Unit} : Turned ([], s) { outcome := o, state := s } where
  last := rfl
  paid := by simp [ahead]

theorem Turned.of_leftover {e' : Exit Call Sink IoError Unit} {cs : List UInt8}
    (left : leftover (b :: bs) (write (b :: bs) s).outcome = cs)
    (rest : Turned (cs, (write (b :: bs) s).state) e')
    (length_eq : e.record.length = e'.record.length + 1) (state_eq : e.state = e'.state) :
    Turned (b :: bs, s) e := by
  have turn_eq : turn (b :: bs, s) = (cs, (write (b :: bs) s).state) := by rw [turn, left]
  constructor
  case last =>
    rw [length_eq, Function.iterate_succ_apply, turn_eq, rest.last, state_eq]
  case paid =>
    have lt := ahead_turn_lt b bs s
    have rest_paid := rest.paid
    rw [turn_eq] at lt
    rw [length_eq, state_eq]
    omega

theorem Turned.of_last (left : leftover (b :: bs) (write (b :: bs) s).outcome = [])
    (length_eq : e.record.length = 1) (state_eq : e.state = (write (b :: bs) s).state) :
    Turned (b :: bs, s) e :=
  .of_leftover left (done (o := .ok ())) length_eq state_eq

theorem Writing.turned (h : Writing bs s e) : Turned (bs, s) e := by
  induction h with
  | done => exact .done
  | stuck h | panicked h => exact .of_last (by rw [h, leftover]) rfl rfl
  | failed h ne => exact .of_last (by rw [h, leftover, if_neg ne]) rfl rfl
  | took h _ ih => exact .of_leftover (by rw [h, leftover]) ih rfl rfl
  | again h interrupted _ ih =>
    exact .of_leftover (by rw [h, leftover, if_pos interrupted]) ih rfl rfl

theorem Writing.fits (h : Writing bs s e) (ok : e.outcome = .ok ()) : Fits s.room bs := by
  induction h with
  | done => exact fits_nil
  | stuck _ | failed _ _ | panicked _ => nomatch ok
  | @took b bs s n e h _ ih =>
    have ⟨taken_fits, room_eq⟩ := fits_of_write_ok h
    have rest_fits := ih ok
    rw [room_eq] at rest_fits
    rw [← List.take_append_drop (n + 1) (b :: bs)]
    exact fits_append.mpr ⟨taken_fits, rest_fits⟩
  | again h _ _ ih =>
    have fits := ih ok
    rwa [write_of_fail (of_write_error h)] at fits

end

end GuardedSum.Console.Sink
