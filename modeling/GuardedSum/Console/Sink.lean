import GuardedSum.Console

namespace GuardedSum.Console

inductive Write where
  -- Takes the bytes there is room for, but not more than the given number.
  | accept (most : Option Nat)
  | fail (cause : IoError)
  | panic (message : String)

structure Sink where
  -- When these are used up, all there is room for is taken.
  writes : List Write := []
  -- When these are used up, flushes succeed.
  flushes : List (Outcome IoError Unit) := []
  room : Option Nat := none

namespace Sink

inductive Call where
  | write (offered : List UInt8) (answer : Outcome IoError Nat)
  | flush (answer : Outcome IoError Unit)

def Call.accepted : Call → List UInt8
  | .write offered (.ok n) => offered.take n
  | _ => []

def accepted (calls : List Call) : List UInt8 :=
  calls.flatMap Call.accepted

@[simp]
theorem accepted_nil : accepted [] = [] :=
  rfl

@[simp]
theorem accepted_cons (c : Call) (cs : List Call) :
    accepted (c :: cs) = c.accepted ++ accepted cs :=
  rfl

@[simp]
theorem accepted_append (cs ds : List Call) : accepted (cs ++ ds) = accepted cs ++ accepted ds :=
  List.flatMap_append

def atMost (n : Nat) : Option Nat → Nat
  | none => n
  | some m => min m n

theorem atMost_le (n : Nat) (m : Option Nat) : atMost n m ≤ n := by
  cases m with
  | none => exact Nat.le_refl n
  | some m => exact Nat.min_le_right m n

theorem atMost_le_of_mem {m : Option Nat} {k : Nat} (n : Nat) (h : k ∈ m) : atMost n m ≤ k := by
  obtain rfl : m = some k := h
  exact Nat.min_le_left k n

def write (offered : List UInt8) : Action Call Sink IoError Nat :=
  fun s =>
    let s' := { s with writes := s.writes.tail }
    match s.writes.headD (.accept none) with
    | .accept most =>
      let n := atMost (atMost offered.length s.room) most
      { outcome := .ok n
        state := { s' with room := s.room.map (· - n) }
        record := [.write offered (.ok n)] }
    | .fail e => { outcome := .error e, state := s', record := [.write offered (.error e)] }
    | .panic m => { outcome := .panic m, state := s', record := [.write offered (.panic m)] }

def flush : Action Call Sink IoError Unit :=
  fun s =>
    let o := s.flushes.headD (.ok ())
    { outcome := o, state := { s with flushes := s.flushes.tail }, record := [.flush o] }

@[simp]
theorem write_writes (offered : List UInt8) (s : Sink) :
    (write offered s).state.writes = s.writes.tail := by
  unfold write
  dsimp only
  split <;> rfl

@[simp]
theorem write_flushes (offered : List UInt8) (s : Sink) :
    (write offered s).state.flushes = s.flushes := by
  unfold write
  dsimp only
  split <;> rfl

@[simp]
theorem write_record (offered : List UInt8) (s : Sink) :
    (write offered s).record = [.write offered (write offered s).outcome] := by
  unfold write
  dsimp only
  split <;> rfl

@[simp]
theorem write_log (offered : List UInt8) (s : Sink) : (write offered s).log = [] := by
  unfold write
  dsimp only
  split <;> rfl

theorem writes_ne_nil_of_write_error {offered : List UInt8} {s : Sink} {e : IoError}
    (h : (write offered s).outcome = .error e) : s.writes ≠ [] := by
  intro hw
  simp [write, hw] at h

section

variable {offered : List UInt8} {s : Sink}

theorem write_outcome_ne_abort : (write offered s).outcome ≠ .abort := by
  unfold write
  dsimp only
  split <;> exact nofun

theorem write_of_accept {most : Option Nat}
    (h : s.writes.headD (.accept none) = .accept most) :
    let n := atMost (atMost offered.length s.room) most
    write offered s =
      { outcome := .ok n
        state := { s with writes := s.writes.tail, room := s.room.map (· - n) }
        record := [.write offered (.ok n)] } := by
  simp only [write, h]

theorem write_of_fail {e : IoError} (h : s.writes.headD (.accept none) = .fail e) :
    write offered s =
      { outcome := .error e
        state := { s with writes := s.writes.tail }
        record := [.write offered (.error e)] } := by
  simp only [write, h]

theorem write_of_panic {m : String} (h : s.writes.headD (.accept none) = .panic m) :
    write offered s =
      { outcome := .panic m
        state := { s with writes := s.writes.tail }
        record := [.write offered (.panic m)] } := by
  simp only [write, h]

theorem of_write_ok {n : Nat} (h : (write offered s).outcome = .ok n) :
    ∃ most, s.writes.headD (.accept none) = .accept most ∧
      n = atMost (atMost offered.length s.room) most ∧
      (write offered s).state.room = s.room.map (· - n) := by
  cases hw : s.writes.headD (.accept none) with
  | accept most =>
    rw [write_of_accept hw] at h ⊢
    cases h
    exact ⟨most, rfl, rfl, rfl⟩
  | fail e => nomatch write_of_fail hw ▸ h
  | panic m => nomatch write_of_panic hw ▸ h

theorem of_write_error {e : IoError} (h : (write offered s).outcome = .error e) :
    s.writes.headD (.accept none) = .fail e := by
  cases hw : s.writes.headD (.accept none) with
  | accept most => nomatch write_of_accept hw ▸ h
  | fail e' => exact congrArg Write.fail (Outcome.error.inj (write_of_fail hw ▸ h))
  | panic m => nomatch write_of_panic hw ▸ h

theorem of_write_panic {m : String} (h : (write offered s).outcome = .panic m) :
    s.writes.headD (.accept none) = .panic m := by
  cases hw : s.writes.headD (.accept none) with
  | accept most => nomatch write_of_accept hw ▸ h
  | fail e => nomatch write_of_fail hw ▸ h
  | panic m' => exact congrArg Write.panic (Outcome.panic.inj (write_of_panic hw ▸ h))

end

-- Offers bytes until all are taken. An interrupted write is tried again; a write that takes nothing
-- is an error. Every further write finds fewer bytes to offer or a shorter script.
def writeAll (offered : List UInt8) (s : Sink) : Exit Call Sink IoError Unit :=
  match offered with
  | [] => { outcome := .ok (), state := s }
  | b :: bs =>
    let w := write (b :: bs) s
    match _ : w.outcome with
    -- To offer the same bytes once more would be of no use.
    | .ok 0 => { w with outcome := .error .writeZero }
    | .ok (n + 1) => (writeAll (bs.drop n) w.state).after w.record w.log
    | .error e =>
      if e.kind = .interrupted then (writeAll (b :: bs) w.state).after w.record w.log
      else { w with outcome := .error e }
    | .panic m => { w with outcome := .panic m }
    | .abort => { w with outcome := .abort }
termination_by s.writes.length + offered.length
decreasing_by
  · simp +zetaDelta
    omega
  · have := List.length_pos_iff.mpr (writes_ne_nil_of_write_error ‹_›)
    simp +zetaDelta
    omega

def utf8 (text : String) : List UInt8 :=
  text.toUTF8.data.toList

def lineBytes (text : String) : List UInt8 :=
  utf8 text ++ utf8 "\n"

-- Writes a text and a newline, and flushes when both are out.
def line (text : String) : Action Call Sink IoError Unit := do
  -- The text and the newline are offered apart, and an empty text is not offered at all.
  writeAll (utf8 text)
  writeAll (utf8 "\n")
  flush

def console : Console Call Sink where
  line := line

end Sink

end GuardedSum.Console
