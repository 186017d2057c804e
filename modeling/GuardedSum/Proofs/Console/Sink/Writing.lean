import GuardedSum.Console.Sink

namespace GuardedSum.Console.Sink

inductive Writing : List UInt8 → Sink → Exit Call Sink IoError Unit → Prop
  | done {s} : Writing [] s { outcome := .ok (), state := s }
  -- The sink takes nothing.
  | stuck {b bs s} :
    (write (b :: bs) s).outcome = .ok 0 →
    Writing (b :: bs) s
      { outcome := .error .writeZero
        state := (write (b :: bs) s).state
        record := [.write (b :: bs) (.ok 0)] }
  | took {b bs s n e} :
    (write (b :: bs) s).outcome = .ok (n + 1) →
    Writing ((b :: bs).drop (n + 1)) (write (b :: bs) s).state e →
    Writing (b :: bs) s (e.after [.write (b :: bs) (.ok (n + 1))] [])
  -- The write was interrupted, and all that it offered is offered again.
  | again {b bs s c e} :
    (write (b :: bs) s).outcome = .error c → c.kind = .interrupted →
    Writing (b :: bs) (write (b :: bs) s).state e →
    Writing (b :: bs) s (e.after [.write (b :: bs) (.error c)] [])
  | failed {b bs s c} :
    (write (b :: bs) s).outcome = .error c → c.kind ≠ .interrupted →
    Writing (b :: bs) s
      { outcome := .error c
        state := (write (b :: bs) s).state
        record := [.write (b :: bs) (.error c)] }
  | panicked {b bs s m} :
    (write (b :: bs) s).outcome = .panic m →
    Writing (b :: bs) s
      { outcome := .panic m
        state := (write (b :: bs) s).state
        record := [.write (b :: bs) (.panic m)] }

theorem writeAll_writing (bs : List UInt8) (s : Sink) : Writing bs s (writeAll bs s) := by
  fun_induction writeAll bs s with
  | case1 => exact .done
  | case2 s b bs w h => simpa [w, h] using Writing.stuck h
  | case3 s b bs w n h ih => simpa [w, h] using Writing.took h ih
  | case4 s b bs w c h interrupted ih => simpa [w, h] using Writing.again h interrupted ih
  | case5 s b bs w c h ne => simpa [w, h] using Writing.failed h ne
  | case6 s b bs w m h => simpa [w, h] using Writing.panicked h
  | case7 s b bs w h => exact absurd h write_outcome_ne_abort

theorem Writing.eq_writeAll {bs : List UInt8} {s : Sink} {e : Exit Call Sink IoError Unit}
    (h : Writing bs s e) : e = writeAll bs s := by
  induction h with
  | done => rw [writeAll]
  | stuck h | took h _ _ | again h _ _ _ | failed h _ | panicked h =>
    rw [writeAll]
    split <;> simp_all

theorem Writing.log_eq {bs : List UInt8} {s : Sink} {e : Exit Call Sink IoError Unit}
    (h : Writing bs s e) : e.log = [] := by
  induction h with
  | done | stuck _ | failed _ _ | panicked _ => rfl
  | took _ _ ih | again _ _ _ ih => exact ih

theorem line_log (text : String) (s : Sink) : (line text s).log = [] :=
  Exit.bind_log_eq_nil (writeAll_writing _ _).log_eq fun _ _ =>
    Exit.bind_log_eq_nil (writeAll_writing _ _).log_eq fun _ _ => rfl

end GuardedSum.Console.Sink
