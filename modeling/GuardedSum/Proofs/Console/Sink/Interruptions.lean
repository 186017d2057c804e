import GuardedSum.Proofs.Console.Echoed
import GuardedSum.Proofs.Console.Sink.Line

namespace GuardedSum

section

variable {τ σ ε α β : Type} (settle : List τ → List τ) (calm : σ → σ)

-- The exit for one who sees its record and its state only as these functions show them.
def Exit.through (e : Exit τ σ ε α) : Exit τ σ ε α :=
  { e with state := calm e.state, record := settle e.record }

variable {settle calm}

theorem Exit.through_after (append : ∀ r r', settle (r ++ r') = settle r ++ settle r')
    (r : List τ) (l : List Log.Entry) (e : Exit τ σ ε α) :
    (e.after r l).through settle calm = (e.through settle calm).after (settle r) l := by
  simp only [through, after, append]

theorem Exit.bind_through (append : ∀ r r', settle (r ++ r') = settle r ++ settle r')
    {e : Exit τ σ ε α} {f : α → Action τ σ ε β}
    (h : ∀ a s, f a (calm s) = (f a s).through settle calm) :
    (e.through settle calm).bind f = (e.bind f).through settle calm := by
  obtain ⟨o, s, r, l⟩ := e
  cases o with
  | ok a =>
    change (f a (calm s)).after (settle r) l = ((f a s).after r l).through settle calm
    rw [h, through_after append]
  | error _ | panic _ | abort => rfl

theorem Action.runEach_through {xs : List (Action τ σ ε α)}
    (h : ∀ x ∈ xs, ∀ s, x (calm s) = (x s).through settle calm) (s : σ) :
    runEach (calm s) xs = (runEach s xs).map (Exit.through settle calm) := by
  induction xs generalizing s with
  | nil => rfl
  | cons x xs ih =>
    have first := h x List.mem_cons_self s
    have rest := ih (fun y hy => h y (List.mem_cons_of_mem x hy)) (x s).state
    by_cases hx : (x s).outcome = .abort
    case pos =>
      have hx' : (x (calm s)).outcome = .abort := first ▸ hx
      rw [runEach_of_abort hx, runEach_of_abort hx', first]
      rfl
    case neg =>
      have hx' : (x (calm s)).outcome ≠ .abort := first ▸ hx
      rw [runEach_of_ne_abort hx, runEach_of_ne_abort hx', first, List.map_cons, ← rest]
      rfl

end

namespace Console

def Write.interrupts : Write → Bool
  | .fail e => e.kind = .interrupted
  | .accept _ | .panic _ => false

namespace Sink

def Call.interrupted : Call → Bool
  | .write _ (.error e) => e.kind = .interrupted
  | .write _ _ | .flush _ => false

def settled (calls : List Call) : List Call :=
  calls.filter (!·.interrupted)

def uninterrupted (s : Sink) : Sink :=
  { s with writes := s.writes.filter (!·.interrupts) }

-- However the error came about, it is an interrupt if it is of that kind.
example :
    let s : Sink :=
      { writes := [.fail (.ofErrno .interruptedCall), .accept (some 1), .fail (.ofKind .notFound),
          .fail (.custom .interrupted (.text "again"))] }
    s.uninterrupted.writes = [.accept (some 1), .fail (.ofKind .notFound)] :=
  rfl

theorem settled_append (cs ds : List Call) : settled (cs ++ ds) = settled cs ++ settled ds :=
  List.filter_append ..

section

variable {c : Call} {cs : List Call}

theorem settled_cons_of_interrupted (h : c.interrupted) : settled (c :: cs) = settled cs :=
  List.filter_cons_of_neg (by simp [h])

theorem settled_cons_of_not_interrupted (h : ¬c.interrupted) :
    settled (c :: cs) = c :: settled cs :=
  List.filter_cons_of_pos (by simp [h])

theorem Call.accepted_of_interrupted (h : c.interrupted) : c.accepted = [] := by
  match c with
  | .write _ (.error _) => rfl
  | .write _ (.ok _) | .write _ (.panic _) | .write _ .abort | .flush _ => nomatch h

theorem Call.flushed?_of_interrupted (h : c.interrupted) : c.flushed? = none := by
  match c with
  | .write _ _ => rfl
  | .flush _ => nomatch h

end

theorem accepted_settled (calls : List Call) : accepted (settled calls) = accepted calls := by
  induction calls with
  | nil => rfl
  | cons c cs ih =>
    by_cases h : c.interrupted
    case pos => simp [settled_cons_of_interrupted h, ih, Call.accepted_of_interrupted h]
    case neg => simp [settled_cons_of_not_interrupted h, ih]

theorem flushed_settled (calls : List Call) : flushed (settled calls) = flushed calls := by
  induction calls with
  | nil => rfl
  | cons c cs ih =>
    by_cases h : c.interrupted
    case pos => simp [settled_cons_of_interrupted h, ih, Call.flushed?_of_interrupted h]
    case neg => simp [settled_cons_of_not_interrupted h, ih]

section

variable {offered bs : List UInt8} {s s' : Sink} {e : Exit Call Sink IoError Unit}

theorem write_uninterrupted
    (h : ∀ c, (write offered s).outcome = .error c → c.kind ≠ .interrupted) :
    (write offered s.uninterrupted).outcome = (write offered s).outcome ∧
      (write offered s.uninterrupted).state = (write offered s).state.uninterrupted := by
  match hs : s.writes with
  | [] => simp [write, uninterrupted, hs]
  | .accept most :: ws => simp [write, uninterrupted, hs, Write.interrupts]
  | .panic m :: ws => simp [write, uninterrupted, hs, Write.interrupts]
  | .fail c :: ws =>
    have ne := h c (by simp [write, hs])
    simp [write, uninterrupted, hs, Write.interrupts, ne]

theorem write_state_uninterrupted {c : IoError} (h : (write offered s).outcome = .error c)
    (interrupted : c.kind = .interrupted) :
    (write offered s).state.uninterrupted = s.uninterrupted := by
  have head := of_write_error h
  rw [write_of_fail head]
  match hs : s.writes with
  | [] =>
    rw [hs] at head
    nomatch head
  | w :: ws =>
    rw [hs] at head
    obtain rfl : w = .fail c := head
    simp [uninterrupted, hs, Write.interrupts, interrupted]

theorem Writing.uninterrupted (h : Writing bs s e) :
    Writing bs s.uninterrupted (e.through settled Sink.uninterrupted) := by
  induction h with
  | done => exact .done
  | stuck h =>
    have ⟨outcome_eq, state_eq⟩ := write_uninterrupted fun c hc => nomatch hc.symm.trans h
    have stuck := Writing.stuck (outcome_eq.trans h)
    rwa [state_eq] at stuck
  | took h _ ih =>
    have ⟨outcome_eq, state_eq⟩ := write_uninterrupted fun c hc => nomatch hc.symm.trans h
    rw [← state_eq] at ih
    exact .took (outcome_eq.trans h) ih
  | @again b bs s c e h interrupted _ ih =>
    -- The interrupt is gone from the script and the call from what is settled.
    have settled_eq : settled [.write (b :: bs) (.error c)] = [] :=
      settled_cons_of_interrupted (by simp [Call.interrupted, interrupted])
    rw [write_state_uninterrupted h interrupted] at ih
    rw [Exit.through_after settled_append, settled_eq]
    exact ih
  | @failed b bs s c h ne =>
    have lasts (c') (hc : (write (b :: bs) s).outcome = .error c') : c'.kind ≠ .interrupted :=
      Outcome.error.inj (h.symm.trans hc) ▸ ne
    have ⟨outcome_eq, state_eq⟩ := write_uninterrupted lasts
    have settled_eq : settled [.write (b :: bs) (.error c)] = [.write (b :: bs) (.error c)] :=
      settled_cons_of_not_interrupted (by simp [Call.interrupted, ne])
    have failed := Writing.failed (outcome_eq.trans h) ne
    rwa [state_eq, ← settled_eq] at failed
  | panicked h =>
    have ⟨outcome_eq, state_eq⟩ := write_uninterrupted fun c hc => nomatch hc.symm.trans h
    have panicked := Writing.panicked (outcome_eq.trans h)
    rwa [state_eq] at panicked

end

theorem writeAll_uninterrupted (bs : List UInt8) (s : Sink) :
    writeAll bs s.uninterrupted = (writeAll bs s).through settled uninterrupted :=
  (writeAll_writing bs s).uninterrupted.eq_writeAll.symm

theorem line_uninterrupted (text : String) (s : Sink) :
    line text s.uninterrupted = (line text s).through settled uninterrupted := by
  have flush_uninterrupted (s : Sink) :
      flush s.uninterrupted = (flush s).through settled uninterrupted := rfl
  have writeLine_uninterrupted :
      writeLine text s.uninterrupted = (writeLine text s).through settled uninterrupted := by
    rw [writeLine_apply, writeLine_apply, writeAll_uninterrupted]
    exact Exit.bind_through settled_append fun _ => writeAll_uninterrupted _
  rw [line_eq_bind, line_eq_bind, writeLine_uninterrupted]
  exact Exit.bind_through settled_append fun _ => flush_uninterrupted

end Sink

end Console

open Console (Sink)

def Request.settled (r : Request Sink.Call) : Request Sink.Call :=
  { r with calls := Sink.settled r.calls }

variable {s s' : Sink} {rs : List (Request Sink.Call)} {ε α : Type}

theorem Console.Asked.uninterrupted (asked : Sink.console.Asked s rs s') :
    Sink.console.Asked s.uninterrupted (rs.map Request.settled) s'.uninterrupted := by
  induction asked with
  | nil => exact .nil
  | @cons text s rs s' _ ih =>
    have line_eq : Sink.console.line text s.uninterrupted = _ := Sink.line_uninterrupted text s
    have asking_eq :
        (Sink.console.asking text s).settled = Sink.console.asking text s.uninterrupted := by
      rw [Console.asking, Console.asking, line_eq]
      rfl
    rw [List.map_cons, asking_eq]
    refine .cons ?_
    rw [line_eq]
    exact ih

theorem Echoed.uninterrupted {x : Action (Request Sink.Call) Sink ε α}
    (h : Echoed Sink.console Sink.console s (x s) x) :
    x s.uninterrupted = (x s).through (List.map Request.settled) Sink.uninterrupted :=
  h.again h.asked.uninterrupted (List.map_map ..)

-- Exits of the same actions on two sinks, where the calls of the one that were interrupted are
-- missing from the other, and there is no other difference to see.
structure Unseen (exits exits' : List (Exit (Request Sink.Call) Sink ε α)) : Prop where
  seen : exits'.map Exit.seen = exits.map Exit.seen
  calls : exits'.map Exit.calls = exits.map fun e => Sink.settled e.calls
  accepted : (exits'.map fun e => Sink.accepted e.calls) = exits.map fun e => Sink.accepted e.calls
  flushed : (exits'.map fun e => Sink.flushed e.calls) = exits.map fun e => Sink.flushed e.calls

theorem Exit.calls_through (e : Exit (Request Sink.Call) Sink ε α) :
    (e.through (List.map Request.settled) Sink.uninterrupted).calls = Sink.settled e.calls := by
  rw [calls, calls, Sink.settled, List.filter_flatMap]
  exact List.flatMap_map ..

theorem unseen_runEach {xs : List (Action (Request Sink.Call) Sink ε α)}
    (h : ∀ x ∈ xs, ∀ s, Echoed Sink.console Sink.console s (x s) x) (s : Sink) :
    Unseen (Action.runEach s xs) (Action.runEach s.uninterrupted xs) := by
  rw [Action.runEach_through fun x hx s => (h x hx s).uninterrupted]
  constructor
  case seen =>
    rw [List.map_map]
    refine List.map_congr_left fun e _ => ?_
    exact congrArg (e.outcome, ·, e.log) (List.map_map ..)
  all_goals
    rw [List.map_map]
    refine List.map_congr_left fun e _ => ?_
    rw [Function.comp_apply, e.calls_through]
  case accepted => exact Sink.accepted_settled e.calls
  case flushed => exact Sink.flushed_settled e.calls

end GuardedSum
