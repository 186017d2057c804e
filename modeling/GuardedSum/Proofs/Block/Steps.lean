import GuardedSum.Block
import GuardedSum.Proofs.Guarded.TryCatchFinally

namespace GuardedSum

-- The end of a part whose value no one asks for. Unlike a discarded end it keeps its error.
def Outcome.void {ε α : Type} : Outcome ε α → Outcome ε Unit
  | .ok _ => .ok ()
  | .error e => .error e
  | .panic m => .panic m
  | .abort => .abort

namespace Block

section

variable {f : Int32 → Event} {x : Run Int32} {acc acc₁ : Int32}
variable {o : Outcome String Int32} {t : List Event} {l : List Log.Entry}

theorem mark_then (hx : x acc = ⟨o, acc₁, t, l⟩) :
    (do mark f; x : Run Int32) acc = ⟨o, acc₁, f acc :: t, l⟩ := by
  change (x acc).after [f acc] [] = _
  simp [Exit.after, hx]

theorem mark_then_discard (hx : x acc = ⟨o, acc₁, t, l⟩) :
    (do mark f; discard x : Run Unit) acc = ⟨o.void, acc₁, f acc :: t, l⟩ := by
  change ((x acc).bind fun _ => pure ()).after [f acc] [] = _
  cases o <;> simp [Exit.after, Outcome.void, hx]

end

-- How a bracket came to its exit without an abort. The handler ran if and only if the body ended in
-- an error, and each run started from the accumulator that the one before it left.
inductive Ran (b h c : Run Int32) (acc : Int32) :
    Exit Event Int32 String (Guarded Int32 String) → Prop
  | unhandled {o q acc₁ acc₂ t v k m}
    (body : b acc = ⟨o, acc₁, t, k⟩) (no_error : ∀ e, o ≠ .error e) (body_ends : o ≠ .abort)
    (completion : c acc₁ = ⟨q, acc₂, v, m⟩) (completion_ends : q ≠ .abort) :
    Ran b h c acc
      { outcome := Guarded.verdict o (.ok ()) q.void
        state := acc₂
        record := .body acc :: t ++ .completion acc₁ :: v
        log := k ++ o.unwound ++ m }
  | handled {e p q acc₁ acc₂ acc₃ t u v k l m}
    (body : b acc = ⟨.error e, acc₁, t, k⟩)
    (handler : h acc₁ = ⟨p, acc₂, u, l⟩) (handler_ends : p ≠ .abort)
    (completion : c acc₂ = ⟨q, acc₃, v, m⟩) (completion_ends : q ≠ .abort) :
    Ran b h c acc
      { outcome := Guarded.verdict (.error e) p.void q.void
        state := acc₃
        record := .body acc :: t ++ .handler acc₁ e :: u ++ .completion acc₂ :: v
        log := k ++ l ++ p.unwound ++ m }

section

variable {b h c : Run Int32} {acc acc₁ acc₂ acc₃ : Int32} {e : String}
variable {o p q : Outcome String Int32} {t u v : List Event} {k l m : List Log.Entry}

theorem bracket_of_ne_error (hb : b acc = ⟨o, acc₁, t, k⟩) (ho : ∀ e, o ≠ .error e)
    (hc : c acc₁ = ⟨q, acc₂, v, m⟩) (ends : (bracket b h c acc).outcome ≠ .abort) :
    bracket b h c acc =
      { outcome := Guarded.verdict o (.ok ()) q.void
        state := acc₂
        record := .body acc :: t ++ .completion acc₁ :: v
        log := k ++ o.unwound ++ m } := by
  unfold bracket at ends ⊢
  rw [guarded_of_ne_abort ends, mark_then hb, Exit.handled_of_ne_error _ _ _ _ ho]
  dsimp only
  rw [mark_then_discard hc]
  simp [Outcome.unwound]

theorem bracket_of_error (hb : b acc = ⟨.error e, acc₁, t, k⟩) (hh : h acc₁ = ⟨p, acc₂, u, l⟩)
    (hc : c acc₂ = ⟨q, acc₃, v, m⟩) (ends : (bracket b h c acc).outcome ≠ .abort) :
    bracket b h c acc =
      { outcome := Guarded.verdict (.error e) p.void q.void
        state := acc₃
        record := .body acc :: t ++ .handler acc₁ e :: u ++ .completion acc₂ :: v
        log := k ++ l ++ p.unwound ++ m } := by
  unfold bracket at ends ⊢
  rw [guarded_of_ne_abort ends, mark_then hb, Exit.handled_error, mark_then_discard hh]
  dsimp only
  rw [mark_then_discard hc]
  cases p <;> simp [Outcome.unwound, Outcome.void]

theorem bracket_ran (ends : (bracket b h c acc).outcome ≠ .abort) :
    Ran b h c acc (bracket b h c acc) := by
  match hb : b acc with
  | ⟨o, acc₁, t, k⟩ =>
    by_cases ho : ∃ e, o = .error e
    case pos =>
      have ⟨e, he⟩ := ho
      subst he
      match hh : h acc₁ with
      | ⟨p, acc₂, u, l⟩ =>
        have eq := bracket_of_error hb hh rfl ends
        rw [eq] at ends ⊢
        have ⟨_, hp, hq⟩ := Guarded.ne_abort_of_verdict ends
        exact .handled hb hh (mt (congrArg Outcome.void) hp) rfl (mt (congrArg Outcome.void) hq)
    case neg =>
      have ho := not_exists.mp ho
      have eq := bracket_of_ne_error hb ho rfl ends
      rw [eq] at ends ⊢
      have ⟨hb', _, hq⟩ := Guarded.ne_abort_of_verdict ends
      exact .unhandled hb ho hb' rfl (mt (congrArg Outcome.void) hq)

end

def Mode.passed : Mode → Outcome String (Guarded Int32 String) → Outcome String Unit
  | _, .abort => .abort
  | .propagate, .error e => .error e
  | .propagate, .panic m | .ignore, .panic m => .panic m
  | _, _ => .ok ()

def Mode.noted : Mode → Outcome String (Guarded Int32 String) → List Event
  | _, .abort => []
  | .propagate, .ok g => [.outcome g]
  | .propagate, _ | .ignore, .panic _ => []
  | .ignore, o => [.ignored o]
  | .catchAll, o => [.caught o]

theorem Mode.run_apply (mode : Mode) (block : Run (Guarded Int32 String)) (acc : Int32) :
    mode.run block acc =
      { outcome := mode.passed (block acc).outcome
        state := (block acc).state
        record := (block acc).record ++ mode.noted (block acc).outcome
        log := (block acc).log } := by
  match hx : block acc with
  | ⟨.ok _, _, _, _⟩ | ⟨.error _, _, _, _⟩ | ⟨.panic _, _, _, _⟩ | ⟨.abort, _, _, _⟩ =>
    cases mode <;>
      simp [run, passed, noted, Outcome.ofExcept, Action.attempt, Action.observe, Exit.after, hx]

namespace Part

variable (acc : Int32) (next : Part)

theorem run_log (text : String) :
    (log text next).run acc = (next.run acc).after [.log text] [] :=
  rfl

theorem run_set (n : Int32) : (set n next).run acc = next.run n :=
  rfl

theorem run_add (n : Int32) : (add n next).run acc = next.run (sum acc n) :=
  rfl

theorem run_failAbove (limit : Int32) (e : String) :
    (failAbove limit e next).run acc =
      if limit < acc then { outcome := .error e, state := acc } else next.run acc := by
  rw [run]
  by_cases h : limit < acc <;> simp [h]

theorem run_nested {mode : Mode} {body handler completion : Part} {acc₁ : Int32}
    {o : Outcome String (Guarded Int32 String)} {w : List Event} {l : List Log.Entry}
    (h : Block.run ⟨body, handler, completion⟩ acc = ⟨o, acc₁, w, l⟩) :
    (nested mode body handler completion next).run acc =
      Exit.bind ⟨mode.passed o, acc₁, w ++ mode.noted o, l⟩ fun _ => next.run := by
  change (mode.run (Block.run ⟨body, handler, completion⟩) acc).bind _ = _
  rw [Mode.run_apply, h]

end Part
end Block
end GuardedSum
