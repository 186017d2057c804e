import GuardedSum.Proofs.Block.Steps

namespace GuardedSum.Block

-- The events that a part records by itself, apart from those of the blocks it runs.
def Event.IsItem : Event → Prop
  | .log _ | .outcome _ | .ignored _ | .caught _ => True
  | _ => False

mutual

-- B ::= body T (handler T)? completion T
inductive IsBlockWord : List Event → Prop
  | unhandled {acc acc₁ t v} :
    IsPartWord t → IsPartWord v → IsBlockWord (.body acc :: t ++ .completion acc₁ :: v)
  | handled {acc acc₁ acc₂ e t u v} :
    IsPartWord t → IsPartWord u → IsPartWord v →
    IsBlockWord (.body acc :: t ++ .handler acc₁ e :: u ++ .completion acc₂ :: v)

-- T ::= (log | outcome | ignored | caught | B)*
inductive IsPartWord : List Event → Prop
  | nil : IsPartWord []
  | item {i t} : i.IsItem → IsPartWord t → IsPartWord (i :: t)
  | block {w t} : IsBlockWord w → IsPartWord t → IsPartWord (w ++ t)

end

def Part.blocks : Part → List Block
  | done _ => []
  | log _ next | set _ next | add _ next | failAbove _ _ next => next.blocks
  | nested _ body handler completion next => ⟨body, handler, completion⟩ :: next.blocks

mutual

-- The same grammar, for the words of a certain block that starts at a certain accumulator. A
-- handler is there if and only if the body ended in an error, and then shows it; handler and
-- completion show the accumulator that the part before them left.
inductive Traced : Block → Int32 → List Event → Prop
  | unhandled {b acc acc₁ acc₂ o q t v k m}
    (body : b.body.run acc = ⟨o, acc₁, t, k⟩) (no_error : ∀ e, o ≠ .error e)
    (completion : b.completion.run acc₁ = ⟨q, acc₂, v, m⟩)
    (ht : Filled b.body.blocks t) (hv : Filled b.completion.blocks v) :
    Traced b acc (.body acc :: t ++ .completion acc₁ :: v)
  | handled {b acc acc₁ acc₂ acc₃ e p q t u v k l m}
    (body : b.body.run acc = ⟨.error e, acc₁, t, k⟩)
    (handler : b.handler.run acc₁ = ⟨p, acc₂, u, l⟩)
    (completion : b.completion.run acc₂ = ⟨q, acc₃, v, m⟩)
    (ht : Filled b.body.blocks t) (hu : Filled b.handler.blocks u)
    (hv : Filled b.completion.blocks v) :
    Traced b acc (.body acc :: t ++ .handler acc₁ e :: u ++ .completion acc₂ :: v)

-- What a part records that runs the given blocks, in any order and from any accumulator.
inductive Filled : List Block → List Event → Prop
  | nil {bs} : Filled bs []
  | item {bs i t} : i.IsItem → Filled bs t → Filled bs (i :: t)
  | block {bs b acc w t} : b ∈ bs → Traced b acc w → Filled bs t → Filled bs (w ++ t)

end

mutual

theorem Traced.isBlockWord {b : Block} {acc : Int32} {w : List Event} :
    Traced b acc w → IsBlockWord w
  | .unhandled _ _ _ ht hv => .unhandled ht.isPartWord hv.isPartWord
  | .handled _ _ _ ht hu hv => .handled ht.isPartWord hu.isPartWord hv.isPartWord

theorem Filled.isPartWord {bs : List Block} {t : List Event} : Filled bs t → IsPartWord t
  | .nil => .nil
  | .item hi ht => .item hi ht.isPartWord
  | .block _ hw ht => .block hw.isBlockWord ht.isPartWord

end

theorem Filled.mono {bs cs : List Block} {t : List Event} (h : bs ⊆ cs) : Filled bs t → Filled cs t
  | .nil => .nil
  | .item hi ht => .item hi (ht.mono h)
  | .block hb hw ht => .block (h hb) hw (ht.mono h)

theorem Mode.isItem_of_mem_noted {mode : Mode} {o : Outcome String (Guarded Int32 String)}
    {i : Event} (h : i ∈ mode.noted o) : i.IsItem := by
  cases mode <;> cases o <;> simp_all [noted, Event.IsItem]

theorem Filled.of_items {bs : List Block} {t u : List Event} (ht : ∀ i ∈ t, i.IsItem)
    (hu : Filled bs u) : Filled bs (t ++ u) := by
  induction t with
  | nil => exact hu
  | cons i t ih => exact .item (ht i (by simp)) (ih fun j hj => ht j (by simp [hj]))

theorem Filled.nested {mode : Mode} {b h c next : Part} {acc : Int32}
    {o : Outcome String (Guarded Int32 String)} {w t : List Event} (traced : Traced ⟨b, h, c⟩ acc w)
    (rest : Filled next.blocks t) :
    Filled (Part.nested mode b h c next).blocks (w ++ mode.noted o ++ t) := by
  have rest : Filled (Part.nested mode b h c next).blocks t :=
    rest.mono (List.subset_cons_self _ _)
  have items : ∀ i ∈ mode.noted o, i.IsItem := fun _ => Mode.isItem_of_mem_noted
  rw [List.append_assoc]
  exact .block List.mem_cons_self traced (.of_items items rest)

-- A part that does not abort leaves a filled record, whatever accumulator it starts from.
def Part.Fills (p : Part) : Prop :=
  ∀ acc, (p.run acc).outcome ≠ .abort → Filled p.blocks (p.run acc).record

section

variable {acc acc₁ : Int32} {t w : List Event} {l : List Log.Entry}

theorem Part.Fills.filled {p : Part} {o : Outcome String Int32} (hp : p.Fills)
    (h : p.run acc = ⟨o, acc₁, t, l⟩) (ends : o ≠ .abort) : Filled p.blocks t := by
  have filled := hp acc
  rw [h] at filled
  exact filled ends

theorem traced_of_fills {b : Block} {o : Outcome String (Guarded Int32 String)}
    (hb : b.body.Fills) (hh : b.handler.Fills) (hc : b.completion.Fills)
    (h : b.run acc = ⟨o, acc₁, w, l⟩) (ends : o ≠ .abort) : Traced b acc w := by
  have ran : Ran b.body.run b.handler.run b.completion.run acc (b.run acc) :=
    bracket_ran (congrArg Exit.outcome h ▸ ends)
  rw [h] at ran
  cases ran with
  | unhandled body no_error body_ends completion completion_ends =>
    exact .unhandled body no_error completion (hb.filled body body_ends)
      (hc.filled completion completion_ends)
  | handled body handler handler_ends completion completion_ends =>
    exact .handled body handler completion (hb.filled body nofun)
      (hh.filled handler handler_ends) (hc.filled completion completion_ends)

end

theorem Part.fills (p : Part) : p.Fills := by
  induction p with
  | done ending =>
    intro acc _
    cases ending <;> exact .nil
  | log text next ih =>
    intro acc ends
    rw [run_log] at ends ⊢
    exact .item trivial (ih acc ends)
  | set n next ih =>
    intro acc ends
    rw [run_set] at ends ⊢
    exact ih n ends
  | add n next ih =>
    intro acc ends
    rw [run_add] at ends ⊢
    exact ih (sum acc n) ends
  | failAbove limit e next ih =>
    intro acc ends
    rw [run_failAbove] at ends ⊢
    split at ends
    case isTrue h =>
      rw [if_pos h]
      exact .nil
    case isFalse h =>
      rw [if_neg h]
      exact ih acc ends
  | nested mode body handler completion next hb hh hc ih =>
    intro acc ends
    match hx : Block.run ⟨body, handler, completion⟩ acc with
    | ⟨o, acc₁, w, l⟩ =>
      rw [run_nested acc next hx] at ends ⊢
      have block_ends : o ≠ .abort := by
        intro h
        rw [h] at ends
        exact ends (by cases mode <;> rfl)
      have traced := traced_of_fills hb hh hc hx block_ends
      cases hp : mode.passed o with
      | ok u =>
        rw [hp] at ends
        exact .nested traced (ih acc₁ ends)
      | _ =>
        have filled : Filled (nested mode body handler completion next).blocks
            (w ++ mode.noted o ++ []) :=
          .nested traced .nil
        rwa [List.append_nil] at filled

theorem run_bracketed (b : Block) (acc : Int32) (ends : (b.run acc).outcome ≠ .abort) :
    IsBlockWord (b.run acc).record ∧ Traced b acc (b.run acc).record := by
  have traced := traced_of_fills b.body.fills b.handler.fills b.completion.fills rfl ends
  exact ⟨traced.isBlockWord, traced⟩

-- A handler panics inside a body that catches the panic and fails afterwards.
theorem run_bracketed_caught_panic :
    let inner : Block :=
      { body := .add 1 (.done (.error "lost"))
        handler := .add 1 (.done (.panic "late"))
        completion := .log "cleanup" (.done .accumulator) }
    let b : Block :=
      { body := .nested .catchAll inner.body inner.handler inner.completion (.done (.error "end"))
        handler := .set 7 (.done .accumulator)
        completion := .done .accumulator }
    (b.run 0).outcome ≠ .abort ∧
      (b.run 0).record =
        [.body 0, .body 0, .handler 1 "lost", .completion 2, .log "cleanup",
          .caught (.panic "late"), .handler 2 "end", .completion 7] ∧
      IsBlockWord (b.run 0).record ∧ Traced b 0 (b.run 0).record := by
  intro inner b
  have ends : (b.run 0).outcome ≠ .abort := by decide
  exact ⟨ends, rfl, run_bracketed b 0 ends⟩

end GuardedSum.Block
