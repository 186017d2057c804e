import GuardedSum.Console

namespace GuardedSum

def Exit.calls {γ κ ε α : Type} (e : Exit (Request γ) κ ε α) : List γ :=
  e.record.flatMap Request.calls

namespace Console

variable {γ κ : Type} (console : Console γ κ)

def asking (text : String) (k : κ) : Request γ where
  text := text
  answer := (console.line text k).outcome
  calls := (console.line text k).record

-- The requests were made one after another, each in the state that the one before it left the
-- console in, so an answer may depend on all that was asked before.
inductive Asked : κ → List (Request γ) → κ → Prop
  | nil {k} : Asked k [] k
  | cons {text k rs k'} :
    Asked (console.line text k).state rs k' → Asked k (console.asking text k :: rs) k'

variable {console} {k k' k'' : κ} {qs rs : List (Request γ)}

theorem Asked.append (hq : console.Asked k qs k') (hr : console.Asked k' rs k'') :
    console.Asked k (qs ++ rs) k'' := by
  induction hq with
  | nil => exact hr
  | cons _ ih => exact .cons (ih hr)

theorem Asked.split (h : console.Asked k (qs ++ rs) k'') :
    ∃ k', console.Asked k qs k' ∧ console.Asked k' rs k'' := by
  induction qs generalizing k with
  | nil => exact ⟨k, .nil, h⟩
  | cons q qs ih =>
    cases h with
    | cons h =>
      have ⟨k', hq, hr⟩ := ih h
      exact ⟨k', .cons hq, hr⟩

theorem Asked.exists_asking {r : Request γ} (h : console.Asked k rs k') (hr : r ∈ rs) :
    ∃ k₁, r = console.asking r.text k₁ := by
  induction h with
  | nil => nomatch hr
  | @cons text k _ _ _ ih =>
    cases hr with
    | head => exact ⟨k, rfl⟩
    | tail _ hr => exact ih hr

theorem Asked.runEach {ε α : Type} {xs : List (Action (Request γ) κ ε α)}
    (h : ∀ x ∈ xs, ∀ k, console.Asked k (x k).record (x k).state) (k : κ) :
    ∃ k', console.Asked k ((Action.runEach k xs).flatMap Exit.record) k' := by
  induction xs generalizing k with
  | nil => exact ⟨k, .nil⟩
  | cons x xs ih =>
    have asked := h x List.mem_cons_self k
    by_cases hx : (x k).outcome = .abort
    case pos =>
      rw [Action.runEach_of_abort hx, List.flatMap_singleton]
      exact ⟨_, asked⟩
    case neg =>
      have ⟨k', rest⟩ := ih (fun y hy => h y (List.mem_cons_of_mem x hy)) (x k).state
      rw [Action.runEach_of_ne_abort hx, List.flatMap_cons]
      exact ⟨k', asked.append rest⟩

variable (console) in
theorem requestEach_asked (k : κ) (texts : List String) :
    ∃ k', console.Asked k ((console.requestEach k texts).flatMap Exit.record) k' := by
  refine Asked.runEach (fun x hx k => ?_) k
  have ⟨text, _, eq⟩ := List.mem_map.mp hx
  exact eq ▸ .cons .nil

end Console

end GuardedSum
