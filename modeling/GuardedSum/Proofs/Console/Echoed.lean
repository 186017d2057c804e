import GuardedSum.Proofs.Console.Asked
import GuardedSum.Proofs.Guarded.TryCatchFinally

namespace GuardedSum

variable {γ δ κ ι ε ζ α β : Type}

def Request.face (r : Request γ) : String × Outcome IoError Unit :=
  (r.text, r.answer)

-- What there is to see of an action for the one who does not know the console behind it.
def Exit.seen (e : Exit (Request γ) κ ε α) :
    Outcome ε α × List (String × Outcome IoError Unit) × List Log.Entry :=
  (e.outcome, e.record.map Request.face, e.log)

def Console.Silent (console : Console γ κ) : Prop :=
  ∀ text k, (console.line text k).log = []

-- The exit of an action on one console, and an action that does the same on the other.
structure Echoed (console : Console γ κ) (other : Console δ ι) (k : κ)
    (e : Exit (Request γ) κ ε α) (y : Action (Request δ) ι ε α) : Prop where
  asked : console.Asked k e.record e.state
  again : ∀ {j rs j'}, other.Asked j rs j' → rs.map Request.face = e.record.map Request.face →
    y j = { outcome := e.outcome, state := j', record := rs, log := e.log }

namespace Echoed

variable {console : Console γ κ} {other : Console δ ι} {k : κ}

theorem seen_eq {e : Exit (Request γ) κ ε α} {y : Action (Request δ) ι ε α} {j j' : ι}
    {rs : List (Request δ)} (h : Echoed console other k e y) (asked : other.Asked j rs j')
    (face : rs.map Request.face = e.record.map Request.face) : (y j).seen = e.seen := by
  rw [h.again asked face, Exit.seen, face]
  rfl

theorem still {o : Outcome ε α} {l : List Log.Entry} {y : Action (Request δ) ι ε α}
    (h : ∀ j, y j = { outcome := o, state := j, log := l }) :
    Echoed console other k { outcome := o, state := k, log := l } y where
  asked := .nil
  again {j rs j'} asked face := by
    obtain rfl : rs = [] := List.map_eq_nil_iff.mp face
    cases asked with
    | nil => exact h j

theorem request (silent : console.Silent) (silent' : other.Silent) (text : String) :
    Echoed console other k (console.request text k) (other.request text) where
  asked := .cons .nil
  again {j rs j'} asked face := by
    have ⟨r, rs_eq, face_eq⟩ := List.map_eq_singleton_iff.mp face
    subst rs_eq
    cases asked with
    | @cons text' _ _ _ rest =>
      cases rest with
      | nil =>
        have ⟨text_eq, answer_eq⟩ := Prod.mk.inj face_eq
        change text' = text at text_eq
        subst text_eq
        change (other.line text' j).outcome = (console.line text' k).outcome at answer_eq
        simp [Console.request, Console.asking, answer_eq, silent text' k, silent' text' j]

theorem emit (entry : Log.Entry) :
    Echoed (ε := ε) console other k (Action.emit entry k) (.emit entry) :=
  still fun _ => rfl

theorem throw (c : ε) : Echoed (α := α) console other k (Action.throw c k) (.throw c) :=
  still fun _ => rfl

theorem pure (a : α) :
    Echoed console other k ((pure a : Action (Request γ) κ ε α) k) (Pure.pure a) :=
  still fun _ => rfl

variable {x : Action (Request γ) κ ε α} {y : Action (Request δ) ι ε α}

theorem bind {f : α → Action (Request γ) κ ε β} {g : α → Action (Request δ) ι ε β}
    (h : Echoed console other k (x k) y) (hf : ∀ a s, Echoed console other s (f a s) (g a)) :
    Echoed console other k ((x >>= f) k) (y >>= g) := by
  match hx : x k with
  | ⟨.ok a, s, r, l⟩ =>
    have hf := hf a s
    rw [hx] at h
    rw [Action.bind_apply, hx]
    constructor
    case asked => exact h.asked.append hf.asked
    case again =>
      intro j rs j' asked face
      rw [Exit.bind_ok, Exit.after, List.map_append] at face
      have ⟨rs₁, rs₂, rs_eq, face₁, face₂⟩ := List.map_eq_append_iff.mp face
      subst rs_eq
      have ⟨i, asked₁, asked₂⟩ := asked.split
      rw [Action.bind_apply, h.again asked₁ face₁, Exit.bind_ok, hf.again asked₂ face₂]
      rfl
  | ⟨.error c, s, r, l⟩ | ⟨.panic m, s, r, l⟩ | ⟨.abort, s, r, l⟩ =>
    rw [hx] at h
    rw [Action.bind_apply, hx]
    constructor
    case asked => exact h.asked
    case again =>
      intro j rs j' asked face
      rw [Action.bind_apply, h.again asked face]
      rfl

theorem mapError (f : ε → ζ) (h : Echoed console other k (x k) y) :
    Echoed console other k (x.mapError f k) (y.mapError f) where
  asked := h.asked
  again asked face := by
    simp only [Action.mapError, h.again asked face]

theorem inSpan (span : Log.Span) (h : Echoed console other k (x k) y) :
    Echoed console other k (x.inSpan span k) (y.inSpan span) where
  asked := h.asked
  again asked face := by
    simp only [Action.inSpan, h.again asked face]

section

variable {onError : ε → Action (Request γ) κ ζ Unit} {onError' : ε → Action (Request δ) ι ζ Unit}

theorem handled {e : Exit (Request γ) κ ε α}
    (hh : ∀ c s, Echoed console other s (onError c s) (onError' c)) :
    Echoed console other e.state (e.handled onError)
      fun j => { outcome := e.outcome, state := j : Exit (Request δ) ι ε α }.handled onError' := by
  obtain ⟨o, s, r, l⟩ := e
  cases o with
  | error c => exact hh c s
  | ok a | panic m | abort => exact still fun _ => rfl

variable {body : Action (Request γ) κ ε α} {body' : Action (Request δ) ι ε α}
variable {completion : Action (Request γ) κ ζ Unit} {completion' : Action (Request δ) ι ζ Unit}

section

variable (hb : Echoed console other k (body k) body')
variable (hh : ∀ c s, Echoed console other s (onError c s) (onError' c))
include hb hh

theorem guarded_of_ends (hc : ∀ s, Echoed console other s (completion s) completion')
    (body_ends : (body k).outcome ≠ .abort)
    (handler_ends : ((body k).handled onError).outcome ≠ .abort) :
    Echoed console other k (guarded body onError completion k)
      (guarded body' onError' completion') := by
  let h := (body k).handled onError
  have hh : Echoed console other (body k).state h _ := handled hh
  have hc := hc h.state
  rw [GuardedSum.guarded_of_ends body_ends handler_ends]
  constructor
  case asked => exact (hb.asked.append hh.asked).append hc.asked
  case again =>
    intro j rs j' asked face
    rw [List.map_append, List.map_append] at face
    have ⟨rs₁₂, rs₃, rs_eq, face₁₂, face₃⟩ := List.map_eq_append_iff.mp face
    have ⟨rs₁, rs₂, rs₁₂_eq, face₁, face₂⟩ := List.map_eq_append_iff.mp face₁₂
    subst rs_eq rs₁₂_eq
    have ⟨j₂, asked₁₂, asked₃⟩ := asked.split
    have ⟨j₁, asked₁, asked₂⟩ := asked₁₂.split
    have body_eq := hb.again asked₁ face₁
    have handled_eq : (body' j).handled onError' =
        { outcome := h.outcome, state := j₂, record := rs₂, log := h.log } := by
      rw [body_eq]
      exact hh.again asked₂ face₂
    have body_ends : (body' j).outcome ≠ .abort := by rwa [body_eq]
    have handler_ends : ((body' j).handled onError').outcome ≠ .abort := by rwa [handled_eq]
    rw [GuardedSum.guarded_of_ends body_ends handler_ends, handled_eq, hc.again asked₃ face₃,
      body_eq]

theorem guarded (hc : ∀ s, Echoed console other s (completion s) completion') :
    Echoed console other k (guarded body onError completion k)
      (guarded body' onError' completion') := by
  match hx : body k with
  | ⟨.error c, s, r, l⟩ =>
    match hy : onError c s with
    | ⟨.abort, s', r', l'⟩ =>
      have hh := hh c s
      rw [guarded_of_handler_abort hx hy]
      rw [hx] at hb
      rw [hy] at hh
      constructor
      case asked => exact hb.asked.append hh.asked
      case again =>
        intro j rs j' asked face
        rw [List.map_append] at face
        have ⟨rs₁, rs₂, rs_eq, face₁, face₂⟩ := List.map_eq_append_iff.mp face
        subst rs_eq
        have ⟨i, asked₁, asked₂⟩ := asked.split
        exact guarded_of_handler_abort (hb.again asked₁ face₁) (hh.again asked₂ face₂)
    | ⟨.ok (), _, _, _⟩ | ⟨.error _, _, _, _⟩ | ⟨.panic _, _, _, _⟩ =>
      exact guarded_of_ends hb hh hc (by simp [hx]) (by simp [hx, hy])
  | ⟨.ok a, _, _, _⟩ | ⟨.panic m, _, _, _⟩ =>
    exact guarded_of_ends hb hh hc (by simp [hx]) (by simp [Exit.handled, hx])
  | ⟨.abort, s, r, l⟩ =>
    rw [guarded_of_abort hx]
    rw [hx] at hb
    exact ⟨hb.asked, fun asked face => guarded_of_abort (hb.again asked face)⟩

end

end

end Echoed

end GuardedSum
