import GuardedSum.Proofs.Guarded.TryCatchFinally

namespace GuardedSum

variable {τ σ ς ε ζ α β : Type}

namespace Action

-- Does actions one after another, until one of them fails.
def inTurn (xs : List (Action τ σ ε Unit)) : Action τ σ ε Unit :=
  xs.forM id

-- Keeps, beside the state, every state that it was run on.
def watched (x : Action τ σ ε α) : Action τ (σ × List σ) ε α :=
  fun p => (x p.1).mapState (·, p.2 ++ [p.1])

section

variable (get : ς → σ) (set : σ → ς → ς) (get_set : ∀ s p, get (set s p) = s)
variable (set_set : ∀ s s' p, set s (set s' p) = set s p) (set_get : ∀ p, set (get p) p = p)

include get_set set_set

theorem onPart_bind (x : Action τ σ ε α) (f : α → Action τ σ ε β) :
    (x >>= f).onPart get set = x.onPart get set >>= fun a => (f a).onPart get set := by
  funext p
  rw [bind_apply, onPart_apply, onPart_apply, bind_apply]
  match x (get p) with
  | ⟨.ok a, s, r, l⟩ => simp [Exit.mapState, Exit.after, onPart_apply, get_set, set_set]
  | ⟨.error _, _, _, _⟩ | ⟨.panic _, _, _, _⟩ | ⟨.abort, _, _, _⟩ => rfl

include set_get

-- To act on a part again and again is to act on it once, with all that is to be done.
theorem inTurn_onPart (xs : List (Action τ σ ε Unit)) :
    inTurn (xs.map (·.onPart get set)) = (inTurn xs).onPart get set := by
  induction xs with
  | nil =>
    funext p
    simp [inTurn, onPart_apply, Exit.mapState, set_get]
  | cons x xs ih =>
    exact (congrArg (x.onPart get set >>= fun _ => ·) ih).trans
      (onPart_bind get set get_set set_set x fun _ => inTurn xs).symm

end

theorem inTurn_beside {κ : Type} (xs : List (Action τ σ ε Unit)) :
    inTurn (xs.map (beside (κ := κ))) = (inTurn xs).beside :=
  inTurn_onPart Prod.fst (fun s p => (s, p.2)) (fun _ _ => rfl) (fun _ _ _ => rfl) (fun _ => rfl) xs

end Action

-- The end of a scope after whose exit the step of a completion is run, since it is still owed.
-- What the step returns is lost.
def Exit.dropping (e : Exit τ σ ζ β) (step : Action τ σ ε α) : Exit τ σ ζ β where
  outcome := e.outcome.afterCleanup (step e.state).outcome.discard
  state := (step e.state).state
  record := e.record ++ (step e.state).record
  log := e.log ++ Completion.dropped :: (step e.state).log

namespace Completion

open GuardedSum.Action

theorem inTurn_access (xs : List (Action τ σ ζ Unit)) :
    inTurn (xs.map access) = (access (inTurn xs) : Action τ (Completion τ σ ε α) ζ Unit) :=
  inTurn_onPart state (fun s g => { g with state := s }) (fun _ _ => rfl) (fun _ _ _ => rfl)
    (fun _ => rfl) xs

variable (mutations : List (Action τ σ ζ Unit)) (step : Action τ σ ε α)

def finishing : Action τ σ ζ (Except ε α) :=
  guarding step do
    inTurn (mutations.map access)
    finish.attempt

def leaving (way : Outcome ζ Unit) : Action τ σ ζ Unit :=
  guarding step do
    inTurn (mutations.map access)
    .ofOutcome way

variable {mutations step} {s : σ}

-- The step stays owed while the state is mutated. If what follows does not take it either, it runs
-- when the scope is left.
theorem guarding_of_owed {x : Action τ (Completion τ σ ε α) ζ β} {y : Action τ σ ζ β}
    (mutated : (inTurn mutations s).outcome ≠ .abort)
    (owed : (inTurn mutations s).outcome = .ok () →
      ∀ s', x ⟨s', some step⟩ = (y s').mapState (⟨·, some step⟩) ∧ (y s').outcome ≠ .abort) :
    guarding step (do inTurn (mutations.map access); x) s =
      ((inTurn mutations s).bind fun () => y).dropping step := by
  have ends : ((inTurn mutations s).bind fun () => y).outcome ≠ .abort := by
    match h : inTurn mutations s with
    | ⟨.ok (), s', _, _⟩ => exact (owed (by rw [h]) s').2
    | ⟨.error _, _, _, _⟩ | ⟨.panic _, _, _, _⟩ => nofun
    | ⟨.abort, _, _, _⟩ => exact absurd (congrArg Exit.outcome h) mutated
  have still_owed :
      (do inTurn (mutations.map access); x : Action τ (Completion τ σ ε α) ζ β) (new s step) =
        ((inTurn mutations s).bind fun () => y).mapState (⟨·, some step⟩) := by
    rw [inTurn_access, bind_apply, access_apply]
    match h : inTurn mutations s with
    | ⟨.ok (), s', _, _⟩ => exact congrArg (Exit.after _ _) (owed (by rw [h]) s').1
    | ⟨.error _, _, _, _⟩ | ⟨.panic _, _, _, _⟩ | ⟨.abort, _, _, _⟩ => rfl
  unfold guarding scope
  rw [ensuring_of_ne_abort (by rwa [still_owed]), still_owed]
  rfl

theorem leaving_eq {way : Outcome ζ Unit} (mutated : (inTurn mutations s).outcome ≠ .abort)
    (left : way ≠ .abort) :
    leaving mutations step way s =
      ((inTurn mutations s).bind fun () => ofOutcome way).dropping step :=
  guarding_of_owed mutated fun _ _ => ⟨rfl, left⟩

theorem finishing_of_ok (mutated : (inTurn mutations s).outcome = .ok ()) :
    finishing mutations step s =
      (step.attempt (inTurn mutations s).state).after (inTurn mutations s).record
        (inTurn mutations s).log := by
  have finished : (do inTurn (mutations.map access); finish.attempt :
      Action τ (Completion τ σ ε α) ζ (Except ε α)) (new s step) =
        ((step.attempt (inTurn mutations s).state).after (inTurn mutations s).record
          (inTurn mutations s).log).mapState (⟨·, none⟩) := by
    rw [inTurn_access, bind_apply, access_apply, new]
    generalize inTurn mutations s = m at mutated
    obtain ⟨_, _, _, _⟩ := m
    obtain rfl : _ = Outcome.ok () := mutated
    simp [Exit.mapState, Exit.after, attempt_apply]
  unfold finishing guarding
  rw [scope_of_step_eq_none (by rw [finished]; rfl), finished]
  rfl

theorem finishing_of_ne_ok (mutated : (inTurn mutations s).outcome ≠ .abort)
    (failed : (inTurn mutations s).outcome ≠ .ok ()) :
    finishing mutations step s =
      ((inTurn mutations s).bind fun () => step.attempt).dropping step :=
  guarding_of_owed mutated fun mutations_ok => absurd mutations_ok failed

theorem leaving_state {way : Outcome ζ Unit} (mutated : (inTurn mutations s).outcome ≠ .abort)
    (left : way ≠ .abort) :
    (leaving mutations step way s).state = (step (inTurn mutations s).state).state := by
  rw [leaving_eq mutated left]
  match inTurn mutations s with
  | ⟨.ok (), _, _, _⟩ | ⟨.error _, _, _, _⟩ | ⟨.panic _, _, _, _⟩ | ⟨.abort, _, _, _⟩ => rfl

theorem finishing_state (mutated : (inTurn mutations s).outcome ≠ .abort) :
    (finishing mutations step s).state = (step (inTurn mutations s).state).state := by
  match h : inTurn mutations s with
  | ⟨.ok (), _, _, _⟩ =>
    rw [finishing_of_ok (by rw [h]), attempt_apply, h]
    rfl
  | ⟨.error _, _, _, _⟩ | ⟨.panic _, _, _, _⟩ =>
    rw [finishing_of_ne_ok mutated (by rw [h]; nofun), h]
    rfl
  | ⟨.abort, _, _, _⟩ => exact absurd (congrArg Exit.outcome h) mutated

-- However a completion ends, its step runs once, on the state that the mutations left, and so comes
-- to the same state. Only finishing hands on what the step returns, and only a drop is logged. The
-- drop at the end of finishing does nothing, whatever the step came to.
theorem step_runs_once (s : σ) (mutations : List (Action τ σ ζ Unit)) (step : Action τ σ ε α)
    (way : Outcome ζ Unit) (mutated : (inTurn mutations s).outcome ≠ .abort)
    (left : way ≠ .abort) :
    let m := inTurn mutations s
    let r := step m.state
    let g := (inTurn (mutations.map access) (new s step)).state
    let finished := finishing mutations step s
    let abandoned := leaving mutations step way s
    (finished.state = r.state ∧ abandoned.state = r.state) ∧
      (finishing (mutations.map beside) step.watched (s, [])).state = (r.state, [m.state]) ∧
      (leaving (mutations.map beside) step.watched way (s, [])).state = (r.state, [m.state]) ∧
      (m.outcome = .ok () → finished = (step.attempt m.state).after m.record m.log) ∧
      (m.outcome ≠ .ok () → finished = (m.bind fun () => step.attempt).dropping step) ∧
      abandoned = (m.bind fun () => ofOutcome way).dropping step ∧
      finish g = r.mapState (⟨·, none⟩) ∧
      drop g = { outcome := r.outcome.discard, state := ⟨r.state, none⟩, record := r.record,
                 log := dropped :: r.log } := by
  intro m r g finished _
  have watched_eq : inTurn (mutations.map beside) (s, []) = m.mapState (·, ([] : List σ)) := by
    rw [inTurn_beside]
    rfl
  have watched_ends : (inTurn (mutations.map beside) (s, ([] : List σ))).outcome ≠ .abort := by
    rwa [watched_eq]
  have g_eq : g = ⟨m.state, some step⟩ := by
    unfold g
    rw [inTurn_access]
    rfl
  refine ⟨⟨finishing_state mutated, leaving_state mutated left⟩, ?watched_finishing,
    ?watched_leaving, finishing_of_ok, finishing_of_ne_ok mutated, leaving_eq mutated left,
    ?finish, ?drop⟩
  case watched_finishing =>
    rw [finishing_state watched_ends, watched_eq]
    rfl
  case watched_leaving =>
    rw [leaving_state watched_ends left, watched_eq]
    rfl
  case finish => rw [g_eq, finish_some]
  case drop => rw [g_eq, drop_some]

theorem step_runs_once_panicking :
    let mutations : List (Action String Nat String Unit) := [.modify (· + 1), .modify (· * 10)]
    let step : Action String Nat String Nat := do
      .note "step"
      .modify (· + 2)
      .ofOutcome (.panic "late")
    let way : Outcome String Unit := .error "early"
    (inTurn mutations 2).outcome ≠ .abort ∧ way ≠ .abort ∧
      finishing mutations step 2 = ⟨.panic "late", 32, ["step"], []⟩ ∧
      leaving mutations step way 2 = ⟨.panic "late", 32, ["step"], [dropped]⟩ ∧
      (finishing (mutations.map beside) step.watched (2, [])).state = (32, [30]) ∧
      (leaving (mutations.map beside) step.watched way (2, [])).state = (32, [30]) := by
  intro mutations step way
  have mutated : (inTurn mutations 2).outcome ≠ .abort := nofun
  have left : way ≠ .abort := nofun
  obtain ⟨-, finishing_watched, leaving_watched, finishing_eq, -, leaving_eq, -⟩ :=
    step_runs_once 2 mutations step way mutated left
  exact ⟨mutated, left, finishing_eq rfl, leaving_eq, finishing_watched, leaving_watched⟩

end Completion

end GuardedSum
