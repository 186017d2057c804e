import GuardedSum.Log.Entry
import GuardedSum.Outcome

namespace GuardedSum

-- What an action leaves behind: `τ` is what it records, `σ` the state, `ε` and `α` its ends. No one
-- reads the record and the log back while it runs, and both only grow at the end.
structure Exit (τ σ ε α : Type) where
  outcome : Outcome ε α
  state : σ
  record : List τ := []
  log : List Log.Entry := []

def Action (τ σ ε α : Type) : Type :=
  σ → Exit τ σ ε α

variable {τ ρ σ ς ε ζ α β : Type}

namespace Exit

def after (record : List τ) (log : List Log.Entry) (e : Exit τ σ ε α) : Exit τ σ ε α :=
  { e with record := record ++ e.record, log := log ++ e.log }

def mapState (f : σ → ς) (e : Exit τ σ ε α) : Exit τ ς ε α :=
  { e with state := f e.state }

-- Goes on with the value, if there is one; every other end is final.
def bind (e : Exit τ σ ε α) (f : α → Action τ σ ε β) : Exit τ σ ε β :=
  match e.outcome with
  | .ok a => (f a e.state).after e.record e.log
  | .error c => { e with outcome := .error c }
  | .panic m => { e with outcome := .panic m }
  | .abort => { e with outcome := .abort }

end Exit

namespace Action

instance : Monad (Action τ σ ε) where
  pure a := fun s => { outcome := .ok a, state := s }
  bind x f := fun s => (x s).bind f

def ofOutcome (o : Outcome ε α) : Action τ σ ε α :=
  fun s => { outcome := o, state := s }

def throw (cause : ε) : Action τ σ ε α :=
  ofOutcome (.error cause)

def ofExcept (x : Except ε α) : Action τ σ ε α :=
  ofOutcome (.ofExcept x)

def get : Action τ σ ε σ :=
  fun s => { outcome := .ok s, state := s }

def modify (f : σ → σ) : Action τ σ ε Unit :=
  fun s => { outcome := .ok (), state := f s }

def note (item : τ) : Action τ σ ε Unit :=
  fun s => { outcome := .ok (), state := s, record := [item] }

def emit (entry : Log.Entry) : Action τ σ ε Unit :=
  fun s => { outcome := .ok (), state := s, log := [entry] }

def inSpan (span : Log.Span) (x : Action τ σ ε α) : Action τ σ ε α :=
  fun s => let e := x s; { e with log := e.log.map (·.within span) }

def mapError (f : ε → ζ) (x : Action τ σ ε α) : Action τ σ ζ α :=
  fun s => let e := x s; { e with outcome := e.outcome.mapError f }

def onPart (get : ς → σ) (set : σ → ς → ς) (x : Action τ σ ε α) : Action τ ς ε α :=
  fun s => (x (get s)).mapState (set · s)

def discard (x : Action τ σ ε α) : Action τ σ Empty Unit :=
  fun s => let e := x s; { e with outcome := e.outcome.discard }

-- Makes an error a value. A panic goes on unwinding.
def attempt (x : Action τ σ ε α) : Action τ σ ζ (Except ε α) :=
  fun s =>
    let e := x s
    match e.outcome with
    | .ok a => { e with outcome := .ok (.ok a) }
    | .error c => { e with outcome := .ok (.error c) }
    | .panic m => { e with outcome := .panic m }
    | .abort => { e with outcome := .abort }

-- Makes an error or a panic a value. Only an abort goes on.
def observe (x : Action τ σ ε α) : Action τ σ ζ (Outcome ε α) :=
  fun s =>
    let e := x s
    match e.outcome with
    | .abort => { e with outcome := .abort }
    | o => { e with outcome := .ok o }

-- Runs a cleanup on every way out of an action: after a value, after an error, and while a panic
-- unwinds. After an abort nothing runs any more.
def ensuring (x : Action τ σ ε α) (cleanup : Action τ σ Empty Unit) : Action τ σ ε α :=
  fun s =>
    let e := x s
    match e.outcome with
    | .abort => e
    | o =>
      -- There is no rollback: the cleanup starts from the state that the action left.
      let c := (cleanup e.state).after e.record e.log
      { c with outcome := o.afterCleanup c.outcome }

-- Runs actions one after another on one state, each from what the one before it left, however that
-- ended. After an abort the rest do not run.
def runEach (s : σ) : List (Action τ σ ε α) → List (Exit τ σ ε α)
  | [] => []
  | x :: xs =>
    let e := x s
    match e.outcome with
    | .abort => [e]
    | _ => e :: runEach e.state xs

section Lemmas

variable (s : σ)

@[simp]
theorem pure_apply (a : α) :
    (pure a : Action τ σ ε α) s = { outcome := .ok a, state := s } :=
  rfl

@[simp]
theorem bind_apply (x : Action τ σ ε α) (f : α → Action τ σ ε β) : (x >>= f) s = (x s).bind f :=
  rfl

@[simp]
theorem map_apply (f : α → β) (x : Action τ σ ε α) :
    (f <$> x) s = (x s).bind fun a => pure (f a) :=
  rfl

@[simp]
theorem ofOutcome_apply (o : Outcome ε α) :
    (ofOutcome o : Action τ σ ε α) s = { outcome := o, state := s } :=
  rfl

@[simp]
theorem throw_apply (c : ε) :
    (throw c : Action τ σ ε α) s = { outcome := .error c, state := s } :=
  rfl

@[simp]
theorem get_apply : (get : Action τ σ ε σ) s = { outcome := .ok s, state := s } :=
  rfl

@[simp]
theorem modify_apply (f : σ → σ) :
    (modify f : Action τ σ ε Unit) s = { outcome := .ok (), state := f s } :=
  rfl

@[simp]
theorem note_apply (item : τ) :
    (note item : Action τ σ ε Unit) s = { outcome := .ok (), state := s, record := [item] } :=
  rfl

@[simp]
theorem emit_apply (entry : Log.Entry) :
    (emit entry : Action τ σ ε Unit) s = { outcome := .ok (), state := s, log := [entry] } :=
  rfl

theorem onPart_apply (get : σ → ς) (set : ς → σ → σ) (x : Action τ ς ε α) :
    x.onPart get set s = (x (get s)).mapState (set · s) :=
  rfl

theorem attempt_apply (x : Action τ σ ε α) :
    (x.attempt : Action τ σ ζ (Except ε α)) s =
      { x s with
        outcome := match (x s).outcome with
          | .ok a => .ok (.ok a)
          | .error c => .ok (.error c)
          | .panic m => .panic m
          | .abort => .abort } := by
  unfold attempt
  dsimp only
  split <;> simp_all

variable {s}

theorem ensuring_of_abort {x : Action τ σ ε α} {cleanup : Action τ σ Empty Unit}
    (h : (x s).outcome = .abort) : x.ensuring cleanup s = x s := by
  simp [ensuring, h]

theorem ensuring_of_ne_abort {x : Action τ σ ε α} {cleanup : Action τ σ Empty Unit}
    (h : (x s).outcome ≠ .abort) :
    x.ensuring cleanup s =
      { (cleanup (x s).state).after (x s).record (x s).log with
        outcome := (x s).outcome.afterCleanup (cleanup (x s).state).outcome } := by
  unfold ensuring
  dsimp only
  split
  · contradiction
  · rfl

variable {x : Action τ σ ε α} {xs : List (Action τ σ ε α)}

theorem runEach_of_abort (h : (x s).outcome = .abort) : runEach s (x :: xs) = [x s] := by
  simp [runEach, h]

theorem runEach_of_ne_abort (h : (x s).outcome ≠ .abort) :
    runEach s (x :: xs) = x s :: runEach (x s).state xs := by
  cases hx : (x s).outcome with
  | abort => exact absurd hx h
  | _ => simp [runEach, hx]

theorem length_runEach_le (s : σ) (xs : List (Action τ σ ε α)) :
    (runEach s xs).length ≤ xs.length := by
  induction xs generalizing s with
  | nil => exact Nat.le_refl 0
  | cons x xs ih =>
    by_cases h : (x s).outcome = .abort
    · simp [runEach_of_abort h]
    · simp [runEach_of_ne_abort h, ih]

theorem getLast?_runEach_of_abort {e : Exit τ σ ε α} (mem : e ∈ runEach s xs)
    (h : e.outcome = .abort) : (runEach s xs).getLast? = some e := by
  induction xs generalizing s with
  | nil => nomatch mem
  | cons x xs ih =>
    by_cases hx : (x s).outcome = .abort
    case pos =>
      rw [runEach_of_abort hx, List.mem_singleton] at mem
      rw [runEach_of_abort hx, mem, List.getLast?_singleton]
    case neg =>
      rw [runEach_of_ne_abort hx] at mem
      rw [runEach_of_ne_abort hx]
      cases mem with
      | head => exact absurd h hx
      | tail _ mem => rw [List.getLast?_cons, ih mem, Option.getD_some]

theorem exists_of_mem_zip_runEach {e : Exit τ σ ε α} (h : (x, e) ∈ xs.zip (runEach s xs)) :
    ∃ s', e = x s' := by
  induction xs generalizing s with
  | nil => nomatch h
  | cons y ys ih =>
    by_cases hy : (y s).outcome = .abort
    · rw [runEach_of_abort hy, List.zip_cons_cons, List.zip_nil_right, List.mem_singleton] at h
      cases h
      exact ⟨s, rfl⟩
    · rw [runEach_of_ne_abort hy, List.zip_cons_cons, List.mem_cons] at h
      cases h with
      | inl h =>
        cases h
        exact ⟨s, rfl⟩
      | inr h => exact ih h

end Lemmas

end Action

namespace Exit

@[simp]
theorem bind_ok (s : σ) (r : List τ) (l : List Log.Entry) (a : α) (f : α → Action τ σ ε β) :
    (⟨.ok a, s, r, l⟩ : Exit τ σ ε α).bind f = (f a s).after r l :=
  rfl

@[simp]
theorem bind_error (s : σ) (r : List τ) (l : List Log.Entry) (c : ε) (f : α → Action τ σ ε β) :
    (⟨.error c, s, r, l⟩ : Exit τ σ ε α).bind f = ⟨.error c, s, r, l⟩ :=
  rfl

@[simp]
theorem bind_panic (s : σ) (r : List τ) (l : List Log.Entry) (m : String)
    (f : α → Action τ σ ε β) :
    (⟨.panic m, s, r, l⟩ : Exit τ σ ε α).bind f = ⟨.panic m, s, r, l⟩ :=
  rfl

@[simp]
theorem bind_abort (s : σ) (r : List τ) (l : List Log.Entry) (f : α → Action τ σ ε β) :
    (⟨.abort, s, r, l⟩ : Exit τ σ ε α).bind f = ⟨.abort, s, r, l⟩ :=
  rfl

@[simp]
theorem after_nil (e : Exit τ σ ε α) : e.after [] [] = e :=
  rfl

theorem after_after (r₁ r₂ : List τ) (l₁ l₂ : List Log.Entry) (e : Exit τ σ ε α) :
    (e.after r₂ l₂).after r₁ l₁ = e.after (r₁ ++ r₂) (l₁ ++ l₂) := by
  simp [after]

theorem bind_log_eq_nil {e : Exit τ σ ε α} {f : α → Action τ σ ε β} (h : e.log = [])
    (hf : ∀ a s, (f a s).log = []) : (e.bind f).log = [] := by
  obtain ⟨o, s, r, l⟩ := e
  obtain rfl : l = [] := h
  cases o with
  | ok a => exact hf a s
  | _ => rfl

theorem bind_after (r : List τ) (l : List Log.Entry) (e : Exit τ σ ε α)
    (f : α → Action τ σ ε β) : (e.after r l).bind f = (e.bind f).after r l := by
  obtain ⟨o, s, r', l'⟩ := e
  cases o <;> simp [after, bind]

end Exit

instance : LawfulMonad (Action τ σ ε) :=
  LawfulMonad.mk' _
    (fun x => by
      funext s
      change (x s).bind (fun a => pure a) = x s
      obtain ⟨o, s', r, l⟩ := x s
      cases o <;> simp [Exit.after])
    (fun _ _ => rfl)
    (fun x f g => by
      funext s
      change ((x s).bind f).bind g = (x s).bind fun a => f a >>= g
      obtain ⟨o, s', r, l⟩ := x s
      cases o <;> simp [Exit.bind_after])

end GuardedSum
