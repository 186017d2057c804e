import GuardedSum.Proofs.Block.Activation

namespace GuardedSum.Block

-- The nested blocks that a part gets to, and what is left of the part behind each.
inductive Part.Activates : Part → Int32 → Mode → Activation → Part → Prop
  | here {mode body handler completion next acc} :
    Activates (nested mode body handler completion next) acc mode
      ⟨⟨body, handler, completion⟩, acc⟩ next
  | log {text next acc mode x rest} :
    Activates next acc mode x rest → Activates (log text next) acc mode x rest
  | set {n next acc mode x rest} :
    Activates next n mode x rest → Activates (set n next) acc mode x rest
  | add {n next acc mode x rest} :
    Activates next (sum acc n) mode x rest → Activates (add n next) acc mode x rest
  | failAbove {limit e next acc mode x rest} :
    ¬limit < acc → Activates next acc mode x rest →
    Activates (failAbove limit e next) acc mode x rest
  | nested {mode' body handler completion next acc s r l mode x rest} :
    Activation.within ⟨⟨body, handler, completion⟩, acc⟩ mode' = ⟨.ok (), s, r, l⟩ →
    Activates next s mode x rest →
    Activates (nested mode' body handler completion next) acc mode x rest

theorem Part.Activates.run_eq {p rest : Part} {acc : Int32} {mode : Mode} {x : Activation}
    (h : p.Activates acc mode x rest) :
    ∃ r l, p.run acc = ((x.within mode).bind fun _ => rest.run).after r l := by
  induction h with
  | here => exact ⟨[], [], run_nested_within ..⟩
  | @log text next acc mode x rest _ ih =>
    have ⟨r, l, eq⟩ := ih
    exact ⟨.log text :: r, l, by rw [run_log, eq, Exit.after_after]; rfl⟩
  | set _ ih => exact ih
  | add _ ih => exact ih
  | failAbove below _ ih =>
    have ⟨r, l, eq⟩ := ih
    exact ⟨r, l, by rw [run_failAbove, if_neg below, eq]⟩
  | @nested _ _ _ _ _ _ s r' l' _ _ _ within _ ih =>
    have ⟨r, l, eq⟩ := ih
    exact ⟨r' ++ r, l' ++ l, by rw [run_nested_within, within, Exit.bind_ok, eq, Exit.after_after]⟩

inductive Role where
  | body
  | handler
  | completion
  deriving DecidableEq

structure Phase where
  activation : Activation
  role : Role
  deriving DecidableEq

namespace Phase

variable (f : Phase)

def part : Part :=
  match f.role with
  | .body => f.activation.block.body
  | .handler => f.activation.block.handler
  | .completion => f.activation.block.completion

def acc : Int32 :=
  match f.role with
  | .body => f.activation.acc
  | .handler => f.activation.body.state
  | .completion => f.activation.handler.state

def exit : Exit Event Int32 String Int32 :=
  f.part.run f.acc

-- The handler only runs if there is an error to handle.
def Runs : Prop :=
  f.role = .handler → ∃ e, f.activation.body.outcome = .error e

end Phase

-- The phases that a run gets to, each with those around it, from the inside out.
inductive Entered (root : Activation) : Phase → List Phase → Prop
  | root {role} : Phase.Runs ⟨root, role⟩ → Entered root ⟨root, role⟩ []
  | nested {f fs mode x rest role} :
    Entered root f fs → f.part.Activates f.acc mode x rest → Phase.Runs ⟨x, role⟩ →
    Entered root ⟨x, role⟩ (f :: fs)

section

variable {root x : Activation} {f : Phase} {mode : Mode} {rest : Part}

theorem Entered.runs {fs : List Phase} : Entered root f fs → f.Runs
  | .root runs | .nested _ _ runs => runs

theorem Phase.ends (runs : f.Runs) (ends : f.activation.exit.outcome ≠ .abort) :
    f.exit.outcome ≠ .abort := by
  obtain ⟨x, role⟩ := f
  change x.exit.outcome ≠ .abort at ends
  rw [Activation.exit_outcome ends] at ends
  have ⟨body, handler, completion⟩ := Guarded.ne_abort_of_verdict ends
  cases role with
  | body => exact body
  | handler =>
    have ⟨e, failed⟩ := runs rfl
    rw [Activation.handler_of_error failed] at handler
    exact mt Outcome.void_eq_abort.mpr handler
  | completion => exact mt Outcome.void_eq_abort.mpr completion

theorem Part.Activates.ends {p : Part} {acc : Int32} (h : p.Activates acc mode x rest)
    (ends : (p.run acc).outcome ≠ .abort) : x.exit.outcome ≠ .abort := by
  intro abort
  have ⟨r, l, eq⟩ := h.run_eq
  rw [eq] at ends
  apply ends
  simp [Activation.within, abort, Mode.passed, Exit.after]

theorem Entered.ends {fs : List Phase} (h : Entered root f fs)
    (ends : root.exit.outcome ≠ .abort) : f.activation.exit.outcome ≠ .abort := by
  induction h with
  | root _ => exact ends
  | nested entered activates _ ih => exact activates.ends (Phase.ends entered.runs ih)

end

namespace Activation

variable (x : Activation)

def handled (handler : Int32 → List Activation) : List Activation :=
  match x.body.outcome with
  | .error _ => handler x.body.state
  | _ => []

def among (body handler completion : Int32 → List Activation) : List Activation :=
  body x.acc ++ x.handled handler ++ x :: completion x.handler.state

def behind (mode : Mode) (next : Int32 → List Activation) : List Activation :=
  match (x.within mode).outcome with
  | .ok () => next x.exit.state
  | _ => []

end Activation

-- The activations that a part makes, those inside of others included. They come in the order in
-- which their completions begin.
def Part.activations : Part → Int32 → List Activation
  | done _, _ => []
  | log _ next, acc => next.activations acc
  | set n next, _ => next.activations n
  | add n next, acc => next.activations (sum acc n)
  | failAbove limit _ next, acc => if limit < acc then [] else next.activations acc
  | nested mode body handler completion next, acc =>
    let x : Activation := ⟨⟨body, handler, completion⟩, acc⟩
    x.among body.activations handler.activations completion.activations ++
      x.behind mode next.activations

namespace Activation

def activations (x : Activation) : List Activation :=
  x.among x.block.body.activations x.block.handler.activations x.block.completion.activations

theorem behind_of_ok {x : Activation} {mode : Mode} {next : Int32 → List Activation}
    (h : (x.within mode).outcome = .ok ()) : x.behind mode next = next x.exit.state := by
  simp [behind, h]

theorem behind_of_ne_ok {x : Activation} {mode : Mode} {next : Int32 → List Activation}
    (h : (x.within mode).outcome ≠ .ok ()) : x.behind mode next = [] := by
  unfold behind
  split
  case h_1 ok => exact absurd ok h
  case h_2 => rfl

theorem mem_behind {x y : Activation} {mode : Mode} {next : Int32 → List Activation} :
    y ∈ x.behind mode next ↔ (x.within mode).outcome = .ok () ∧ y ∈ next x.exit.state := by
  unfold behind
  cases (x.within mode).outcome <;> simp

theorem mem_handled {x y : Activation} {handler : Int32 → List Activation} :
    y ∈ x.handled handler ↔ (∃ e, x.body.outcome = .error e) ∧ y ∈ handler x.body.state := by
  unfold handled
  cases x.body.outcome <;> simp

theorem mem_activations {x y : Activation} :
    y ∈ x.activations ↔
      y = x ∨ ∃ role, Phase.Runs ⟨x, role⟩ ∧
        y ∈ (Phase.part ⟨x, role⟩).activations (Phase.acc ⟨x, role⟩) := by
  simp only [activations, among, List.mem_append, List.mem_cons, mem_handled]
  constructor
  case mp =>
    rintro ((body | ⟨failed, handler⟩) | (rfl | completion))
    · exact .inr ⟨.body, nofun, body⟩
    · exact .inr ⟨.handler, fun _ => failed, handler⟩
    · exact .inl rfl
    · exact .inr ⟨.completion, nofun, completion⟩
  case mpr =>
    rintro (rfl | ⟨_ | _ | _, runs, made⟩)
    · exact .inr (.inl rfl)
    · exact .inl (.inl made)
    · exact .inl (.inr ⟨runs rfl, made⟩)
    · exact .inr (.inr made)

end Activation

theorem Part.Activates.mem_activations {p rest : Part} {acc : Int32} {mode : Mode}
    {x y : Activation} (h : p.Activates acc mode x rest) (made : y ∈ x.activations) :
    y ∈ p.activations acc := by
  induction h with
  | here => exact List.mem_append_left _ made
  | log _ ih | set _ ih | add _ ih => exact ih made
  | failAbove below _ ih =>
    rw [activations, if_neg below]
    exact ih made
  | nested within _ ih =>
    have goes_on := congrArg Exit.outcome within
    have state_eq := congrArg Exit.state within
    exact List.mem_append_right _ (Activation.mem_behind.mpr ⟨goes_on, state_eq ▸ ih made⟩)

section

variable {root : Activation} {f : Phase} {fs : List Phase}

theorem Entered.mem_activations {y : Activation} (h : Entered root f fs) :
    y ∈ f.activation.activations → y ∈ root.activations := by
  induction h with
  | root _ => exact id
  | nested entered activates _ ih =>
    intro made
    have made := activates.mem_activations made
    exact ih (Activation.mem_activations.mpr (.inr ⟨_, entered.runs, made⟩))

theorem Entered.of_mem {p : Part} {acc : Int32} {y : Activation}
    (piece : ∀ {mode x rest}, p.Activates acc mode x rest → f.part.Activates f.acc mode x rest)
    (entered : Entered root f fs) (made : y ∈ p.activations acc) :
    ∃ gs, Entered root ⟨y, .body⟩ gs := by
  -- By induction on a piece of the part of the phase. What the piece gets to, the phase gets to.
  induction p generalizing acc f fs with
  | done _ => nomatch made
  | log _ _ ih => exact ih (piece ∘ .log) entered made
  | set _ _ ih => exact ih (piece ∘ .set) entered made
  | add _ _ ih => exact ih (piece ∘ .add) entered made
  | failAbove limit _ _ ih =>
    rw [Part.activations] at made
    split at made
    case isTrue => nomatch made
    case isFalse below => exact ih (piece ∘ .failAbove below) entered made
  | nested mode body handler completion next hb hh hc ih =>
    let x : Activation := ⟨⟨body, handler, completion⟩, acc⟩
    have activates : f.part.Activates f.acc mode x next := piece .here
    cases List.mem_append.mp made with
    | inl inside =>
      obtain rfl | ⟨role, runs, made⟩ := Activation.mem_activations (x := x).mp inside
      case inl => exact ⟨_, .nested entered activates nofun⟩
      case inr =>
        have entered : Entered root ⟨x, role⟩ (f :: fs) := .nested entered activates runs
        cases role with
        | body => exact hb id entered made
        | handler => exact hh id entered made
        | completion => exact hc id entered made
    | inr behind =>
      have ⟨goes_on, made⟩ := Activation.mem_behind.mp behind
      have within : x.within mode = ⟨.ok (), x.exit.state, _, _⟩ :=
        congrArg (Exit.mk · _ _ _) goes_on
      exact ih (piece ∘ .nested within) entered made

-- What is collected is what the run gets to.
theorem mem_activations_iff_entered {y : Activation} :
    y ∈ root.activations ↔ ∃ fs, Entered root ⟨y, .body⟩ fs := by
  constructor
  case mp =>
    intro made
    obtain rfl | ⟨role, runs, made⟩ := Activation.mem_activations.mp made
    case inl => exact ⟨[], .root nofun⟩
    case inr => exact Entered.of_mem id (.root runs) made
  case mpr =>
    intro ⟨fs, entered⟩
    exact entered.mem_activations (Activation.mem_activations.mpr (.inl rfl))

end

end GuardedSum.Block
