import GuardedSum.Completion.Registry

namespace GuardedSum.Completion

open GuardedSum.Action
open scoped List

-- What the step of a completion records when it runs, which is nothing if it is owed no more.
def ran (g : Completion Block.Event Int32 String Int32) : List Block.Event :=
  g.step.elim [] fun step => (step g.state).record

@[simp]
theorem drop_record (g : Named) : (drop g).record = ran g := by
  obtain ⟨_, _ | _⟩ := g <;> rfl

@[simp]
theorem finish_record (g : Named) : (finish g).record = ran g := by
  obtain ⟨s, _ | step⟩ := g
  case none => rfl
  case some => simp [ran, Exit.mapState]

namespace Registry

abbrev Owed :=
  List (String × Option (Action Block.Event Int32 String Int32))

variable {ε α β : Type} {r gone left : Registry} {fresh : Owed} {id : String} {g : Named}

-- The steps that are owed, with the names of their completions.
def owed (r : Registry) : Owed :=
  r.map fun (id, g) => (id, g.step)

@[simp]
theorem owed_nil : owed [] = [] :=
  rfl

@[simp]
theorem owed_cons : owed ((id, g) :: r) = (id, g.step) :: owed r :=
  rfl

@[simp]
theorem owed_append (r r' : Registry) : owed (r ++ r') = owed r ++ owed r' :=
  List.map_append

def Distinct (r : Registry) : Prop :=
  ((owed r).map Prod.fst).Nodup

theorem Distinct.sublist {r' : Registry} (h : Distinct r) (sub : (owed r').Sublist (owed r)) :
    Distinct r' :=
  List.Nodup.sublist (sub.map Prod.fst) h

theorem Distinct.split (distinct : Distinct r) (found : r.lookup id = some g) :
    ∃ front back, r = front ++ (id, g) :: back ∧ r.filter (·.1 ≠ id) = front ++ back := by
  have ⟨front, back, r_eq, before⟩ := List.lookup_eq_some_iff.mp found
  have others : ∀ p ∈ front ++ back, p.1 ≠ id := by
    grind [Distinct, owed, List.nodup_append]
  have kept : (front ++ back).filter (·.1 ≠ id) = front ++ back :=
    List.filter_eq_self.mpr (by simpa using others)
  refine ⟨front, back, r_eq, ?_⟩
  rw [r_eq, List.filter_append, List.filter_cons_of_neg (by simp), ← List.filter_append, kept]

theorem Distinct.eq_of_mem {h : Named} (distinct : Distinct r) (found : r.lookup id = some g)
    (mem : (id, h) ∈ r) : h = g := by
  have ⟨front, back, r_eq, rest_eq⟩ := distinct.split found
  have unlisted : (id, h) ∉ front ++ back := by simp [← rest_eq]
  grind

theorem Distinct.owed_replace {g' : Named} (distinct : Distinct r)
    (found : r.lookup id = some g) (same : g'.step = g.step) :
    owed (r.map fun (name, h) => (name, if name = id then g' else h)) = owed r := by
  unfold owed
  rw [List.map_map]
  refine List.map_congr_left fun (name, h) mem => ?_
  by_cases eq : name = id
  case pos =>
    subst eq
    simp [same, distinct.eq_of_mem found mem]
  case neg => simp [eq]

-- What an exit does to the completions that there were, new ones among them. Some have gone, and
-- their steps ran one after another; the others are left, and their steps are still owed.
structure Spends (fresh : Owed) (r : Registry) (e : Exit Block.Event Registry Refusal α)
    (gone left : Registry) : Prop where
  record : e.record = gone.flatMap (ran ·.2)
  once : owed gone ++ owed left ~ fresh ++ owed r
  gone_sublist : (owed gone).Sublist (owed r)
  left_sublist : (owed left).Sublist (fresh ++ owed r)
  distinct : Distinct left
  -- Only an abort can lose some.
  left_eq : e.outcome ≠ .abort → left = e.state

theorem Spends.answered {e : Exit Block.Event Registry Refusal α} (h : Spends fresh r e gone left)
    (f : α → β) : Spends fresh r (e.bind fun a => pure (f a)) gone left := by
  obtain ⟨o, s, rec, l⟩ := e
  cases o with
  | ok a =>
    exact { h with
      record := by simpa [Exit.after] using h.record
      left_eq := fun _ => h.left_eq nofun }
  | error | panic => exact { h with left_eq := fun _ => h.left_eq nofun }
  | abort => exact { h with left_eq := fun ends => absurd rfl ends }

theorem Spends.still {e : Exit Block.Event Registry Refusal α} (distinct : Distinct r)
    (record : e.record = []) (owed_eq : owed e.state = owed r) : Spends [] r e [] e.state where
  record := record
  once := by simp [owed_eq]
  gone_sublist := List.nil_sublist _
  left_sublist := by simp [owed_eq]
  distinct := distinct.sublist (by simp [owed_eq])
  left_eq _ := rfl

theorem access_spends (distinct : Distinct r) {x : Action Block.Event Int32 Refusal α}
    (silent : ∀ s, (x s).record = []) :
    Spends [] r (access id x r) [] (access id x r).state := by
  unfold access
  match found : r.lookup id with
  | none => exact .still distinct rfl rfl
  | some g => exact .still distinct (silent _) (distinct.owed_replace found rfl)

theorem consume_spends (distinct : Distinct r) (id : String) {x : Action Block.Event Named ε α}
    (x_record : ∀ g, (x g).record = ran g) :
    ∃ gone left, Spends [] r (consume id x r) gone left := by
  unfold consume
  match found : r.lookup id with
  | none => exact ⟨[], r, .still distinct rfl rfl⟩
  | some g =>
    have ⟨front, back, r_eq, rest_eq⟩ := distinct.split found
    refine ⟨[(id, g)], front ++ back, ?_⟩
    constructor
    case record => simp [Exit.mapState, attempt_apply, x_record]
    case once => simpa [r_eq] using List.perm_middle.symm
    case gone_sublist => simp [r_eq]
    case left_sublist => simp [r_eq]
    case distinct => exact distinct.sublist (by simp [r_eq])
    case left_eq => exact fun _ => rest_eq.symm

section

variable {x : Action Block.Event Unit ε α} {gs : List Named} {m : String}

theorem enclose_of_ne_abort (h : (x ()).outcome ≠ .abort) :
    enclose x g () =
      { outcome := (x ()).outcome.afterCleanup (drop g).outcome
        state := ()
        record := (x ()).record ++ ran g
        log := (x ()).log ++ (drop g).log } := by
  have inner : (x.onPart (fun _ : Named => ()) (fun _ h => h) g).outcome ≠ .abort := h
  refine (congrArg (Exit.mapState fun _ => ()) (ensuring_of_ne_abort inner)).trans ?_
  simp [Exit.mapState, Exit.after, onPart_apply]

theorem foldl_enclose_of_abort (h : (x ()).outcome = .abort) :
    gs.foldl enclose x () = x () := by
  induction gs generalizing x with
  | nil => rfl
  | cons g gs ih =>
    have inner : (x.onPart (fun _ : Named => ()) (fun _ h => h) g).outcome = .abort := h
    have enclosed : enclose x g () = x () :=
      congrArg (Exit.mapState fun _ => ()) (ensuring_of_abort inner)
    rw [List.foldl_cons, ih (enclosed ▸ h), enclosed]

-- A panic goes outwards through the scopes, and runs the steps on its way.
theorem foldl_enclose (h : (x ()).outcome = .panic m) (r : Registry) :
    let e := (r.map (·.2)).foldl enclose x ()
    ∃ gone left, r = gone ++ left ∧
      e.record = (x ()).record ++ gone.flatMap (ran ·.2) ∧
      (e.outcome = .panic m ∧ left = [] ∨ e.outcome = .abort) := by
  induction r generalizing x with
  | nil => exact ⟨[], [], rfl, (List.append_nil _).symm, .inl ⟨h, rfl⟩⟩
  | cons p r ih =>
    have enclosed : enclose x p.2 () = _ := enclose_of_ne_abort (by rw [h]; nofun)
    have outcome_eq : (enclose x p.2 ()).outcome = .afterCleanup (.panic m) (drop p.2).outcome := by
      rw [enclosed, h]
    have record_eq : (enclose x p.2 ()).record = (x ()).record ++ ran p.2 := by rw [enclosed]
    rw [List.map_cons, List.foldl_cons]
    match hd : (drop p.2).outcome with
    | .ok () =>
      rw [hd] at outcome_eq
      have ⟨gone, left, r_eq, rest_eq, ends⟩ := ih outcome_eq
      refine ⟨p :: gone, left, congrArg (p :: ·) r_eq, ?_, ends⟩
      rw [rest_eq, record_eq, List.flatMap_cons, List.append_assoc]
    | .panic _ | .abort =>
      -- The scopes further out are not left any more.
      rw [hd] at outcome_eq
      rw [foldl_enclose_of_abort outcome_eq]
      exact ⟨[p], r, rfl, by rw [record_eq, List.flatMap_singleton], .inr outcome_eq⟩

end

theorem unwind_runs (r : Registry) (message : String) :
    let e := unwind message r
    ∃ gone left, r = gone ++ left ∧ e.record = gone.flatMap (ran ·.2) ∧
      (e.outcome = .panic message ∧ left = [] ∨ e.outcome = .abort) :=
  foldl_enclose (x := ofOutcome (.panic message)) rfl r

theorem unwind_spends (distinct : Distinct r) (message : String) :
    ∃ gone left, Spends [] r (unwind message r) gone left := by
  have ⟨gone, left, r_eq, record_eq, ends⟩ := unwind_runs r message
  refine ⟨gone, left, ?_⟩
  constructor
  case record => exact record_eq
  case once => simp [r_eq]
  case gone_sublist => simp [r_eq]
  case left_sublist => simp [r_eq]
  case distinct => exact distinct.sublist (by simp [r_eq])
  case left_eq =>
    intro not_aborted
    match ends with
    | .inl ⟨_, left_eq⟩ => exact left_eq
    | .inr aborted => exact absurd aborted not_aborted

def made (c : Command) (e : Exit Block.Event Registry Refusal Answer) : Owed :=
  match c, e.outcome with
  | .new id acc step, .ok _ => [(id, (ofPart acc step).step)]
  | _, _ => []

theorem perform_new_of_any {acc : Int32} {step : Block.Part} (inUse : r.any (·.1 = id)) :
    perform (.new id acc step) r = { outcome := .error .inUse, state := r } := by
  simp [perform, inUse]

theorem perform_new_of_not_any {acc : Int32} {step : Block.Part} (unused : ¬r.any (·.1 = id)) :
    perform (.new id acc step) r =
      { outcome := .ok .done, state := (id, ofPart acc step) :: r } := by
  simp [perform, unused]

theorem new_spends (distinct : Distinct r) (id : String) (acc : Int32) (step : Block.Part) :
    let e := perform (.new id acc step) r
    Spends (made (.new id acc step) e) r e [] e.state := by
  by_cases inUse : r.any (·.1 = id)
  case pos =>
    rw [perform_new_of_any inUse]
    exact .still distinct rfl rfl
  case neg =>
    have unlisted : ∀ g, (id, g) ∉ r := by simpa using inUse
    rw [perform_new_of_not_any inUse]
    constructor
    case record => rfl
    case once => exact .refl _
    case gone_sublist => exact List.nil_sublist _
    case left_sublist => exact .refl _
    case distinct => grind [Distinct, owed]
    case left_eq => exact fun _ => rfl

theorem perform_spends (distinct : Distinct r) (c : Command) :
    let e := perform c r
    ∃ gone left, Spends (made c e) r e gone left := by
  cases c with
  | new id acc step => exact ⟨[], _, new_spends distinct id acc step⟩
  | get id => exact ⟨[], _, access_spends distinct fun _ => rfl⟩
  | set id n => exact ⟨[], _, access_spends distinct fun _ => rfl⟩
  | add id n => exact ⟨[], _, access_spends distinct fun _ => rfl⟩
  | finish id =>
    have ⟨gone, left, spends⟩ := consume_spends distinct id finish_record
    exact ⟨gone, left, spends.answered Answer.finished⟩
  | drop id =>
    have ⟨gone, left, spends⟩ := consume_spends distinct id drop_record
    exact ⟨gone, left, (spends.answered fun _ => ()).answered fun _ => Answer.done⟩
  | unwind message => exact unwind_spends distinct message

section

variable {why : Refusal}

theorem access_of_refused {x : Action Block.Event Int32 Refusal α}
    (answers : ∀ s, (x s).outcome ≠ .error why) (h : (access id x r).outcome = .error why) :
    access id x r = { outcome := .error why, state := r } := by
  unfold access at h ⊢
  match found : r.lookup id with
  | none =>
    rw [found] at h
    cases h
    rfl
  | some g =>
    rw [found] at h
    exact absurd h (answers _)

theorem consume_of_refused {x : Action Block.Event Named ε α}
    (h : (consume id x r).outcome = .error why) :
    consume id x r = { outcome := .error why, state := r } := by
  unfold consume at h ⊢
  match found : r.lookup id with
  | none =>
    rw [found] at h
    cases h
    rfl
  | some g =>
    rw [found] at h
    simp [Exit.mapState, attempt_apply] at h
    split at h <;> cases h

theorem bind_pure_of_refused {e : Exit Block.Event Registry Refusal α} {f : α → β}
    (refused : e.outcome = .error why → e = { outcome := .error why, state := r })
    (h : (e.bind fun a => pure (f a)).outcome = .error why) :
    (e.bind fun a => pure (f a)) = { outcome := .error why, state := r } := by
  match e with
  | ⟨.ok _, _, _, _⟩ | ⟨.panic _, _, _, _⟩ | ⟨.abort, _, _, _⟩ => nomatch h
  | ⟨.error c, s, rec, l⟩ =>
    obtain rfl : c = why := Outcome.error.inj h
    have e_eq := refused rfl
    simp at e_eq ⊢
    exact e_eq

theorem perform_of_refused {c : Command} (h : (perform c r).outcome = .error why) :
    perform c r = { outcome := .error why, state := r } := by
  cases c with
  | new id acc step =>
    by_cases inUse : r.any (·.1 = id)
    case pos =>
      rw [perform_new_of_any inUse] at h ⊢
      cases h
      rfl
    case neg =>
      rw [perform_new_of_not_any inUse] at h
      cases h
  | get id | set id n | add id n => exact access_of_refused nofun h
  | finish id => exact bind_pure_of_refused consume_of_refused h
  | drop id => exact bind_pure_of_refused (bind_pure_of_refused consume_of_refused) h
  | unwind message =>
    have ⟨_, _, _, _, ends⟩ := unwind_runs r message
    rw [show (unwind message r).outcome = .error why from h] at ends
    simp at ends

end

-- The completions that are made in a session, the newest first.
def created : List Command → List (Exit Block.Event Registry Refusal Answer) → Owed
  | c :: commands, e :: exits => created commands exits ++ made c e
  | _, _ => []

-- How steps are spent on exits one after another. Each ran in one of them or is still owed behind
-- the last, and of those that ran in one exit the newest ran first.
structure Spent (all : Owed) (exits : List (Exit Block.Event Registry Refusal Answer))
    (gone : List Registry) (left : Registry) : Prop where
  record : exits.map Exit.record = gone.map (·.flatMap (ran ·.2))
  once : owed gone.flatten ++ owed left ~ all
  newestFirst : ∀ r ∈ left :: gone, (owed r).Sublist all

theorem Spent.nil (r : Registry) : Spent (owed r) [] [] r where
  record := rfl
  once := .refl _
  newestFirst := by simp

theorem Spent.cons {e : Exit Block.Event Registry Refusal Answer} {es} {later : Owed} {gones} {last}
    (h : Spends fresh r e gone left) (rest : Spent (later ++ owed left) es gones last) :
    Spent (later ++ fresh ++ owed r) (e :: es) (gone :: gones) last := by
  have left_sublist : (later ++ owed left).Sublist (later ++ fresh ++ owed r) := by
    simpa using h.left_sublist
  constructor
  case record => simp [h.record, rest.record]
  case once =>
    calc owed (gone :: gones).flatten ++ owed last
      _ = owed gone ++ (owed gones.flatten ++ owed last) := by simp
      _ ~ owed gone ++ (later ++ owed left) := rest.once.append_left _
      _ ~ later ++ (owed gone ++ owed left) := List.perm_append_comm_assoc _ _ _
      _ ~ later ++ fresh ++ owed r := by simpa using h.once.append_left later
  case newestFirst =>
    have ⟨last_sublist, gones_sublist⟩ := List.forall_mem_cons.mp rest.newestFirst
    have gone_sublist : (owed gone).Sublist (later ++ fresh ++ owed r) :=
      h.gone_sublist.trans (List.sublist_append_right _ _)
    simp only [List.forall_mem_cons]
    refine ⟨last_sublist.trans left_sublist, gone_sublist, fun r' mem => ?_⟩
    exact (gones_sublist r' mem).trans left_sublist

theorem Spent.flatMap_record {all : Owed} {exits} {gones} (h : Spent all exits gones left) :
    exits.flatMap Exit.record = gones.flatten.flatMap (ran ·.2) := by
  rw [List.flatMap_def, h.record, ← List.flatMap_def, ← List.flatMap_id, List.flatMap_assoc]
  rfl

theorem runEach_spent (distinct : Distinct r) (commands : List Command) :
    ∃ gone left,
      Spent (created commands (runEach r (commands.map perform)) ++ owed r)
        (runEach r (commands.map perform)) gone left ∧
      ((∀ e ∈ runEach r (commands.map perform), e.outcome ≠ .abort) →
        left = (runEach r (commands.map perform)).getLast?.elim r Exit.state) := by
  induction commands generalizing r with
  | nil => exact ⟨[], r, .nil r, fun _ => rfl⟩
  | cons c commands ih =>
    have ⟨gone, left, spends⟩ := perform_spends distinct c
    rw [List.map_cons]
    by_cases aborted : (perform c r).outcome = .abort
    case pos =>
      have rest : Spent (created commands [] ++ owed left) [] [] left := by
        cases commands <;> exact .nil left
      rw [runEach_of_abort aborted]
      refine ⟨[gone], left, .cons spends rest, fun ends => ?_⟩
      exact absurd aborted (ends _ List.mem_cons_self)
    case neg =>
      -- The next command finds all that this one has left.
      obtain rfl := spends.left_eq aborted
      have ⟨gones, last, spent, last_eq⟩ := ih spends.distinct
      rw [runEach_of_ne_abort aborted]
      refine ⟨gone :: gones, last, .cons spends spent, fun ends => ?_⟩
      rw [last_eq fun e mem => ends e (List.mem_cons_of_mem _ mem), List.getLast?_cons]
      cases (runEach (perform c r).state (commands.map perform)).getLast? <;> rfl

theorem close_record (r : Registry) : (close r).flatMap (·.2.record) = r.flatMap (ran ·.2) := by
  simp [close, List.flatMap_map]

-- In a session every completion that is made has its step run once: in the exit that it goes in, or
-- when the session is closed. After an abort nothing is closed, and the steps left do not run.
theorem session_spent (commands : List Command) :
    let exits := (session commands).1
    let closed := (session commands).2
    ∃ gone left,
      Spent (created commands exits) exits gone left ∧
      ((∀ e ∈ exits, e.outcome ≠ .abort) →
        closed = close left ∧
          exits.flatMap Exit.record ++ closed.flatMap (·.2.record) =
            (gone.flatten ++ left).flatMap (ran ·.2)) ∧
      ((∃ e ∈ exits, e.outcome = .abort) → closed = []) := by
  intro exits closed
  have ⟨gone, left, spent, left_eq⟩ := runEach_spent (r := []) List.nodup_nil commands
  rw [owed_nil, List.append_nil] at spent
  refine ⟨gone, left, spent, fun ends => ?closed, ?unclosed⟩
  case closed =>
    have closed_eq : closed = close left := by
      rw [left_eq ends]
      refine congrArg close ?_
      match last_eq : (runEach [] (commands.map perform)).getLast? with
      | none => rfl
      | some e =>
        have e_ends := ends e (List.mem_of_getLast? last_eq)
        cases h : e.outcome with
        | abort => exact absurd h e_ends
        | ok | error | panic => simp [h]
    refine ⟨closed_eq, ?_⟩
    rw [List.flatMap_append, ← spent.flatMap_record, closed_eq, close_record]
    rfl
  case unclosed =>
    intro ⟨e, mem, aborted⟩
    change closed = close []
    refine congrArg close ?_
    simp [getLast?_runEach_of_abort mem aborted, aborted]

end Registry

end GuardedSum.Completion
