import GuardedSum.Program.Options

namespace GuardedSum.Program

variable {β : Type}

-- A kind of setting and the field that it sets. No setting of another kind touches the field.
structure Kind (β : Type) where
  field : Options → β
  given : Setting → Option β
  field_set : ∀ o x, field (Options.set o x) = (given x).getD (field o)

namespace Kind

def operands : Kind (Int32 × Int32) where
  field := Options.operands
  given
    | .operands a b => some (a, b)
    | _ => none
  field_set _ x := by cases x <;> rfl

def trailing : Kind (Int32 × Int32) where
  field := Options.trailing
  given
    | .trailing a b => some (a, b)
    | _ => none
  field_set _ x := by cases x <;> rfl

def fault : Kind (Option String) where
  field := Options.fault
  given
    | .fault m => some (some m)
    | _ => none
  field_set _ x := by cases x <;> rfl

variable (k : Kind β)

def values (xs : List Setting) : List β :=
  xs.filterMap k.given

def last (xs : List Setting) : Option β :=
  (k.values xs).getLast?

theorem last_cons (x : Setting) (xs : List Setting) :
    k.last (x :: xs) = (k.last xs).or (k.given x) := by
  cases h : k.given x <;> simp [last, values, List.getLast?_cons, h]

theorem field_setAll (opts : Options) (xs : List Setting) :
    k.field (opts.setAll xs) = (k.last xs).getD (k.field opts) := by
  induction xs generalizing opts with
  | nil => rfl
  | cons x xs ih =>
    calc
      k.field (opts.setAll (x :: xs)) = (k.last xs).getD (k.field (opts.set x)) := ih (opts.set x)
      _ = (k.last xs).getD ((k.given x).getD (k.field opts)) := by rw [k.field_set]
      _ = (k.last (x :: xs)).getD (k.field opts) := by rw [last_cons, Option.getD_or]

theorem given_of_last {xs : List Setting} {b : β} (h : k.last xs = some b) :
    ∃ x ∈ xs, k.given x = some b :=
  List.mem_filterMap.mp (List.mem_of_getLast? h)

theorem last_eq_none_iff {xs : List Setting} : k.last xs = none ↔ ∀ x ∈ xs, k.given x = none := by
  rw [last, values, List.getLast?_eq_none_iff, List.filterMap_eq_nil_iff]

theorem isSome_of_last_fault {xs : List Setting} {m? : Option String}
    (h : fault.last xs = some m?) : m?.isSome := by
  obtain ⟨x, -, given⟩ := fault.given_of_last h
  cases x with
  | fault m => exact Option.some.inj given ▸ rfl
  | _ => nomatch given

theorem last_fault_eq_none_iff {xs : List Setting} :
    fault.last xs = none ↔ ∀ m, .fault m ∉ xs := by
  rw [last_eq_none_iff]
  constructor
  case mp => exact fun h m mem => nomatch h _ mem
  case mpr =>
    intro h x mem
    cases x with
    | fault m => exact absurd mem (h m)
    | _ => rfl

end Kind

-- The same kinds of settings are among both, and the last one of each kind is the same.
structure SameLast (xs ys : List Setting) : Prop where
  operands : Kind.operands.last xs = Kind.operands.last ys
  trailing : Kind.trailing.last xs = Kind.trailing.last ys
  fault : Kind.fault.last xs = Kind.fault.last ys

-- Both are the same settings if the order of settings of different kinds is left out of account.
structure SameOrder (xs ys : List Setting) : Prop where
  operands : Kind.operands.values xs = Kind.operands.values ys
  trailing : Kind.trailing.values xs = Kind.trailing.values ys
  fault : Kind.fault.values xs = Kind.fault.values ys

theorem SameOrder.sameLast {xs ys : List Setting} (h : SameOrder xs ys) : SameLast xs ys where
  operands := congrArg List.getLast? h.operands
  trailing := congrArg List.getLast? h.trailing
  fault := congrArg List.getLast? h.fault

namespace Options

theorem eq_iff {o o' : Options} :
    o = o' ↔ o.operands = o'.operands ∧ o.trailing = o'.trailing ∧ o.fault = o'.fault := by
  cases o
  cases o'
  exact Eq.to_iff (mk.injEq ..)

theorem setAll_congr (opts : Options) {xs ys : List Setting} (h : SameLast xs ys) :
    opts.setAll xs = opts.setAll ys := by
  have field_eq {β : Type} (k : Kind β) (last_eq : k.last xs = k.last ys) :
      k.field (opts.setAll xs) = k.field (opts.setAll ys) := by
    rw [k.field_setAll, k.field_setAll, last_eq]
  exact eq_iff.mpr ⟨field_eq .operands h.operands, field_eq .trailing h.trailing,
    field_eq .fault h.fault⟩

theorem isSome_fault_setAll {opts : Options} (h : opts.fault.isSome) (xs : List Setting) :
    (opts.setAll xs).fault.isSome := by
  have fault_eq : (opts.setAll xs).fault = (Kind.fault.last xs).getD opts.fault :=
    Kind.fault.field_setAll opts xs
  rw [fault_eq]
  match last : Kind.fault.last xs with
  | none => exact h
  | some m? => exact Kind.isSome_of_last_fault last

def ofBatches (batches : List (List Setting)) : Options :=
  batches.foldl setAll {}

theorem foldl_setAll (opts : Options) (batches : List (List Setting)) :
    batches.foldl setAll opts = opts.setAll batches.flatten := by
  induction batches generalizing opts with
  | nil => rfl
  | cons b bs ih => rw [List.foldl_cons, ih, List.flatten_cons, setAll_append]

theorem ofBatches_eq (batches : List (List Setting)) :
    ofBatches batches = setAll {} batches.flatten :=
  foldl_setAll {} batches

theorem length_history (opts : Options) (batches : List (List Setting)) :
    (history opts batches).length = batches.length + 1 := by
  induction batches generalizing opts with
  | nil => rfl
  | cons b bs ih => rw [history, List.length_cons, ih, List.length_cons]

theorem history_getElem? (opts : Options) (batches : List (List Setting)) {i : Nat}
    (h : i ≤ batches.length) :
    (history opts batches)[i]? = some ((batches.take i).foldl setAll opts) := by
  induction batches generalizing opts i with
  | nil => simp_all [history]
  | cons b bs ih =>
    cases i with
    | zero => rfl
    | succ i => exact ih (opts.setAll b) (Nat.le_of_succ_le_succ h)

theorem setAll_default_eq_iff (xs : List Setting) :
    setAll {} xs = {} ↔
      (∀ p ∈ Kind.operands.last xs, p = (5, 10)) ∧ (∀ p ∈ Kind.trailing.last xs, p = (3, 4)) ∧
        ∀ m, .fault m ∉ xs := by
  have field_eq_iff {β : Type} (k : Kind β) :
      k.field (setAll {} xs) = k.field {} ↔ ∀ b ∈ k.last xs, b = k.field {} := by
    rw [k.field_setAll]
    cases k.last xs <;> simp
  have fault_eq_iff : (∀ m? ∈ Kind.fault.last xs, m? = none) ↔ ∀ m, .fault m ∉ xs := by
    rw [← Kind.last_fault_eq_none_iff]
    match last : Kind.fault.last xs with
    | none => simp
    | some none => nomatch Kind.isSome_of_last_fault last
    | some (some m) => simp
  rw [eq_iff, ← fault_eq_iff]
  exact and_congr (field_eq_iff .operands)
    (and_congr (field_eq_iff .trailing) (field_eq_iff .fault))

-- Of the settings of each kind the last one is in force after every batch. What stands around it,
-- and in which batch it is, does not matter.
theorem history_last_wins :
    (∀ batches : List (List Setting),
      (history {} batches).length = batches.length + 1 ∧
        ∀ i ≤ batches.length,
          let given := (batches.take i).flatten
          let o := ofBatches (batches.take i)
          (history {} batches)[i]? = some o ∧
            o.operands = (Kind.operands.last given).getD (5, 10) ∧
            o.trailing = (Kind.trailing.last given).getD (3, 4) ∧
            o.fault = (Kind.fault.last given).getD none ∧
            (o = {} ↔ (∀ p ∈ Kind.operands.last given, p = (5, 10)) ∧
              (∀ p ∈ Kind.trailing.last given, p = (3, 4)) ∧ ∀ m, .fault m ∉ given)) ∧
      ∀ bs bs' : List (List Setting),
        (SameLast bs.flatten bs'.flatten → ofBatches bs = ofBatches bs') ∧
          (SameOrder bs.flatten bs'.flatten → ofBatches bs = ofBatches bs') ∧
          (bs.flatten = bs'.flatten → ofBatches bs = ofBatches bs') ∧
          ofBatches (bs ++ [] :: bs') = ofBatches (bs ++ bs') ∧
          ((ofBatches bs).fault.isSome → (ofBatches (bs ++ bs')).fault.isSome) := by
  refine ⟨fun batches => ⟨length_history {} batches, fun i h => ?state⟩, fun bs bs' => ?same⟩
  case state =>
    intro given o
    have o_eq : o = setAll {} given := ofBatches_eq _
    exact ⟨history_getElem? {} batches h, o_eq ▸ Kind.operands.field_setAll {} given,
      o_eq ▸ Kind.trailing.field_setAll {} given, o_eq ▸ Kind.fault.field_setAll {} given,
      o_eq ▸ setAll_default_eq_iff given⟩
  case same =>
    have of_sameLast (h : SameLast bs.flatten bs'.flatten) : ofBatches bs = ofBatches bs' := by
      rw [ofBatches_eq, ofBatches_eq, setAll_congr {} h]
    refine ⟨of_sameLast, fun h => of_sameLast h.sameLast, fun h => ?regrouped, ?empty,
      fun h => ?fault⟩
    case regrouped => rw [ofBatches_eq, ofBatches_eq, h]
    case empty => simp [ofBatches_eq]
    case fault =>
      rw [ofBatches_eq, List.flatten_append, setAll_append, ← ofBatches_eq]
      exact isSome_fault_setAll h bs'.flatten

theorem history_last_wins_overwritten :
    let batches : List (List Setting) :=
      [[.operands 1 2, .fault "a"], [.trailing 9 9, .fault "b"], [.operands 5 10, .trailing 0 0]]
    let others : List (List Setting) := [[.trailing 0 0], [], [.fault "b", .operands 5 10]]
    2 ≤ batches.length ∧ (history {} batches)[2]? = some ⟨(1, 2), (9, 9), some "b"⟩ ∧
      SameLast batches.flatten others.flatten ∧ ofBatches batches = ofBatches others ∧
      (ofBatches batches).fault.isSome ∧ (ofBatches (batches ++ others)).fault.isSome := by
  intro batches others
  have in_range : 2 ≤ batches.length := by decide
  have sameLast : SameLast batches.flatten others.flatten := ⟨rfl, rfl, rfl⟩
  have fault_set : (ofBatches batches).fault.isSome := rfl
  have ⟨states, ends⟩ := history_last_wins
  have ⟨of_sameLast, _, _, _, fault_kept⟩ := ends batches others
  exact ⟨in_range, ((states batches).2 2 in_range).1, sameLast, of_sameLast sameLast, fault_set,
    fault_kept fault_set⟩

end Options

end GuardedSum.Program
