import GuardedSum.Sum
import Mathlib.Algebra.BigOperators.Group.List.Basic
import Mathlib.Data.Int.ModEq

namespace GuardedSum

def exactSum (vs : List Int32) : Int :=
  (vs.map (·.toInt)).sum

theorem exactSum_append (us vs : List Int32) :
    exactSum (us ++ vs) = exactSum us + exactSum vs := by
  simp [exactSum]

theorem exactSum_perm {us vs : List Int32} (h : us.Perm vs) : exactSum us = exactSum vs :=
  (h.map _).sum_eq

theorem eq_toInt_ofInt_iff (z e : Int) :
    z = (Int32.ofInt e).toInt ↔ -2 ^ 31 ≤ z ∧ z < 2 ^ 31 ∧ z ≡ e [ZMOD 2 ^ 32] := by
  rw [eq_comm, Int32.toInt_ofInt, Int.bmod_eq_iff (by decide), Int.modEq_comm, Int.modEq_iff_dvd]
  rfl

theorem sum_ofInt (z : Int) (v : Int32) : sum (.ofInt z) v = .ofInt (z + v.toInt) := by
  rw [Int32.ofInt_add, Int32.ofInt_toInt, sum]

theorem foldl_sum_ofInt (z : Int) (vs : List Int32) :
    vs.foldl sum (.ofInt z) = .ofInt (z + exactSum vs) := by
  induction vs generalizing z with
  | nil => simp [exactSum]
  | cons v vs ih => rw [List.foldl_cons, sum_ofInt, ih, Int.add_assoc]; rfl

theorem foldl_sum (start : Int32) (vs : List Int32) :
    vs.foldl sum start = .ofInt (start.toInt + exactSum vs) := by
  rw [← foldl_sum_ofInt, Int32.ofInt_toInt]

theorem getLastD_runningSums (start : Int32) (vs : List Int32) :
    (runningSums start vs).getLastD start = vs.foldl sum start := by
  induction vs generalizing start with
  | nil => rfl
  | cons v vs ih => rw [runningSums_cons, List.getLastD_cons, ih, List.foldl_cons]

theorem getElem?_runningSums (start : Int32) (vs : List Int32) {i : Nat} (h : i ≤ vs.length) :
    (start :: runningSums start vs)[i]? = some ((vs.take i).foldl sum start) := by
  induction vs generalizing start i with
  | nil => simp_all
  | cons v vs ih =>
    cases i with
    | zero => rfl
    | succ i => exact ih (sum start v) (Nat.le_of_succ_le_succ h)

-- Words that are added up, in some bracketing.
inductive Additions where
  | word (n : Int32)
  | add (l r : Additions)

namespace Additions

def words : Additions → List Int32
  | word n => [n]
  | add l r => l.words ++ r.words

def total : Additions → Int32
  | word n => n
  | add l r => sum l.total r.total

theorem total_eq (t : Additions) : t.total = .ofInt (exactSum t.words) := by
  induction t with
  | word n => simp [total, words, exactSum]
  | add l r hl hr => rw [total, words, exactSum_append, hl, hr, sum, Int32.ofInt_add]

end Additions

theorem exactSum_cons (v : Int32) (vs : List Int32) :
    exactSum (v :: vs) = v.toInt + exactSum vs :=
  rfl

-- The smallest word is its own negative, but even so words and their negatives cancel.
theorem ofInt_exactSum_neg (vs : List Int32) :
    Int32.ofInt (exactSum (vs.map (-·))) = .ofInt (-exactSum vs) := by
  induction vs with
  | nil => rfl
  | cons v vs ih =>
    calc
      Int32.ofInt (exactSum ((v :: vs).map (-·)))
        = -v + .ofInt (exactSum (vs.map (-·))) := by
          rw [List.map_cons, exactSum_cons, Int32.ofInt_add, Int32.ofInt_toInt]
      _ = .ofInt (-v.toInt) + .ofInt (-exactSum vs) := by
          rw [ih, Int32.ofInt_neg v.toInt, Int32.ofInt_toInt]
      _ = .ofInt (-exactSum (v :: vs)) := by
          rw [← Int32.ofInt_add, exactSum_cons, Int.neg_add]

theorem foldl_sum_perm (start : Int32) {us vs : List Int32} (h : us.Perm vs) :
    us.foldl sum start = vs.foldl sum start := by
  rw [foldl_sum, foldl_sum, exactSum_perm h]

theorem foldl_sum_neg (start : Int32) {us vs : List Int32} (h : us.Perm (vs.map (-·))) :
    (vs ++ us).foldl sum start = start := by
  have cancelled : Int32.ofInt (exactSum vs + exactSum us) = 0 := by
    rw [exactSum_perm h, Int32.ofInt_add, ofInt_exactSum_neg, ← Int32.ofInt_add, Int.add_right_neg]
    rfl
  rw [foldl_sum, exactSum_append, Int32.ofInt_add, cancelled, Int32.ofInt_toInt, Int32.add_zero]

-- Each running sum is the residue of the exact sum, so the last one is the same for every order
-- and bracketing, it is exact if the exact sum is a word, and it can be taken back.
theorem runningSums_exact (start : Int32) (vs : List Int32) :
    let last (us : List Int32) := (runningSums start us).getLastD start
    let exact := start.toInt + exactSum vs
    (runningSums start vs).length = vs.length ∧
      (∀ i ≤ vs.length, ∃ r, (start :: runningSums start vs)[i]? = some r ∧
        ∀ z : Int, z = r.toInt ↔
          -2 ^ 31 ≤ z ∧ z < 2 ^ 31 ∧ z ≡ start.toInt + exactSum (vs.take i) [ZMOD 2 ^ 32]) ∧
      (∀ us : List Int32, us.Perm vs → last us = last vs) ∧
      (∀ t : Additions, t.words.Perm (start :: vs) → t.total = last vs) ∧
      (-2 ^ 31 ≤ exact → exact < 2 ^ 31 → (last vs).toInt = exact) ∧
      ∀ us : List Int32, us.Perm (vs.map (-·)) → last (vs ++ us) = start := by
  intro last exact
  have last_eq (us : List Int32) : last us = us.foldl sum start := getLastD_runningSums start us
  refine ⟨length_runningSums start vs,
    fun i h => ⟨_, getElem?_runningSums start vs h, fun z => ?residue⟩, fun us h => ?order,
    fun t h => ?bracketing, fun lo hi => ?fits, fun us h => ?back⟩
  case residue => rw [foldl_sum, eq_toInt_ofInt_iff]
  case order => rw [last_eq, last_eq, foldl_sum_perm start h]
  case bracketing => rw [last_eq, foldl_sum, t.total_eq, exactSum_perm h, exactSum_cons]
  case fits => rw [last_eq, foldl_sum, Int32.toInt_ofInt_of_le lo hi]
  case back => rw [last_eq, foldl_sum_neg start h]

theorem runningSums_exact_wrapping :
    let start : Int32 := 2147483647
    let vs : List Int32 := [1, 1, -3]
    let us : List Int32 := [3, -1, -1]
    let t : Additions := .add (.add (.word (-3)) (.word 1)) (.add (.word start) (.word 1))
    let exact := start.toInt + exactSum vs
    runningSums start vs = [-2147483648, -2147483647, 2147483646] ∧
      t.words.Perm (start :: vs) ∧ t.total = 2147483646 ∧
      -2 ^ 31 ≤ exact ∧ exact < 2 ^ 31 ∧ ((runningSums start vs).getLastD start).toInt = exact ∧
      us.Perm (vs.map (-·)) ∧ (runningSums start (vs ++ us)).getLastD start = start := by
  intro start vs us t exact
  have words : t.words.Perm (start :: vs) := by decide
  have lo : -2 ^ 31 ≤ exact := by decide
  have hi : exact < 2 ^ 31 := by decide
  have negated : us.Perm (vs.map (-·)) := by decide
  have last_eq : (runningSums start vs).getLastD start = 2147483646 := by decide
  obtain ⟨-, -, -, bracketing, fits, back⟩ := runningSums_exact start vs
  exact ⟨by decide, words, (bracketing t words).trans last_eq, lo, hi, fits lo hi, negated,
    back us negated⟩

end GuardedSum
