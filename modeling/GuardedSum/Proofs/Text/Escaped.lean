import GuardedSum.Text.Inspect
import Mathlib.Tactic.SplitIfs

namespace GuardedSum.Text

theorem append_inj_of_all {p : Char → Prop} {u v r r' : List Char} (hu : ∀ c ∈ u, p c)
    (hv : ∀ c ∈ v, p c) (hr : ∀ c ∈ r.head?, ¬p c) (hr' : ∀ c ∈ r'.head?, ¬p c)
    (h : u ++ r = v ++ r') : u = v ∧ r = r' := by
  induction u generalizing v with
  | nil =>
    cases v with
    | nil => exact ⟨rfl, h⟩
    | cons c v => exact absurd (hv c (.head v)) (hr c (congrArg List.head? h))
  | cons c u ih =>
    cases v with
    | nil => exact absurd (hu c (.head u)) (hr' c (congrArg List.head? h.symm))
    | cons d v =>
      obtain ⟨rfl, tail⟩ := List.cons.inj h
      obtain ⟨rfl, rest⟩ :=
        ih (fun x hx => hu x (.tail c hx)) (fun x hx => hv x (.tail c hx)) tail
      exact ⟨rfl, rest⟩

theorem hex_eq (n : Nat) :
    hex n = (if n < 16 then [] else hex (n / 16)) ++ [(n % 16).digitChar] := by
  unfold hex
  rw [Nat.toDigits_eq_if (by decide)]
  split
  case isTrue h => rw [Nat.mod_eq_of_lt h, List.nil_append]
  case isFalse => rfl

theorem mem_hex {n : Nat} {c : Char} (h : c ∈ hex n) : ∃ d < 16, c = d.digitChar := by
  induction n using Nat.strongRecOn with
  | ind n ih =>
    rw [hex_eq, List.mem_append] at h
    cases h with
    | inl h =>
      split at h
      case isTrue => nomatch h
      case isFalse large => exact ih (n / 16) (by omega) h
    | inr h => exact ⟨n % 16, Nat.mod_lt n (by decide), List.mem_singleton.mp h⟩

theorem hex_ne_nil (n : Nat) : hex n ≠ [] :=
  Nat.toDigits_ne_nil

theorem digitChar_inj : ∀ d < 16, ∀ d' < 16, Nat.digitChar d = Nat.digitChar d' → d = d' := by
  decide

theorem hex_inj {n m : Nat} (h : hex n = hex m) : n = m := by
  induction n using Nat.strongRecOn generalizing m with
  | ind n ih =>
    rw [hex_eq n, hex_eq m] at h
    obtain ⟨front, last⟩ := List.append_inj' h rfl
    have mod_eq : n % 16 = m % 16 :=
      digitChar_inj _ (Nat.mod_lt n (by decide)) _ (Nat.mod_lt m (by decide)) (by simpa using last)
    -- Only a number below the base has no digits in front of its last one.
    split at front <;> split at front
    · omega
    · exact absurd front.symm (hex_ne_nil _)
    · exact absurd front (hex_ne_nil _)
    · have div_eq : n / 16 = m / 16 := ih (n / 16) (by omega) front
      omega

theorem ne_brace_of_mem_hex {n : Nat} {c : Char} (h : c ∈ hex n) : c ≠ '\x7d' := by
  obtain ⟨d, small, rfl⟩ := mem_hex h
  have ne_brace : ∀ d < 16, Nat.digitChar d ≠ '\x7d' := by decide
  exact ne_brace d small

-- The letters that stand for characters behind a backslash.
def letters : List (Char × Char) :=
  [('"', '"'), ('\\', '\\'), ('\n', 'n'), ('\r', 'r'), ('\t', 't'), ('\x00', '0')]

inductive Escaped : Char → List Char → Prop
  | bare {c} (printable : isUnprintable c = false) (not_quote : c ≠ '"')
      (not_backslash : c ≠ '\\') : Escaped c [c]
  | letter {c l} (mem : (c, l) ∈ letters) : Escaped c ['\\', l]
  | code {c} : Escaped c (['\\', 'u', '\x7b'] ++ hex c.toNat ++ ['\x7d'])

theorem escaped (c : Char) : Escaped c (escape c) := by
  unfold escape
  split_ifs with quote backslash feed carriage tab null code
  case neg => exact .bare (Bool.eq_false_iff.mpr code) quote backslash
  any_goals exact .letter (by simp [letters, *])
  exact .code

theorem char_eq_of_letter {c d l : Char} (hc : (c, l) ∈ letters) (hd : (d, l) ∈ letters) :
    c = d := by
  have unique : ∀ p ∈ letters, ∀ q ∈ letters, p.2 = q.2 → p.1 = q.1 := by decide
  exact unique _ hc _ hd rfl

theorem letter_ne_code {c l : Char} (h : (c, l) ∈ letters) : l ≠ 'u' := by
  have not_code : ∀ p ∈ letters, p.2 ≠ 'u' := by decide
  exact not_code _ h

-- No escape begins another.
theorem Escaped.append_inj {c d : Char} {u v r r' : List Char} (hu : Escaped c u)
    (hv : Escaped d v) (h : u ++ r = v ++ r') : c = d ∧ r = r' := by
  cases hu with
  | bare _ _ not_backslash =>
    cases hv with
    | bare => simpa using h
    | letter | code => simp [not_backslash] at h
  | letter mem =>
    cases hv with
    | bare _ _ not_backslash => simp [not_backslash.symm] at h
    | letter mem' =>
      obtain ⟨-, rfl, rfl⟩ : '\\' = '\\' ∧ _ = _ ∧ r = r' := by simpa using h
      exact ⟨char_eq_of_letter mem mem', rfl⟩
    | code => simp [letter_ne_code mem] at h
  | code =>
    cases hv with
    | bare _ _ not_backslash => simp [not_backslash.symm] at h
    | letter mem => simp [(letter_ne_code mem).symm] at h
    | code =>
      -- The digits end at the brace, so both codes have the same ones.
      have brace : ∀ x ∈ ('\x7d' :: r).head?, ¬x ≠ '\x7d' := by simp
      have brace' : ∀ x ∈ ('\x7d' :: r').head?, ¬x ≠ '\x7d' := by simp
      obtain ⟨hex_eq, rest⟩ := append_inj_of_all (fun _ => ne_brace_of_mem_hex)
        (fun _ => ne_brace_of_mem_hex) brace brace' (by simpa using h)
      exact ⟨Char.toNat_inj.mp (hex_inj hex_eq), (List.cons.inj rest).2⟩

theorem Escaped.not_quote_append {c : Char} {u r r' : List Char} (hu : Escaped c u) :
    u ++ r ≠ '"' :: r' := by
  cases hu with
  | bare _ not_quote => simp [not_quote]
  | letter | code => simp

theorem escape_append_inj {cs ds r r' : List Char}
    (h : cs.flatMap escape ++ '"' :: r = ds.flatMap escape ++ '"' :: r') : cs = ds ∧ r = r' := by
  induction cs generalizing ds with
  | nil =>
    cases ds with
    | nil => exact ⟨rfl, (List.cons.inj h).2⟩
    | cons d ds =>
      -- The quote that closes the one text cannot begin a character of the other.
      rw [List.flatMap_cons, List.append_assoc] at h
      exact absurd h.symm (escaped d).not_quote_append
  | cons c cs ih =>
    cases ds with
    | nil =>
      rw [List.flatMap_cons, List.append_assoc] at h
      exact absurd h (escaped c).not_quote_append
    | cons d ds =>
      rw [List.flatMap_cons, List.flatMap_cons, List.append_assoc, List.append_assoc] at h
      obtain ⟨rfl, tail⟩ := (escaped c).append_inj (escaped d) h
      obtain ⟨rfl, rest⟩ := ih tail
      exact ⟨rfl, rest⟩

theorem quoted_append_inj {s t : String} {r r' : List Char}
    (h : (quoted s).toList ++ r = (quoted t).toList ++ r') : s = t ∧ r = r' := by
  obtain ⟨toList_eq, rest⟩ : s.toList = t.toList ∧ r = r' :=
    escape_append_inj (by simpa using h)
  exact ⟨String.toList_inj.mp toList_eq, rest⟩

end GuardedSum.Text
