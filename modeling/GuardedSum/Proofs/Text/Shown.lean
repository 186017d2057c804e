import GuardedSum.Proofs.Text.Escaped

namespace GuardedSum.Text

variable {α β γ δ : Type}

def isNumeral (c : Char) : Bool :=
  c.isDigit || c = '-'

-- What may stand behind a number, where its text ends.
def Ends (rest : List Char) : Prop :=
  ∀ c ∈ rest.head?, ¬isNumeral c

def separates (s : String) : Bool :=
  s.toList.head?.any (!isNumeral ·)

-- The text of a value shows a part of the value, whatever stands behind the text.
def Shows (text : α → String) (part : α → β) : Prop :=
  ∀ ⦃a b r r'⦄, Ends r → Ends r' → (text a).toList ++ r = (text b).toList ++ r' →
    part a = part b ∧ r = r'

theorem ends_nil : Ends [] :=
  nofun

theorem ends_append {s : String} (h : separates s) (r : List Char) : Ends (s.toList ++ r) := by
  unfold separates at h
  match s.toList, h with
  | c :: cs, h => simpa [Ends] using h

section Numbers

theorem isDigit_of_mem_repr {n : Nat} {c : Char} (h : c ∈ n.repr.toList) : c.isDigit := by
  rw [Nat.repr_eq_ofList_toDigits, String.toList_ofList] at h
  exact Nat.isDigit_of_mem_toDigits (by decide) (by decide) h

theorem repr_inj {n m : Nat} (h : n.repr = m.repr) : n = m := by
  rw [Nat.repr_eq_ofList_toDigits, Nat.repr_eq_ofList_toDigits, String.ofList_inj] at h
  rw [← Nat.ofDigitChars_ten_toDigits (n := n), h, Nat.ofDigitChars_ten_toDigits]

theorem minus_append_ne_repr (s : String) (n : Nat) : "-" ++ s ≠ n.repr := by
  intro h
  have minus : '-' ∈ n.repr.toList := by simp [← h]
  nomatch isDigit_of_mem_repr minus

theorem decimal_inj {n m : Int32} (h : decimal n = decimal m) : n = m := by
  apply Int32.toInt_inj.mp
  rw [decimal, decimal, Int.repr_eq_if, Int.repr_eq_if] at h
  split at h <;> split at h
  · have := repr_inj h
    omega
  · exact absurd h.symm (minus_append_ne_repr _ _)
  · exact absurd h (minus_append_ne_repr _ _)
  · have := repr_inj (String.append_right_inj "-" |>.mp h)
    omega

theorem isNumeral_of_mem_decimal {n : Int32} {c : Char} (h : c ∈ (decimal n).toList) :
    isNumeral c := by
  rw [decimal, Int.repr_eq_if] at h
  split at h
  case isTrue => simp [isNumeral, isDigit_of_mem_repr h]
  case isFalse =>
    rw [String.toList_append, List.mem_append] at h
    cases h with
    | inl h => simp_all [isNumeral]
    | inr h => simp [isNumeral, isDigit_of_mem_repr h]

theorem shows_decimal : Shows decimal id := by
  intro n m r r' hr hr' h
  obtain ⟨toList_eq, rest⟩ := append_inj_of_all (fun _ => isNumeral_of_mem_decimal)
    (fun _ => isNumeral_of_mem_decimal) hr hr' h
  exact ⟨decimal_inj (String.toList_inj.mp toList_eq), rest⟩

end Numbers

theorem shows_quoted : Shows quoted id :=
  fun _ _ _ _ _ _ => quoted_append_inj

namespace Shows

variable {text : α → String} {part : α → β}

theorem eq (h : Shows text part) {a b : α} (same : text a = text b) : part a = part b :=
  (h ends_nil ends_nil (by rw [same])).1

theorem mono (h : Shows text part) {part' : α → γ}
    (le : ∀ a b, part a = part b → part' a = part' b) : Shows text part' :=
  fun _ _ _ _ hr hr' same => (h hr hr' same).imp_left (le _ _)

theorem comp (h : Shows text part) (f : δ → α) : Shows (fun d => text (f d)) fun d => part (f d) :=
  fun _ _ _ _ hr hr' same => h hr hr' same

theorem prepend (h : Shows text part) (opening : String) :
    Shows (fun a => opening ++ text a) part := by
  intro a b r r' hr hr' same
  simp only [String.toList_append, List.append_assoc] at same
  exact h hr hr' (List.append_cancel_left same)

theorem append (h : Shows text part) {closing : String} (separated : separates closing) :
    Shows (fun a => text a ++ closing) part := by
  intro a b r r' _ _ same
  simp only [String.toList_append, List.append_assoc] at same
  obtain ⟨part_eq, rest⟩ := h (ends_append separated r) (ends_append separated r') same
  exact ⟨part_eq, List.append_cancel_left rest⟩

theorem beside (h : Shows text part) {between : String} (separated : separates between)
    {text' : α → String} {part' : α → γ} (h' : Shows text' part') :
    Shows (fun a => text a ++ between ++ text' a) fun a => (part a, part' a) := by
  intro a b r r' hr hr' same
  simp only [String.toList_append, List.append_assoc] at same
  obtain ⟨part_eq, rest⟩ := h (ends_append separated _) (ends_append separated _) same
  obtain ⟨part_eq', rest'⟩ := h' hr hr' (List.append_cancel_left rest)
  exact ⟨Prod.ext part_eq part_eq', rest'⟩

theorem commas_singleton (h : Shows text part) : Shows (fun a => commas [text a]) part := by
  simpa only [commas, String.intercalate_singleton] using h

theorem commas_cons (h : Shows text part) {next : α → String} {texts : α → List String}
    {part' : α → γ} (h' : Shows (fun a => commas (next a :: texts a)) part') :
    Shows (fun a => commas (text a :: next a :: texts a)) fun a => (part a, part' a) := by
  simp only [commas, String.intercalate_cons_cons]
  exact h.beside (by decide) h'

theorem variant (name : String) {texts : α → List String}
    (h : Shows (fun a => commas (texts a)) part) :
    Shows (fun a => Text.variant name (texts a)) part :=
  (h.prepend (name ++ "(")).append (by decide)

theorem record (name : String) {fields : α → List (String × String)}
    (h : Shows (fun a => commas ((fields a).map fun f => f.1 ++ ": " ++ f.2)) part) :
    Shows (fun a => Text.record name (fields a)) part :=
  (h.prepend (name ++ " \x7b ")).append (by decide)

theorem pair (h : Shows text part) {text' : α → String} {part' : α → γ} (h' : Shows text' part') :
    Shows (fun a => Text.pair (text a) (text' a)) fun a => (part a, part' a) :=
  (h.commas_cons h'.commas_singleton).variant ""

theorem option {text : α → String} (h : Shows text id) :
    Shows (fun a? : Option α => Text.option (a?.map text)) id := by
  have some_shown : Shows (fun a => Text.variant "Some" [text a]) id :=
    h.commas_singleton.variant "Some"
  intro a? b? r r' hr hr' same
  match a?, b? with
  | none, none => exact ⟨rfl, List.append_cancel_left same⟩
  | some a, some b => exact (some_shown hr hr' same).imp_left (congrArg some)
  | none, some b => simp [Text.option, Text.variant] at same
  | some a, none => simp [Text.option, Text.variant] at same

end Shows

end GuardedSum.Text
