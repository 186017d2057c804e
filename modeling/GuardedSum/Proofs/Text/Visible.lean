import GuardedSum.Proofs.Text.Shown

namespace GuardedSum.Text

def Visible (s : String) : Prop :=
  ∀ c ∈ s.toList, 0x20 ≤ c.toNat

-- Only the characters of the text are looked at, not all that there are.
instance : DecidablePred Visible :=
  fun s => List.decidableBAll (fun c : Char => 0x20 ≤ c.toNat) s.toList

theorem Visible.append {s t : String} (hs : Visible s) (ht : Visible t) : Visible (s ++ t) := by
  intro c h
  rw [String.toList_append, List.mem_append] at h
  exact h.elim (hs c) (ht c)

theorem Escaped.visible {c d : Char} {u : List Char} (h : Escaped c u) (mem : d ∈ u) :
    0x20 ≤ d.toNat := by
  cases h with
  | bare printable =>
    obtain rfl := List.mem_singleton.mp mem
    refine Nat.le_of_not_lt fun control => ?_
    simp [isUnprintable_of_lt control] at printable
  | letter letter =>
    have visible : ∀ p ∈ letters, ['\\', p.2].all (0x20 ≤ ·.toNat) := by decide
    exact of_decide_eq_true (List.all_eq_true.mp (visible _ letter) d mem)
  | code =>
    rw [List.mem_append, List.mem_append] at mem
    obtain (opening | digit) | closing := mem
    · have visible : ['\\', 'u', '\x7b'].all (0x20 ≤ ·.toNat) := by decide
      exact of_decide_eq_true (List.all_eq_true.mp visible d opening)
    · obtain ⟨k, small, rfl⟩ := mem_hex digit
      have visible : ∀ k < 16, 0x20 ≤ (Nat.digitChar k).toNat := by decide
      exact visible k small
    · obtain rfl := List.mem_singleton.mp closing
      decide

theorem visible_quoted (s : String) : Visible (quoted s) := by
  intro c h
  rw [toList_quoted, List.mem_append, List.mem_append] at h
  obtain (opening | escape) | closing := h
  · obtain rfl := List.mem_singleton.mp opening
    decide
  · obtain ⟨d, -, mem⟩ := List.mem_flatMap.mp escape
    exact (escaped d).visible mem
  · obtain rfl := List.mem_singleton.mp closing
    decide

theorem visible_decimal (n : Int32) : Visible (decimal n) := by
  intro c h
  have numeral := isNumeral_of_mem_decimal h
  rw [isNumeral, Bool.or_eq_true] at numeral
  obtain digit | minus := numeral
  · exact Nat.le_trans (by decide) (Char.isDigit_iff_toNat.mp digit).1
  · obtain rfl := of_decide_eq_true minus
    decide

theorem visible_commas {parts : List String} (h : ∀ p ∈ parts, Visible p) :
    Visible (commas parts) := by
  induction parts with
  | nil => decide
  | cons p ps ih =>
    cases ps with
    | nil => simpa [commas] using h
    | cons q qs =>
      rw [commas, String.intercalate_cons_cons]
      exact ((h p (.head _)).append (by decide)).append (ih fun x hx => h x (.tail p hx))

theorem visible_variant {name : String} {parts : List String} (hn : Visible name)
    (h : ∀ p ∈ parts, Visible p) : Visible (variant name parts) :=
  ((hn.append (by decide)).append (visible_commas h)).append (by decide)

theorem visible_record {name : String} {fields : List (String × String)} (hn : Visible name)
    (h : ∀ f ∈ fields, Visible f.1 ∧ Visible f.2) : Visible (record name fields) := by
  refine ((hn.append (by decide)).append (visible_commas fun p mem => ?_)).append (by decide)
  obtain ⟨f, field, rfl⟩ := List.mem_map.mp mem
  exact ((h f field).1.append (by decide)).append (h f field).2

theorem visible_pair {a b : String} (ha : Visible a) (hb : Visible b) : Visible (pair a b) :=
  visible_variant (by decide) (by simp [ha, hb])

theorem visible_option {α : Type} {text : α → String} (h : ∀ a, Visible (text a))
    (a? : Option α) : Visible (option (a?.map text)) := by
  match a? with
  | none => exact (by decide : Visible "None")
  | some a => exact visible_variant (by decide) (by simpa using h a)

end GuardedSum.Text
