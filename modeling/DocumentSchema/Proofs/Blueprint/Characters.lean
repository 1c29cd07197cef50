import DocumentSchema.Blueprint.Token.Lexer

namespace DocumentSchema.Text

/-- The ranges of one list lie outside those of another one. -/
def Ranges.Apart (r s : Ranges) : Prop := ∀ a ∈ r, ∀ b ∈ s, a.2 < b.1 ∨ b.2 < a.1

instance (r s : Ranges) : Decidable (r.Apart s) := by
  unfold Ranges.Apart
  infer_instance

theorem Ranges.exists_mem_of_contains {r : Ranges} {n : Nat} (h : r.contains n = true) :
    ∃ a ∈ r, a.1 ≤ n ∧ n ≤ a.2 := by
  induction r with
  | nil => cases h
  | cons a rest ih =>
    rw [contains] at h
    split at h
    case isTrue => cases h
    case isFalse hlow =>
      rcases Bool.or_eq_true_iff.1 h with hhigh | hrest
      · exact ⟨a, List.mem_cons_self, Nat.le_of_not_lt hlow, of_decide_eq_true hhigh⟩
      · obtain ⟨b, hb, hbounds⟩ := ih hrest
        exact ⟨b, List.mem_cons_of_mem _ hb, hbounds⟩

theorem Ranges.Apart.contains_eq_false {r s : Ranges} (h : r.Apart s) {n : Nat}
    (hn : r.contains n = true) : s.contains n = false := by
  obtain ⟨a, ha, halow, hahigh⟩ := exists_mem_of_contains hn
  refine Bool.eq_false_iff.2 fun hs ↦ ?_
  obtain ⟨b, hb, hblow, hbhigh⟩ := exists_mem_of_contains hs
  rcases h a ha b hb with hlt | hlt <;> omega

theorem blank_apart_alphabetic : blank.Apart alphabetic := by decide +kernel

theorem blank_apart_numeric : blank.Apart decimalDigits ∧ blank.Apart letterNumbers ∧
    blank.Apart otherNumbers := by decide +kernel

end DocumentSchema.Text

namespace DocumentSchema.Blueprint.Lexer

open Text (isBlank isAlphabetic isNumeric)

variable {c d : Char} {s : State}

theorem ne_of_class {p : Char → Bool} (hc : p c = true) (hd : p d = false) : c ≠ d := by
  rintro rfl
  cases hc.symm.trans hd

section Digits

theorem contains_of_isDigit (h : c.isDigit = true) :
    Text.Ranges.contains [(0x30, 0x39)] c.toNat = true := by
  obtain ⟨hlow, hhigh⟩ : 0x30 ≤ c.toNat ∧ c.toNat ≤ 0x39 := Char.isDigit_iff_toNat.1 h
  rw [Text.Ranges.contains, if_neg (Nat.not_lt.2 hlow), decide_eq_true hhigh]
  rfl

theorem isBlank_of_isDigit (h : c.isDigit = true) : isBlank c = false :=
  Text.Ranges.Apart.contains_eq_false (by decide) (contains_of_isDigit h)

theorem isAlphabetic_of_isDigit (h : c.isDigit = true) : isAlphabetic c = false :=
  Text.Ranges.Apart.contains_eq_false (by decide +kernel) (contains_of_isDigit h)

end Digits

section Blank

theorem isAlphabetic_of_isBlank (h : isBlank c = true) : isAlphabetic c = false :=
  Text.blank_apart_alphabetic.contains_eq_false h

theorem isNumeric_of_isBlank (h : isBlank c = true) : isNumeric c = false := by
  obtain ⟨hdecimal, hletter, hother⟩ := Text.blank_apart_numeric
  rw [isNumeric, hdecimal.contains_eq_false h, hletter.contains_eq_false h,
    hother.contains_eq_false h]
  rfl

theorem continuesWord_of_isBlank (h : isBlank c = true) : continuesWord c = false := by
  rw [continuesWord, isAlphabetic_of_isBlank h, isNumeric_of_isBlank h,
    decide_eq_false (ne_of_class h rfl)]
  rfl

theorem continuesNumber_of_isBlank (h : isBlank c = true) : continuesNumber c = false := by
  have hdigit : c.isDigit = false := by
    refine Bool.eq_false_iff.2 fun hdigit ↦ ?_
    cases h.symm.trans (isBlank_of_isDigit hdigit)
  have hne (d : Char) (hd : isBlank d = false) : decide (c = d) = false :=
    decide_eq_false (ne_of_class h hd)
  rw [continuesNumber, hdigit, hne '-' rfl, hne '+' rfl, hne '.' rfl, hne 'e' rfl, hne 'E' rfl]
  rfl

end Blank

section First

theorem isBlank_of_startsNumber (h : startsNumber c = true) : isBlank c = false := by
  rcases Bool.or_eq_true_iff.1 h with hdigit | hminus
  · exact isBlank_of_isDigit hdigit
  · obtain rfl := of_decide_eq_true hminus
    rfl

theorem isBlank_of_startsWord (h : startsWord c = true) : isBlank c = false := by
  refine Bool.eq_false_iff.2 fun hblank ↦ ?_
  rw [startsWord, isAlphabetic_of_isBlank hblank, decide_eq_false (ne_of_class hblank rfl)] at h
  cases h

theorem startsNumber_of_startsWord (h : startsWord c = true) : startsNumber c = false := by
  refine Bool.eq_false_iff.2 fun hnumber ↦ ?_
  rcases Bool.or_eq_true_iff.1 hnumber with hdigit | hminus
  · rw [startsWord, isAlphabetic_of_isDigit hdigit, decide_eq_false (ne_of_class hdigit rfl)] at h
    cases h
  · obtain rfl := of_decide_eq_true hminus
    cases h.symm.trans (rfl : startsWord '-' = false)

theorem stepBlank_of_isBlank (h : isBlank c = true) : stepBlank s c = .ok (s.advance c .blank) :=
  if_pos h

theorem stepBlank_of_startsNumber (h : startsNumber c = true) :
    stepBlank s c = .ok (s.advance c (.number s.next [c])) := by
  have hblank : ¬ isBlank c = true := Bool.eq_false_iff.1 (isBlank_of_startsNumber h)
  have hne (d : Char) (hd : startsNumber d = false) : c ≠ d := ne_of_class h hd
  rw [stepBlank, if_neg hblank, if_neg (hne '#' rfl), if_neg (hne '/' rfl), if_neg (hne '"' rfl),
    if_pos h]

theorem stepBlank_of_startsWord (h : startsWord c = true) :
    stepBlank s c = .ok (s.advance c (.word s.next [c])) := by
  have hblank : ¬ isBlank c = true := Bool.eq_false_iff.1 (isBlank_of_startsWord h)
  have hnumber : ¬ startsNumber c = true := Bool.eq_false_iff.1 (startsNumber_of_startsWord h)
  have hne (d : Char) (hd : startsWord d = false) : c ≠ d := ne_of_class h hd
  rw [stepBlank, if_neg hblank, if_neg (hne '#' rfl), if_neg (hne '/' rfl), if_neg (hne '"' rfl),
    if_neg hnumber, if_pos h]

theorem stepBlank_punctuation (p : Punctuation) :
    stepBlank s p.char = .ok ((s.emit (.punctuation p) s.next).advance p.char .blank) := by
  cases p <;> rfl

end First

end DocumentSchema.Blueprint.Lexer
