import DocumentSchema.Text.Split
import Mathlib.Data.List.Basic

namespace DocumentSchema.Text

theorem splitAt_append {separator : Char} {part rest : List Char} {parts : List (List Char)}
    (hpart : separator ∉ part) (hrest : splitAt separator rest = ([], parts)) :
    splitAt separator (part ++ rest) = (part, parts) := by
  induction part with
  | nil => exact hrest
  | cons c part ih =>
    rw [List.mem_cons, not_or] at hpart
    obtain ⟨hc, hpart⟩ := hpart
    have hfold := ih hpart
    rw [splitAt] at hfold
    rw [splitAt, List.cons_append, List.foldr_cons, hfold]
    exact if_neg (Ne.symm hc)

theorem splitAt_separator (separator : Char) (rest : List Char) :
    splitAt separator (separator :: rest) =
      ([], (splitAt separator rest).1 :: (splitAt separator rest).2) :=
  if_pos rfl

theorem splitAt_parts {separator : Char} {parts : List (List Char)}
    (h : ∀ part ∈ parts, separator ∉ part) :
    splitAt separator (parts.flatMap (separator :: ·)) = ([], parts) := by
  induction parts with
  | nil => rfl
  | cons part parts ih =>
    obtain ⟨hpart, hparts⟩ := List.forall_mem_cons.1 h
    rw [List.flatMap_cons, List.cons_append, splitAt_separator, splitAt_append hpart (ih hparts)]

variable {text line rest : List Char} {ls : List (List Char)}

/-- A text and its lines, with what ends them taken off. -/
inductive HasLines : List Char → List (List Char) → Prop
  | nil : HasLines [] []
  | last {line : List Char} (unbroken : '\n' ∉ line) (nonempty : line ≠ []) : HasLines line [line]
  | feed {line rest : List Char} {ls : List (List Char)} (unbroken : '\n' ∉ line)
      (noReturn : line.getLast? ≠ some '\r') (more : HasLines rest ls) :
      HasLines (line ++ '\n' :: rest) (line :: ls)
  | returnFeed {line rest : List Char} {ls : List (List Char)} (unbroken : '\n' ∉ line)
      (more : HasLines rest ls) : HasLines (line ++ '\r' :: '\n' :: rest) (line :: ls)

theorem lines_nil : lines [] = [] := rfl

theorem lines_of_unbroken (unbroken : '\n' ∉ line) (nonempty : line ≠ []) : lines line = [line] := by
  have hsplit : splitAt '\n' line = (line, []) := by
    rw [← List.append_nil line, splitAt_append unbroken rfl, List.append_nil]
  rw [lines, hsplit]
  simp [nonempty]

theorem lines_append (unbroken : '\n' ∉ line) (rest : List Char) :
    lines (line ++ '\n' :: rest) = withoutReturn line :: lines rest := by
  rw [lines, splitAt_append unbroken (splitAt_separator '\n' rest), lines]
  simp

theorem withoutReturn_append (line : List Char) : withoutReturn (line ++ ['\r']) = line := by
  simp [withoutReturn]

theorem lines_eq_of_hasLines (h : HasLines text ls) : lines text = ls := by
  induction h with
  | nil => exact lines_nil
  | last unbroken nonempty => exact lines_of_unbroken unbroken nonempty
  | feed unbroken noReturn _ ih => rw [lines_append unbroken, withoutReturn, if_neg noReturn, ih]
  | @returnFeed line rest ls unbroken _ ih =>
    have hunbroken : '\n' ∉ line ++ ['\r'] := by simp [unbroken]
    rw [List.append_cons, lines_append hunbroken, withoutReturn_append, ih]

theorem hasLines_append (unbroken : '\n' ∉ line) (more : HasLines rest ls) :
    HasLines (line ++ '\n' :: rest) (withoutReturn line :: ls) := by
  by_cases hreturn : line.getLast? = some '\r'
  · obtain ⟨before, rfl⟩ := List.getLast?_eq_some_iff.1 hreturn
    rw [withoutReturn_append, ← List.append_cons]
    exact .returnFeed (fun hmem ↦ unbroken (List.mem_append_left _ hmem)) more
  · rw [withoutReturn, if_neg hreturn]
    exact .feed unbroken hreturn more

theorem hasLines_lines (text : List Char) : HasLines text (lines text) := by
  induction hlength : text.length using Nat.strongRecOn generalizing text with
  | ind n ih =>
    by_cases hfeed : '\n' ∈ text
    · obtain ⟨line, rest, rfl, unbroken⟩ := List.eq_append_cons_of_mem hfeed
      have hshorter : rest.length < n := by
        rw [List.length_append, List.length_cons] at hlength
        omega
      rw [lines_append unbroken]
      exact hasLines_append unbroken (ih _ hshorter rest rfl)
    · by_cases hempty : text = []
      · subst hempty
        exact .nil
      · rw [lines_of_unbroken hfeed hempty]
        exact .last hfeed hempty

theorem hasLines_iff : HasLines text ls ↔ lines text = ls :=
  ⟨lines_eq_of_hasLines, fun h ↦ h ▸ hasLines_lines text⟩

end DocumentSchema.Text
