import DocumentSchema.Proofs.Json.Quoted
import DocumentSchema.Validation.Path

namespace DocumentSchema.Validation.Path

def continuesIdentifier (c : Char) : Bool := c.isAlphanum || c = '_'

def readIndex (text : List Char) : Segment × List Char :=
  (.index (Nat.ofDigitChars 10 (text.takeWhile Char.isDigit) 0),
    (text.dropWhile Char.isDigit).tail)

def readIdentifier (text : List Char) : Segment × List Char :=
  (.field (String.ofList (text.takeWhile continuesIdentifier)), text.dropWhile continuesIdentifier)

/-- The first segment in a text, and what follows it. -/
def readSegment? (first : Bool) : List Char → Option (Segment × List Char)
  | '[' :: '"' :: rest =>
    (Json.unquote rest).map fun (name, rest) ↦ (.field (String.ofList name), rest.tail)
  | '[' :: rest => some (readIndex rest)
  | text => some (readIdentifier (if first then text else text.tail))

theorem takeWhile_run {p : Char → Bool} {run rest : List Char} (each : ∀ c ∈ run, p c = true)
    (ends : rest.takeWhile p = []) :
    (run ++ rest).takeWhile p = run ∧ (run ++ rest).dropWhile p = rest := by
  have htake : (run ++ rest).takeWhile p = run := by
    rw [List.takeWhile_append_of_pos each, ends, List.append_nil]
  have hall : run ++ (run ++ rest).dropWhile p = run ++ rest := by
    calc
      _ = (run ++ rest).takeWhile p ++ (run ++ rest).dropWhile p := by rw [htake]
      _ = run ++ rest := List.takeWhile_append_dropWhile
  exact ⟨htake, List.append_cancel_left hall⟩

section Segments

variable {first : Bool} {name : String} {rest : List Char}

theorem readIndex_digits (i : Nat) (rest : List Char) :
    readIndex (Nat.toDigits 10 i ++ ']' :: rest) = (.index i, rest) := by
  have hdigits : ∀ c ∈ Nat.toDigits 10 i, c.isDigit = true := fun c hc ↦
    Nat.isDigit_of_mem_toDigits (by decide) (by decide) hc
  have hends : (']' :: rest).takeWhile Char.isDigit = [] := rfl
  obtain ⟨htake, hdrop⟩ := takeWhile_run hdigits hends
  rw [readIndex, htake, hdrop, Nat.ofDigitChars_toDigits (by decide) (by decide), List.tail_cons]

theorem readSegment?_index (i : Nat) (rest : List Char) :
    readSegment? first (segmentText first (.index i) ++ rest) = some (.index i, rest) := by
  have htext : segmentText first (.index i) ++ rest =
      '[' :: (Nat.toDigits 10 i ++ ']' :: rest) := by simp [segmentText]
  obtain ⟨d, ds, hds⟩ := List.exists_cons_of_ne_nil (Nat.toDigits_ne_nil (n := i) (b := 10))
  have hd : d ≠ '"' := by
    rintro rfl
    have hdigit : ('"' : Char).isDigit = true :=
      Nat.isDigit_of_mem_toDigits (b := 10) (n := i) (by decide) (by decide)
        (hds ▸ List.mem_cons_self)
    cases hdigit
  rw [htext, ← readIndex_digits i rest, hds, List.cons_append, readSegment?]
  exact fun _ h ↦ hd (List.cons.inj h).1

theorem readSegment?_quoted (h : isIdentifier name.toList = false) (rest : List Char) :
    readSegment? first (segmentText first (.field name) ++ rest) = some (.field name, rest) := by
  have htext : segmentText first (.field name) ++ rest =
      '[' :: '"' :: (name.toList.flatMap Json.escape ++ '"' :: ']' :: rest) := by
    simp [segmentText, Json.quoted, h]
  rw [htext, readSegment?, Json.unquote_quoted, Option.map_some]
  simp

theorem continuesIdentifier_of_isIdentifier {name : List Char} (h : isIdentifier name = true) :
    ∀ c ∈ name, continuesIdentifier c = true := by
  cases name with
  | nil => cases h
  | cons c cs =>
    simp only [isIdentifier, Bool.and_eq_true, List.all_eq_true] at h
    refine List.forall_mem_cons.2 ⟨?_, h.2⟩
    have hc := h.1
    simp only [continuesIdentifier, Char.isAlphanum, Bool.or_eq_true] at hc ⊢
    exact hc.imp_left .inl

theorem readIdentifier_of_isIdentifier (h : isIdentifier name.toList = true)
    (ends : rest.takeWhile continuesIdentifier = []) :
    readIdentifier (name.toList ++ rest) = (.field name, rest) := by
  obtain ⟨htake, hdrop⟩ := takeWhile_run (continuesIdentifier_of_isIdentifier h) ends
  rw [readIdentifier, htake, hdrop, String.ofList_toList]

theorem exists_toList_eq_cons (h : isIdentifier name.toList = true) :
    ∃ c cs, name.toList = c :: cs ∧ c ≠ '[' := by
  cases hname : name.toList with
  | nil =>
    rw [hname] at h
    cases h
  | cons c cs =>
    refine ⟨c, cs, rfl, ?_⟩
    rintro rfl
    cases continuesIdentifier_of_isIdentifier h '[' (hname ▸ List.mem_cons_self)

theorem readSegment?_identifier (h : isIdentifier name.toList = true)
    (ends : rest.takeWhile continuesIdentifier = []) :
    readSegment? first (segmentText first (.field name) ++ rest) = some (.field name, rest) := by
  rw [← readIdentifier_of_isIdentifier h ends]
  cases first with
  | false =>
    have htext : segmentText false (.field name) ++ rest = '.' :: (name.toList ++ rest) := by
      simp [segmentText, h]
    rw [htext]
    rfl
  | true =>
    have htext : segmentText true (.field name) ++ rest = name.toList ++ rest := by
      simp [segmentText, h]
    obtain ⟨c, cs, hname, hc⟩ := exists_toList_eq_cons h
    rw [htext, hname, List.cons_append, readSegment?]
    · rfl
    all_goals
      intro _ hbracket
      exact hc (List.cons.inj hbracket).1

theorem readSegment?_segmentText (s : Segment) (ends : rest.takeWhile continuesIdentifier = []) :
    readSegment? first (segmentText first s ++ rest) = some (s, rest) := by
  cases s with
  | index i => exact readSegment?_index i rest
  | field name =>
    cases h : isIdentifier name.toList with
    | false => exact readSegment?_quoted h rest
    | true => exact readSegment?_identifier h ends

theorem exists_segmentText_eq_cons (s : Segment) :
    ∃ c text, segmentText false s = c :: text ∧ continuesIdentifier c = false := by
  cases s with
  | index i => exact ⟨_, _, rfl, rfl⟩
  | field name =>
    cases h : isIdentifier name.toList with
    | false => exact ⟨'[', Json.quoted name.toList ++ [']'], by simp [segmentText, h], rfl⟩
    | true => exact ⟨'.', name.toList, by simp [segmentText, h], rfl⟩

end Segments

section Paths

variable {first : Bool} {s s' : Segment} {p p' : Path}

theorem ends_flatMap (p : Path) :
    (p.flatMap (segmentText false)).takeWhile continuesIdentifier = [] := by
  cases p with
  | nil => rfl
  | cons s p =>
    obtain ⟨c, text, htext, hc⟩ := exists_segmentText_eq_cons s
    rw [List.flatMap_cons, htext, List.cons_append, List.takeWhile_cons_of_neg (by simp [hc])]

theorem segmentText_append_inj (h : segmentText first s ++ p.flatMap (segmentText false) =
      segmentText first s' ++ p'.flatMap (segmentText false)) :
    s = s' ∧ p.flatMap (segmentText false) = p'.flatMap (segmentText false) := by
  have hread := congrArg (readSegment? first) h
  rw [readSegment?_segmentText s (ends_flatMap p), readSegment?_segmentText s' (ends_flatMap p')]
    at hread
  exact Prod.mk.inj (Option.some.inj hread)

theorem flatMap_segmentText_ne_nil (s : Segment) (p : Path) :
    (s :: p).flatMap (segmentText false) ≠ [] := by
  obtain ⟨c, text, htext, -⟩ := exists_segmentText_eq_cons s
  rw [List.flatMap_cons, htext]
  exact List.cons_ne_nil _ _

theorem flatMap_segmentText_injective
    (h : p.flatMap (segmentText false) = p'.flatMap (segmentText false)) : p = p' := by
  induction p generalizing p' with
  | nil =>
    cases p' with
    | nil => rfl
    | cons s' p' => exact absurd h.symm (flatMap_segmentText_ne_nil s' p')
  | cons s p ih =>
    cases p' with
    | nil => exact absurd h (flatMap_segmentText_ne_nil s p)
    | cons s' p' =>
      obtain ⟨rfl, hrest⟩ := segmentText_append_inj h
      rw [ih hrest]

theorem text_cons_ne_root (s : Segment) (p : Path) : text (s :: p) ≠ text [] := by
  intro h
  -- What does not begin as a segment does is read as a name without characters.
  have hroot : readSegment? true (text []) = some (.field "", text []) := by rfl
  have hread : readSegment? true (text (s :: p)) = some (s, p.flatMap (segmentText false)) :=
    readSegment?_segmentText s (ends_flatMap p)
  rw [h, hroot] at hread
  obtain ⟨rfl, -⟩ := Prod.mk.inj (Option.some.inj hread)
  cases h

theorem text_injective (h : p.text = p'.text) : p = p' := by
  cases p with
  | nil =>
    cases p' with
    | nil => rfl
    | cons s' p' => exact absurd h.symm (text_cons_ne_root s' p')
  | cons s p =>
    cases p' with
    | nil => exact absurd h (text_cons_ne_root s p)
    | cons s' p' =>
      obtain ⟨rfl, hrest⟩ := segmentText_append_inj h
      rw [flatMap_segmentText_injective hrest]

end Paths

/-- Paths with one and the same display are the same, whatever their names are made of. No path but the
empty one is displayed as `(root)`. -/
theorem display_unambiguous :
    Function.Injective display ∧ ∀ p : Path, p.display = "(root)" ↔ p = [] := by
  have hinjective : Function.Injective display := fun _ _ h ↦
    text_injective (String.ofList_injective h)
  refine ⟨hinjective, fun p ↦ ⟨fun h ↦ @hinjective p [] h, ?_⟩⟩
  rintro rfl
  rfl

example : display [.field "a", .field "b", .index 0] = "a.b[0]" ∧
    display [.field "a.b[0]"] = "[\"a.b[0]\"]" := ⟨rfl, rfl⟩

end DocumentSchema.Validation.Path
