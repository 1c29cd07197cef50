import DocumentSchema.Proofs.Blueprint.Scanning
import DocumentSchema.Proofs.Json.Shortest

namespace DocumentSchema

/-- In quotes, the character stands as it is or behind a backslash that a blueprint allows. -/
def Text.isLegible (c : Char) : Bool :=
  c ∈ ['\t', '\r', '\n', '\\', '"'] || !(extendsGrapheme c || isUnprintable c)

namespace Blueprint

open Json (Number)
open Text (escapeIn isLegible quotedString)

namespace Literal

def text : Literal → List Char
  | .null => "null".toList
  | .bool b => (if b then "true" else "false").toList
  | .number n => n.text
  | .string s => quotedString s.toList

def token : Literal → Token
  | .null => .word "null"
  | .bool b => .word (if b then "true" else "false")
  | .number n => .number n
  | .string s => .string s

/-- The literal that the text of a literal is read as. -/
def reread? : Literal → Option Literal
  | .number n => (Number.ofText? n.text).map .number
  | .string s => if s.toList.all isLegible then some (.string s) else none
  | l => some l

end Literal

section Quotes

variable {c : Char} {s rest : List Char}

theorem escapeIn_of_legible (h : isLegible c = true) :
    (escapeIn '"' c = [c] ∧ c ≠ '"' ∧ c ≠ '\\' ∧ c ≠ '\n') ∨
      ∃ letter, (letter, c) ∈ escapes ∧ escapeIn '"' c = ['\\', letter] := by
  by_cases hmarked : c ∈ ['\t', '\r', '\n', '\\', '"']
  · right
    simp only [List.mem_cons, List.not_mem_nil, or_false] at hmarked
    rcases hmarked with rfl | rfl | rfl | rfl | rfl
    · exact ⟨'t', by decide, rfl⟩
    · exact ⟨'r', by decide, rfl⟩
    · exact ⟨'n', by decide, rfl⟩
    · exact ⟨'\\', by decide, rfl⟩
    · exact ⟨'"', by decide, rfl⟩
  · left
    have hvisible : (Text.extendsGrapheme c || Text.isUnprintable c) = false := by
      simpa [isLegible, hmarked] using h
    have hnull : c ≠ '\x00' := by
      rintro rfl
      exact absurd hvisible (by decide +kernel)
    simp only [List.mem_cons, List.not_mem_nil, or_false, not_or] at hmarked
    obtain ⟨tab, carriageReturn, newline, backslash, quote⟩ := hmarked
    refine ⟨?_, quote, backslash, newline⟩
    simp [escapeIn, hnull, tab, carriageReturn, newline, backslash, quote, hvisible]

theorem escapeIn_of_not_legible (h : isLegible c = false) : ∃ letter more,
    escapeIn '"' c = '\\' :: letter :: more ∧ ∀ d, (letter, d) ∉ escapes := by
  simp only [isLegible, Bool.or_eq_false_iff, decide_eq_false_iff_not, List.mem_cons, List.not_mem_nil,
    or_false, not_or, Bool.not_eq_false'] at h
  obtain ⟨⟨tab, carriageReturn, newline, backslash, quote⟩, hidden⟩ := h
  by_cases hnull : c = '\x00'
  · exact ⟨'0', [], if_pos hnull, by simp [escapes]⟩
  · have hescape : escapeIn '"' c = '\\' :: 'u' :: '\x7b' :: (Nat.toDigits 16 c.toNat ++ ['\x7d']) := by
      simp [escapeIn, hnull, tab, carriageReturn, newline, backslash, quote, hidden]
    exact ⟨'u', _, hescape, by simp [escapes]⟩

theorem spellsContent_of_legible (h : ∀ c ∈ s, isLegible c = true) :
    SpellsContent s (s.flatMap (escapeIn '"')) := by
  induction s with
  | nil => exact .nil
  | cons c s ih =>
    obtain ⟨hc, hs⟩ := List.forall_mem_cons.1 h
    rw [List.flatMap_cons]
    rcases escapeIn_of_legible hc with ⟨hraw, plain⟩ | ⟨letter, isEscape, hescaped⟩
    · rw [hraw]
      exact .raw plain (ih hs)
    · rw [hescaped]
      exact .escaped isEscape (ih hs)

theorem scans_quotedString (content : String) : Scans (quotedString content.toList)
    (if content.toList.all isLegible then some [.string content] else none) := by
  split
  case isTrue hlegible =>
    have inside := spellsContent_of_legible (List.all_eq_true.1 hlegible)
    have spells := Spells.string inside
    rw [String.ofList_toList] at spells
    exact .spelled spells
  case isFalse hhidden =>
    obtain ⟨before, after, hcontent, hbefore, hafter⟩ := exists_run isLegible content.toList
    cases after with
    | nil =>
      rw [List.append_nil] at hcontent
      exact absurd (List.all_eq_true.2 (hcontent ▸ hbefore)) hhidden
    | cons c after =>
    obtain ⟨letter, more, hescape, isNoEscape⟩ := escapeIn_of_not_legible (hafter c rfl)
    refine .faulty fun rest _ ↦ ⟨.invalidEscape letter, ?_⟩
    rw [hcontent, quotedString, List.flatMap_append, List.flatMap_cons, hescape]
    simp only [List.cons_append, List.append_assoc]
    exact .escape (spellsContent_of_legible hbefore) isNoEscape

end Quotes

section Numbers

open Json.Double (IsDecimal isPlain)
open Lexer (startsNumber continuesNumber)

variable {c : Char} {m : Nat} {ds digits : List Char} {d : Json.Double}

/-- A run of characters that a number may have, the first of them a digit. -/
def IsUnsigned (text : List Char) : Prop :=
  ∃ c rest, text = c :: rest ∧ c.isDigit = true ∧ ∀ d ∈ rest, continuesNumber d = true

theorem continuesNumber_of_isDigit (h : c.isDigit = true) : continuesNumber c = true := by
  simp [continuesNumber, h]

theorem isUnsigned_toDigits (m : Nat) : IsUnsigned (Nat.toDigits 10 m) := by
  obtain ⟨c, rest, hdigits⟩ := List.exists_cons_of_ne_nil (l := Nat.toDigits 10 m) Nat.toDigits_ne_nil
  have hall : ∀ d ∈ c :: rest, d.isDigit = true := fun d hd ↦ Json.isDigit_of_mem_toDigits (hdigits ▸ hd)
  obtain ⟨hc, hrest⟩ := List.forall_mem_cons.1 hall
  exact ⟨c, rest, hdigits, hc, fun d hd ↦ continuesNumber_of_isDigit (hrest d hd)⟩

theorem isUnsigned_layout (hds : IsDecimal ds) (exponent : Int) :
    IsUnsigned (Json.Double.layout ds exponent) := by
  obtain ⟨c, rest, rfl, -⟩ := hds.exists_cons
  obtain ⟨hc, hrest⟩ := List.forall_mem_cons.1 hds.digits
  by_cases hplain : isPlain exponent = true
  · obtain ⟨k, t, hpointed, -⟩ := Json.Double.layout_plain hds hplain
    generalize Json.Double.layout (c :: rest) exponent = text at hpointed
    obtain @⟨whole, fraction, _, natural, digits, -, -⟩ := hpointed
    have hfraction : ∀ d ∈ '.' :: fraction, continuesNumber d = true :=
      List.forall_mem_cons.2 ⟨rfl, fun d hd ↦ continuesNumber_of_isDigit (digits d hd)⟩
    rcases natural with rfl | hwhole
    · exact ⟨'0', _, rfl, rfl, hfraction⟩
    · obtain ⟨first, more, rfl, -⟩ := hwhole.exists_cons
      obtain ⟨hfirst, hmore⟩ := List.forall_mem_cons.1 hwhole.digits
      refine ⟨first, more ++ '.' :: fraction, rfl, hfirst, List.forall_mem_append.2 ⟨?_, hfraction⟩⟩
      exact fun d hd ↦ continuesNumber_of_isDigit (hmore d hd)
  · simp only [Json.Double.layout, if_neg hplain]
    refine ⟨c, _, rfl, hc, List.forall_mem_append.2 ⟨?_, ?_⟩⟩
    · split
      · exact List.forall_mem_nil _
      · exact List.forall_mem_cons.2 ⟨rfl, fun d hd ↦ continuesNumber_of_isDigit (hrest d hd)⟩
    · refine List.forall_mem_cons.2 ⟨rfl, List.forall_mem_cons.2 ⟨by split <;> rfl, fun d hd ↦ ?_⟩⟩
      exact continuesNumber_of_isDigit (Json.isDigit_of_mem_toDigits hd)

theorem isUnsigned_magnitudeText (d : Json.Double) : IsUnsigned d.magnitudeText := by
  rcases Nat.eq_zero_or_pos d.rank with hzero | hpositive
  · have htext : d.magnitudeText = ['0', '.', '0'] := if_pos (by simpa [Json.Double.isZero] using hzero)
    exact ⟨'0', _, htext, rfl, List.forall_mem_cons.2 ⟨rfl, List.forall_mem_singleton.2 rfl⟩⟩
  · obtain ⟨ds, z, exponent, hds, htext, -⟩ := Json.Double.exists_decimal hpositive
    rw [htext]
    exact isUnsigned_layout hds _

theorem text_chars (n : Number) : ∃ c rest, n.text = c :: rest ∧ startsNumber c = true ∧
    ∀ d ∈ rest, continuesNumber d = true := by
  have hsigned (negative : Bool) {text : List Char} (h : IsUnsigned text) :
      ∃ c rest, Number.sign negative ++ text = c :: rest ∧ startsNumber c = true ∧
        ∀ d ∈ rest, continuesNumber d = true := by
    obtain ⟨c, rest, rfl, hc, hrest⟩ := h
    cases negative with
    | true =>
      exact ⟨'-', c :: rest, rfl, rfl, List.forall_mem_cons.2 ⟨continuesNumber_of_isDigit hc, hrest⟩⟩
    | false => exact ⟨c, rest, rfl, by simp [startsNumber, hc], hrest⟩
  cases n with
  | integer i inRange =>
    have htext : (Number.integer i inRange).text = Number.sign (i < 0) ++ Nat.toDigits 10 i.natAbs :=
      Number.decimal_eq i
    rw [htext]
    exact hsigned _ (isUnsigned_toDigits _)
  | real d =>
    have htext : (Number.real d).text = Number.sign d.negative ++ d.magnitudeText := d.text_eq
    rw [htext]
    exact hsigned _ (isUnsigned_magnitudeText d)

theorem scans_number (n : Number) :
    Scans n.text ((Number.ofText? n.text).map fun m ↦ [.number m]) := by
  cases hread : Number.ofText? n.text with
  | some m => exact .spelled (.number hread)
  | none =>
    obtain ⟨c, more, htext, starts, continues⟩ := text_chars n
    rw [htext] at hread ⊢
    exact .faulty fun rest hrest ↦ ⟨_, .number starts continues (hrest (.number n)) hread⟩

end Numbers

theorem spells_word {text : String} {c : Char} {rest : List Char} (htext : text.toList = c :: rest)
    (isWord : (Lexer.startsWord c && rest.all Lexer.continuesWord) = true) :
    Spells (.word text) text.toList := by
  obtain ⟨starts, continues⟩ := Bool.and_eq_true_iff.1 isWord
  have spells := Spells.word starts (List.all_eq_true.1 continues)
  rwa [← htext, String.ofList_toList] at spells

theorem scans_literal (l : Literal) : Scans l.text (l.reread?.map fun m ↦ [m.token]) := by
  cases l with
  | null => exact .spelled (spells_word rfl (by decide +kernel))
  | bool b => cases b <;> exact .spelled (spells_word rfl (by decide +kernel))
  | number n =>
    rw [Literal.reread?, Option.map_map]
    exact scans_number n
  | string content =>
    have hstring := scans_quotedString content
    rw [Literal.reread?]
    split at hstring <;> rename_i hlegible
    · rwa [if_pos hlegible]
    · rwa [if_neg hlegible]

namespace ConstraintClause

def text (clause : ConstraintClause) : List Char :=
  clause.key.value.toList ++ " = ".toList ++ clause.literal.value.text

def reread? (clause : ConstraintClause) : Option ConstraintClause :=
  clause.literal.value.reread?.map fun l ↦ ⟨clause.key, ⟨l, clause.literal.location⟩⟩

def tokens (clause : ConstraintClause) : List Token :=
  [.word clause.key.value, .punctuation .equals, clause.literal.value.token]

end ConstraintClause

/-- The tokens of constraints after the parenthesis that opens them. -/
def constraintTokens : List ConstraintClause → List Token
  | [] => [.punctuation .closeParenthesis]
  | [clause] => clause.tokens ++ [.punctuation .closeParenthesis]
  | clause :: second :: rest =>
    clause.tokens ++ .punctuation .comma :: constraintTokens (second :: rest)

section Constraints

variable {clause : ConstraintClause} {clauses : List ConstraintClause}

theorem scans_clause (hkey : Spells (.word clause.key.value) clause.key.value.toList) :
    Scans clause.text (clause.reread?.map ConstraintClause.tokens) := by
  have hequals : Scans (Punctuation.equals.char :: ' ' :: clause.literal.value.text) _ :=
    (scans_literal clause.literal.value).blankBefore.markBefore .equals
  have hclause : Scans (clause.key.value.toList ++ ' ' :: '=' :: ' ' :: clause.literal.value.text) _ :=
    hequals.blankBefore.token hkey fun _ _ _ ↦ .blank _
  have htext : clause.text = clause.key.value.toList ++ ' ' :: '=' :: ' ' :: clause.literal.value.text :=
    List.append_assoc _ _ _
  rw [htext, ConstraintClause.reread?]
  simp only [Option.map_map] at hclause ⊢
  exact hclause

theorem scans_constraints (hne : clauses ≠ [])
    (hkeys : ∀ clause ∈ clauses, Spells (.word clause.key.value) clause.key.value.toList) :
    Scans ([',', ' '].intercalate (clauses.map ConstraintClause.text) ++ [')'])
      ((clauses.mapM ConstraintClause.reread?).map constraintTokens) := by
  induction clauses with
  | nil => exact absurd rfl hne
  | cons clause others ih =>
    obtain ⟨hkey, hothers⟩ := List.forall_mem_cons.1 hkeys
    rw [List.mapM_cons, List.map_cons]
    cases others with
    | nil =>
      have hclose : Scans [')'] (some [.punctuation .closeParenthesis]) :=
        .spelled (.punctuation .closeParenthesis)
      have hscans := (scans_clause hkey).append (fun rest _ ↦ .mark .closeParenthesis rest) hclose
      rw [List.map_nil, List.intercalate_singleton]
      cases hread : clause.reread? <;> simpa [hread, constraintTokens] using hscans
    | cons second rest =>
      have hrest := (ih (List.cons_ne_nil _ _) hothers).blankBefore.markBefore .comma
      have hscans := (scans_clause hkey).append (fun rest _ ↦ .mark .comma _) hrest
      have htext : [',', ' '].intercalate (clause.text :: (second :: rest).map ConstraintClause.text) ++
          [')'] = clause.text ++ ',' :: ' ' :: ([',', ' '].intercalate
            ((second :: rest).map ConstraintClause.text) ++ [')']) := by
        rw [List.map_cons, List.intercalate_cons_cons, List.append_assoc, List.append_assoc]
        rfl
      rw [htext]
      -- What is read of the others has a first clause again, so the comma before it stays one.
      have hread : (second :: rest).mapM ConstraintClause.reread? = none ∨
          ∃ second' rest', (second :: rest).mapM ConstraintClause.reread? = some (second' :: rest') := by
        rw [List.mapM_cons]
        cases second.reread? <;> cases rest.mapM ConstraintClause.reread? <;> simp
      rcases hread with hnone | ⟨second', rest', hsome⟩
      · rw [hnone] at hscans ⊢
        cases hread : clause.reread? <;> simpa [hread, Punctuation.char] using hscans
      · rw [hsome] at hscans ⊢
        cases hread : clause.reread? <;>
          simpa [hread, constraintTokens, Punctuation.char] using hscans

theorem writes_literal (l : Literal) : WritesLiteral l.token.unplaced ⟨l, .nowhere⟩ := by
  cases l with
  | null => exact .null .nowhere
  | bool b => cases b <;> constructor
  | number n => exact .number n .nowhere
  | string content => exact .string content .nowhere

theorem writes_clause (clause : ConstraintClause) :
    WritesConstraint (clause.tokens.map Token.unplaced) clause.unplaced := by
  have hwrites := writes_literal clause.literal.value
  exact @WritesConstraint.mk ⟨clause.key.value, .nowhere⟩ .nowhere _ _ hwrites

theorem writes_constraints (clauses : List ConstraintClause) :
    WritesConstraints ((constraintTokens clauses).map Token.unplaced)
      (clauses.map ConstraintClause.unplaced) := by
  induction clauses with
  | nil => exact .close .nowhere
  | cons clause others ih =>
    cases others with
    | nil =>
      rw [constraintTokens, List.map_append]
      exact .last (writes_clause clause) .nowhere
    | cons second rest =>
      rw [constraintTokens, List.map_append]
      exact .cons (writes_clause clause) .nowhere ih

end Constraints

end Blueprint

end DocumentSchema
