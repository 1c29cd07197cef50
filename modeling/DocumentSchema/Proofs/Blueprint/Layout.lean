import DocumentSchema.Proofs.Blueprint.Characters

namespace DocumentSchema.Blueprint

section Spelling

inductive LineComment : List Char → Prop
  | hash {content : List Char} (oneLine : '\n' ∉ content) : LineComment ('#' :: content)
  | slashes {content : List Char} (oneLine : '\n' ∉ content) : LineComment ('/' :: '/' :: content)

inductive Separator : List Char → Prop
  | blank {c : Char} (isBlank : Text.isBlank c = true) : Separator [c]
  | line {comment : List Char} (isComment : LineComment comment) : Separator (comment ++ ['\n'])
  | block {content : List Char} (isOpen : ¬ ['*', '/'] <:+: content) :
      Separator ('/' :: '*' :: (content ++ ['*', '/']))

inductive Trivia : List Char → Prop
  | nil : Trivia []
  | cons {piece rest : List Char} (first : Separator piece) (others : Trivia rest) :
      Trivia (piece ++ rest)

def escapes : List (Char × Char) :=
  [('"', '"'), ('\\', '\\'), ('n', '\n'), ('r', '\r'), ('t', '\t')]

/-- The characters of a string, as they are or escaped. -/
inductive SpellsContent : List Char → List Char → Prop
  | nil : SpellsContent [] []
  | raw {c : Char} {content spelled : List Char} (isPlain : c ≠ '"' ∧ c ≠ '\\' ∧ c ≠ '\n')
      (others : SpellsContent content spelled) : SpellsContent (c :: content) (c :: spelled)
  | escaped {letter c : Char} {content spelled : List Char} (isEscape : (letter, c) ∈ escapes)
      (others : SpellsContent content spelled) :
      SpellsContent (c :: content) ('\\' :: letter :: spelled)

inductive Spells : Token → List Char → Prop
  | word {c : Char} {rest : List Char} (starts : Lexer.startsWord c = true)
      (continues : ∀ d ∈ rest, Lexer.continuesWord d = true) :
      Spells (.word (String.ofList (c :: rest))) (c :: rest)
  | string {content spelled : List Char} (inside : SpellsContent content spelled) :
      Spells (.string (String.ofList content)) ('"' :: (spelled ++ ['"']))
  | number {n : Json.Number} {text : List Char} (isNumber : Json.Number.ofText? text = some n) :
      Spells (.number n) text
  | punctuation (p : Punctuation) : Spells (.punctuation p) [p.char]

def Token.goesOn : Token → Char → Bool
  | .word _ => Lexer.continuesWord
  | .number _ => Lexer.continuesNumber
  | .string _ | .punctuation _ | .endOfInput => fun _ ↦ false

def Halts (p : Char → Bool) (text : List Char) : Prop := ∀ c, text.head? = some c → p c = false

end Spelling

def Location.past (l : Location) (text : List Char) : Location := text.foldl Location.after l

/-- Tokens at their places in a text, up to where the text stops being a layout of tokens. -/
inductive Layout (stops : Location → List Char → Prop) :
    Location → List (Located Token) → List Char → Prop
  | stop {place : Location} {trivia rest : List Char} (isTrivia : Trivia trivia)
      (stopped : stops (place.past trivia) rest) : Layout stops place [] (trivia ++ rest)
  | cons {place : Location} {t : Token} {ts : List (Located Token)} {trivia spelled rest : List Char}
      (isTrivia : Trivia trivia) (spells : Spells t spelled) (ends : Halts t.goesOn rest)
      (others : Layout stops ((place.past trivia).past spelled) ts rest) :
      Layout stops place (⟨t, place.past trivia⟩ :: ts) (trivia ++ (spelled ++ rest))

/-- The end of a text, with a comment at most before it. -/
inductive AtEnd : List Char → Prop
  | nil : AtEnd []
  | comment {text : List Char} (isComment : LineComment text) : AtEnd text

/-- What a fault of form is found in, from its first character on. -/
inductive Faulty : SyntaxFault → List Char → Prop
  | character {c : Char} {rest : List Char} (isNoBlank : Text.isBlank c = false)
      (isNoMark : c ≠ '#' ∧ c ≠ '/' ∧ c ≠ '"') (isNoNumber : Lexer.startsNumber c = false)
      (isNoWord : Lexer.startsWord c = false) (isNoPunctuation : ∀ p : Punctuation, c ≠ p.char) :
      Faulty (.unexpectedCharacter c) (c :: rest)
  | slash {rest : List Char} (isNoComment : Halts (fun c ↦ c = '/' || c = '*') rest) :
      Faulty (.unexpectedCharacter '/') ('/' :: rest)
  | comment {content : List Char} (isOpen : ¬ ['*', '/'] <:+: content) :
      Faulty .unterminatedComment ('/' :: '*' :: content)
  | number {c : Char} {more rest : List Char} (starts : Lexer.startsNumber c = true)
      (continues : ∀ d ∈ more, Lexer.continuesNumber d = true)
      (ends : Halts Lexer.continuesNumber rest)
      (isNoNumber : Json.Number.ofText? (c :: more) = none) :
      Faulty (.invalidNumber (String.ofList (c :: more))) (c :: (more ++ rest))
  | escape {content spelled rest : List Char} {c : Char} (inside : SpellsContent content spelled)
      (isNoEscape : ∀ d, (c, d) ∉ escapes) :
      Faulty (.invalidEscape c) ('"' :: (spelled ++ '\\' :: c :: rest))
  | lineEnd {content spelled rest : List Char} (inside : SpellsContent content spelled) :
      Faulty .unterminatedString ('"' :: (spelled ++ '\n' :: rest))
  | textEnd {content spelled rest : List Char} (inside : SpellsContent content spelled)
      (isEnd : rest = [] ∨ rest = ['\\']) : Faulty .unterminatedString ('"' :: (spelled ++ rest))

section Places

@[simp]
theorem Location.past_nil (l : Location) : l.past [] = l := rfl

@[simp]
theorem Location.past_cons (l : Location) (c : Char) (text : List Char) :
    l.past (c :: text) = (l.after c).past text := rfl

@[simp]
theorem Location.past_append (l : Location) (text text' : List Char) :
    l.past (text ++ text') = (l.past text).past text' := List.foldl_append

end Places

section Parts

variable {p : Char → Bool} {c : Char} {text rest : List Char}

theorem Halts.nil : Halts p [] := nofun

theorem Halts.cons (h : p c = false) : Halts p (c :: rest) := by
  intro d hd
  obtain rfl := Option.some.inj hd
  exact h

theorem exists_run (p : Char → Bool) (text : List Char) :
    ∃ run rest, text = run ++ rest ∧ (∀ c ∈ run, p c = true) ∧ Halts p rest := by
  refine ⟨text.takeWhile p, text.dropWhile p, List.takeWhile_append_dropWhile.symm,
    fun c hc ↦ ?_, fun c hc ↦ ?_⟩
  · exact List.all_eq_true.1 List.all_takeWhile c hc
  · have hhead := List.head?_dropWhile_not p text
    rw [hc] at hhead
    exact Bool.eq_false_iff.2 fun h ↦ by simp [h] at hhead

theorem exists_line_end (text : List Char) :
    '\n' ∉ text ∨ ∃ line rest, text = line ++ '\n' :: rest ∧ '\n' ∉ line := by
  by_cases h : '\n' ∈ text
  · obtain ⟨line, rest, rfl, hline⟩ := List.eq_append_cons_of_mem h
    exact .inr ⟨line, rest, rfl, hline⟩
  · exact .inl h

theorem exists_comment_end (text : List Char) :
    ¬ ['*', '/'] <:+: text ∨
      ∃ content rest, text = content ++ '*' :: '/' :: rest ∧ ¬ ['*', '/'] <:+: content := by
  induction text with
  | nil => exact .inl (by decide)
  | cons c text ih =>
    by_cases hfirst : ['*', '/'] <+: c :: text
    · obtain ⟨rest, hrest⟩ := hfirst
      exact .inr ⟨[], rest, hrest.symm, by decide⟩
    rcases ih with hopen | ⟨content, rest, rfl, hopen⟩
    · exact .inl fun h ↦ (List.infix_cons_iff.1 h).elim hfirst hopen
    · refine .inr ⟨c :: content, rest, rfl, fun h ↦ ?_⟩
      refine (List.infix_cons_iff.1 h).elim (fun hstart ↦ ?_) hopen
      exact hfirst (hstart.trans (List.prefix_append (c :: content) _))

/-- What ends the characters of a string, or makes them no string. -/
inductive StopsContent : List Char → Prop
  | quote (rest : List Char) : StopsContent ('"' :: rest)
  | lineEnd (rest : List Char) : StopsContent ('\n' :: rest)
  | escape {c : Char} (isNoEscape : ∀ d, (c, d) ∉ escapes) (rest : List Char) :
      StopsContent ('\\' :: c :: rest)
  | textEnd {rest : List Char} (isEnd : rest = [] ∨ rest = ['\\']) : StopsContent rest

theorem exists_content (text : List Char) : ∃ content spelled rest,
    text = spelled ++ rest ∧ SpellsContent content spelled ∧ StopsContent rest := by
  match text with
  | [] => exact ⟨[], [], [], rfl, .nil, .textEnd (.inl rfl)⟩
  | c :: text =>
    by_cases hquote : c = '"'
    · subst hquote
      exact ⟨[], [], _, rfl, .nil, .quote text⟩
    by_cases hline : c = '\n'
    · subst hline
      exact ⟨[], [], _, rfl, .nil, .lineEnd text⟩
    by_cases hbackslash : c = '\\'
    · subst hbackslash
      match text with
      | [] => exact ⟨[], [], _, rfl, .nil, .textEnd (.inr rfl)⟩
      | letter :: text =>
        by_cases hescape : ∃ d, (letter, d) ∈ escapes
        · obtain ⟨d, hescape⟩ := hescape
          obtain ⟨content, spelled, rest, rfl, inside, hstops⟩ := exists_content text
          exact ⟨d :: content, '\\' :: letter :: spelled, rest, rfl, .escaped hescape inside, hstops⟩
        · exact ⟨[], [], _, rfl, .nil, .escape (fun d hd ↦ hescape ⟨d, hd⟩) text⟩
    · obtain ⟨content, spelled, rest, rfl, inside, hstops⟩ := exists_content text
      exact ⟨c :: content, c :: spelled, rest, rfl, .raw ⟨hquote, hbackslash, hline⟩ inside, hstops⟩

end Parts

section Totality

variable {stops : Location → List Char → Prop} {place : Location} {piece text : List Char}
  {ts : List (Located Token)}

inductive Begin : List Char → Prop
  | done {text : List Char} (isEnd : AtEnd text) : Begin text
  | separator {c : Char} {piece rest : List Char} (separates : Separator (c :: piece)) :
      Begin (c :: piece ++ rest)
  | token {t : Token} {c : Char} {spelled rest : List Char} (spells : Spells t (c :: spelled))
      (ends : Halts t.goesOn rest) : Begin (c :: spelled ++ rest)
  | fault {fault : SyntaxFault} {text : List Char} (faulty : Faulty fault text) : Begin text

theorem begin_slash (text : List Char) : Begin ('/' :: text) := by
  match text with
  | [] => exact .fault (.slash .nil)
  | c :: text =>
    by_cases hline : c = '/'
    · subst hline
      rcases exists_line_end text with hopen | ⟨line, rest, rfl, hline⟩
      · exact .done (.comment (.slashes hopen))
      · have hseparator := Separator.line (.slashes hline)
        have htext : '/' :: '/' :: (line ++ '\n' :: rest) = '/' :: ('/' :: line ++ ['\n']) ++ rest := by
          simp
        rw [htext]
        exact .separator hseparator
    by_cases hblock : c = '*'
    · subst hblock
      rcases exists_comment_end text with hopen | ⟨content, rest, rfl, hopen⟩
      · exact .fault (.comment hopen)
      · have htext : '/' :: '*' :: (content ++ '*' :: '/' :: rest) =
            '/' :: ('*' :: (content ++ ['*', '/'])) ++ rest := by simp
        rw [htext]
        exact .separator (.block hopen)
    · exact .fault (.slash (.cons (by simp [hline, hblock])))

theorem begin_string (text : List Char) : Begin ('"' :: text) := by
  obtain ⟨content, spelled, rest, rfl, inside, hstops⟩ := exists_content text
  cases hstops with
  | quote rest =>
    have htext : '"' :: (spelled ++ '"' :: rest) = '"' :: (spelled ++ ['"']) ++ rest := by simp
    rw [htext]
    exact .token (.string inside) fun _ _ ↦ rfl
  | lineEnd rest => exact .fault (.lineEnd inside)
  | escape isNoEscape rest => exact .fault (.escape inside isNoEscape)
  | textEnd isEnd => exact .fault (.textEnd inside isEnd)

theorem begin_any (text : List Char) : Begin text := by
  match text with
  | [] => exact .done .nil
  | c :: text =>
    by_cases hblank : Text.isBlank c = true
    · have separates : Separator [c] := .blank hblank
      exact .separator separates
    by_cases hhash : c = '#'
    · subst hhash
      rcases exists_line_end text with hopen | ⟨line, rest, rfl, hline⟩
      · exact .done (.comment (.hash hopen))
      · have htext : '#' :: (line ++ '\n' :: rest) = '#' :: (line ++ ['\n']) ++ rest := by simp
        rw [htext]
        exact .separator (.line (.hash hline))
    by_cases hslash : c = '/'
    · subst hslash
      exact begin_slash text
    by_cases hquote : c = '"'
    · subst hquote
      exact begin_string text
    by_cases hnumber : Lexer.startsNumber c = true
    · obtain ⟨more, rest, rfl, continues, ends⟩ := exists_run Lexer.continuesNumber text
      cases hvalue : Json.Number.ofText? (c :: more) with
      | none => exact .fault (.number hnumber continues ends hvalue)
      | some n => exact .token (.number hvalue) ends
    by_cases hword : Lexer.startsWord c = true
    · obtain ⟨more, rest, rfl, continues, ends⟩ := exists_run Lexer.continuesWord text
      exact .token (.word hword continues) ends
    by_cases hpunctuation : ∃ p : Punctuation, c = p.char
    · obtain ⟨p, rfl⟩ := hpunctuation
      have spells : Spells (.punctuation p) [p.char] := .punctuation p
      exact .token spells fun _ _ ↦ rfl
    · refine .fault (.character (Bool.eq_false_iff.2 hblank) ⟨hhash, hslash, hquote⟩
        (Bool.eq_false_iff.2 hnumber) (Bool.eq_false_iff.2 hword) fun p hp ↦ ?_)
      exact hpunctuation ⟨p, hp⟩

theorem Layout.separated (h : Layout stops (place.past piece) ts text) (separates : Separator piece) :
    Layout stops place ts (piece ++ text) := by
  cases h with
  | stop isTrivia stopped =>
    rw [← List.append_assoc]
    rw [← Location.past_append place piece] at stopped
    exact .stop (.cons separates isTrivia) stopped
  | cons isTrivia spells ends others =>
    rw [← List.append_assoc]
    rw [← Location.past_append place piece] at others ⊢
    exact .cons (.cons separates isTrivia) spells ends others

theorem exists_layout (text : List Char) (place : Location) :
    (∃ ts, Layout (fun _ ↦ AtEnd) place ts text) ∨
      ∃ (f : Located SyntaxFault) (ts : List (Located Token)),
        Layout (fun place rest ↦ place = f.location ∧ Faulty f.value rest) place ts text := by
  cases begin_any text with
  | done isEnd => exact .inl ⟨[], .stop .nil isEnd⟩
  | fault faulty => exact .inr ⟨⟨_, place⟩, [], .stop .nil ⟨rfl, faulty⟩⟩
  | @separator c piece rest separates =>
    rcases exists_layout rest (place.past (c :: piece)) with ⟨ts, h⟩ | ⟨f, ts, h⟩
    · exact .inl ⟨ts, h.separated separates⟩
    · exact .inr ⟨f, ts, h.separated separates⟩
  | @token t c spelled rest spells ends =>
    rcases exists_layout rest (place.past (c :: spelled)) with ⟨ts, h⟩ | ⟨f, ts, h⟩
    · exact .inl ⟨_, .cons .nil spells ends h⟩
    · exact .inr ⟨f, _, .cons .nil spells ends h⟩
termination_by text.length
decreasing_by
  all_goals
    simp only [List.length_append, List.length_cons]
    omega

end Totality

end DocumentSchema.Blueprint
