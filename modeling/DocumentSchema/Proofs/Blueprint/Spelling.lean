import DocumentSchema.Pattern.Engine
import DocumentSchema.Proofs.Blueprint.Displacement
import DocumentSchema.Proofs.Blueprint.Lexing

namespace DocumentSchema.Blueprint

def Token.isBare : Token → Bool
  | .word _ | .number _ => true
  | .string _ | .punctuation _ | .endOfInput => false

inductive LastTrivia : List Char → Prop
  | closed {trivia : List Char} (isTrivia : Trivia trivia) : LastTrivia trivia
  | comment {trivia comment : List Char} (isTrivia : Trivia trivia) (isComment : LineComment comment) :
      LastTrivia (trivia ++ comment)

/-- A text in which tokens are spelled one after another, perhaps after a word or a number. -/
inductive Spaced : Bool → List Token → List Char → Prop
  | last {afterBare : Bool} {trivia : List Char} (isLast : LastTrivia trivia) : Spaced afterBare [] trivia
  | cons {afterBare : Bool} {t : Token} {ts : List Token} {trivia spelled rest : List Char}
      (isTrivia : Trivia trivia) (apart : afterBare = true → t.isBare = true → trivia ≠ [])
      (spells : Spells t spelled) (others : Spaced t.isBare ts rest) :
      Spaced afterBare (t :: ts) (trivia ++ (spelled ++ rest))

section Apart

variable {c : Char} {t : Token} {ts : List Token} {piece trivia spelled rest text : List Char}
  {afterBare : Bool}

theorem goesOn_of_separates (t : Token) (h : Text.isBlank c = true ∨ c = '#' ∨ c = '/') :
    t.goesOn c = false := by
  cases t with
  | word =>
    rcases h with hblank | rfl | rfl
    · exact Lexer.continuesWord_of_isBlank hblank
    all_goals rfl
  | number =>
    rcases h with hblank | rfl | rfl
    · exact Lexer.continuesNumber_of_isBlank hblank
    all_goals rfl
  | string | punctuation | endOfInput => rfl

theorem halts_comment (rest : List Char) (t : Token) (h : LineComment text) :
    Halts t.goesOn (text ++ rest) := by
  cases h with
  | hash => exact .cons (goesOn_of_separates t (.inr (.inl rfl)))
  | slashes => exact .cons (goesOn_of_separates t (.inr (.inr rfl)))

theorem halts_separator (t : Token) (h : Separator piece) : Halts t.goesOn (piece ++ rest) := by
  cases h with
  | blank isBlank => exact .cons (goesOn_of_separates t (.inl isBlank))
  | line isComment =>
    rw [List.append_assoc]
    exact halts_comment _ t isComment
  | block => exact .cons (goesOn_of_separates t (.inr (.inr rfl)))

theorem halts_trivia (rest : List Char) (t : Token) (h : Trivia trivia) (hne : trivia ≠ []) :
    Halts t.goesOn (trivia ++ rest) := by
  cases h with
  | nil => exact absurd rfl hne
  | cons first others =>
    rw [List.append_assoc]
    exact halts_separator t first

theorem halts_spelled (t : Token) {t' : Token} (h : Spells t' spelled) (hbare : ¬ t'.isBare = true) :
    Halts t.goesOn (spelled ++ rest) := by
  cases h with
  | word | number => exact absurd rfl hbare
  | string => exact .cons (by cases t <;> rfl)
  | punctuation p => exact .cons (by cases t <;> cases p <;> rfl)

theorem Spaced.halts (h : Spaced true ts text) (t : Token) : Halts t.goesOn text := by
  cases h with
  | last isLast =>
    cases isLast with
    | closed isTrivia =>
      by_cases hne : text = []
      · rw [hne]
        exact .nil
      · have htrivia := halts_trivia [] t isTrivia hne
        rwa [List.append_nil] at htrivia
    | @comment trivia comment isTrivia isComment =>
      by_cases hne : trivia = []
      · have hcomment := halts_comment [] t isComment
        rw [List.append_nil] at hcomment
        rwa [hne]
      · exact halts_trivia _ t isTrivia hne
  | @cons _ t' _ trivia _ _ isTrivia apart spells others =>
    by_cases hne : trivia = []
    · rw [hne, List.nil_append]
      exact halts_spelled t spells fun hbare ↦ apart rfl hbare hne
    · exact halts_trivia _ t isTrivia hne

theorem halts_of_not_isBare (h : t.isBare = false) (text : List Char) : Halts t.goesOn text := by
  cases t with
  | word | number => cases h
  | string | punctuation | endOfInput => exact fun _ _ ↦ rfl

theorem Spaced.exists_layout (h : Spaced afterBare ts text) (place : Location) :
    ∃ located : List (Located Token), located.map Located.value = ts ∧
      Layout (fun _ ↦ AtEnd) place located text := by
  induction h generalizing place with
  | @last _ trivia isLast =>
    refine ⟨[], rfl, ?_⟩
    cases isLast with
    | closed isTrivia =>
      have hstop : Layout (fun _ ↦ AtEnd) place [] (trivia ++ []) := .stop isTrivia .nil
      rwa [List.append_nil] at hstop
    | comment isTrivia isComment => exact .stop isTrivia (.comment isComment)
  | @cons _ t ts trivia spelled rest isTrivia apart spells others ih =>
    have hends : Halts t.goesOn rest := by
      cases hbare : t.isBare with
      | true =>
        rw [hbare] at others
        exact others.halts t
      | false => exact halts_of_not_isBare hbare rest
    obtain ⟨located, hvalues, hlayout⟩ := ih ((place.past trivia).past spelled)
    refine ⟨⟨t, place.past trivia⟩ :: located, ?_, .cons isTrivia spells hends hlayout⟩
    rw [List.map_cons, hvalues]

end Apart

section Compiling

variable {origin text text' : String} {openByDefault : Bool} {tokens tokens' : List (Located Token)}

def CompileError.unplaced : CompileError → CompileError
  | .unreadable origin fault => .unreadable origin fault
  | .faulty origin fault => .faulty origin fault.unplaced

theorem map_unplaced_of_values (h : tokens.map Located.value = tokens'.map Located.value) :
    tokens.map Located.unplaced = tokens'.map Located.unplaced := by
  have hmap := congrArg (List.map fun t ↦ (⟨t, .nowhere⟩ : Located Token)) h
  rwa [List.map_map, List.map_map] at hmap

variable [PatternEngine]

theorem resolve_tokens_unplaced (tokens : List (Located Token)) :
    Resolved.unplaced (((parse tokens).mapError fun f ↦ ⟨.form f.value, f.location⟩) >>=
      resolve origin openByDefault) =
        ((parse (tokens.map Located.unplaced)).mapError fun f ↦ ⟨.form f.value, f.location⟩) >>=
          resolve origin openByDefault := by
  rw [parse_unplaced]
  cases parse tokens with
  | error f => rfl
  | ok items => exact (resolve_unplaced items origin openByDefault).symm

theorem compile_of_tokenize (h : tokenize text.toList = .ok tokens) :
    (compile openByDefault ⟨origin, text⟩).mapError CompileError.unplaced =
      ((((parse (tokens.map Located.unplaced)).mapError fun f ↦ ⟨.form f.value, f.location⟩) >>=
        resolve origin openByDefault).mapError (.faulty origin)) := by
  have hitems : itemsOf text = (parse tokens).mapError fun f ↦ ⟨.form f.value, f.location⟩ := by
    rw [itemsOf, h]
    rfl
  have hmap (r : Resolved Schema) : (r.mapError (CompileError.faulty origin)).mapError
      CompileError.unplaced = (Resolved.unplaced r).mapError (.faulty origin) := by
    cases r <;> rfl
  rw [compile, hmap, ← resolve_tokens_unplaced, ← hitems]
  rfl

end Compiling

/-- Tokens that are spelled apart are what the text is split into, with the end of the input. And two texts
of the same tokens compile to the same schema, or are refused for the same fault. -/
theorem lexing_undoes_spelling [PatternEngine] :
    (∀ tokens text, Spaced false tokens text →
      (tokenize text).map (List.map Located.value) = .ok (tokens ++ [.endOfInput])) ∧
    ∀ openByDefault origin text text' tokens tokens', tokenize text.toList = .ok tokens →
      tokenize text'.toList = .ok tokens' → tokens.map Located.value = tokens'.map Located.value →
        (compile openByDefault ⟨origin, text⟩).mapError CompileError.unplaced =
          (compile openByDefault ⟨origin, text'⟩).mapError CompileError.unplaced := by
  refine ⟨fun tokens text h ↦ ?_, fun openByDefault origin text text' tokens tokens' h h' hvalues ↦ ?_⟩
  · obtain ⟨located, rfl, hlayout⟩ := h.exists_layout .start
    rw [tokenize_of_layout hlayout]
    exact congrArg Except.ok List.map_append
  · rw [compile_of_tokenize h, compile_of_tokenize h', map_unplaced_of_values hvalues]

/-- `/***/e//"⏎7"\n"#`, where the quote in the comment is none and the newline ends nothing but the comment,
and two layouts of `root a`. -/
theorem lexing_comments_between_tokens :
    (∃ n, Json.Number.ofText? ['7'] = some n ∧
      (tokenize ['/', '*', '*', '*', '/', 'e', '/', '/', '"', '\n', '7', '"', '\\', 'n', '"', '#']).map
        (List.map Located.value) = .ok [.word (String.ofList ['e']), .number n,
          .string (String.ofList ['\n']), .endOfInput]) ∧
    (compile false ⟨"", String.ofList ['r', 'o', 'o', 't', ' ', 'a']⟩).mapError CompileError.unplaced =
      (compile false ⟨"", String.ofList ['r', 'o', 'o', 't', '\n', '#', '\n', 'a']⟩).mapError
        CompileError.unplaced := by
  refine ⟨⟨_, rfl, ?_⟩, ?_⟩
  · have isOpen : ¬ ['*', '/'] <:+: ['*'] := by decide
    have block : Separator ['/', '*', '*', '*', '/'] := .block isOpen
    have comment : LineComment ['/', '/', '"'] := .slashes (by decide)
    have line : Separator ['/', '/', '"', '\n'] := .line comment
    have content : SpellsContent ['\n'] ['\\', 'n'] := .escaped (by decide) .nil
    have last : LastTrivia ['#'] := .comment .nil (.hash (by decide))
    have word : Spells (.word (String.ofList ['e'])) ['e'] := .word rfl nofun
    have number : Spells (.number _) ['7'] := .number rfl
    have tokens : Spaced false _ _ := .cons (.cons block .nil) nofun word
      (.cons (.cons line .nil) (fun _ _ ↦ nofun) number
        (.cons .nil (fun _ hbare ↦ by cases hbare) (.string content) (.last last)))
    exact lexing_undoes_spelling.1 _ _ tokens
  · refine lexing_undoes_spelling.2 false "" _ _
      [⟨.word (String.ofList ['r', 'o', 'o', 't']), ⟨1, 1⟩⟩, ⟨.word (String.ofList ['a']), ⟨1, 6⟩⟩,
        ⟨.endOfInput, ⟨1, 7⟩⟩]
      [⟨.word (String.ofList ['r', 'o', 'o', 't']), ⟨1, 1⟩⟩, ⟨.word (String.ofList ['a']), ⟨3, 1⟩⟩,
        ⟨.endOfInput, ⟨3, 2⟩⟩] ?_ ?_ rfl
    · rw [String.toList_ofList]
      rfl
    · rw [String.toList_ofList]
      rfl

end DocumentSchema.Blueprint
