import DocumentSchema.Proofs.Blueprint.Blame
import DocumentSchema.Proofs.Blueprint.Spelling

namespace DocumentSchema.Blueprint

open DocumentSchema.Except (bind_eq_ok_iff mapError_eq_ok_iff map_eq_ok_iff)

/-- The tokens that have been found, without their places. -/
def Lexer.State.values (s : Lexer.State) : List Token := s.reversed.reverse.map (·.value)

/-- The tokens of a text before the end of the input, unless the text has a fault. -/
def tokens? (text : List Char) : Option (List Token) :=
  (Lexer.finish .start text).toOption.map Lexer.State.values

/-- The token in no particular place. -/
def Token.unplaced (t : Token) : Located Token := ⟨t, .nowhere⟩

/-- The text prolongs neither a word nor a number before it. -/
def Breaks (text : List Char) : Prop := ∀ t : Token, Halts t.goesOn text

/-- What a text is split into before another one that does not prolong it; nothing for a fault. -/
def Scans (text : List Char) (ts : Option (List Token)) : Prop :=
  ∀ rest, Breaks rest → tokens? (text ++ rest) = ts.bind fun ts ↦ (tokens? rest).map (ts ++ ·)

section Values

variable {stops : Location → List Char → Prop} {P : List Char → Prop} {place : Location}
  {ts : List Token} {located found : List (Located Token)} {text before spelled piece : List Char}
  {t : Token} {fault : SyntaxFault}

theorem Layout.moved (h : Layout stops place located text) (hstops : ∀ place rest, stops place rest → P rest)
    (place' : Location) : ∃ located' : List (Located Token),
      located'.map (·.value) = located.map (·.value) ∧ Layout (fun _ ↦ P) place' located' text := by
  induction h generalizing place' with
  | stop isTrivia stopped => exact ⟨[], rfl, .stop isTrivia (hstops _ _ stopped)⟩
  | @cons _ t _ trivia spelled _ isTrivia spells ends _ ih =>
    obtain ⟨located', hvalues, hlayout⟩ := ih ((place'.past trivia).past spelled)
    refine ⟨⟨t, place'.past trivia⟩ :: located', ?_, .cons isTrivia spells ends hlayout⟩
    rw [List.map_cons, List.map_cons, hvalues]

theorem values_of_layout (place : Location) (found : List (Located Token))
    (h : Layout (fun _ ↦ AtEnd) .start located text) :
    (Lexer.finish ⟨.blank, place, found⟩ text).toOption.map Lexer.State.values =
      some (found.reverse.map (·.value) ++ located.map (·.value)) := by
  obtain ⟨located', hvalues, hlayout⟩ := h.moved (fun _ _ ↦ id) place
  obtain ⟨last, rest, hend, hfinish, -⟩ := Lexer.finish_layout found hlayout
  obtain ⟨phase, hrest⟩ := Lexer.finish_atEnd last (located'.reverse ++ found) hend
  rw [hfinish, hrest, ← hvalues]
  simp [Except.toOption, Lexer.State.values]

theorem values_of_faulty {f : Located SyntaxFault} (place : Location) (found : List (Located Token))
    (h : Layout (fun place rest ↦ place = f.location ∧ Faulty f.value rest) .start located text) :
    (Lexer.finish ⟨.blank, place, found⟩ text).toOption = none := by
  obtain ⟨located', -, hlayout⟩ := h.moved (P := Faulty f.value) (fun _ _ h ↦ h.2) place
  obtain ⟨last, rest, hfaulty, hfinish, -⟩ := Lexer.finish_layout found hlayout
  rw [hfinish, Lexer.finish_faulty hfaulty]
  rfl

theorem values_finish (place : Location) (found : List (Located Token)) (text : List Char) :
    (Lexer.finish ⟨.blank, place, found⟩ text).toOption.map Lexer.State.values =
      (tokens? text).map (found.reverse.map (·.value) ++ ·) := by
  rcases exists_layout text .start with ⟨located, h⟩ | ⟨f, located, h⟩
  · rw [tokens?, Lexer.State.start, values_of_layout place found h, values_of_layout .start [] h]
    rfl
  · rw [tokens?, Lexer.State.start, values_of_faulty place found h, values_of_faulty .start [] h]
    rfl

theorem tokens?_append {s : Lexer.State} (hrun : before.foldlM Lexer.step .start = .ok s)
    (hblank : s.phase = .blank) (text : List Char) :
    tokens? (before ++ text) = (tokens? text).map (s.values ++ ·) := by
  obtain ⟨phase, place, found⟩ := s
  obtain rfl : phase = .blank := hblank
  have hfinish : Lexer.finish .start (before ++ text) = Lexer.finish ⟨.blank, place, found⟩ text := by
    rw [Lexer.finish, List.foldlM_append, hrun]
    rfl
  rw [tokens?, hfinish, values_finish]
  rfl

theorem tokens?_spelled (h : Spells t spelled) (ends : Halts t.goesOn text) :
    tokens? (spelled ++ text) = (tokens? text).map (t :: ·) := by
  rw [tokens?, Lexer.State.start, Lexer.finish_spells h ends, values_finish]
  rfl

theorem tokens?_separated (h : Separator piece) (text : List Char) :
    tokens? (piece ++ text) = tokens? text := by
  rw [tokens?, Lexer.State.start, Lexer.finish_separator h, values_finish]
  exact Option.map_id'

theorem tokens?_faulty (h : Faulty fault text) : tokens? text = none := by
  rw [tokens?, Lexer.State.start, Lexer.finish_faulty h]
  rfl

theorem tokens?_eq_some (h : tokens? text = some ts) : ∃ located place,
    tokenize text = .ok (located ++ [⟨.endOfInput, place⟩]) ∧ located.map (·.value) = ts ∧
      ∀ t ∈ ts, t ≠ .endOfInput := by
  rcases exists_layout text .start with ⟨located, hlayout⟩ | ⟨f, located, hlayout⟩
  · rw [tokens?, Lexer.State.start, values_of_layout .start [] hlayout] at h
    obtain rfl := Option.some.inj h
    exact ⟨located, _, tokenize_of_layout hlayout, rfl,
      List.forall_mem_map.2 fun t ht ↦ hlayout.ne_endOfInput t ht⟩
  · rw [tokens?, Lexer.State.start, values_of_faulty .start [] hlayout] at h
    cases h

theorem tokens?_eq_none (h : tokens? text = none) : ∃ f, tokenize text = .error f := by
  rcases exists_layout text .start with ⟨located, hlayout⟩ | ⟨f, located, hlayout⟩
  · rw [tokens?, Lexer.State.start, values_of_layout .start [] hlayout] at h
    cases h
  · exact ⟨f, tokenize_of_faulty hlayout⟩

end Values

section Compiling

variable {ts : List Token} {text origin : String} {openByDefault : Bool} {s : Schema}

/-- The tokens in no particular place, with the end of the input. -/
def inputOf (ts : List Token) : List (Located Token) := ts.map Token.unplaced ++ [⟨.endOfInput, .nowhere⟩]

variable [PatternEngine]

theorem compile_eq_ok_iff (h : tokens? text.toList = some ts) :
    compile openByDefault ⟨origin, text⟩ = .ok s ↔
      ∃ items : List Item, parse (inputOf ts) = .ok items ∧ resolve origin openByDefault items = .ok s := by
  obtain ⟨located, place, htokenize, rfl, -⟩ := tokens?_eq_some h
  have hinput : (located ++ [(⟨.endOfInput, place⟩ : Located Token)]).map Located.unplaced =
      inputOf (located.map (·.value)) := by
    rw [inputOf, List.map_append, List.map_map]
    rfl
  have hcompile : (compile openByDefault ⟨origin, text⟩).mapError CompileError.unplaced = _ :=
    compile_of_tokenize htokenize
  rw [hinput] at hcompile
  rw [← mapError_eq_ok_iff (g := CompileError.unplaced), hcompile, mapError_eq_ok_iff, bind_eq_ok_iff]
  simp only [mapError_eq_ok_iff]

theorem exists_tokens?_of_compile (h : compile openByDefault ⟨origin, text⟩ = .ok s) :
    ∃ ts, tokens? text.toList = some ts := by
  cases htokens : tokens? text.toList with
  | some ts => exact ⟨ts, rfl⟩
  | none =>
    obtain ⟨f, hf⟩ := tokens?_eq_none htokens
    obtain ⟨items, hitems, -⟩ := compile_eq_ok h
    rw [itemsOf, hf] at hitems
    cases hitems

end Compiling

section Parts

variable {text text' piece rest : List Char} {ts ts' : Option (List Token)} {t : Token} {c : Char}

theorem Breaks.cons (h : ∀ t : Token, t.goesOn c = false) : Breaks (c :: rest) := fun t ↦ .cons (h t)

theorem Breaks.spelled (h : Spells t text) (hbare : ¬ t.isBare = true) : Breaks (text ++ rest) :=
  fun t ↦ halts_spelled t h hbare

theorem Breaks.blank (rest : List Char) : Breaks (' ' :: rest) :=
  .cons fun t ↦ goesOn_of_separates t (.inl rfl)

theorem Breaks.mark (p : Punctuation) (rest : List Char) : Breaks (p.char :: rest) := by
  have spells : Spells (.punctuation p) [p.char] := .punctuation p
  exact .spelled spells nofun

theorem Scans.append (h : Scans text ts) (breaks : ∀ rest, Breaks rest → Breaks (text' ++ rest))
    (h' : Scans text' ts') : Scans (text ++ text') (ts.bind fun us ↦ ts'.map (us ++ ·)) := by
  intro rest hrest
  rw [List.append_assoc, h _ (breaks rest hrest), h' rest hrest]
  cases ts <;> cases ts' <;> simp [Function.comp_def]

theorem Scans.spelled (h : Spells t text) : Scans text (some [t]) :=
  fun _ hrest ↦ tokens?_spelled h (hrest t)

theorem Scans.token (h : Spells t piece)
    (ends : t.isBare = true → ∀ rest, Breaks rest → Breaks (text ++ rest)) (h' : Scans text ts) :
    Scans (piece ++ text) (ts.map (t :: ·)) := by
  intro rest hrest
  have halts : Halts t.goesOn (text ++ rest) := by
    cases hbare : t.isBare with
    | true => exact ends hbare rest hrest t
    | false => exact halts_of_not_isBare hbare _
  rw [List.append_assoc, tokens?_spelled h halts, h' rest hrest]
  cases ts <;> simp [Function.comp_def]

theorem Scans.markBefore (p : Punctuation) (h : Scans text ts) :
    Scans (p.char :: text) (ts.map (.punctuation p :: ·)) := by
  have spells : Spells (.punctuation p) [p.char] := .punctuation p
  exact .token spells nofun h

theorem Scans.blankBefore (h : Scans text ts) : Scans (' ' :: text) ts := by
  intro rest hrest
  rw [← h rest hrest]
  exact tokens?_separated (.blank rfl) _

theorem Scans.faulty (h : ∀ rest, Breaks rest → ∃ fault, Faulty fault (text ++ rest)) : Scans text none := by
  intro rest hrest
  obtain ⟨fault, hfaulty⟩ := h rest hrest
  exact tokens?_faulty hfaulty

end Parts

end DocumentSchema.Blueprint
