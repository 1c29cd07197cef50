import DocumentSchema.Proofs.Blueprint.Layout
import DocumentSchema.Proofs.Except

namespace DocumentSchema.Blueprint.Lexer

variable {place start : Location} {found : List (Located Token)} {c : Char} {text rest : List Char}

/-- What comes of a text, from a state on. -/
def finish (s : State) (text : List Char) : Result State := text.foldlM step s >>= close

theorem finish_cons (s : State) (c : Char) (text : List Char) :
    finish s (c :: text) = step s c >>= fun s' ↦ finish s' text := by
  rw [finish, List.foldlM_cons, bind_assoc]
  rfl

theorem finish_of_step {s s' : State} (h : step s c = .ok s') : finish s (c :: text) = finish s' text := by
  rw [finish_cons, h]
  rfl

theorem finish_of_stepBlank {s' : State} (h : stepBlank ⟨.blank, place, found⟩ c = .ok s') :
    finish ⟨.blank, place, found⟩ (c :: text) = finish s' text := finish_of_step h

theorem finish_of_error {s : State} {f : Located SyntaxFault} (h : step s c = .error f) :
    finish s (c :: text) = .error f := by
  rw [finish_cons, h]
  rfl

theorem finish_run {P : Char → Prop} (phase : List Char → Phase) (reversed : List Char)
    (collects : ∀ reversed place c, P c →
      step ⟨phase reversed, place, found⟩ c = .ok ⟨phase (c :: reversed), place.after c, found⟩)
    (more : List Char) (continues : ∀ c ∈ more, P c) :
    finish ⟨phase reversed, place, found⟩ (more ++ rest) =
      finish ⟨phase (more.reverse ++ reversed), place.past more, found⟩ rest := by
  induction more generalizing reversed place with
  | nil => rfl
  | cons c more ih =>
    obtain ⟨hc, hmore⟩ := List.forall_mem_cons.1 continues
    rw [List.cons_append, finish_of_step (collects reversed place c hc), ih _ hmore,
      List.reverse_cons, List.append_assoc]
    rfl

section Trivia

theorem finish_line {content : List Char} (oneLine : '\n' ∉ content) :
    finish ⟨.lineComment, place, found⟩ (content ++ rest) =
      finish ⟨.lineComment, place.past content, found⟩ rest := by
  refine finish_run (P := (· ≠ '\n')) (fun _ ↦ .lineComment) [] (fun _ place c hc ↦ ?_) content
    (List.forall_mem_ne'.2 oneLine)
  simp only [step, State.advance, if_neg hc]

theorem finish_comment (rest : List Char) (h : LineComment text) : finish ⟨.blank, place, found⟩ (text ++ rest) =
    finish ⟨.lineComment, place.past text, found⟩ rest := by
  cases h with
  | hash oneLine => exact finish_line oneLine
  | slashes oneLine => exact finish_line oneLine

theorem finish_block {content : List Char} {afterStar : Bool} (isOpen : ¬ ['*', '/'] <:+: content)
    (first : afterStar = true → content.head? ≠ some '/') :
    ∃ afterStar', finish ⟨.blockComment start afterStar, place, found⟩ (content ++ rest) =
      finish ⟨.blockComment start afterStar', place.past content, found⟩ rest := by
  induction content generalizing place afterStar with
  | nil => exact ⟨afterStar, rfl⟩
  | cons c content ih =>
    have hstep : step ⟨.blockComment start afterStar, place, found⟩ c =
        .ok ⟨.blockComment start (c = '*'), place.after c, found⟩ := by
      have hne : (afterStar && decide (c = '/')) = false := by
        refine Bool.eq_false_iff.2 fun h ↦ ?_
        obtain ⟨hstar, hslash⟩ := Bool.and_eq_true_iff.1 h
        exact first hstar (congrArg some (of_decide_eq_true hslash))
      simp only [step, State.advance, hne, Bool.false_eq_true, if_false]
    have hrest : ¬ ['*', '/'] <:+: content := fun h ↦ isOpen (h.trans (List.suffix_cons c _).isInfix)
    -- A star does not end the comment: no slash follows it.
    have hnext : decide (c = '*') = true → content.head? ≠ some '/' := by
      intro hstar hhead
      obtain rfl := of_decide_eq_true hstar
      obtain ⟨more, rfl⟩ := List.head?_eq_some_iff.1 hhead
      exact isOpen (List.prefix_append ['*', '/'] more).isInfix
    obtain ⟨afterStar', h⟩ := ih hrest hnext
    refine ⟨afterStar', ?_⟩
    rw [List.cons_append, finish_of_step hstep, h]
    rfl

theorem finish_openBlock (place : Location) (found : List (Located Token)) (rest : List Char)
    {content : List Char} (isOpen : ¬ ['*', '/'] <:+: content) :
    ∃ afterStar, finish ⟨.blank, place, found⟩ ('/' :: '*' :: (content ++ rest)) =
      finish ⟨.blockComment place afterStar, place.past ('/' :: '*' :: content), found⟩ rest :=
  finish_block isOpen nofun

theorem finish_separator (h : Separator text) : finish ⟨.blank, place, found⟩ (text ++ rest) =
    finish ⟨.blank, place.past text, found⟩ rest := by
  cases h with
  | blank isBlank => exact finish_of_step (stepBlank_of_isBlank isBlank)
  | @line comment isComment =>
    rw [List.append_assoc, finish_comment _ isComment, Location.past_append]
    exact finish_of_step rfl
  | @block content isOpen =>
    obtain ⟨afterStar, hinside⟩ := finish_openBlock place found ('*' :: '/' :: rest) isOpen
    have hstar (inside : Location) : step ⟨.blockComment place afterStar, inside, found⟩ '*' =
        .ok ⟨.blockComment place true, inside.after '*', found⟩ := by
      cases afterStar <;> rfl
    have htext : '/' :: '*' :: (content ++ ['*', '/']) ++ rest =
        '/' :: '*' :: (content ++ '*' :: '/' :: rest) := by
      simp only [List.cons_append, List.append_assoc, List.nil_append]
    rw [htext, hinside, finish_of_step (hstar _), ← List.cons_append, ← List.cons_append,
      Location.past_append]
    exact finish_of_step rfl

theorem finish_trivia (h : Trivia text) : finish ⟨.blank, place, found⟩ (text ++ rest) =
    finish ⟨.blank, place.past text, found⟩ rest := by
  induction h generalizing place with
  | nil => rfl
  | cons first others ih => rw [List.append_assoc, finish_separator first, ih, Location.past_append]

end Trivia

section Tokens

variable {reversed more : List Char}

theorem finish_word (continues : ∀ d ∈ more, continuesWord d = true) :
    finish ⟨.word start reversed, place, found⟩ (more ++ rest) =
      finish ⟨.word start (more.reverse ++ reversed), place.past more, found⟩ rest :=
  finish_run (.word start) reversed (fun _ _ _ hd ↦ if_pos hd) more continues

theorem finish_wordEnd (ends : Halts continuesWord rest) :
    finish ⟨.word start reversed, place, found⟩ rest =
      finish ⟨.blank, place, ⟨.word (String.ofList reversed.reverse), start⟩ :: found⟩ rest := by
  cases rest with
  | nil => rfl
  | cons c rest =>
    have hc : ¬ continuesWord c = true := Bool.eq_false_iff.1 (ends c rfl)
    rw [finish_cons, finish_cons]
    exact congrArg (· >>= _) (if_neg hc)

theorem finish_number (continues : ∀ d ∈ more, continuesNumber d = true) :
    finish ⟨.number start reversed, place, found⟩ (more ++ rest) =
      finish ⟨.number start (more.reverse ++ reversed), place.past more, found⟩ rest :=
  finish_run (.number start) reversed (fun _ _ _ hd ↦ if_pos hd) more continues

theorem finish_numberEnd {n : Json.Number} (ends : Halts continuesNumber rest)
    (isNumber : Json.Number.ofText? reversed.reverse = some n) :
    finish ⟨.number start reversed, place, found⟩ rest =
      finish ⟨.blank, place, ⟨.number n, start⟩ :: found⟩ rest := by
  have hclose : closeNumber ⟨.number start reversed, place, found⟩ start reversed =
      .ok ⟨.blank, place, ⟨.number n, start⟩ :: found⟩ := by
    rw [closeNumber, isNumber]
    rfl
  cases rest with
  | nil => exact hclose
  | cons c rest =>
    have hc : ¬ continuesNumber c = true := Bool.eq_false_iff.1 (ends c rfl)
    have hstep : step ⟨.number start reversed, place, found⟩ c =
        step ⟨.blank, place, ⟨.number n, start⟩ :: found⟩ c := by
      refine (if_neg hc).trans ?_
      rw [hclose]
      rfl
    rw [finish_cons, finish_cons, hstep]

theorem finish_noNumber (ends : Halts continuesNumber rest)
    (isNoNumber : Json.Number.ofText? reversed.reverse = none) :
    finish ⟨.number start reversed, place, found⟩ rest =
      .error ⟨.invalidNumber (String.ofList reversed.reverse), start⟩ := by
  have hclose : closeNumber ⟨.number start reversed, place, found⟩ start reversed =
      .error ⟨.invalidNumber (String.ofList reversed.reverse), start⟩ := by
    rw [closeNumber, isNoNumber]
    rfl
  cases rest with
  | nil => exact hclose
  | cons c rest =>
    have hc : ¬ continuesNumber c = true := Bool.eq_false_iff.1 (ends c rfl)
    refine finish_of_error ((if_neg hc).trans ?_)
    rw [hclose]
    rfl

theorem unescape?_eq_some_iff {letter : Char} : unescape? letter = some c ↔ (letter, c) ∈ escapes := by
  constructor
  · intro h
    unfold unescape? at h
    split at h <;> cases h <;> simp [escapes]
  · intro h
    simp only [escapes, List.mem_cons, Prod.mk.injEq, List.not_mem_nil, or_false] at h
    rcases h with ⟨rfl, rfl⟩ | ⟨rfl, rfl⟩ | ⟨rfl, rfl⟩ | ⟨rfl, rfl⟩ | ⟨rfl, rfl⟩ <;> rfl

theorem finish_quote : finish ⟨.blank, place, found⟩ ('"' :: text) =
    finish ⟨.string place [], place.after '"', found⟩ text := finish_of_step rfl

theorem finish_backslash : finish ⟨.string start reversed, place, found⟩ ('\\' :: text) =
    finish ⟨.escape start reversed, place.after '\\', found⟩ text := finish_of_step rfl

theorem finish_content {content spelled : List Char} (inside : SpellsContent content spelled) :
    finish ⟨.string start reversed, place, found⟩ (spelled ++ rest) =
      finish ⟨.string start (content.reverse ++ reversed), place.past spelled, found⟩ rest := by
  induction inside generalizing reversed place with
  | nil => rfl
  | @raw c content spelled isPlain others ih =>
    have hstep : step ⟨.string start reversed, place, found⟩ c =
        .ok ⟨.string start (c :: reversed), place.after c, found⟩ := by
      simp only [step, State.advance, if_neg isPlain.1, if_neg isPlain.2.1, if_neg isPlain.2.2]
    rw [List.cons_append, finish_of_step hstep, ih, List.reverse_cons, List.append_assoc]
    rfl
  | @escaped letter c content spelled isEscape others ih =>
    have hstep : step ⟨.escape start reversed, place.after '\\', found⟩ letter =
        .ok ⟨.string start (c :: reversed), (place.after '\\').after letter, found⟩ := by
      simp only [step, unescape?_eq_some_iff.2 isEscape]
      rfl
    rw [List.cons_append, List.cons_append, finish_backslash, finish_of_step hstep, ih, List.reverse_cons, List.append_assoc]
    rfl

end Tokens

section Numbers

theorem continuesNumber_of_step {n n' : Json.Numeral} (h : n.step c = .more n') :
    continuesNumber c = true := by
  refine Classical.byContradiction fun hc ↦ ?_
  simp only [continuesNumber, Bool.or_eq_true, decide_eq_true_eq, not_or] at hc
  obtain ⟨⟨⟨⟨⟨hdigit, hminus⟩, hplus⟩, hpoint⟩, hlower⟩, hupper⟩ := hc
  have hzero : c ≠ '0' := by
    rintro rfl
    exact hdigit rfl
  unfold Json.Numeral.step at h
  split at h <;>
    simp [Json.Numeral.afterWhole, hdigit, hminus, hplus, hpoint, hlower, hupper, hzero] at h

theorem continuesNumber_of_finish? {n : Json.Numeral} {value : Json.Number}
    (h : n.finish? text = some value) : ∀ d ∈ text, continuesNumber d = true := by
  induction text generalizing n with
  | nil => nofun
  | cons c rest ih =>
    unfold Json.Numeral.finish? at h
    split at h
    case h_1 hstep => exact List.forall_mem_cons.2 ⟨continuesNumber_of_step hstep, ih h⟩
    case h_2 => cases h

theorem exists_of_ofText? {n : Json.Number} (h : Json.Number.ofText? text = some n) :
    ∃ c rest, text = c :: rest ∧ startsNumber c = true ∧ ∀ d ∈ rest, continuesNumber d = true := by
  cases text with
  | nil => cases h
  | cons c rest =>
    obtain ⟨begun, hbegun, hrest⟩ := Option.bind_eq_some_iff.1 h
    refine ⟨c, rest, rfl, ?_, continuesNumber_of_finish? hrest⟩
    refine Classical.byContradiction fun hc ↦ ?_
    simp only [startsNumber, Bool.or_eq_true, decide_eq_true_eq, not_or] at hc
    have hzero : c ≠ '0' := by
      rintro rfl
      exact hc.1 rfl
    simp [Json.Numeral.start?, hc.1, hc.2, hzero] at hbegun

end Numbers

section Layouts

variable {t : Token} {spelled : List Char} {ts : List (Located Token)} {fault : SyntaxFault}
  {stops : Location → List Char → Prop}

theorem finish_spells (h : Spells t spelled) (ends : Halts t.goesOn rest) :
    finish ⟨.blank, place, found⟩ (spelled ++ rest) =
      finish ⟨.blank, place.past spelled, ⟨t, place⟩ :: found⟩ rest := by
  cases h with
  | @word c more starts continues =>
    rw [List.cons_append, finish_of_stepBlank (stepBlank_of_startsWord starts)]
    refine (finish_word continues).trans ((finish_wordEnd ends).trans ?_)
    rw [List.reverse_append, List.reverse_reverse]
    rfl
  | number isNumber =>
    obtain ⟨c, more, rfl, starts, continues⟩ := exists_of_ofText? isNumber
    have htext : (more.reverse ++ [c]).reverse = c :: more := by
      rw [List.reverse_append, List.reverse_reverse]
      rfl
    rw [List.cons_append, finish_of_stepBlank (stepBlank_of_startsNumber starts)]
    refine (finish_number continues).trans (finish_numberEnd ends ?_)
    rw [htext, isNumber]
  | @string content spelled inside =>
    have htext : '"' :: (spelled ++ ['"']) ++ rest = '"' :: (spelled ++ '"' :: rest) := by
      simp only [List.cons_append, List.append_assoc, List.nil_append]
    rw [htext, finish_quote, finish_content inside, finish_of_step rfl, List.append_nil,
      List.reverse_reverse, Location.past_cons, Location.past_append]
    rfl
  | punctuation p => exact finish_of_step (stepBlank_punctuation p)

theorem finish_layout (found : List (Located Token)) (h : Layout stops place ts text) : ∃ last rest, stops last rest ∧
    finish ⟨.blank, place, found⟩ text = finish ⟨.blank, last, ts.reverse ++ found⟩ rest ∧
      place.past text = last.past rest := by
  induction h generalizing found with
  | stop isTrivia stopped =>
    exact ⟨_, _, stopped, finish_trivia isTrivia, Location.past_append _ _ _⟩
  | cons isTrivia spells ends others ih =>
    obtain ⟨last, rest, hstops, hfinish, hpast⟩ := ih _
    refine ⟨last, rest, hstops, ?_, ?_⟩
    · rw [finish_trivia isTrivia, finish_spells spells ends, hfinish, List.reverse_cons,
        List.append_assoc]
      rfl
    · rw [Location.past_append, Location.past_append, hpast]

theorem finish_atEnd (place : Location) (found : List (Located Token)) (h : AtEnd text) :
    ∃ phase, finish ⟨.blank, place, found⟩ text = .ok ⟨phase, place.past text, found⟩ := by
  cases h with
  | nil => exact ⟨.blank, rfl⟩
  | comment isComment =>
    refine ⟨.lineComment, ?_⟩
    rw [← List.append_nil text, finish_comment [] isComment, List.append_nil]
    rfl

theorem stepBlank_of_unexpected (isNoBlank : Text.isBlank c = false)
    (isNoMark : c ≠ '#' ∧ c ≠ '/' ∧ c ≠ '"') (isNoNumber : startsNumber c = false)
    (isNoWord : startsWord c = false) (isNoPunctuation : ∀ p : Punctuation, c ≠ p.char) :
    stepBlank ⟨.blank, place, found⟩ c = .error ⟨.unexpectedCharacter c, place⟩ := by
  have hpunctuation : Punctuation.ofChar? c = none := by
    refine List.find?_eq_none.2 fun p _ hp ↦ isNoPunctuation p ?_
    exact (of_decide_eq_true hp).symm
  rw [stepBlank, if_neg (Bool.eq_false_iff.1 isNoBlank), if_neg isNoMark.1, if_neg isNoMark.2.1,
    if_neg isNoMark.2.2, if_neg (Bool.eq_false_iff.1 isNoNumber),
    if_neg (Bool.eq_false_iff.1 isNoWord), hpunctuation]
  rfl

theorem finish_slash (isNoComment : Halts (fun c ↦ c = '/' || c = '*') text) :
    finish ⟨.slash start, place, found⟩ text = .error ⟨.unexpectedCharacter '/', start⟩ := by
  cases text with
  | nil => rfl
  | cons c rest =>
    have hc := isNoComment c rfl
    simp only [Bool.or_eq_false_iff, decide_eq_false_iff_not] at hc
    refine finish_of_error ?_
    simp only [step, if_neg hc.1, if_neg hc.2]
    rfl

theorem unescape?_eq_none (h : ∀ d, (c, d) ∉ escapes) : unescape? c = none := by
  refine Option.eq_none_iff_forall_ne_some.2 fun d hd ↦ ?_
  exact h d (unescape?_eq_some_iff.1 hd)

theorem finish_faulty (h : Faulty fault text) :
    finish ⟨.blank, place, found⟩ text = .error ⟨fault, place⟩ := by
  cases h with
  | character isNoBlank isNoMark isNoNumber isNoWord isNoPunctuation =>
    exact finish_of_error
      (stepBlank_of_unexpected isNoBlank isNoMark isNoNumber isNoWord isNoPunctuation)
  | slash isNoComment =>
    rw [finish_cons]
    exact finish_slash isNoComment
  | @comment content isOpen =>
    obtain ⟨afterStar, hinside⟩ := finish_openBlock place found [] isOpen
    rw [List.append_nil] at hinside
    rw [hinside]
    rfl
  | @number c more rest starts continues ends isNoNumber =>
    have htext : (more.reverse ++ [c]).reverse = c :: more := by
      rw [List.reverse_append, List.reverse_reverse]
      rfl
    rw [finish_of_stepBlank (stepBlank_of_startsNumber starts)]
    refine (finish_number continues).trans ?_
    rw [finish_noNumber ends (by rw [htext, isNoNumber]), htext]
  | @escape content spelled rest c inside isNoEscape =>
    rw [finish_quote, finish_content inside, finish_backslash]
    refine finish_of_error ?_
    simp only [step, unescape?_eq_none isNoEscape]
    rfl
  | lineEnd inside =>
    rw [finish_quote, finish_content inside]
    exact finish_of_error rfl
  | textEnd inside isEnd =>
    rw [finish_quote, finish_content inside]
    rcases isEnd with rfl | rfl <;> rfl

end Layouts

end DocumentSchema.Blueprint.Lexer

namespace DocumentSchema.Blueprint

open DocumentSchema.Except (bind_eq_ok_iff)

variable {text : List Char} {ts tokens : List (Located Token)} {f : Located SyntaxFault}

theorem tokenize_eq (text : List Char) : tokenize text = Lexer.finish .start text >>= fun s ↦
    .ok (s.emit .endOfInput s.next).reversed.reverse := (bind_assoc _ _ _).symm

theorem tokenize_of_layout (h : Layout (fun _ ↦ AtEnd) .start ts text) :
    tokenize text = .ok (ts ++ [⟨.endOfInput, Location.start.past text⟩]) := by
  obtain ⟨last, rest, hend, hfinish, hpast⟩ := Lexer.finish_layout [] h
  obtain ⟨phase, hrest⟩ := Lexer.finish_atEnd last (ts.reverse ++ []) hend
  rw [tokenize_eq, Lexer.State.start, hfinish, hrest, hpast]
  change Except.ok (⟨.endOfInput, last.past rest⟩ :: (ts.reverse ++ [])).reverse = _
  rw [List.append_nil, List.reverse_cons, List.reverse_reverse]

theorem tokenize_of_faulty
    (h : Layout (fun place rest ↦ place = f.location ∧ Faulty f.value rest) .start ts text) :
    tokenize text = .error f := by
  obtain ⟨last, rest, ⟨rfl, hfaulty⟩, hfinish, -⟩ := Lexer.finish_layout [] h
  rw [tokenize_eq, Lexer.State.start, hfinish, Lexer.finish_faulty hfaulty]
  rfl

theorem exists_layout_of_tokenize (h : tokenize text = .ok tokens) : ∃ ts,
    Layout (fun _ ↦ AtEnd) .start ts text ∧
      tokens = ts ++ [⟨.endOfInput, Location.start.past text⟩] := by
  rcases exists_layout text .start with ⟨ts, hlayout⟩ | ⟨f, ts, hlayout⟩
  · exact ⟨ts, hlayout, Except.ok.inj (h.symm.trans (tokenize_of_layout hlayout))⟩
  · cases h.symm.trans (tokenize_of_faulty hlayout)

theorem exists_faulty_of_tokenize (h : tokenize text = .error f) : ∃ ts,
    Layout (fun place rest ↦ place = f.location ∧ Faulty f.value rest) .start ts text := by
  rcases exists_layout text .start with ⟨ts, hlayout⟩ | ⟨f', ts, hlayout⟩
  · cases h.symm.trans (tokenize_of_layout hlayout)
  · obtain rfl := Except.error.inj (h.symm.trans (tokenize_of_faulty hlayout))
    exact ⟨ts, hlayout⟩

end DocumentSchema.Blueprint
