import DocumentSchema.Proofs.Blueprint.Lexing

namespace DocumentSchema.Blueprint

def Location.of (before : List Char) : Location :=
  ⟨1 + before.count '\n', 1 + (before.reverse.takeWhile (· ≠ '\n')).length⟩

/-- The place of a character or of the end of a text. -/
def IsPlaceIn (text before rest : List Char) (place : Location) : Prop :=
  text = before ++ rest ∧ place = .of before

/-- What a token is spelled as, at the front of a text; the end of the input is spelled as nothing. -/
inductive Token.Heads : Token → List Char → Prop
  | spelled {t : Token} {spelled rest : List Char} (spells : Spells t spelled)
      (ends : Halts t.goesOn rest) : t.Heads (spelled ++ rest)
  | endOfInput : Token.endOfInput.Heads []

def StandsIn (text : List Char) (t : Located Token) : Prop :=
  ∃ before rest, IsPlaceIn text before rest t.location ∧ t.value.Heads rest

section Places

variable {before text : List Char} {c : Char} {t : Located Token} {ts tokens : List (Located Token)}
  {stops : Location → List Char → Prop} {f : Located SyntaxFault}

theorem Location.of_snoc (before : List Char) (c : Char) :
    Location.of (before ++ [c]) = (Location.of before).after c := by
  unfold of after
  rw [List.count_append, List.reverse_append, List.reverse_singleton, List.singleton_append,
    List.takeWhile_cons]
  by_cases hc : c = '\n'
  · subst hc
    rfl
  · have hne : decide (c ≠ '\n') = true := decide_eq_true hc
    rw [if_neg hc, List.count_singleton, if_neg (by simpa using hc), hne]
    rfl

theorem Location.of_append (before text : List Char) :
    Location.of (before ++ text) = (Location.of before).past text := by
  induction text generalizing before with
  | nil => rw [List.append_nil, past_nil]
  | cons c text ih => rw [List.append_cons, ih, of_snoc, past_cons]

theorem Location.start_past (text : List Char) : Location.start.past text = .of text :=
  (of_append [] text).symm

theorem Location.of_pos (before : List Char) :
    0 < (Location.of before).line ∧ 0 < (Location.of before).column := by
  constructor <;> exact Nat.add_pos_left Nat.one_pos _

theorem Layout.places (done : List Char) (h : Layout stops (.of done) ts text) :
    (∃ before rest, done ++ text = before ++ rest ∧ stops (.of before) rest) ∧
      ∀ t ∈ ts, StandsIn (done ++ text) t := by
  generalize hplace : Location.of done = place at h
  induction h generalizing done with
  | @stop place trivia rest isTrivia stopped =>
    subst hplace
    rw [← Location.of_append] at stopped
    exact ⟨⟨_, rest, (List.append_assoc _ _ _).symm, stopped⟩, List.forall_mem_nil _⟩
  | @cons place t ts trivia spelled rest isTrivia spells ends others ih =>
    subst hplace
    have hplace : Location.of (done ++ trivia ++ spelled) =
        ((Location.of done).past trivia).past spelled := by
      rw [Location.of_append, Location.of_append]
    have htext : done ++ trivia ++ spelled ++ rest = done ++ (trivia ++ (spelled ++ rest)) := by
      simp only [List.append_assoc]
    obtain ⟨hstops, hstand⟩ := ih _ hplace
    rw [htext] at hstops hstand
    refine ⟨hstops, List.forall_mem_cons.2 ⟨?_, hstand⟩⟩
    refine ⟨done ++ trivia, spelled ++ rest, ⟨?_, ?_⟩, .spelled spells ends⟩
    · rw [List.append_assoc]
    · rw [Location.of_append]

theorem standsIn_of_tokenize (h : tokenize text = .ok tokens) : ∀ t ∈ tokens, StandsIn text t := by
  obtain ⟨ts, hlayout, rfl⟩ := exists_layout_of_tokenize h
  refine List.forall_mem_append.2 ⟨(hlayout.places []).2, ?_⟩
  refine List.forall_mem_singleton.2 ⟨text, [], ⟨(List.append_nil _).symm, ?_⟩, .endOfInput⟩
  exact Location.start_past text

theorem faulty_of_tokenize (h : tokenize text = .error f) :
    (∃ ts, Layout (fun place rest ↦ place = f.location ∧ Faulty f.value rest) .start ts text) ∧
      ∃ before rest, IsPlaceIn text before rest f.location ∧ Faulty f.value rest := by
  obtain ⟨ts, hlayout⟩ := exists_faulty_of_tokenize h
  obtain ⟨before, rest, htext, hplace, hfaulty⟩ := (hlayout.places []).1
  exact ⟨⟨ts, hlayout⟩, before, rest, ⟨htext, hplace.symm⟩, hfaulty⟩

end Places

end DocumentSchema.Blueprint
