import DocumentSchema.Proofs.Blueprint.Derivation
import DocumentSchema.Proofs.Blueprint.Parsing

namespace DocumentSchema.Blueprint

variable {tokens : List (Located Token)} {items others : List Item}

theorem shallow_of_parse {place : Location} (hwrites : WritesItems tokens items)
    (h : parse (tokens ++ [⟨.endOfInput, place⟩]) = .ok items) : ∀ item ∈ items, item.IsShallow := by
  refine Classical.byContradiction fun hdeep ↦ ?_
  obtain ⟨t, -, -, hfails⟩ := parse_of_deep hwrites hdeep place
  cases h.symm.trans hfails

theorem WritesItems.unique (h : WritesItems tokens items) (h' : WritesItems tokens others)
    (hshallow : ∀ item ∈ items, item.IsShallow) : items = others := by
  have hparse := parse_of_writes h hshallow .start
  by_cases hshallow' : ∀ item ∈ others, item.IsShallow
  · exact Except.ok.inj (hparse.symm.trans (parse_of_writes h' hshallow' .start))
  · obtain ⟨t, -, -, hfails⟩ := parse_of_deep h' hshallow' .start
    cases hparse.symm.trans hfails

/-- Declarations that avoid the names of kinds can be written. However they are written, they are read as
they are meant, unless bodies or brackets nest too deep: then the brace or bracket too many is refused. And
whatever is read is written as the grammar says, within the limits. -/
theorem parse_recognizes_grammar :
    (∀ items : List Item, (∀ item ∈ items, item.AvoidsKinds) → ∃ tokens, WritesItems tokens items) ∧
      (∀ tokens items place, WritesItems tokens items → (∀ item ∈ items, item.IsShallow) →
        parse (tokens ++ [⟨.endOfInput, place⟩]) = .ok items) ∧
      (∀ tokens items place, WritesItems tokens items → ¬ (∀ item ∈ items, item.IsShallow) →
        ∃ t ∈ tokens, (t.value = .punctuation .openBrace ∨ t.value = .punctuation .openBracket) ∧
          parse (tokens ++ [⟨.endOfInput, place⟩]) = .error ⟨.tooDeep, t.location⟩) ∧
      ∀ tokens items place, (∀ t ∈ tokens, t.value ≠ .endOfInput) →
        parse (tokens ++ [⟨.endOfInput, place⟩]) = .ok items →
          WritesItems tokens items ∧ ∀ item ∈ items, item.IsShallow := by
  refine ⟨fun items ↦ exists_writesItems, fun tokens items place h hshallow ↦ ?_,
    fun tokens items place h hdeep ↦ ?_, fun tokens items place hend h ↦ ?_⟩
  · exact parse_of_writes h hshallow place
  · exact parse_of_deep h hdeep place
  · have hwrites := writes_of_parse hend h
    exact ⟨hwrites, shallow_of_parse hwrites h⟩

/-- Words of the grammar as names, `open type root { optional: open[] = null "true": bool() } root type`,
and a type with a pair of brackets too many. -/
theorem parse_contextual_words :
    parse [word "open" .start, word "type" .start, word "root" .start, mark .openBrace .start,
      word "optional" .start, mark .colon .start, word "open" .start, mark .openBracket .start,
      mark .closeBracket .start, mark .equals .start, word "null" .start, ⟨.string "true", .start⟩,
      mark .colon .start, word "bool" .start, mark .openParenthesis .start,
      mark .closeParenthesis .start, mark .closeBrace .start, word "root" .start, word "type" .start,
      ⟨.endOfInput, .start⟩] =
        .ok [.type ⟨⟨"root", .start⟩, false, some .open,
          [⟨⟨"optional", .start⟩, false, .array (.named ⟨"open", .start⟩), some ⟨.null, .start⟩⟩,
            ⟨⟨"true", .start⟩, false, .scalar .boolean [], none⟩]⟩, .root ⟨"type", .start⟩] ∧
      WritesItems [word "root" .start, word "open" .start] [.root ⟨"open", .start⟩] ∧
      ∃ tokens, ∃ t ∈ tokens, parse (tokens ++ [⟨.endOfInput, .start⟩]) = .error ⟨.tooDeep, t.location⟩ := by
  have hopen : ∀ kind : ScalarKind, "open" ∉ kind.words := by
    intro kind
    cases kind <;> decide
  refine ⟨?_, ?_, ?_⟩
  · have isKind : "bool" ∈ ScalarKind.boolean.words := by decide
    have boolean : WritesType _ (.scalar .boolean []) :=
      .constrained isKind .start .start (.close .start)
    have optional : WritesType _ (.array (.named ⟨"open", .start⟩)) :=
      .array (.named hopen) .start .start
    have fields := WritesFields.cons (.bare ⟨"optional", .start⟩) .start optional
      (.stated .start (.null .start)) .absent
      (.cons (.quoted ⟨"true", .start⟩) .start boolean .absent .absent (.close .start))
    have items := WritesItems.cons
      (.type (.stated .open .start) false .start ⟨"root", .start⟩ .start fields)
      (.cons (.root .start ⟨"type", .start⟩ .absent) .nil)
    refine parse_recognizes_grammar.2.1 _ _ .start items ?_
    simp [Item.IsShallow, Item.depth, Item.mostBrackets, depthWithin, mostBracketsWithin,
      TypeClause.depth, TypeClause.mostBrackets, TypeClause.brackets, nestingLimit]
  · exact (parse_recognizes_grammar.2.2.2 _ _ .start (by decide) rfl).1
  · have hwrites := parse_recognizes_grammar.1
      [.type ⟨⟨"t", .start⟩, false, none, [⟨⟨"f", .start⟩, false,
        Nat.repeat TypeClause.array 129 (.named ⟨"open", .start⟩), none⟩]⟩] (by
          refine List.forall_mem_singleton.2 ⟨?_, trivial⟩
          exact hopen)
    obtain ⟨tokens, hwrites⟩ := hwrites
    obtain ⟨t, ht, -, hfails⟩ := parse_recognizes_grammar.2.2.1 tokens _ .start hwrites (by
      intro hshallow
      exact absurd (hshallow _ List.mem_cons_self).2 (by decide +kernel))
    exact ⟨tokens, t, ht, hfails⟩

end DocumentSchema.Blueprint
