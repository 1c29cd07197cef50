import DocumentSchema.Pattern.Engine
import DocumentSchema.Proofs.Schema.TypeText

namespace DocumentSchema

open Blueprint
open Blueprint.Parser (FieldHead)
open Json (Number)

namespace Constraints

variable {c : Constraints} {kind : ScalarKind}

/-- The texts of the bounds are read as the bounds, and a blueprint has the escapes of the pattern. -/
structure IsLegible (c : Constraints) : Prop where
  minimum : ∀ n, c.minimum = some n → Number.ofText? n.text = some n
  maximum : ∀ n, c.maximum = some n → Number.ofText? n.text = some n
  pattern : ∀ p, c.pattern = some p → ∀ ch ∈ p.source.toList, Text.isLegible ch = true

/-- Each bound is an integer that is kept as one, or has a brief text, and the pattern is legible. -/
structure IsBrief (c : Constraints) : Prop where
  minimum : ∀ n, c.minimum = some n → n.IsBrief
  maximum : ∀ n, c.maximum = some n → n.IsBrief
  pattern : ∀ p, c.pattern = some p → ∀ ch ∈ p.source.toList, Text.isLegible ch = true

theorem IsBrief.isLegible (h : c.IsBrief) : c.IsLegible where
  minimum n hn := (h.minimum n hn).ofText?_text
  maximum n hn := (h.maximum n hn).ofText?_text
  pattern := h.pattern

variable [PatternEngine]

theorem IsLegible.reread?_literal (legible : c.IsLegible) (h : c.WellFormed kind) {key : ConstraintKey}
    {l : Literal} (hl : c.literal? key = some l) : l.reread? = some l := by
  cases key with
  | minimum =>
    obtain ⟨n, hn, rfl⟩ := Option.map_eq_some_iff.1 hl
    rw [Literal.reread?, legible.minimum n hn]
    rfl
  | maximum =>
    obtain ⟨n, hn, rfl⟩ := Option.map_eq_some_iff.1 hl
    rw [Literal.reread?, legible.maximum n hn]
    rfl
  | minLength =>
    obtain ⟨m, hm, rfl⟩ := Option.map_eq_some_iff.1 hl
    exact reread?_ofNat (h.minLength_lt m hm)
  | maxLength =>
    obtain ⟨m, hm, rfl⟩ := Option.map_eq_some_iff.1 hl
    exact reread?_ofNat (h.maxLength_lt m hm)
  | pattern =>
    obtain ⟨p, hp, rfl⟩ := Option.map_eq_some_iff.1 hl
    exact if_pos (List.all_eq_true.2 (legible.pattern p hp))

theorem isLegible_iff (h : c.WellFormed kind) : c.IsLegible ↔ c.IsReadable ∧ c.reread = c := by
  have hbound (bound : Option Number) : (∀ n, bound = some n → Number.ofText? n.text = some n) ↔
      (bound.bind fun n ↦ Number.ofText? n.text) = bound := by
    cases bound <;> simp
  have hreread : c.reread = c ↔ (c.minimum.bind fun n ↦ Number.ofText? n.text) = c.minimum ∧
      (c.maximum.bind fun n ↦ Number.ofText? n.text) = c.maximum := by
    obtain ⟨minimum, maximum, minLength, maxLength, pattern⟩ := c
    simp [reread]
  rw [hreread, ← hbound, ← hbound]
  constructor
  · intro legible
    exact ⟨fun key l hl ↦ ⟨l, legible.reread?_literal h hl⟩, legible.minimum, legible.maximum⟩
  · rintro ⟨readable, hminimum, hmaximum⟩
    refine ⟨hminimum, hmaximum, fun p hp ↦ ?_⟩
    obtain ⟨l', hread⟩ := readable .pattern (.string p.source) (by rw [literal?, hp]; rfl)
    rw [Literal.reread?] at hread
    split at hread
    case isTrue hall => exact List.all_eq_true.1 hall
    case isFalse => cases hread

theorem wellFormed_reread (h : c.WellFormed kind) : c.reread.WellFormed kind where
  numeric given := by
    refine h.numeric (given.imp ?_ ?_)
    · cases hminimum : c.minimum <;> simp [reread, hminimum]
    · cases hmaximum : c.maximum <;> simp [reread, hmaximum]
  textual := h.textual
  minLength_lt := h.minLength_lt
  maxLength_lt := h.maxLength_lt
  pattern_read := h.pattern_read

end Constraints

namespace FieldType

variable {s s' : Schema} {type : FieldType}

def IsLegible (type : FieldType) : Prop :=
  ∀ scalar, type.scalar? = some scalar → scalar.constraints.IsLegible

def IsBrief (type : FieldType) : Prop :=
  ∀ scalar, type.scalar? = some scalar → scalar.constraints.IsBrief

theorem IsBrief.isLegible (h : type.IsBrief) : type.IsLegible :=
  fun scalar hscalar ↦ (h scalar hscalar).isLegible

def boolean : FieldType := .scalar ⟨.boolean, .none⟩

theorem boolean_isReadable : boolean.IsReadable := by
  intro scalar hscalar key l hl
  obtain rfl := Option.some.inj hscalar
  cases key <;> cases hl

theorem inline?_reread (type : FieldType) : type.reread.inline? = type.inline? := by
  induction type with
  | scalar | named | inline => rfl
  | array item ih => exact ih

theorem target?_reread (type : FieldType) : type.reread.target? = type.target? := by
  induction type with
  | scalar | named | inline => rfl
  | array item ih => exact ih

theorem brackets_reread (type : FieldType) : type.reread.brackets = type.brackets := by
  induction type with
  | scalar | named | inline => rfl
  | array item ih => exact congrArg (· + 1) ih

theorem scalar?_reread (type : FieldType) :
    type.reread.scalar? = type.scalar?.map fun scalar ↦ ⟨scalar.kind, scalar.constraints.reread⟩ := by
  induction type with
  | scalar | named | inline => rfl
  | array item ih => exact ih

theorem reread_eq_self_iff :
    type.reread = type ↔
      ∀ scalar, type.scalar? = some scalar → scalar.constraints.reread = scalar.constraints := by
  induction type with
  | scalar scalar =>
    obtain ⟨kind, c⟩ := scalar
    simp [FieldType.reread, scalar?]
  | named | inline => simp [FieldType.reread, scalar?]
  | array item ih => simp [FieldType.reread, scalar?, ih]

theorem carried_reread_eq_iff :
    type.reread.carried s s' = type.carried s s' ↔ type.reread = type := by
  induction type with
  | scalar | named | inline => simp [FieldType.reread, carried]
  | array item ih => simpa [FieldType.reread, carried] using ih

variable [PatternEngine]

/-- What a blueprint can give as the type of a field: nothing written in place, words for the names of
declared types, constraints of the right kinds. -/
structure IsExpressible (s : Schema) (type : FieldType) : Prop where
  noInline : type.inline? = none
  spelled : ∀ id, type.target? = some id →
    Spells (.word (s.definition id).name) (s.definition id).name.toList
  notKind : ∀ id, type.target? = some id → ∀ kind : ScalarKind, (s.definition id).name ∉ kind.words
  wellFormed : ∀ scalar, type.scalar? = some scalar → scalar.constraints.WellFormed scalar.kind
  brackets : type.brackets ≤ nestingLimit

theorem boolean_wellFormed : ∀ scalar, boolean.scalar? = some scalar → scalar.WellFormed := by
  intro scalar hscalar
  obtain rfl := Option.some.inj hscalar
  refine ⟨⟨nofun, nofun, nofun, nofun, nofun⟩, ⟨?_, ?_⟩⟩
  all_goals
    intro low high hlow
    cases hlow

theorem boolean_isExpressible (s : Schema) : boolean.IsExpressible s where
  noInline := rfl
  spelled := nofun
  notKind := nofun
  wellFormed scalar hscalar := (boolean_wellFormed scalar hscalar).constraints
  brackets := Nat.zero_le _

theorem IsExpressible.reread (h : type.IsExpressible s) : type.reread.IsExpressible s where
  noInline := by rw [inline?_reread, h.noInline]
  spelled := by rw [target?_reread]; exact h.spelled
  notKind := by rw [target?_reread]; exact h.notKind
  wellFormed scalar hscalar := by
    rw [scalar?_reread] at hscalar
    obtain ⟨scalar, hbefore, rfl⟩ := Option.map_eq_some_iff.1 hscalar
    exact Constraints.wellFormed_reread (h.wellFormed scalar hbefore)
  brackets := by rw [brackets_reread]; exact h.brackets

theorem isLegible_iff
    (wellFormed : ∀ scalar, type.scalar? = some scalar → scalar.constraints.WellFormed scalar.kind) :
    type.IsLegible ↔ type.IsReadable ∧ type.reread = type := by
  rw [reread_eq_self_iff, IsReadable, ← forall₂_and]
  exact forall₂_congr fun scalar hscalar ↦ Constraints.isLegible_iff (wellFormed scalar hscalar)

end FieldType

section Hosts

variable {openByDefault : Bool} {s s₀ s' : Schema} {head : FieldHead} {earlier later : List Token}
  {state : Parser.State} {type old new : FieldType} {items : List Item}

/-- A blueprint with the type of one field left out, a field without a default: the text before the type
leads to it, and what comes after it ends it. -/
structure Host where
  origin : String
  before : List Char
  head : FieldHead
  after : List Char
  leads : ∃ l p, before.foldlM Lexer.step .start = .ok l ∧ l.phase = .blank ∧
    l.reversed.reverse.foldlM Parser.step .start = .ok p ∧ p.phase = .type head
  breaks : Breaks after
  ends : ∃ t ts, tokens? after = some (t :: ts) ∧ EndsType t

def Host.fill (host : Host) (text : List Char) : Source :=
  ⟨host.origin, String.ofList (host.before ++ (text ++ host.after))⟩

def partHost : Host where
  origin := "part"
  before := "root Part \x7b f: ".toList
  head := ⟨⟨"f", ⟨1, 13⟩⟩, false⟩
  after := " \x7d".toList
  leads := ⟨_, _, rfl, rfl, rfl, rfl⟩
  breaks := .blank _
  ends := ⟨.punctuation .closeBrace, [], rfl, ⟨nofun, nofun⟩, nofun, nofun⟩

/-- Tokens before and after the type of a field, with the state in which the type is read. -/
structure Encloses (earlier later : List Token) (head : FieldHead) (state : Parser.State) : Prop where
  start : (earlier.map Token.unplaced).foldlM Parser.step .start = .ok state
  phase : state.phase = .type head
  ends : ∃ t ts, later = t :: ts ∧ EndsType t

theorem Host.exists_encloses (host : Host) : ∃ earlier later state,
    Encloses earlier later host.head.unplaced state ∧ ∀ text ts, Scans text ts →
      tokens? (host.fill text).text.toList = ts.map (earlier ++ · ++ later) := by
  obtain ⟨l, p, hlex, hblank, hparse, hphase⟩ := host.leads
  obtain ⟨t, ts, hafter, hends⟩ := host.ends
  refine ⟨l.values, t :: ts, p.unplaced, ⟨?_, ?_, t, ts, rfl, hends⟩, fun text us hscans ↦ ?_⟩
  · have hrun := Parser.foldlM_step_unplaced .start l.reversed.reverse
    rw [hparse] at hrun
    rw [Lexer.State.values, List.map_map]
    exact hrun
  · change p.phase.unplaced = _
    rw [hphase]
    rfl
  · rw [fill, String.toList_ofList, tokens?_append hlex hblank, hscans _ host.breaks, hafter]
    cases us <;> simp

variable [PatternEngine]

theorem Encloses.exchange (h : Encloses earlier later head state) (hold : old.IsExpressible s)
    (hnew : new.IsExpressible s) (noEnd : ∀ t ∈ earlier ++ s.typeTokens old ++ later, t ≠ .endOfInput)
    (hparse : parse (inputOf (earlier ++ s.typeTokens old ++ later)) = .ok items) :
    ∃ items', parse (inputOf (earlier ++ s.typeTokens new ++ later)) = .ok items' ∧
      (Exchange.mk head (old.restated s) (new.restated s)).InItems items items' := by
  obtain ⟨t, ts, rfl, hends⟩ := h.ends
  have hnoEnd : ∀ t' ∈ (earlier ++ s.typeTokens old ++ t :: ts).map Token.unplaced,
      t'.value ≠ .endOfInput := List.forall_mem_map.2 noEnd
  have hinput (us : List Token) : inputOf (earlier ++ us ++ t :: ts) = earlier.map Token.unplaced ++
      (us.map Token.unplaced ++ (t :: ts).map Token.unplaced) ++ [⟨.endOfInput, .nowhere⟩] := by
    simp [inputOf]
  -- The field lies in a body, since a type is read inside of bodies only.
  have hstacked : Parser.Stacked state.phase.isInside state.bodies := by
    refine stacked_of_run (fun t' ht' ↦ hnoEnd t' ?_) h.start
    rw [List.map_append, List.map_append]
    exact List.mem_append_left _ (List.mem_append_left _ ht')
  have hphase := h.phase
  obtain ⟨phase, bodies, reversed⟩ := state
  obtain rfl : phase = .type head := hphase
  obtain ⟨body, outer, rfl⟩ : ∃ body outer, bodies = body :: outer := hstacked.exists_cons
  have hreads {type : FieldType} (htype : type.IsExpressible s) := leads_type htype.notKind
    (by rw [type.brackets_restated s]; exact htype.brackets) head body outer reversed
  rw [hinput] at hparse ⊢
  rw [List.append_assoc, List.map_append, List.map_append] at hnoEnd
  exact parse_exchange (x := ⟨head, _, _⟩) h.start rfl ⟨_, hreads hold⟩ ⟨_, hreads hnew⟩ hnoEnd
    ⟨t.unplaced, _, rfl, hends⟩ hparse

theorem Host.exists_exchange (host : Host)
    (compiled : compile openByDefault (host.fill "boolean".toList) = .ok s₀)
    (expressible : type.IsExpressible s) (readable : type.IsReadable) : ∃ items items',
      (Exchange.mk host.head.unplaced (.scalar .boolean []) (type.reread.restated s)).InItems items items' ∧
        resolve host.origin openByDefault items = .ok s₀ ∧
        ∀ s', compile openByDefault (host.fill (s.typeText type)) = .ok s' ↔
          resolve host.origin openByDefault items' = .ok s' := by
  obtain ⟨earlier, later, state, encloses, htokens⟩ := host.exists_encloses
  have hboolean := FieldType.boolean_isExpressible s
  have hold : tokens? (host.fill "boolean".toList).text.toList =
      some (earlier ++ s.typeTokens .boolean ++ later) :=
    htokens _ _ (.spelled ScalarKind.boolean.spells_keyword)
  have hnew : tokens? (host.fill (s.typeText type)).text.toList =
      some (earlier ++ s.typeTokens type.reread ++ later) :=
    htokens _ _ (scans_typeText expressible.spelled expressible.wellFormed readable)
  obtain ⟨-, -, -, -, noEnd⟩ := tokens?_eq_some hold
  obtain ⟨items, hparse, hresolve⟩ := (compile_eq_ok_iff hold).1 compiled
  obtain ⟨items', hparse', hitems⟩ := encloses.exchange hboolean expressible.reread noEnd hparse
  refine ⟨items, items', hitems, hresolve, fun s' ↦ (compile_eq_ok_iff hnew).trans ⟨?_, ?_⟩⟩
  · rintro ⟨items'', hparse'', hresolve'⟩
    obtain rfl := Except.ok.inj (hparse'.symm.trans hparse'')
    exact hresolve'
  · exact fun hresolve' ↦ ⟨items', hparse', hresolve'⟩

theorem Host.compile_typeText (host : Host)
    (compiled : compile openByDefault (host.fill "boolean".toList) = .ok s₀)
    (expressible : type.IsExpressible s) (readable : type.IsReadable)
    (fits : TypeFits s₀.typeNames (type.reread.restated s)) : ∃ slot : Schema.Slot,
      slot.types.field.name = host.head.name.value ∧ s₀ = slot.fill .boolean ∧
        compile openByDefault (host.fill (s.typeText type)) = .ok (slot.fill (type.reread.carried s s₀)) := by
  obtain ⟨items, items', hitems, hresolve, hcompile⟩ :=
    host.exists_exchange compiled expressible readable
  have hplain : (scopeOf s₀ openByDefault).Plain (.scalar .boolean []) .boolean :=
    fun _ _ ↦ rfl
  have hplain' : (scopeOf s₀ openByDefault).Plain (type.reread.restated s) (type.reread.carried s s₀) :=
    FieldType.plain_restated expressible.reread.noInline expressible.reread.wellFormed fits
  obtain ⟨slot, named, hslot, hresolve'⟩ := resolve_exchange hplain hplain' hitems hresolve
  exact ⟨slot, named, hslot, (hcompile _).2 hresolve'⟩

theorem Host.fits_of_compile (host : Host)
    (compiled : compile openByDefault (host.fill "boolean".toList) = .ok s₀)
    (expressible : type.IsExpressible s)
    (compiled' : compile openByDefault (host.fill (s.typeText type)) = .ok s') :
    type.IsReadable ∧ TypeFits s₀.typeNames (type.reread.restated s) := by
  have readable : type.IsReadable := by
    by_contra hread
    obtain ⟨earlier, later, state, -, htokens⟩ := host.exists_encloses
    have hnone := htokens _ _
      (scans_typeText_of_not_readable expressible.spelled expressible.wellFormed hread)
    obtain ⟨ts, hsome⟩ := exists_tokens?_of_compile compiled'
    cases hnone.symm.trans hsome
  obtain ⟨items, items', hitems, hresolve, hcompile⟩ :=
    host.exists_exchange compiled expressible readable
  obtain ⟨body, hbody, hfield⟩ := exists_body_of_inItems hitems
  have hmeaningful := resolve_meaningful ((hcompile s').1 compiled')
  refine ⟨readable, ?_⟩
  rw [resolve_typeNames hresolve, ← typeNames_exchange hitems]
  exact ((hmeaningful.bodies body hbody).each _ hfield).type

end Hosts

section Compiled

variable {openByDefault openByDefault' : Bool} {source : Source} {s s₀ : Schema} {owner : Nat}
  {f : FieldDefinition}

variable [PatternEngine]

theorem Blueprint.isExpressible_of_compile (compiled : compile openByDefault source = .ok s)
    (hf : f ∈ (s.definition owner).fields) (noInline : f.type.inline? = none) :
    f.type.IsExpressible s := by
  have hs := compile_wellFormed compiled
  have hwithin := ((hs.definition owner).fields f hf).type
  have hname (id : Nat) (htarget : f.type.target? = some id) : (s.definition id).name ∈ s.typeNames := by
    rcases FieldType.target?_eq_some_iff.1 htarget with hnamed | hinline
    · exact List.mem_of_getElem? (hs.typeNames_getElem? (hwithin.named_lt hnamed)).1
    · cases noInline.symm.trans hinline
  refine ⟨noInline, fun id htarget ↦ spells_of_compile compiled _ (hname id htarget),
    fun id htarget ↦ notKind_of_compile compiled _ (hname id htarget),
    fun scalar hscalar ↦ (hwithin.scalar_wellFormed hscalar).constraints, ?_⟩
  cases hd : s.types[owner]? with
  | none =>
    rw [Schema.definition, hd] at hf
    cases hf
  | some d =>
    rw [Schema.definition, hd] at hf
    exact compile_bracketed compiled d (List.mem_of_getElem? hd) f hf

theorem exists_field_of_view {α : Type} {a : α} (view : Schema → FieldDefinition → α)
    (h : (compile openByDefault source).toOption.map (fun s ↦ (s.definition owner).fields.map (view s)) =
      some [a]) : ∃ s f, compile openByDefault source = .ok s ∧ (s.definition owner).fields = [f] ∧
        view s f = a := by
  obtain ⟨s, hs, hfields⟩ := Option.map_eq_some_iff.1 h
  obtain ⟨f, hf, rfl⟩ := List.map_eq_singleton_iff.1 hfields
  refine ⟨s, f, ?_, hf, rfl⟩
  cases hcompile : compile openByDefault source with
  | ok s' =>
    rw [hcompile] at hs
    exact congrArg _ (Option.some.inj hs)
  | error =>
    rw [hcompile] at hs
    cases hs

/-- The shown type of a field, in the place of the type of a field in a blueprint that declares the types
of the same names, is read as the type of the field if and only if it is legible. -/
theorem shown_type_reads_back_iff_legible (host : Host) (compiled : compile openByDefault source = .ok s)
    (hf : f ∈ (s.definition owner).fields) (noInline : f.type.inline? = none)
    (compiled₀ : compile openByDefault' (host.fill "boolean".toList) = .ok s₀)
    (declared : ∀ id, f.type.named? = some id → (s.definition id).name ∈ s₀.typeNames) :
    ∃ slot : Schema.Slot, slot.types.field.name = host.head.name.value ∧
      s₀ = slot.fill .boolean ∧
      (compile openByDefault' (host.fill (s.typeText f.type)) = .ok (slot.fill (f.type.carried s s₀)) ↔
        f.type.IsLegible) ∧
      (∀ s', compile openByDefault' (host.fill (s.typeText f.type)) = .ok s' →
        s' = slot.fill (f.type.reread.carried s s₀)) ∧
      (s₀.typeNames = s.typeNames → f.type.carried s s₀ = f.type) ∧
      (f.type.IsBrief → f.type.IsLegible) := by
  have expressible := isExpressible_of_compile compiled hf noInline
  have hs := compile_wellFormed compiled
  have hwithin := ((hs.definition owner).fields f hf).type
  have hcarried (same : s₀.typeNames = s.typeNames) : f.type.carried s s₀ = f.type :=
    f.type.carried_eq_self hs same fun id hid ↦ hwithin.named_lt hid
  have hlegible := FieldType.isLegible_iff expressible.wellFormed
  by_cases hgood : f.type.IsReadable ∧ TypeFits s₀.typeNames (f.type.reread.restated s)
  · obtain ⟨readable, fits⟩ := hgood
    obtain ⟨slot, named, hslot, hcompile⟩ := host.compile_typeText compiled₀ expressible readable fits
    refine ⟨slot, named, hslot, ?_, fun s' hs' ↦ ?_, hcarried, FieldType.IsBrief.isLegible⟩
    · -- The text is read as the reread type, and names are carried over whatever the bounds are.
      have hcarries : f.type.reread.carried s s₀ = f.type.carried s s₀ ↔ f.type.reread = f.type :=
        FieldType.carried_reread_eq_iff
      rw [hcompile, hlegible, ← hcarries]
      constructor
      · exact fun h ↦ ⟨readable, slot.fill_injective (Except.ok.inj h)⟩
      · rintro ⟨-, hsame⟩
        rw [hsame]
    · exact (Except.ok.inj (hcompile.symm.trans hs')).symm
  · -- The text is refused, and it would not be if the type were legible.
    have hrefused (s' : Schema) : compile openByDefault' (host.fill (s.typeText f.type)) ≠ .ok s' :=
      fun compiled' ↦ hgood (host.fits_of_compile compiled₀ expressible compiled')
    obtain ⟨slot, named, hslot, -⟩ := host.compile_typeText compiled₀
      (FieldType.boolean_isExpressible s) FieldType.boolean_isReadable
      (FieldType.fits_restated rfl nofun FieldType.boolean_wellFormed)
    refine ⟨slot, named, hslot, ⟨fun h ↦ absurd h (hrefused _), fun legible ↦ ?_⟩,
      fun s' hs' ↦ absurd hs' (hrefused s'), hcarried, FieldType.IsBrief.isLegible⟩
    obtain ⟨readable, hreread⟩ := hlegible.1 legible
    refine absurd ⟨readable, ?_⟩ hgood
    rw [hreread]
    exact f.type.fits_restated noInline declared fun scalar hscalar ↦ hwithin.scalar_wellFormed hscalar

end Compiled

theorem inRange_one : Json.InRange 1 := by decide

def atLeastOne : FieldType :=
  .scalar ⟨.integer, { Constraints.none with minimum := some (.integer 1 inRange_one) }⟩

theorem shown_type_reads_back_size_parts :
    compile false partsBlueprint = .ok partsSchema ∧
    ∃ s₀, compile false (partHost.fill "boolean".toList) = .ok s₀ ∧
      (∃ slot : Schema.Slot, s₀ = slot.fill .boolean ∧
        compile false (partHost.fill "integer(min = 1)".toList) = .ok (slot.fill atLeastOne)) ∧
      ∃ slot : Schema.Slot, s₀ = slot.fill .boolean ∧
        compile false (partHost.fill "Part[]".toList) = .ok (slot.fill (.array (.named 0))) := by
  have hhost : compile false (partHost.fill "boolean".toList) =
      .ok ⟨"part", [⟨"Part", [⟨"f", .boolean, true, none⟩], true, false⟩], [("Part", 0)]⟩ := rfl
  refine ⟨compile_partsBlueprint, _, hhost, ?_, ?_⟩
  · have hfield : (⟨"size", atLeastOne, true, none⟩ : FieldDefinition) ∈
        (partsSchema.definition 0).fields := List.mem_cons_self
    have htext : partsSchema.typeText atLeastOne = "integer(min = 1)".toList := by decide +kernel
    obtain ⟨slot, -, hslot, hread, -, -, hbrief⟩ :=
      shown_type_reads_back_iff_legible partHost compile_partsBlueprint hfield rfl hhost nofun
    rw [htext] at hread
    refine ⟨slot, hslot, hread.2 (hbrief fun scalar hscalar ↦ ?_)⟩
    obtain rfl := Option.some.inj hscalar
    refine ⟨fun n hn ↦ ?_, fun n hn ↦ ?_, fun p hp ↦ ?_⟩
    · obtain rfl := Option.some.inj hn
      intro d hd
      cases hd
    · cases hn
    · cases hp
  · have hfield : (⟨"parts", .array (.named 0), true, none⟩ : FieldDefinition) ∈
        (partsSchema.definition 0).fields := List.mem_cons_of_mem _ List.mem_cons_self
    have hdeclared : ∀ id, FieldType.named? (.array (.named 0)) = some id →
        (partsSchema.definition id).name ∈ ["Part"] := by
      intro id hid
      obtain rfl := Option.some.inj hid
      exact List.mem_cons_self
    obtain ⟨slot, -, hslot, hread, -, -, hbrief⟩ :=
      shown_type_reads_back_iff_legible partHost compile_partsBlueprint hfield rfl hhost hdeclared
    refine ⟨slot, hslot, hread.2 (hbrief fun scalar hscalar ↦ ?_)⟩
    cases hscalar

/-- The quotes escape a mark by its code point, which a blueprint refuses; and a bound is read as another
one if its digits with those after the point do not fit. -/
theorem shown_type_not_read_back :
    (∃ s₀, compile false (partHost.fill "boolean".toList) = .ok s₀) ∧
    (∃ s f, compile false (partHost.fill "string(pattern = \"e\u0301\")".toList) = .ok s ∧
      (s.definition 0).fields = [f] ∧ f.type.target? = none ∧
      s.typeText f.type = "string(pattern = \"e\\u\x7b301\x7d\")".toList ∧
      compile false (partHost.fill (s.typeText f.type)) =
        .error (.faulty "part" ⟨.form (.invalidEscape 'u'), ⟨1, 33⟩⟩)) ∧
    ∃ s f s' f', compile false (partHost.fill "number(min = 9007199254740991e0)".toList) = .ok s ∧
      (s.definition 0).fields = [f] ∧ f.type.target? = none ∧
      s.typeText f.type = "number(min = 9007199254740991.0)".toList ∧
      compile false (partHost.fill (s.typeText f.type)) = .ok s' ∧
      (s'.definition 0).fields = [f'] ∧ f'.type ≠ f.type := by
  refine ⟨⟨_, rfl⟩, ?_, ?_⟩
  · have hview : (compile false (partHost.fill "string(pattern = \"e\u0301\")".toList)).toOption.map
        (fun s ↦ (s.definition 0).fields.map fun f ↦ (f.type.target?, s.typeText f.type)) =
        some [(none, "string(pattern = \"e\\u\x7b301\x7d\")".toList)] := by decide +kernel
    obtain ⟨s, f, hs, hf, hview⟩ := exists_field_of_view _ hview
    obtain ⟨htarget, htext⟩ := Prod.mk.inj hview
    refine ⟨s, f, hs, hf, htarget, htext, ?_⟩
    rw [htext]
    rfl
  · have hview : (compile false (partHost.fill "number(min = 9007199254740991e0)".toList)).toOption.map
        (fun s ↦ (s.definition 0).fields.map fun f ↦
          (f.type.target?, s.typeText f.type, f.type.scalar?.bind (·.constraints.minimum))) =
        some [(none, "number(min = 9007199254740991.0)".toList,
          some (.real ⟨false, 4845873199050653695, by decide⟩))] := by decide +kernel
    have hview' : (compile false (partHost.fill "number(min = 9007199254740991.0)".toList)).toOption.map
        (fun s ↦ (s.definition 0).fields.map fun f ↦ f.type.scalar?.bind (·.constraints.minimum)) =
        some [some (.real ⟨false, 4845873199050653694, by decide⟩)] := by decide +kernel
    obtain ⟨s, f, hs, hf, hview⟩ := exists_field_of_view _ hview
    obtain ⟨s', f', hs', hf', hminimum'⟩ := exists_field_of_view _ hview'
    obtain ⟨htarget, hview⟩ := Prod.mk.inj hview
    obtain ⟨htext, hminimum⟩ := Prod.mk.inj hview
    refine ⟨s, f, s', f', hs, hf, htarget, htext, htext ▸ hs', hf', fun hsame ↦ ?_⟩
    rw [hsame, hminimum] at hminimum'
    cases hminimum'

end DocumentSchema
