import DocumentSchema.Proofs.Blueprint.Grammar
import DocumentSchema.Proofs.Except

namespace DocumentSchema.Blueprint.Parser

open DocumentSchema.Except (bind_eq_ok_iff)

/-- Constraints, each with a comma after it. -/
def StatesConstraints (ts : List (Located Token)) (reversed : List ConstraintClause) : Prop :=
  ∀ rest more, WritesConstraints rest more → WritesConstraints (ts ++ rest) (reversed.reverse ++ more)

/-- The tokens of a declaration or a field that has begun, up to a phase. -/
inductive Begun : Phase → List (Located Token) → Prop
  | item : Begun .item []
  | itemKeyword (openness : Openness) (place : Location) :
      Begun (.itemKeyword openness) [word openness.word place]
  | typeName {qualifier : List (Located Token)} {openness : Option Openness}
      (qualified : WritesOpenness qualifier openness) (place : Location) :
      Begun (.typeName openness) (qualifier ++ [word "type" place])
  | rootName {qualifier : List (Located Token)} {openness : Option Openness}
      (qualified : WritesOpenness qualifier openness) (place : Location) :
      Begun (.rootName openness) (qualifier ++ [word "root" place])
  | typeBody {qualifier : List (Located Token)} {openness : Option Openness}
      (qualified : WritesOpenness qualifier openness) (place : Location) (name : Located String) :
      Begun (.typeBody openness name) (qualifier ++ [word "type" place, bare name])
  | rootEnd {qualifier : List (Located Token)} {openness : Option Openness}
      (qualified : WritesOpenness qualifier openness) (place : Location) (name : Located String) :
      Begun (.rootEnd openness name) (qualifier ++ [word "root" place, bare name])
  | field : Begun .field []
  | optionalWord (place : Location) : Begun (.optionalWord place) [word "optional" place]
  | fieldColon {ts : List (Located Token)} {head : FieldHead} (named : WritesHead ts head) :
      Begun (.fieldColon head) ts
  | type {ts : List (Located Token)} {head : FieldHead} (named : WritesHead ts head)
      (colon : Location) : Begun (.type head) (ts ++ [mark .colon colon])
  | opennessWord {ts : List (Located Token)} {head : FieldHead} (before : Begun (.type head) ts)
      (openness : Openness) (place : Location) :
      Begun (.opennessWord head openness ⟨openness.word, place⟩) (ts ++ [word openness.word place])
  | scalarEnd {ts : List (Located Token)} {head : FieldHead} {kind : ScalarKind} {text : String}
      (before : Begun (.type head) ts) (isKind : text ∈ kind.words) (place : Location) :
      Begun (.scalarEnd head kind) (ts ++ [word text place])
  | constraintKey {ts stated : List (Located Token)} {head : FieldHead} {kind : ScalarKind}
      {reversed : List ConstraintClause} (before : Begun (.scalarEnd head kind) ts)
      (opening : Location) (states : StatesConstraints stated reversed) :
      Begun (.constraintKey head kind reversed) (ts ++ mark .openParenthesis opening :: stated)
  | constraintEquals {ts : List (Located Token)} {head : FieldHead} {kind : ScalarKind}
      {reversed : List ConstraintClause} (before : Begun (.constraintKey head kind reversed) ts)
      (key : Located String) : Begun (.constraintEquals head kind reversed key) (ts ++ [bare key])
  | constraintLiteral {ts : List (Located Token)} {head : FieldHead} {kind : ScalarKind}
      {reversed : List ConstraintClause} (before : Begun (.constraintKey head kind reversed) ts)
      (key : Located String) (equals : Location) :
      Begun (.constraintLiteral head kind reversed key) (ts ++ [bare key, mark .equals equals])
  | constraintEnd {ts written : List (Located Token)} {head : FieldHead} {kind : ScalarKind}
      {clause : ConstraintClause} {reversed : List ConstraintClause}
      (before : Begun (.constraintKey head kind reversed) ts)
      (writes : WritesConstraint written clause) :
      Begun (.constraintEnd head kind (clause :: reversed)) (ts ++ written)
  | typeEnd {hd ts : List (Located Token)} {head : FieldHead} {type : TypeClause}
      (named : WritesHead hd head) (colon : Location) (typed : WritesType ts type) (brackets : Nat) :
      Begun (.typeEnd head type brackets) (hd ++ mark .colon colon :: ts)
  | closeBracket {ts : List (Located Token)} {head : FieldHead} {type : TypeClause} {brackets : Nat}
      (before : Begun (.typeEnd head type brackets) ts) (opening : Location) :
      Begun (.closeBracket head type brackets) (ts ++ [mark .openBracket opening])
  | defaultLiteral {ts : List (Located Token)} {head : FieldHead} {type : TypeClause} {brackets : Nat}
      (before : Begun (.typeEnd head type brackets) ts) (equals : Location) :
      Begun (.defaultLiteral head type) (ts ++ [mark .equals equals])

/-- The tokens to come, where a declaration or a field may start, end the open bodies and complete the
declarations read so far to the given ones. -/
def Fits (items : List Item) : List Body → List Item → List (Located Token) → Prop
  | [], reversed, rest => ∃ more, WritesItems rest more ∧ items = reversed.reverse ++ more
  | ⟨owner, fields⟩ :: outer, reversed, rest =>
    ∃ ts more others, WritesFields ts more ∧ rest = ts ++ others ∧
      match owner with
      | .declaration name isRoot openness =>
        Fits items outer (.type ⟨name, isRoot, openness, fields.reverse ++ more⟩ :: reversed) others
      | .field head openness =>
        ∀ hd colon ty, WritesHead hd head →
          WritesType ty (.inline openness (fields.reverse ++ more)) →
            Fits items outer reversed (hd ++ mark .colon colon :: (ty ++ others))

/-- The tokens to come in a phase complete the declarations to the given ones. -/
def Awaits (items : List Item) (phase : Phase) (bodies : List Body) (reversed : List Item)
    (rest : List (Located Token)) : Prop :=
  match phase with
  | .fieldEnd =>
    ∃ comma others, MayStand .comma comma ∧ rest = comma ++ others ∧ Fits items bodies reversed others
  | phase => ∀ ts, Begun phase ts → Fits items bodies reversed (ts ++ rest)

def State.Completes (items : List Item) (s : State) (rest : List (Located Token)) : Prop :=
  Awaits items s.phase s.bodies s.reversed rest

/-- Whether the phase lies inside the body of a declaration. -/
def Phase.isInside : Phase → Bool
  | .item | .itemKeyword _ | .typeName _ | .rootName _ | .typeBody _ _ | .rootEnd _ _ => false
  | _ => true

/-- The outermost of the open bodies belongs to a declaration, the others to fields. -/
inductive Stacked : Bool → List Body → Prop
  | outside : Stacked false []
  | declaration (name : Located String) (isRoot : Bool) (openness : Option Openness)
      (fields : List Field) : Stacked true [⟨.declaration name isRoot openness, fields⟩]
  | field (head : FieldHead) (openness : Option Openness) (fields : List Field) {body : Body}
      {outer : List Body} (others : Stacked true (body :: outer)) :
      Stacked true (⟨.field head openness, fields⟩ :: body :: outer)

/-- A token leads from a phase to a state, and what completes that state completes the phase once the
token stands before it. -/
structure Advances (phase : Phase) (s : State) (t : Located Token) (s' : State) : Prop where
  stacked : Stacked s'.phase.isInside s'.bodies
  completes : ∀ items rest, s'.Completes items rest →
    Awaits items phase s.bodies s.reversed (t :: rest)

section Reductions

variable {items : List Item} {outer : List Body} {owner : Owner} {fields : List Field}
  {reversed : List Item} {rest : List (Located Token)} {head : FieldHead} {openness : Option Openness}

theorem StatesConstraints.nil : StatesConstraints [] [] := fun _ _ h ↦ h

theorem StatesConstraints.snoc {stated written : List (Located Token)} {clause : ConstraintClause}
    {clauses : List ConstraintClause} (h : StatesConstraints stated clauses)
    (writes : WritesConstraint written clause) (comma : Location) :
    StatesConstraints (stated ++ (written ++ [mark .comma comma])) (clause :: clauses) := by
  intro rest more hmore
  have hcons := h _ _ (.cons writes comma hmore)
  simpa using hcons

theorem Begun.scalarEnd_inv {kind : ScalarKind} {ts : List (Located Token)}
    (h : Begun (.scalarEnd head kind) ts) : ∃ hd colon text place, WritesHead hd head ∧
      text ∈ kind.words ∧ ts = hd ++ [mark .colon colon, word text place] := by
  cases h with
  | scalarEnd before isKind place =>
    cases before with
    | type named colon => exact ⟨_, colon, _, place, named, isKind, by simp⟩

theorem Begun.constrained {kind : ScalarKind} {ts cs : List (Located Token)}
    {clauses : List ConstraintClause} (h : Begun (.scalarEnd head kind) ts) (opening : Location)
    (constraints : WritesConstraints cs clauses) :
    Begun (.typeEnd head (.scalar kind clauses) 0) (ts ++ mark .openParenthesis opening :: cs) := by
  obtain ⟨hd, colon, text, place, named, isKind, rfl⟩ := h.scalarEnd_inv
  rw [List.append_assoc]
  exact .typeEnd named colon (.constrained isKind place opening constraints) 0

theorem Fits.field {hd ty df comma : List (Located Token)} {type : TypeClause}
    {default : Option (Located Literal)}
    (h : Fits items (⟨owner, ⟨head.name, head.isOptional, type, default⟩ :: fields⟩ :: outer)
      reversed rest)
    (named : WritesHead hd head) (colon : Location) (typed : WritesType ty type)
    (defaulted : WritesDefault df default) (separated : MayStand .comma comma) :
    Fits items (⟨owner, fields⟩ :: outer) reversed
      (hd ++ mark .colon colon :: (ty ++ (df ++ (comma ++ rest)))) := by
  obtain ⟨ts, more, others, hwrites, rfl, hclosed⟩ := h
  rw [List.reverse_cons, List.append_assoc, List.singleton_append] at hclosed
  refine ⟨_, _, others, .cons named colon typed defaulted separated hwrites, ?_, hclosed⟩
  simp only [List.append_assoc, List.cons_append]

theorem Fits.root {semicolon : List (Located Token)} {name : Located String}
    (h : Fits items [] (.root name :: reversed) rest) (place : Location)
    (ended : MayStand .semicolon semicolon) :
    Fits items [] reversed (word "root" place :: bare name :: (semicolon ++ rest)) := by
  obtain ⟨more, hwrites, rfl⟩ := h
  refine ⟨_, .cons (.root place name ended) hwrites, ?_⟩
  rw [List.reverse_cons, List.append_assoc, List.singleton_append]

theorem Fits.declaration {qualifier : List (Located Token)} {isRoot : Bool} {name : Located String}
    (h : Fits items [⟨.declaration name isRoot openness, []⟩] reversed rest)
    (qualified : WritesOpenness qualifier openness) (place opening : Location) :
    Fits items [] reversed (qualifier ++
      word (declarationWord isRoot) place :: bare name :: mark .openBrace opening :: rest) := by
  obtain ⟨ts, fields, others, hfields, rfl, more, hwrites, rfl⟩ := h
  have hitem := WritesItem.type qualified isRoot place name opening hfields
  refine ⟨.type ⟨name, isRoot, openness, fields⟩ :: more, ?_, ?_⟩
  · have hitems := WritesItems.cons hitem hwrites
    rwa [List.append_assoc, List.cons_append, List.cons_append, List.cons_append] at hitems
  · rw [List.reverse_cons, List.append_assoc]
    rfl

theorem Fits.body {hd qualifier : List (Located Token)}
    (h : Fits items (⟨.field head openness, []⟩ :: outer) reversed rest) (named : WritesHead hd head)
    (qualified : WritesOpenness qualifier openness) (colon opening : Location) :
    Fits items outer reversed
      (hd ++ mark .colon colon :: (qualifier ++ mark .openBrace opening :: rest)) := by
  obtain ⟨ts, fields, others, hfields, rfl, hclosed⟩ := h
  have houter := hclosed hd colon _ named (.inline qualified opening hfields)
  rwa [List.append_assoc, List.cons_append] at houter

theorem Fits.close {s : State} {body : Body} (hbodies : s.bodies = body :: outer)
    (h : s.closeBody.Completes items rest) (place : Location) :
    Fits items s.bodies s.reversed (mark .closeBrace place :: rest) := by
  obtain ⟨phase, bodies, reversed⟩ := s
  obtain rfl : bodies = _ := hbodies
  obtain ⟨owner, fields⟩ := body
  refine ⟨_, _, rest, .close place, rfl, ?_⟩
  rw [List.append_nil]
  cases owner with
  | declaration name isRoot openness => exact h [] .item
  | field head openness =>
    intro hd colon ty named typed
    have houter := h _ (.typeEnd named colon typed 0)
    rwa [List.append_assoc, List.cons_append] at houter

end Reductions

section Steps

variable {s s' : State} {t : Located Token} {phase phase' : Phase} {head : FieldHead}
  {kind : ScalarKind} {type : TypeClause} {brackets : Nat} {openness : Option Openness}
  {items : List Item} {rest : List (Located Token)}

theorem awaits_iff {bodies : List Body} {reversed : List Item} (hphase : phase ≠ .fieldEnd) :
    Awaits items phase bodies reversed rest ↔
      ∀ ts, Begun phase ts → Fits items bodies reversed (ts ++ rest) := by
  unfold Awaits
  split
  case h_1 => exact absurd rfl hphase
  case h_2 => rfl

theorem Stacked.exists_cons {bodies : List Body} (h : Stacked true bodies) :
    ∃ body outer, bodies = body :: outer := by
  cases h with
  | declaration | field => exact ⟨_, _, rfl⟩

theorem Stacked.addField (h : Stacked true s.bodies) (default : Option (Located Literal)) :
    Stacked true (s.addField head type default).bodies := by
  obtain ⟨phase, bodies, reversed⟩ := s
  obtain ⟨body, outer, rfl⟩ := h.exists_cons
  cases h with
  | declaration name isRoot openness => exact .declaration name isRoot openness _
  | field head openness _ others => exact .field head openness _ others

theorem Stacked.addField_phase (head : FieldHead) (type : TypeClause) (h : Stacked true s.bodies)
    (default : Option (Located Literal)) :
    (s.addField head type default).phase = .fieldEnd := by
  obtain ⟨phase, bodies, reversed⟩ := s
  obtain ⟨body, outer, rfl⟩ := h.exists_cons
  rfl

theorem Stacked.closeBody (h : Stacked true s.bodies) :
    Stacked s.closeBody.phase.isInside s.closeBody.bodies := by
  obtain ⟨phase, bodies, reversed⟩ := s
  obtain ⟨body, outer, rfl⟩ := h.exists_cons
  cases h with
  | declaration => exact .outside
  | field _ _ _ others => exact others

theorem Advances.shift (hstacked : Stacked phase.isInside s.bodies)
    (h : .ok (s.withPhase phase') = (.ok s' : Result State))
    (hinside : phase'.isInside = phase.isInside)
    (hphases : phase ≠ .fieldEnd ∧ phase' ≠ .fieldEnd)
    (hbegun : ∀ ts, Begun phase ts → Begun phase' (ts ++ [t])) : Advances phase s t s' := by
  obtain rfl := Except.ok.inj h
  refine ⟨hinside.symm ▸ hstacked, fun items rest hcompletes ↦ (awaits_iff hphases.1).2 fun ts hts ↦ ?_⟩
  have hfits := (awaits_iff hphases.2).1 hcompletes _ (hbegun ts hts)
  rwa [List.append_assoc] at hfits

theorem Advances.of_begun (h : Advances phase' s t s')
    (hphases : phase ≠ .fieldEnd ∧ phase' ≠ .fieldEnd)
    (hbegun : ∀ ts, Begun phase ts → Begun phase' ts) : Advances phase s t s' := by
  refine ⟨h.stacked, fun items rest hcompletes ↦ (awaits_iff hphases.1).2 fun ts hts ↦ ?_⟩
  exact (awaits_iff hphases.2).1 (h.completes items rest hcompletes) ts (hbegun ts hts)

theorem fits_of_addField {hd ty df : List (Located Token)} {default : Option (Located Literal)}
    (hstacked : Stacked true s.bodies)
    (h : Awaits items .fieldEnd (s.addField head type default).bodies
      (s.addField head type default).reversed rest)
    (named : WritesHead hd head) (colon : Location) (typed : WritesType ty type)
    (defaulted : WritesDefault df default) :
    Fits items s.bodies s.reversed (hd ++ mark .colon colon :: (ty ++ (df ++ rest))) := by
  obtain ⟨phase, bodies, reversed⟩ := s
  obtain ⟨body, outer, rfl⟩ := hstacked.exists_cons
  obtain ⟨comma, others, separated, rfl, hfits⟩ := h
  exact hfits.field named colon typed defaulted separated

theorem stepItemKeyword_advances (hstacked : Stacked phase.isInside s.bodies)
    (hinside : phase.isInside = false) (hqualified : ∀ ts, Begun phase ts → WritesOpenness ts openness)
    (h : stepItemKeyword s openness t = .ok s') : Advances phase s t s' := by
  have hphase : phase ≠ .fieldEnd := by
    rintro rfl
    cases hinside
  obtain ⟨token, place⟩ := t
  unfold stepItemKeyword at h
  split at h
  case h_1 heq =>
    obtain rfl : token = _ := heq
    exact .shift hstacked h hinside.symm ⟨hphase, nofun⟩ fun ts hts ↦ .typeName (hqualified ts hts) place
  case h_2 heq =>
    obtain rfl : token = _ := heq
    exact .shift hstacked h hinside.symm ⟨hphase, nofun⟩ fun ts hts ↦ .rootName (hqualified ts hts) place
  case h_3 => cases h

theorem stepItem_advances (hstacked : Stacked false s.bodies) (ht : t.value ≠ .endOfInput)
    (h : stepItem s t = .ok s') : Advances .item s t s' := by
  have hkeyword (h : stepItemKeyword s none t = .ok s') : Advances .item s t s' := by
    refine stepItemKeyword_advances hstacked rfl (fun ts hts ↦ ?_) h
    cases hts
    exact .silent
  obtain ⟨token, place⟩ := t
  unfold stepItem at h
  split at h
  case h_1 heq => exact absurd heq ht
  case h_2 w heq =>
    obtain rfl : token = _ := heq
    cases hopenness : Openness.ofWord? w with
    | none =>
      rw [hopenness] at h
      exact hkeyword h
    | some openness =>
      rw [hopenness] at h
      obtain rfl := Openness.ofWord?_eq_some_iff.1 hopenness
      refine .shift hstacked h rfl ⟨nofun, nofun⟩ fun ts hts ↦ ?_
      cases hts
      exact .itemKeyword openness place
  case h_3 => exact hkeyword h

theorem eq_of_openBody {owner : Owner} (h : s.openBody owner t = .ok s') :
    s' = ⟨.field, ⟨owner, []⟩ :: s.bodies, s.reversed⟩ := by
  unfold State.openBody at h
  split at h
  · cases h
  · exact (Except.ok.inj h).symm

theorem Advances.openDeclaration {name : Located String} {isRoot : Bool} {opening : Location}
    (hstacked : Stacked false s.bodies) (hphase : phase ≠ .fieldEnd)
    (hbegun : ∀ ts, Begun phase ts → ∃ qualifier place, WritesOpenness qualifier openness ∧
      ts = qualifier ++ [word (declarationWord isRoot) place, bare name])
    (h : s.openBody (.declaration name isRoot openness) (mark .openBrace opening) = .ok s') :
    Advances phase s (mark .openBrace opening) s' := by
  obtain ⟨phase, bodies, reversed⟩ := s
  cases hstacked
  obtain rfl := eq_of_openBody h
  refine ⟨.declaration _ _ _ _, fun items rest hcompletes ↦ (awaits_iff hphase).2 fun ts hts ↦ ?_⟩
  obtain ⟨qualifier, place, qualified, rfl⟩ := hbegun ts hts
  have hfits := (hcompletes [] .field).declaration qualified place opening
  rwa [List.append_assoc]

theorem Advances.openField {opening : Location} (hstacked : Stacked true s.bodies)
    (hphase : phase ≠ .fieldEnd)
    (hbegun : ∀ ts, Begun phase ts → ∃ hd colon qualifier, WritesHead hd head ∧
      WritesOpenness qualifier openness ∧ ts = hd ++ mark .colon colon :: qualifier)
    (h : s.openBody (.field head openness) (mark .openBrace opening) = .ok s') :
    Advances phase s (mark .openBrace opening) s' := by
  obtain ⟨phase, bodies, reversed⟩ := s
  obtain ⟨body, outer, rfl⟩ := hstacked.exists_cons
  obtain rfl := eq_of_openBody h
  refine ⟨.field _ _ _ hstacked, fun items rest hcompletes ↦ (awaits_iff hphase).2 fun ts hts ↦ ?_⟩
  obtain ⟨hd, colon, qualifier, named, qualified, rfl⟩ := hbegun ts hts
  have hfits := (hcompletes [] .field).body named qualified colon opening
  rwa [List.append_assoc]

theorem stepRootEnd_advances {name : Located String} (hstacked : Stacked false s.bodies)
    (ht : t.value ≠ .endOfInput) (h : stepRootEnd s openness name t = .ok s') :
    Advances (.rootEnd openness name) s t s' := by
  obtain ⟨token, place⟩ := t
  unfold stepRootEnd at h
  split at h
  case h_1 heq =>
    obtain rfl : token = _ := heq
    refine .openDeclaration hstacked nofun (fun ts hts ↦ ?_) h
    cases hts with
    | rootEnd qualified place name => exact ⟨_, place, qualified, rfl⟩
  case h_2 => cases h
  case h_3 heq =>
    obtain rfl : token = _ := heq
    obtain ⟨phase, bodies, reversed⟩ := s
    cases hstacked
    obtain rfl := Except.ok.inj h
    refine ⟨.outside, fun items rest hcompletes ts hts ↦ ?_⟩
    cases hts with
    | rootEnd qualified location name =>
      cases qualified
      exact (hcompletes [] .item).root location (.present place)
  case h_4 =>
    obtain ⟨phase, bodies, reversed⟩ := s
    cases hstacked
    have hitem := stepItem_advances (s := State.addItem ⟨phase, [], reversed⟩ _) .outside ht h
    refine ⟨hitem.stacked, fun items rest hcompletes ts hts ↦ ?_⟩
    cases hts with
    | rootEnd qualified location name =>
      cases qualified
      exact (hitem.completes items rest hcompletes [] .item).root location .absent

theorem stepField_advances (hstacked : Stacked true s.bodies) (h : stepField s t = .ok s') :
    Advances .field s t s' := by
  obtain ⟨token, place⟩ := t
  unfold stepField at h
  split at h
  case h_1 heq =>
    obtain rfl : token = _ := heq
    obtain rfl := Except.ok.inj h
    obtain ⟨body, outer, hbodies⟩ := hstacked.exists_cons
    refine ⟨hstacked.closeBody, fun items rest hcompletes ts hts ↦ ?_⟩
    cases hts
    exact Fits.close hbodies hcompletes place
  case h_2 heq =>
    obtain rfl : token = _ := heq
    refine .shift hstacked h rfl ⟨nofun, nofun⟩ fun ts hts ↦ ?_
    cases hts
    exact .optionalWord place
  case h_3 name _ heq =>
    obtain rfl : token = _ := heq
    refine .shift hstacked h rfl ⟨nofun, nofun⟩ fun ts hts ↦ ?_
    cases hts
    exact .fieldColon (.bare ⟨name, place⟩)
  case h_4 name heq =>
    obtain rfl : token = _ := heq
    refine .shift hstacked h rfl ⟨nofun, nofun⟩ fun ts hts ↦ ?_
    cases hts
    exact .fieldColon (.quoted ⟨name, place⟩)
  case h_5 => cases h

theorem stepFieldEnd_advances (hstacked : Stacked true s.bodies) (h : stepFieldEnd s t = .ok s') :
    Advances .fieldEnd s t s' := by
  obtain ⟨token, place⟩ := t
  unfold stepFieldEnd at h
  split at h
  case h_1 heq =>
    obtain rfl : token = _ := heq
    obtain rfl := Except.ok.inj h
    refine ⟨hstacked, fun items rest hcompletes ↦ ?_⟩
    exact ⟨_, rest, .present place, rfl, hcompletes [] .field⟩
  case h_2 =>
    have hfield := stepField_advances hstacked h
    refine ⟨hfield.stacked, fun items rest hcompletes ↦ ?_⟩
    exact ⟨[], _, .absent, rfl, hfield.completes items rest hcompletes [] .field⟩

theorem stepFieldColon_advances (hstacked : Stacked true s.bodies)
    (h : stepFieldColon s head t = .ok s') : Advances (.fieldColon head) s t s' := by
  obtain ⟨token, place⟩ := t
  unfold stepFieldColon at h
  split at h
  case h_1 heq =>
    obtain rfl : token = _ := heq
    refine .shift hstacked h rfl ⟨nofun, nofun⟩ fun ts hts ↦ ?_
    cases hts with
    | fieldColon named => exact .type named place
  case h_2 => cases h

theorem stepOptionalWord_advances {location : Location} (hstacked : Stacked true s.bodies)
    (h : stepOptionalWord s location t = .ok s') : Advances (.optionalWord location) s t s' := by
  obtain ⟨token, place⟩ := t
  unfold stepOptionalWord at h
  split at h
  case h_1 name heq =>
    obtain rfl : token = _ := heq
    refine .shift hstacked h rfl ⟨nofun, nofun⟩ fun ts hts ↦ ?_
    cases hts
    exact .fieldColon (.optional location (.bare ⟨name, place⟩))
  case h_2 name heq =>
    obtain rfl : token = _ := heq
    refine .shift hstacked h rfl ⟨nofun, nofun⟩ fun ts hts ↦ ?_
    cases hts
    exact .fieldColon (.optional location (.quoted ⟨name, place⟩))
  case h_3 =>
    refine (stepFieldColon_advances hstacked h).of_begun ⟨nofun, nofun⟩ fun ts hts ↦ ?_
    cases hts
    exact .fieldColon (.bare ⟨"optional", location⟩)

theorem stepTypeEnd_advances (hstacked : Stacked true s.bodies)
    (h : stepTypeEnd s head type brackets t = .ok s') :
    Advances (.typeEnd head type brackets) s t s' := by
  obtain ⟨token, place⟩ := t
  unfold stepTypeEnd at h
  split at h
  case h_1 heq =>
    obtain rfl : token = _ := heq
    split at h
    case isTrue => cases h
    case isFalse =>
      exact .shift hstacked h rfl ⟨nofun, nofun⟩ fun ts hts ↦ .closeBracket hts place
  case h_2 heq =>
    obtain rfl : token = _ := heq
    exact .shift hstacked h rfl ⟨nofun, nofun⟩ fun ts hts ↦ .defaultLiteral hts place
  case h_3 =>
    have hend := stepFieldEnd_advances (hstacked.addField none) h
    refine ⟨hend.stacked, fun items rest hcompletes ts hts ↦ ?_⟩
    cases hts with
    | typeEnd named colon typed =>
      have hfits := fits_of_addField hstacked (hend.completes items rest hcompletes) named colon typed
        .absent
      rwa [List.append_assoc]

theorem stepType_advances (hstacked : Stacked true s.bodies) (h : stepType s head t = .ok s') :
    Advances (.type head) s t s' := by
  obtain ⟨token, place⟩ := t
  unfold stepType at h
  split at h
  case h_1 heq =>
    obtain rfl : token = _ := heq
    refine .openField hstacked nofun (fun ts hts ↦ ?_) h
    cases hts with
    | type named colon => exact ⟨_, colon, [], named, .silent, rfl⟩
  case h_2 w heq =>
    obtain rfl : token = _ := heq
    split at h
    case h_1 openness hopenness =>
      obtain rfl := Openness.ofWord?_eq_some_iff.1 hopenness
      exact .shift hstacked h rfl ⟨nofun, nofun⟩ fun ts hts ↦ .opennessWord hts openness place
    case h_2 kind _ hkind =>
      have isKind := ScalarKind.ofWord?_eq_some_iff.1 hkind
      exact .shift hstacked h rfl ⟨nofun, nofun⟩ fun ts hts ↦ .scalarEnd hts isKind place
    case h_3 _ hkind =>
      have isNoKind := ScalarKind.ofWord?_eq_none_iff.1 hkind
      refine .shift hstacked h rfl ⟨nofun, nofun⟩ fun ts hts ↦ ?_
      cases hts with
      | type named colon =>
        have typed : WritesType [bare ⟨w, place⟩] (.named ⟨w, place⟩) := .named isNoKind
        rw [List.append_assoc]
        exact .typeEnd named colon typed 0
  case h_3 => cases h

theorem stepOpennessWord_advances {openness : Openness} {name : Located String}
    (hstacked : Stacked true s.bodies) (h : stepOpennessWord s head openness name t = .ok s') :
    Advances (.opennessWord head openness name) s t s' := by
  obtain ⟨token, place⟩ := t
  unfold stepOpennessWord at h
  split at h
  case h_1 heq =>
    obtain rfl : token = _ := heq
    refine .openField hstacked nofun (fun ts hts ↦ ?_) h
    cases hts with
    | opennessWord before openness location =>
      cases before with
      | type named colon =>
        exact ⟨_, colon, _, named, .stated openness location, List.append_assoc _ _ _⟩
  case h_2 =>
    refine (stepTypeEnd_advances hstacked h).of_begun ⟨nofun, nofun⟩ fun ts hts ↦ ?_
    cases hts with
    | opennessWord before openness location =>
      cases before with
      | type named colon =>
        have typed : WritesType [bare ⟨openness.word, location⟩] (.named ⟨openness.word, location⟩) := by
          refine .named fun kind isKind ↦ ?_
          have hopenness := Openness.ofWord?_of_mem_words isKind
          rw [Openness.ofWord?_eq_some_iff.2 rfl] at hopenness
          cases hopenness
        rw [List.append_assoc]
        exact .typeEnd named colon typed 0

theorem stepScalarEnd_advances (hstacked : Stacked true s.bodies)
    (h : stepScalarEnd s head kind t = .ok s') : Advances (.scalarEnd head kind) s t s' := by
  obtain ⟨token, place⟩ := t
  unfold stepScalarEnd at h
  split at h
  case h_1 heq =>
    obtain rfl : token = _ := heq
    exact .shift hstacked h rfl ⟨nofun, nofun⟩ fun ts hts ↦ .constraintKey hts place .nil
  case h_2 =>
    refine (stepTypeEnd_advances hstacked h).of_begun ⟨nofun, nofun⟩ fun ts hts ↦ ?_
    obtain ⟨hd, colon, text, location, named, isKind, rfl⟩ := hts.scalarEnd_inv
    exact .typeEnd named colon (.scalar isKind location) 0

theorem stepConstraintKey_advances {reversed : List ConstraintClause}
    (hstacked : Stacked true s.bodies) (h : stepConstraintKey s head kind reversed t = .ok s') :
    Advances (.constraintKey head kind reversed) s t s' := by
  obtain ⟨token, place⟩ := t
  unfold stepConstraintKey at h
  split at h
  case h_1 heq =>
    obtain rfl : token = _ := heq
    refine .shift hstacked h rfl ⟨nofun, nofun⟩ fun ts hts ↦ ?_
    cases hts with
    | constraintKey before opening states =>
      have constraints := states _ _ (.close place)
      rw [List.append_nil] at constraints
      rw [List.append_assoc]
      exact before.constrained opening constraints
  case h_2 key heq =>
    obtain rfl : token = _ := heq
    exact .shift hstacked h rfl ⟨nofun, nofun⟩ fun ts hts ↦ .constraintEquals hts ⟨key, place⟩
  case h_3 => cases h

theorem stepConstraintEnd_advances {reversed : List ConstraintClause}
    (hstacked : Stacked true s.bodies) (h : stepConstraintEnd s head kind reversed t = .ok s') :
    Advances (.constraintEnd head kind reversed) s t s' := by
  obtain ⟨token, place⟩ := t
  unfold stepConstraintEnd at h
  split at h
  case h_1 heq =>
    obtain rfl : token = _ := heq
    refine .shift hstacked h rfl ⟨nofun, nofun⟩ fun ts hts ↦ ?_
    cases hts with
    | constraintEnd before writes =>
      cases before with
      | constraintKey before opening states =>
        rw [List.append_assoc, List.append_assoc]
        exact .constraintKey before opening (states.snoc writes place)
  case h_2 heq =>
    obtain rfl : token = _ := heq
    refine .shift hstacked h rfl ⟨nofun, nofun⟩ fun ts hts ↦ ?_
    cases hts with
    | constraintEnd before writes =>
      cases before with
      | constraintKey before opening states =>
        rw [List.append_assoc, List.append_assoc, List.reverse_cons]
        exact before.constrained opening (states _ _ (.last writes place))
  case h_3 => cases h

theorem addField_advances {literal : Located Literal} (hstacked : Stacked true s.bodies)
    (value : WritesLiteral t literal) :
    Advances (.defaultLiteral head type) s t (s.addField head type (some literal)) := by
  have hphase := hstacked.addField_phase head type (some literal)
  refine ⟨?_, fun items rest hcompletes ts hts ↦ ?_⟩
  · rw [hphase]
    exact hstacked.addField _
  · rw [State.Completes, hphase] at hcompletes
    cases hts with
    | defaultLiteral before equals =>
      cases before with
      | typeEnd named colon typed =>
        have hfits := fits_of_addField hstacked hcompletes named colon typed (.stated equals value)
        rwa [List.append_assoc, List.append_assoc]

theorem step_advances (hstacked : Stacked s.phase.isInside s.bodies) (ht : t.value ≠ .endOfInput)
    (h : step s t = .ok s') : Advances s.phase s t s' := by
  obtain ⟨phase, bodies, reversed⟩ := s
  obtain ⟨token, place⟩ := t
  cases phase with
  | item => exact stepItem_advances hstacked ht h
  | itemKeyword openness =>
    refine stepItemKeyword_advances hstacked rfl (fun ts hts ↦ ?_) h
    cases hts
    exact .stated _ _
  | typeName openness =>
    dsimp only [step] at h
    split at h
    case h_1 name =>
      refine .shift hstacked h rfl ⟨nofun, nofun⟩ fun ts hts ↦ ?_
      cases hts with
      | typeName qualified location =>
        rw [List.append_assoc]
        exact .typeBody qualified location ⟨name, place⟩
    case h_2 => cases h
  | rootName openness =>
    dsimp only [step] at h
    split at h
    case h_1 name =>
      refine .shift hstacked h rfl ⟨nofun, nofun⟩ fun ts hts ↦ ?_
      cases hts with
      | rootName qualified location =>
        rw [List.append_assoc]
        exact .rootEnd qualified location ⟨name, place⟩
    case h_2 => cases h
  | typeBody openness name =>
    dsimp only [step] at h
    split at h
    case h_1 =>
      refine .openDeclaration hstacked nofun (fun ts hts ↦ ?_) h
      cases hts with
      | typeBody qualified location name => exact ⟨_, location, qualified, rfl⟩
    case h_2 => cases h
  | rootEnd openness name => exact stepRootEnd_advances hstacked ht h
  | field => exact stepField_advances hstacked h
  | fieldEnd => exact stepFieldEnd_advances hstacked h
  | optionalWord location => exact stepOptionalWord_advances hstacked h
  | fieldColon head => exact stepFieldColon_advances hstacked h
  | type head => exact stepType_advances hstacked h
  | opennessWord head openness name => exact stepOpennessWord_advances hstacked h
  | scalarEnd head kind => exact stepScalarEnd_advances hstacked h
  | constraintKey head kind clauses => exact stepConstraintKey_advances hstacked h
  | constraintEquals head kind clauses key =>
    dsimp only [step] at h
    split at h
    case h_1 =>
      refine .shift hstacked h rfl ⟨nofun, nofun⟩ fun ts hts ↦ ?_
      cases hts with
      | constraintEquals before =>
        rw [List.append_assoc]
        exact .constraintLiteral before _ place
    case h_2 => cases h
  | constraintLiteral head kind clauses key =>
    dsimp only [step] at h
    split at h
    case h_1 literal hliteral =>
      have value : WritesLiteral ⟨token, place⟩ ⟨literal, place⟩ :=
        writesLiteral_iff.2 ⟨hliteral, rfl⟩
      refine .shift hstacked h rfl ⟨nofun, nofun⟩ fun ts hts ↦ ?_
      cases hts with
      | constraintLiteral before _ equals =>
        rw [List.append_assoc]
        exact .constraintEnd before (.mk value)
    case h_2 => cases h
  | constraintEnd head kind clauses => exact stepConstraintEnd_advances hstacked h
  | typeEnd head type brackets => exact stepTypeEnd_advances hstacked h
  | closeBracket head type brackets =>
    dsimp only [step] at h
    split at h
    case h_1 =>
      refine .shift hstacked h rfl ⟨nofun, nofun⟩ fun ts hts ↦ ?_
      cases hts with
      | closeBracket before opening =>
        cases before with
        | typeEnd named colon typed =>
          rw [List.append_assoc, List.append_assoc]
          exact .typeEnd named colon (.array typed opening place) _
    case h_2 => cases h
  | defaultLiteral head type =>
    dsimp only [step] at h
    split at h
    case h_1 literal hliteral =>
      obtain rfl := Except.ok.inj h
      exact addField_advances hstacked (writesLiteral_iff.2 ⟨hliteral, rfl⟩)
    case h_2 => cases h

end Steps

section Runs

variable {items : List Item} {tokens : List (Located Token)} {s s' : State}

theorem completes_of_run (hstacked : Stacked s.phase.isInside s.bodies)
    (hend : ∀ t ∈ tokens, t.value ≠ .endOfInput) (h : tokens.foldlM step s = .ok s') :
    Stacked s'.phase.isInside s'.bodies ∧
      ∀ rest, s'.Completes items rest → s.Completes items (tokens ++ rest) := by
  induction tokens generalizing s with
  | nil =>
    obtain rfl := Except.ok.inj h
    exact ⟨hstacked, fun _ ↦ id⟩
  | cons t rest ih =>
    obtain ⟨ht, hend⟩ := List.forall_mem_cons.1 hend
    rw [List.foldlM_cons] at h
    obtain ⟨next, hnext, h⟩ := bind_eq_ok_iff.1 h
    -- The stack is followed from the first token on, what completes it from the last one back.
    have hadvances := step_advances hstacked ht hnext
    obtain ⟨hstacked', hcompletes⟩ := ih hadvances.stacked hend h
    exact ⟨hstacked', fun others hothers ↦ hadvances.completes items _ (hcompletes others hothers)⟩

end Runs

end DocumentSchema.Blueprint.Parser

namespace DocumentSchema.Blueprint

open DocumentSchema.Except (bind_eq_ok_iff map_eq_ok_iff)
open DocumentSchema.Blueprint.Parser

theorem Parser.completes_of_end {s s' : State} {place : Location}
    (hstacked : Stacked s.phase.isInside s.bodies)
    (h : step s ⟨.endOfInput, place⟩ = .ok s') : s.Completes s'.reversed.reverse [] := by
  obtain ⟨phase, bodies, reversed⟩ := s
  cases phase
  case item =>
    cases hstacked
    obtain rfl := Except.ok.inj h
    intro ts hts
    cases hts
    exact ⟨[], .nil, (List.append_nil _).symm⟩
  case rootEnd openness name =>
    cases hstacked
    cases openness with
    | some openness => cases h
    | none =>
      obtain rfl := Except.ok.inj h
      intro ts hts
      cases hts with
      | rootEnd qualified location name =>
        cases qualified
        exact Fits.root ⟨[], .nil, (List.append_nil _).symm⟩ location .absent
  all_goals cases h

theorem writes_of_parse {tokens : List (Located Token)} {items : List Item} {place : Location}
    (hend : ∀ t ∈ tokens, t.value ≠ .endOfInput)
    (h : parse (tokens ++ [⟨.endOfInput, place⟩]) = .ok items) : WritesItems tokens items := by
  obtain ⟨last, hrun, rfl⟩ := map_eq_ok_iff.1 h
  rw [List.foldlM_append] at hrun
  obtain ⟨s, hs, hlast⟩ := bind_eq_ok_iff.1 hrun
  obtain ⟨s', hstep, heq⟩ := bind_eq_ok_iff.1 hlast
  obtain rfl := Except.ok.inj heq
  obtain ⟨hstacked, hcompletes⟩ := completes_of_run (s := .start) .outside hend hs
  obtain ⟨more, hwrites, rfl⟩ := hcompletes [] (completes_of_end hstacked hstep) [] .item
  rwa [List.append_nil] at hwrites

end DocumentSchema.Blueprint
