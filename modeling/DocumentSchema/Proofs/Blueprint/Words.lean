import DocumentSchema.Blueprint.Compile
import DocumentSchema.Proofs.Except

namespace DocumentSchema.Blueprint

open DocumentSchema.Except (bind_eq_ok_iff foldlM_preserves map_eq_ok_iff mapError_eq_ok_iff)

def IsWord (text : String) : Prop := ∀ c ∈ text.toList, Lexer.continuesWord c = true

theorem IsWord.not_mem {text : String} {c : Char} (h : IsWord text)
    (hc : Lexer.continuesWord c = false) : c ∉ text.toList := by
  intro hmem
  rw [h c hmem] at hc
  cases hc

def Token.Spelled : Token → Prop
  | .word text => IsWord text
  | _ => True

namespace Lexer

variable {s s' : State} {c : Char} {token : Token} {start : Location} {reversed : List Char}

theorem continuesWord_of_startsWord (h : startsWord c = true) : continuesWord c = true := by
  simp only [startsWord, continuesWord, Bool.or_eq_true] at h ⊢
  exact h.imp_left .inl

/-- A phase in which the word that has begun, if one has, goes on as words do. -/
def Phase.Spelled : Phase → Prop
  | .word _ reversed => ∀ c ∈ reversed, continuesWord c = true
  | _ => True

structure State.Spelled (s : State) : Prop where
  tokens : ∀ t ∈ s.reversed, t.value.Spelled
  phase : s.phase.Spelled

theorem State.Spelled.emit (hs : s.Spelled) (htoken : token.Spelled) :
    (s.emit token start).Spelled :=
  ⟨List.forall_mem_cons.2 ⟨htoken, hs.tokens⟩, trivial⟩

theorem State.Spelled.advance {phase : Phase} (hs : s.Spelled) (hphase : phase.Spelled) :
    (s.advance c phase).Spelled := ⟨hs.tokens, hphase⟩

theorem isWord_ofList (h : ∀ c ∈ reversed, continuesWord c = true) :
    IsWord (String.ofList reversed.reverse) := by
  intro c hc
  rw [String.toList_ofList, List.mem_reverse] at hc
  exact h c hc

theorem stepBlank_spelled (hs : s.Spelled) (h : stepBlank s c = .ok s') : s'.Spelled := by
  unfold stepBlank at h
  by_cases hword : startsWord c = true
  · have hphase : (Phase.word s.next [c]).Spelled :=
      List.forall_mem_singleton.2 (continuesWord_of_startsWord hword)
    rw [if_pos hword] at h
    repeat' split at h
    all_goals cases h
    all_goals first
      | exact hs.advance hphase
      | exact hs.advance trivial
  · rw [if_neg hword] at h
    repeat' split at h
    all_goals cases h
    all_goals first
      | exact hs.advance trivial
      | exact (hs.emit (by trivial)).advance trivial

theorem closeNumber_spelled (hs : s.Spelled) (h : closeNumber s start reversed = .ok s') :
    s'.Spelled := by
  unfold closeNumber at h
  split at h
  · obtain rfl := Except.ok.inj h
    exact hs.emit (by trivial)
  · cases h

theorem step_spelled (hs : s.Spelled) (h : step s c = .ok s') : s'.Spelled := by
  have hbegun := hs.phase
  unfold step at h
  split at h
  case h_1 => exact stepBlank_spelled hs h
  case h_5 start reversed hphase =>
    rw [hphase] at hbegun
    have hbegun : ∀ c ∈ reversed, continuesWord c = true := hbegun
    split at h
    case isTrue hc =>
      obtain rfl := Except.ok.inj h
      exact hs.advance (List.forall_mem_cons.2 ⟨hc, hbegun⟩)
    case isFalse =>
      have htoken : (Token.word (String.ofList reversed.reverse)).Spelled := isWord_ofList hbegun
      exact stepBlank_spelled (hs.emit htoken) h
  case h_6 start reversed hphase =>
    split at h
    case isTrue =>
      obtain rfl := Except.ok.inj h
      exact hs.advance trivial
    case isFalse =>
      obtain ⟨closed, hclosed, h⟩ := bind_eq_ok_iff.1 h
      exact stepBlank_spelled (closeNumber_spelled hs hclosed) h
  all_goals
    repeat' split at h
    all_goals cases h
    all_goals first
      | exact hs.advance (by trivial)
      | exact (hs.emit (by trivial)).advance (by trivial)

theorem steps_spelled {text : List Char} (hs : s.Spelled) (h : text.foldlM step s = .ok s') :
    s'.Spelled := by
  refine foldlM_preserves (fun before c after _ hbefore hstep ↦ ?_) hs h
  exact step_spelled hbefore hstep

theorem close_spelled (hs : s.Spelled) (h : close s = .ok s') : s'.Spelled := by
  have hbegun := hs.phase
  unfold close at h
  split at h
  case h_5 start reversed hphase =>
    obtain rfl := Except.ok.inj h
    rw [hphase] at hbegun
    exact hs.emit (isWord_ofList hbegun)
  case h_6 => exact closeNumber_spelled hs h
  all_goals cases h
  all_goals exact hs

end Lexer

theorem tokenize_spelled {text : List Char} {tokens : List (Located Token)}
    (h : tokenize text = .ok tokens) : ∀ t ∈ tokens, t.value.Spelled := by
  obtain ⟨read, hread, h⟩ := bind_eq_ok_iff.1 h
  obtain ⟨closed, hclosed, h⟩ := bind_eq_ok_iff.1 h
  obtain rfl := Except.ok.inj h
  have hstart : Lexer.State.start.Spelled := ⟨by simp [Lexer.State.start], trivial⟩
  have hspelled := Lexer.close_spelled (Lexer.steps_spelled hstart hread) hclosed
  intro t ht
  exact (hspelled.emit (by trivial)).tokens t (List.mem_reverse.1 ht)

def Item.Named : Item → Prop
  | .type declaration => IsWord declaration.name.value
  | .root _ => True

namespace Parser

def Owner.Named : Owner → Prop
  | .declaration name _ _ => IsWord name.value
  | .field _ _ => True

def Phase.Named : Phase → Prop
  | .typeBody _ name | .rootEnd _ name => IsWord name.value
  | _ => True

/-- Declarations have words as names, those that are finished and those that are open or begun. -/
structure State.Named (s : State) : Prop where
  items : ∀ item ∈ s.reversed, item.Named
  bodies : ∀ body ∈ s.bodies, body.owner.Named
  phase : s.phase.Named

variable {s s' : State} {t : Located Token} {head : FieldHead}

theorem State.Named.withPhase {phase : Phase} (hs : s.Named) (hphase : phase.Named) :
    (s.withPhase phase).Named := ⟨hs.items, hs.bodies, hphase⟩

theorem State.Named.of_withPhase {phase : Phase} (hs : s.Named)
    (h : .ok (s.withPhase phase) = (.ok s' : Result State)) (hphase : phase.Named) : s'.Named := by
  obtain rfl := Except.ok.inj h
  exact hs.withPhase hphase

theorem State.Named.addItem {item : Item} (hs : s.Named) (hitem : item.Named) :
    (s.addItem item).Named := ⟨List.forall_mem_cons.2 ⟨hitem, hs.items⟩, hs.bodies, trivial⟩

theorem State.Named.openBody {owner : Owner} (hs : s.Named) (h : s.openBody owner t = .ok s')
    (howner : owner.Named) : s'.Named := by
  unfold State.openBody at h
  split at h
  · cases h
  · obtain rfl := Except.ok.inj h
    exact ⟨hs.items, List.forall_mem_cons.2 ⟨howner, hs.bodies⟩, trivial⟩

theorem State.Named.addField (hs : s.Named) (type : TypeClause) (default : Option (Located Literal)) :
    (s.addField head type default).Named := by
  have hbodies := hs.bodies
  unfold State.addField
  split
  · exact hs
  · rename_i heq
    rw [heq] at hbodies
    obtain ⟨hbody, houter⟩ := List.forall_mem_cons.1 hbodies
    exact ⟨hs.items, List.forall_mem_cons.2 ⟨hbody, houter⟩, trivial⟩

theorem State.Named.closeBody (hs : s.Named) : s.closeBody.Named := by
  have hbodies := hs.bodies
  unfold State.closeBody
  split
  · exact hs
  all_goals
    rename_i heq
    rw [heq] at hbodies
    obtain ⟨hbody, houter⟩ := List.forall_mem_cons.1 hbodies
  · exact ⟨List.forall_mem_cons.2 ⟨hbody, hs.items⟩, houter, trivial⟩
  · exact ⟨hs.items, houter, trivial⟩

theorem stepItemKeyword_named {openness : Option Openness} (hs : s.Named)
    (h : stepItemKeyword s openness t = .ok s') : s'.Named := by
  unfold stepItemKeyword at h
  split at h
  all_goals first
    | cases h; done
    | exact hs.of_withPhase h trivial

theorem stepItem_named (hs : s.Named) (h : stepItem s t = .ok s') : s'.Named := by
  unfold stepItem at h
  split at h
  case h_1 =>
    obtain rfl := Except.ok.inj h
    exact hs
  case h_2 =>
    split at h
    · exact hs.of_withPhase h trivial
    · exact stepItemKeyword_named hs h
  case h_3 => exact stepItemKeyword_named hs h

theorem stepRootEnd_named {openness : Option Openness} {name : Located String} (hs : s.Named)
    (hname : IsWord name.value) (h : stepRootEnd s openness name t = .ok s') : s'.Named := by
  unfold stepRootEnd at h
  split at h
  case h_1 => exact hs.openBody h hname
  case h_2 => cases h
  case h_3 =>
    obtain rfl := Except.ok.inj h
    exact hs.addItem trivial
  case h_4 => exact stepItem_named (hs.addItem (by trivial)) h

theorem stepField_named (hs : s.Named) (h : stepField s t = .ok s') : s'.Named := by
  unfold stepField at h
  split at h
  case h_1 =>
    obtain rfl := Except.ok.inj h
    exact hs.closeBody
  all_goals first
    | cases h; done
    | exact hs.of_withPhase h trivial

theorem stepFieldEnd_named (hs : s.Named) (h : stepFieldEnd s t = .ok s') : s'.Named := by
  unfold stepFieldEnd at h
  split at h
  · exact hs.of_withPhase h trivial
  · exact stepField_named hs h

theorem stepFieldColon_named (hs : s.Named) (h : stepFieldColon s head t = .ok s') : s'.Named := by
  unfold stepFieldColon at h
  split at h
  · exact hs.of_withPhase h trivial
  · cases h

theorem stepOptionalWord_named {location : Location} (hs : s.Named)
    (h : stepOptionalWord s location t = .ok s') : s'.Named := by
  unfold stepOptionalWord at h
  split at h
  case h_3 => exact stepFieldColon_named hs h
  all_goals
    exact hs.of_withPhase h trivial

theorem stepTypeEnd_named {type : TypeClause} {brackets : Nat} (hs : s.Named)
    (h : stepTypeEnd s head type brackets t = .ok s') : s'.Named := by
  unfold stepTypeEnd at h
  split at h
  case h_1 =>
    split at h
    · cases h
    · exact hs.of_withPhase h trivial
  case h_2 =>
    exact hs.of_withPhase h trivial
  case h_3 => exact stepFieldEnd_named (hs.addField type none) h

theorem stepType_named (hs : s.Named) (h : stepType s head t = .ok s') : s'.Named := by
  unfold stepType at h
  split at h
  case h_1 => exact hs.openBody h trivial
  case h_2 =>
    split at h
    all_goals
      exact hs.of_withPhase h trivial
  case h_3 => cases h

theorem stepOpennessWord_named {openness : Openness} {word : Located String} (hs : s.Named)
    (h : stepOpennessWord s head openness word t = .ok s') : s'.Named := by
  unfold stepOpennessWord at h
  split at h
  · exact hs.openBody h trivial
  · exact stepTypeEnd_named hs h

theorem stepScalarEnd_named {kind : ScalarKind} (hs : s.Named)
    (h : stepScalarEnd s head kind t = .ok s') : s'.Named := by
  unfold stepScalarEnd at h
  split at h
  · exact hs.of_withPhase h trivial
  · exact stepTypeEnd_named hs h

theorem stepConstraintKey_named {kind : ScalarKind} {reversed : List ConstraintClause}
    (hs : s.Named) (h : stepConstraintKey s head kind reversed t = .ok s') : s'.Named := by
  unfold stepConstraintKey at h
  split at h
  all_goals first
    | cases h; done
    | exact hs.of_withPhase h trivial

theorem stepConstraintEnd_named {kind : ScalarKind} {reversed : List ConstraintClause}
    (hs : s.Named) (h : stepConstraintEnd s head kind reversed t = .ok s') : s'.Named := by
  unfold stepConstraintEnd at h
  split at h
  all_goals first
    | cases h; done
    | exact hs.of_withPhase h trivial

theorem step_named (ht : t.value.Spelled) (hs : s.Named) (h : step s t = .ok s') : s'.Named := by
  have hphase := hs.phase
  unfold step at h
  split at h
  case h_1 => exact stepItem_named hs h
  case h_2 => exact stepItemKeyword_named hs h
  case h_3 | h_4 =>
    -- The name of a declaration.
    split at h
    case h_1 name hvalue =>
      rw [hvalue] at ht
      exact hs.of_withPhase h ht
    case h_2 => cases h
  case h_5 openness name heq =>
    rw [heq] at hphase
    split at h
    case h_1 => exact hs.openBody h hphase
    case h_2 => cases h
  case h_6 openness name heq =>
    rw [heq] at hphase
    exact stepRootEnd_named hs hphase h
  case h_7 => exact stepField_named hs h
  case h_8 => exact stepFieldEnd_named hs h
  case h_9 => exact stepOptionalWord_named hs h
  case h_10 => exact stepFieldColon_named hs h
  case h_11 => exact stepType_named hs h
  case h_12 => exact stepOpennessWord_named hs h
  case h_13 => exact stepScalarEnd_named hs h
  case h_14 => exact stepConstraintKey_named hs h
  case h_17 => exact stepConstraintEnd_named hs h
  case h_18 => exact stepTypeEnd_named hs h
  case h_20 =>
    split at h
    case h_1 =>
      obtain rfl := Except.ok.inj h
      exact hs.addField _ _
    case h_2 => cases h
  case h_15 | h_16 | h_19 =>
    split at h
    case h_1 => exact hs.of_withPhase h trivial
    case h_2 => cases h

theorem steps_named {tokens : List (Located Token)} (htokens : ∀ t ∈ tokens, t.value.Spelled)
    (hs : s.Named) (h : tokens.foldlM step s = .ok s') : s'.Named := by
  refine foldlM_preserves (fun before t after ht hbefore hstep ↦ ?_) hs h
  exact step_named (htokens t ht) hbefore hstep

end Parser

theorem parse_named {tokens : List (Located Token)} {items : List Item}
    (htokens : ∀ t ∈ tokens, t.value.Spelled) (h : parse tokens = .ok items) :
    ∀ item ∈ items, item.Named := by
  obtain ⟨read, hread, rfl⟩ := map_eq_ok_iff.1 h
  have hstart : Parser.State.start.Named :=
    ⟨by simp [Parser.State.start], by simp [Parser.State.start], trivial⟩
  intro item hitem
  exact (Parser.steps_named htokens hstart hread).items item (List.mem_reverse.1 hitem)

theorem itemsOf_named {text : String} {items : List Item} (h : itemsOf text = .ok items) :
    ∀ item ∈ items, item.Named := by
  obtain ⟨tokens, htokens, h⟩ := bind_eq_ok_iff.1 (mapError_eq_ok_iff.1 h)
  exact parse_named (tokenize_spelled htokens) h

end DocumentSchema.Blueprint
