import DocumentSchema.Proofs.Blueprint.Blame
import DocumentSchema.Proofs.Json.WholeNumber

namespace DocumentSchema.Blueprint

open DocumentSchema.Except (bind_eq_ok_iff mapError_eq_ok_iff)
open Json (InRange Number decimal)

/-- The decimal literal of a whole number stands at a place in a text, and ends there. -/
def WrittenAt (text : List Char) (n : Int) (place : Location) : Prop :=
  ∃ before rest, IsPlaceIn text before (decimal n ++ rest) place ∧ Halts Lexer.continuesNumber rest

section Places

variable {text before before' rest rest' : List Char} {place : Location}

theorem Location.past_later (l : Location) (text : List Char) : l.line < (l.past text).line ∨
    (l.past text).line = l.line ∧ (l.past text).column = l.column + text.length := by
  induction text generalizing l with
  | nil => exact .inr ⟨rfl, rfl⟩
  | cons c text ih =>
    rw [past_cons, List.length_cons]
    by_cases hc : c = '\n'
    · have hline : (l.after c).line = l.line + 1 := by rw [after, if_pos hc]
      rcases ih (l.after c) with hlater | ⟨hlater, -⟩ <;> omega
    · have hline : (l.after c).line = l.line ∧ (l.after c).column = l.column + 1 := by
        rw [after, if_neg hc]
        exact ⟨rfl, rfl⟩
      rcases ih (l.after c) with hlater | hlater <;> omega

theorem eq_nil_of_same_place (h : Location.of (before ++ text) = .of before) : text = [] := by
  rw [Location.of_append] at h
  have hlater := (Location.of before).past_later text
  rw [h] at hlater
  exact List.length_eq_zero_iff.1 (by omega)

theorem IsPlaceIn.unique (h : IsPlaceIn text before rest place)
    (h' : IsPlaceIn text before' rest' place) : rest = rest' := by
  obtain ⟨htext, hplace⟩ := h
  obtain ⟨htext', hplace'⟩ := h'
  rcases List.append_eq_append_iff.1 (htext.symm.trans htext') with
    ⟨more, rfl, rfl⟩ | ⟨more, rfl, rfl⟩
  · rw [eq_nil_of_same_place (hplace'.symm.trans hplace), List.nil_append]
  · rw [eq_nil_of_same_place (hplace.symm.trans hplace'), List.nil_append]

end Places

section Numbers

variable {p : Char → Bool} {run run' rest rest' number : List Char} {n : Number} {t : Token}

theorem takeWhile_of_halts (each : ∀ c ∈ run, p c = true) (ends : Halts p rest) :
    (run ++ rest).takeWhile p = run := by
  have hrest : rest.takeWhile p = [] := by
    cases rest with
    | nil => rfl
    | cons c rest => exact List.takeWhile_cons_of_neg (Bool.eq_false_iff.1 (ends c rfl))
  rw [List.takeWhile_append_of_pos each, hrest, List.append_nil]

theorem continuesNumber_of_ofText? (h : Number.ofText? number = some n) :
    ∀ c ∈ number, Lexer.continuesNumber c = true := by
  obtain ⟨c, more, rfl, starts, continues⟩ := Lexer.exists_of_ofText? h
  refine List.forall_mem_cons.2 ⟨?_, continues⟩
  have hstarts : c.isDigit = true ∨ c = '-' := by simpa [Lexer.startsNumber] using starts
  rcases hstarts with hdigit | rfl
  · simp [Lexer.continuesNumber, hdigit]
  · rfl

theorem Token.Heads.eq_number (h : t.Heads (number ++ rest)) (isNumber : Number.ofText? number = some n)
    (ends : Halts Lexer.continuesNumber rest) : t = .number n := by
  obtain ⟨c, more, hnumber, starts, -⟩ := Lexer.exists_of_ofText? isNumber
  generalize htext : number ++ rest = text at h
  cases h with
  | endOfInput => simp [hnumber] at htext
  | @spelled _ spelled rest' spells ends' =>
    have hhead : (spelled ++ rest').head? = some c := by rw [← htext, hnumber]; rfl
    cases spells with
    | word startsWord =>
      obtain rfl := Option.some.inj hhead
      rw [Lexer.startsNumber_of_startsWord startsWord] at starts
      cases starts
    | string =>
      obtain rfl := Option.some.inj hhead
      cases starts
    | punctuation mark =>
      obtain rfl := Option.some.inj hhead
      cases mark <;> cases starts
    | @number n' _ isNumber' =>
      have hsame : number = spelled := by
        rw [← takeWhile_of_halts (continuesNumber_of_ofText? isNumber) ends, htext]
        exact takeWhile_of_halts (continuesNumber_of_ofText? isNumber') ends'
      rw [← hsame, isNumber] at isNumber'
      rw [Option.some.inj isNumber']

end Numbers

variable {text : String} {items : List Item} {clauses : List ConstraintClause}
  {clause : ConstraintClause} {n : Int}

theorem literal_of_writtenAt (read : itemsOf text = .ok items) (constrains : Constrains items clauses)
    (isClause : clause ∈ clauses) (inRange : InRange n)
    (written : WrittenAt text.toList n clause.literal.location) :
    clause.literal.value = .number (.integer n inRange) := by
  obtain ⟨tokens, hsplit, hparse⟩ := bind_eq_ok_iff.1 (mapError_eq_ok_iff.1 read)
  have hliteral : [clause.literal.asLiteral].Sublist (items.flatMap Item.anchors) := by
    have hclause : clause.anchors.Sublist (clauses.flatMap ConstraintClause.anchors) :=
      sublist_flatMap isClause
    refine List.Sublist.trans ?_ (hclause.trans (clauses_sublist constrains))
    exact List.sublist_cons_self _ _
  obtain ⟨t, ht, isLiteral, isPlace⟩ := ((shows_of_parse hsplit hparse).sublist hliteral).exists_one
  have hplace : clause.literal.location = t.location := isPlace
  obtain ⟨before, rest, hbefore, hends⟩ := written
  obtain ⟨before', rest', hbefore', hheads⟩ := standsIn_of_tokenize hsplit t ht
  rw [hplace] at hbefore
  rw [← hbefore.unique hbefore'] at hheads
  have hvalue : Parser.literal? t.value = some clause.literal.value := isLiteral
  rw [hheads.eq_number (Number.ofText?_decimal inRange) hends] at hvalue
  exact (Option.some.inj hvalue).symm

end DocumentSchema.Blueprint
