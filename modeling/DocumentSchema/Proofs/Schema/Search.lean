import DocumentSchema.Proofs.Schema.Coherence
import DocumentSchema.Proofs.Schema.Reachable
import Mathlib.Logic.Relation

namespace DocumentSchema.Schema

/-- A field of one type leads to the other, under any number of brackets. -/
def LeadsTo (s : Schema) (id next : Nat) : Prop :=
  ∃ f ∈ (s.definition id).fields, f.type.target? = some next

/-- What a depth-first search finds at some places, one after the other, when it has seen others. -/
inductive DepthFirst (s : Schema) : (seen places found : List Nat) → Prop
  | done {seen : List Nat} : DepthFirst s seen [] []
  | again {seen rest found : List Nat} {id : Nat} (visited : id ∈ seen)
      (after : DepthFirst s seen rest found) : DepthFirst s seen (id :: rest) found
  | first {seen rest inside found : List Nat} {id : Nat} (unvisited : id ∉ seen)
      (below : DepthFirst s (seen ++ [id]) (s.successors id) inside)
      (after : DepthFirst s (seen ++ id :: inside) rest found) :
      DepthFirst s seen (id :: rest) (id :: inside ++ found)

variable {s : Schema} {seen places others found : List Nat} {root id : Nat}

theorem mem_successors_iff {next : Nat} : next ∈ s.successors id ↔ s.LeadsTo id next :=
  List.mem_filterMap

namespace DepthFirst

theorem split (h : DepthFirst s seen (places ++ others) found) : ∃ left right,
    found = left ++ right ∧ DepthFirst s seen places left ∧
      DepthFirst s (seen ++ left) others right := by
  generalize hall : places ++ others = all at h
  induction h generalizing places with
  | done =>
    obtain ⟨rfl, rfl⟩ := List.append_eq_nil_iff.1 hall
    exact ⟨[], [], rfl, .done, .done⟩
  | @again seen rest found id visited after ih =>
    cases places with
    | nil =>
      cases hall
      exact ⟨[], found, rfl, .done, by simpa using DepthFirst.again visited after⟩
    | cons place places =>
      obtain ⟨rfl, hrest⟩ := List.cons.inj hall
      obtain ⟨left, right, rfl, hleft, hright⟩ := ih hrest
      exact ⟨left, right, rfl, .again visited hleft, hright⟩
  | @first seen rest inside found id unvisited below after _ ih =>
    cases places with
    | nil =>
      cases hall
      exact ⟨[], _, rfl, .done, by simpa using DepthFirst.first unvisited below after⟩
    | cons place places =>
      obtain ⟨rfl, hrest⟩ := List.cons.inj hall
      obtain ⟨left, right, rfl, hleft, hright⟩ := ih hrest
      refine ⟨place :: inside ++ left, right, (List.append_assoc ..).symm,
        .first unvisited below hleft, ?_⟩
      rwa [List.append_assoc] at hright

theorem unique {found' : List Nat} (h : DepthFirst s seen places found)
    (h' : DepthFirst s seen places found') : found = found' := by
  induction h generalizing found' with
  | done =>
    cases h'
    rfl
  | again visited _ ih =>
    cases h' with
    | again _ after => exact ih after
    | first unvisited => exact absurd visited unvisited
  | first unvisited _ _ ihbelow ihafter =>
    cases h' with
    | again visited => exact absurd visited unvisited
    | first _ below after =>
      obtain rfl := ihbelow below
      rw [ihafter after]

end DepthFirst

theorem head?_reachable (hroot : root < s.types.length) :
    (s.reachable root).head? = some root := by
  rw [reachable, visit, if_pos (List.mem_range.2 hroot)]
  rfl

theorem leadsTo_of_mem_visit {unseen pending : List Nat} (h : id ∈ s.visit unseen pending) :
    ∃ start ∈ pending, Relation.ReflTransGen s.LeadsTo start id := by
  fun_induction s.visit unseen pending with
  | case1 => cases h
  | case2 unseen place rest _ ih =>
    rcases List.mem_cons.1 h with rfl | h
    · exact ⟨id, List.mem_cons_self, .refl⟩
    · obtain ⟨start, hstart, hleads⟩ := ih h
      rcases List.mem_append.1 hstart with hnext | hrest
      · exact ⟨place, List.mem_cons_self, .head (mem_successors_iff.1 hnext) hleads⟩
      · exact ⟨start, List.mem_cons_of_mem _ hrest, hleads⟩
  | case3 unseen place rest _ ih =>
    obtain ⟨start, hstart, hleads⟩ := ih h
    exact ⟨start, List.mem_cons_of_mem _ hstart, hleads⟩

variable [PatternEngine]

theorem depthFirst_visit (hs : s.WellFormed) {unseen pending : List Nat}
    (inside : ∀ id ∈ pending, id < s.types.length) (distinct : unseen.Nodup)
    (complement : ∀ id < s.types.length, id ∈ unseen ↔ id ∉ seen) :
    DepthFirst s seen pending (s.visit unseen pending) := by
  fun_induction s.visit unseen pending generalizing seen with
  | case1 => exact .done
  | case2 unseen id rest hmem ih =>
    obtain ⟨hid, hrest⟩ := List.forall_mem_cons.1 inside
    have hsuccessors : ∀ next ∈ s.successors id, next < s.types.length := by
      intro next hnext
      obtain ⟨f, hf, htarget⟩ := mem_successors_iff.1 hnext
      exact hs.target_lt hf htarget
    have hcomplement : ∀ place < s.types.length,
        place ∈ unseen.erase id ↔ place ∉ seen ++ [id] := by
      intro place hplace
      rw [distinct.mem_erase_iff, complement place hplace, List.mem_append, List.mem_singleton]
      tauto
    obtain ⟨left, right, heq, hleft, hright⟩ := (ih
      (List.forall_mem_append.2 ⟨hsuccessors, hrest⟩) (distinct.erase id) hcomplement).split
    rw [heq]
    rw [List.append_assoc] at hright
    exact .first ((complement id hid).1 hmem) hleft hright
  | case3 unseen id rest hmem ih =>
    obtain ⟨hid, hrest⟩ := List.forall_mem_cons.1 inside
    have hseen : id ∈ seen := by
      by_contra hunseen
      exact hmem ((complement id hid).2 hunseen)
    exact .again hseen (ih hrest distinct complement)

theorem depthFirst_reachable (hs : s.WellFormed) (hroot : root < s.types.length) :
    DepthFirst s [] [root] (s.reachable root) := by
  refine depthFirst_visit hs (by simpa using hroot) List.nodup_range fun id hid ↦ ?_
  simp [hid]

theorem mem_reachable_iff (hs : s.WellFormed) (hroot : root < s.types.length) :
    id ∈ s.reachable root ↔ Relation.ReflTransGen s.LeadsTo root id := by
  constructor
  · intro h
    obtain ⟨start, hstart, hleads⟩ := leadsTo_of_mem_visit h
    obtain rfl := List.mem_singleton.1 hstart
    exact hleads
  · intro h
    induction h with
    | refl => exact root_mem_reachable hroot
    | tail _ hnext ih =>
      obtain ⟨f, hf, htarget⟩ := hnext
      exact successor_mem_reachable ih (mem_successors_iff.2 ⟨f, hf, htarget⟩)
        (hs.target_lt hf htarget)

end DocumentSchema.Schema
