import DocumentSchema.Schema.Reachable

namespace DocumentSchema.Schema

variable (s : Schema) {unseen pending : List Nat}

theorem visit_subset : s.visit unseen pending ⊆ unseen := by
  fun_induction visit with
  | case1 => exact List.nil_subset _
  | case2 unseen id rest hmem ih =>
    refine List.cons_subset.2 ⟨hmem, fun next hnext ↦ ?_⟩
    exact List.mem_of_mem_erase (ih hnext)
  | case3 unseen id rest hmem ih => exact ih

theorem visit_nodup (h : unseen.Nodup) : (s.visit unseen pending).Nodup := by
  fun_induction visit with
  | case1 => exact List.nodup_nil
  | case2 unseen id rest hmem ih =>
    refine List.nodup_cons.2 ⟨fun hid ↦ ?_, ih (h.erase id)⟩
    exact h.not_mem_erase (s.visit_subset hid)
  | case3 unseen id rest hmem ih => exact ih h

theorem visit_closed :
    (∀ id ∈ pending, id ∈ unseen → id ∈ s.visit unseen pending) ∧
      ∀ id ∈ s.visit unseen pending, ∀ next ∈ s.successors id, next ∈ unseen →
        next ∈ s.visit unseen pending := by
  fun_induction visit with
  | case1 => simp
  | case2 unseen id rest hmem ih =>
    obtain ⟨hpending, hclosed⟩ := ih
    -- What was unseen still is, or is the place that is visited now.
    have hunseen (next : Nat) (hnext : next ∈ unseen) :
        next = id ∨ next ∈ unseen.erase id := by
      by_cases heq : next = id
      · exact .inl heq
      · exact .inr ((List.mem_erase_of_ne heq).2 hnext)
    constructor
    · intro next hnext hmem'
      rcases List.mem_cons.1 hnext with rfl | hrest
      · exact List.mem_cons_self
      · rcases hunseen next hmem' with rfl | herased
        · exact List.mem_cons_self
        · exact List.mem_cons_of_mem _ (hpending next (List.mem_append_right _ hrest) herased)
    · intro found hfound next hnext hmem'
      rcases hunseen next hmem' with rfl | herased
      · exact List.mem_cons_self
      · rcases List.mem_cons.1 hfound with rfl | hfound
        · exact List.mem_cons_of_mem _ (hpending next (List.mem_append_left _ hnext) herased)
        · exact List.mem_cons_of_mem _ (hclosed found hfound next hnext herased)
  | case3 unseen id rest hmem ih =>
    obtain ⟨hpending, hclosed⟩ := ih
    refine ⟨fun next hnext hmem' ↦ ?_, hclosed⟩
    rcases List.mem_cons.1 hnext with rfl | hrest
    · exact absurd hmem' hmem
    · exact hpending next hrest hmem'

variable {s} {root id next : Nat}

theorem lt_of_mem_reachable (h : id ∈ s.reachable root) : id < s.types.length :=
  List.mem_range.1 (s.visit_subset h)

theorem reachable_nodup : (s.reachable root).Nodup := s.visit_nodup List.nodup_range

theorem root_mem_reachable (h : root < s.types.length) : root ∈ s.reachable root :=
  s.visit_closed.1 root (List.mem_singleton_self _) (List.mem_range.2 h)

theorem successor_mem_reachable (h : id ∈ s.reachable root) (hnext : next ∈ s.successors id)
    (hlt : next < s.types.length) : next ∈ s.reachable root :=
  s.visit_closed.2 id h next hnext (List.mem_range.2 hlt)

end DocumentSchema.Schema
