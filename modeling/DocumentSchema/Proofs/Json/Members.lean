import DocumentSchema.Json.Value
import Mathlib.Data.List.Nodup

namespace DocumentSchema.Json

variable {α β κ : Type}

theorem lookup_cons_ite (k k' : String) (v : α) (members : List (String × α)) :
    ((k', v) :: members).lookup k = if k = k' then some v else members.lookup k := by
  rw [List.lookup_cons]
  by_cases h : k = k'
  · rw [if_pos h, h, BEq.rfl]
  · rw [if_neg h, beq_eq_false_iff_ne.2 h]

theorem lookup_map_snd (f : α → β) (k : String) (members : List (String × α)) :
    (members.map fun m ↦ (m.1, f m.2)).lookup k = (members.lookup k).map f := by
  induction members with
  | nil => rfl
  | cons m rest ih =>
    rw [List.map_cons, List.lookup_cons, List.lookup_cons, ih]
    split <;> rfl

theorem mem_keys_iff {k : String} {members : List (String × α)} :
    k ∈ members.map (·.1) ↔ ∃ v, members.lookup k = some v := by
  rw [← Option.isSome_iff_exists, List.lookup_isSome_iff, List.mem_map]
  simp only [beq_iff_eq, eq_comm (a := k)]

theorem mem_of_lookup {k : String} {v : α} {members : List (String × α)}
    (h : members.lookup k = some v) : (k, v) ∈ members := by
  obtain ⟨before, after, rfl, -⟩ := List.lookup_eq_some_iff.1 h
  exact List.mem_append_right _ List.mem_cons_self

theorem lookup_map_of_mem (key : κ → String) (value : κ → α) {l : List κ}
    (distinct : (l.map key).Nodup) {k : κ} (hk : k ∈ l) :
    (l.map fun k ↦ (key k, value k)).lookup (key k) = some (value k) := by
  induction l with
  | nil => cases hk
  | cons first rest ih =>
    rw [List.map_cons, List.nodup_cons] at distinct
    rw [List.map_cons, lookup_cons_ite]
    rcases List.mem_cons.1 hk with rfl | hk
    · exact if_pos rfl
    · have hne : key k ≠ key first := fun same ↦ distinct.1 (same ▸ List.mem_map_of_mem hk)
      rw [if_neg hne]
      exact ih distinct.2 hk

/-- The members of an object with a change of those under a key. -/
def modifyMember (key : String) (change : α → α) (members : List (String × α)) : List (String × α) :=
  members.map fun m ↦ if m.1 = key then (m.1, change m.2) else m

theorem keys_modifyMember (key : String) (change : α → α) (members : List (String × α)) :
    (modifyMember key change members).map (·.1) = members.map (·.1) := by
  rw [modifyMember, List.map_map]
  refine List.map_congr_left fun m _ ↦ ?_
  by_cases h : m.1 = key <;> simp [h]

theorem lookup_modifyMember (k key : String) (change : α → α) (members : List (String × α)) :
    (modifyMember key change members).lookup k =
      if k = key then (members.lookup k).map change else members.lookup k := by
  induction members with
  | nil => simp [modifyMember]
  | cons m rest ih =>
    rw [modifyMember] at ih
    rw [modifyMember, List.map_cons, List.lookup_cons, ih]
    by_cases hm : m.1 = key <;> grind

theorem mem_modifyMember {key : String} {change : α → α} {members : List (String × α)}
    {m : String × α} (h : m ∈ modifyMember key change members) :
    ∃ m' ∈ members, m = m' ∨ m = (m'.1, change m'.2) := by
  obtain ⟨m', hm', rfl⟩ := List.mem_map.1 h
  refine ⟨m', hm', ?_⟩
  by_cases hkey : m'.1 = key
  · exact .inr (if_pos hkey)
  · exact .inl (if_neg hkey)

theorem lookup_filter {k : String} (keep : String → Bool) (kept : keep k = true)
    (members : List (String × α)) :
    (members.filter fun m ↦ keep m.1).lookup k = members.lookup k := by
  induction members with
  | nil => rfl
  | cons m rest ih =>
    obtain ⟨key, v⟩ := m
    rw [List.filter_cons, lookup_cons_ite]
    by_cases hkey : k = key
    · subst hkey
      rw [if_pos kept, if_pos rfl, lookup_cons_ite, if_pos rfl]
    · rw [if_neg hkey, ← ih]
      split
      · rw [lookup_cons_ite, if_neg hkey]
      · rfl

theorem lookup_insert_of_ne {k key : String} (h : k ≠ key) (v : α)
    (before after : List (String × α)) :
    (before ++ (key, v) :: after).lookup k = (before ++ after).lookup k := by
  rw [List.lookup_append, List.lookup_append, lookup_cons_ite, if_neg h]

theorem lookup_insert {k key : String} {v : α} {before after : List (String × α)}
    (absent : (before ++ after).lookup key = none) :
    (before ++ (key, v) :: after).lookup k =
      if k = key then some v else (before ++ after).lookup k := by
  by_cases h : k = key
  · rw [List.lookup_append, Option.or_eq_none_iff] at absent
    rw [List.lookup_append, lookup_cons_ite, if_pos h, if_pos h, h, absent.1, Option.none_or]
  · rw [lookup_insert_of_ne h, if_neg h]

theorem lookup_eq_of_perm {k : String} {members members' : List (String × α)}
    (perm : members.Perm members') (distinct : (members.map (·.1)).Nodup) :
    members.lookup k = members'.lookup k := by
  induction perm with
  | nil => rfl
  | cons m _ ih =>
    rw [List.map_cons, List.nodup_cons] at distinct
    rw [List.lookup_cons, List.lookup_cons, ih distinct.2]
  | swap m n rest =>
    have hne : n.1 ≠ m.1 := by
      intro same
      simp [same] at distinct
    rw [List.lookup_cons, List.lookup_cons, List.lookup_cons, List.lookup_cons]
    grind
  | trans first _ ih ih' => exact (ih distinct).trans (ih' ((first.map _).nodup_iff.1 distinct))

theorem find?_of_mem (key : κ → String) {l : List κ} (distinct : (l.map key).Nodup) {k : κ}
    (hk : k ∈ l) : l.find? (key · = key k) = some k := by
  obtain ⟨found, hfound⟩ := Option.isSome_iff_exists.1
    (List.find?_isSome (p := fun other ↦ decide (key other = key k)).2 ⟨k, hk, by simp⟩)
  have hsame : key found = key k := by simpa using List.find?_some hfound
  rw [hfound, List.inj_on_of_nodup_map distinct (List.mem_of_find?_eq_some hfound) hk hsame]

theorem eq_map_of_lookup (key : κ → String) (value : κ → α) {l : List κ}
    {members : List (String × α)} (distinct : (l.map key).Nodup)
    (keys : members.map (·.1) = l.map key)
    (values : ∀ k ∈ l, ∀ v, members.lookup (key k) = some v → v = value k) :
    members = l.map fun k ↦ (key k, value k) := by
  induction l generalizing members with
  | nil => simpa using keys
  | cons first rest ih =>
    obtain ⟨m, others, rfl⟩ := List.exists_cons_of_ne_nil (l := members) (by rintro rfl; cases keys)
    obtain ⟨k, v⟩ := m
    rw [List.map_cons, List.nodup_cons] at distinct
    obtain ⟨rfl, hothers⟩ := List.cons.inj keys
    have hv : v = value first := values first List.mem_cons_self v (by simp)
    have hrest : others = rest.map fun k ↦ (key k, value k) := by
      refine ih distinct.2 hothers fun k hk w hw ↦ values k (List.mem_cons_of_mem _ hk) w ?_
      have hne : key k ≠ key first := fun same ↦ distinct.1 (same ▸ List.mem_map_of_mem hk)
      rw [lookup_cons_ite, if_neg hne]
      exact hw
    rw [hv, hrest, List.map_cons]

end DocumentSchema.Json
