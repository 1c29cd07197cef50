import DocumentSchema.Json.Reader
import DocumentSchema.Proofs.Except
import DocumentSchema.Proofs.Json.Fold

namespace DocumentSchema.Json

namespace Value

/-- No object in the value has a key twice. -/
inductive DistinctKeys : Value → Prop
  | null : DistinctKeys .null
  | bool (b : Bool) : DistinctKeys (.bool b)
  | number (n : Number) : DistinctKeys (.number n)
  | string (s : String) : DistinctKeys (.string s)
  | array {items : List Value} (each : ∀ v ∈ items, DistinctKeys v) : DistinctKeys (.array items)
  | object {members : List (String × Value)} (keys : (members.map (·.1)).Nodup)
      (each : ∀ m ∈ members, DistinctKeys m.2) : DistinctKeys (.object members)

attribute [simp] DistinctKeys.null DistinctKeys.bool DistinctKeys.number DistinctKeys.string

theorem DistinctKeys.keys_nodup {members : List (String × Value)}
    (h : (Value.object members).DistinctKeys) : (members.map (·.1)).Nodup := by
  cases h with
  | object keys each => exact keys

theorem DistinctKeys.of_mem {members : List (String × Value)}
    (h : (Value.object members).DistinctKeys) {m : String × Value} (hm : m ∈ members) :
    m.2.DistinctKeys := by
  cases h with
  | object keys each => exact each m hm

theorem DistinctKeys.of_mem_items {items : List Value} (h : (Value.array items).DistinctKeys)
    {v : Value} (hv : v ∈ items) : v.DistinctKeys := by
  cases h with
  | array each => exact each v hv

@[simp] theorem distinctKeys_array_iff {items : List Value} :
    (Value.array items).DistinctKeys ↔ ∀ v ∈ items, v.DistinctKeys :=
  ⟨fun h _ hv ↦ h.of_mem_items hv, .array⟩

@[simp] theorem distinctKeys_object_iff {members : List (String × Value)} :
    (Value.object members).DistinctKeys ↔
      (members.map (·.1)).Nodup ∧ ∀ m ∈ members, m.2.DistinctKeys :=
  ⟨fun h ↦ ⟨h.keys_nodup, fun _ hm ↦ h.of_mem hm⟩, fun h ↦ .object h.1 h.2⟩

end Value

theorem mem_setMember {members : List (String × Value)} {key : String} {v : Value}
    {m : String × Value} (hm : m ∈ setMember members key v) : m ∈ members ∨ m = (key, v) := by
  fun_induction setMember with
  | case1 => simpa using hm
  | case2 k w rest => rcases List.mem_cons.1 hm with rfl | hm <;> simp_all
  | case3 k w rest key v h ih =>
    rcases List.mem_cons.1 hm with rfl | hm
    · exact .inl List.mem_cons_self
    · exact (ih hm).imp_left (List.mem_cons_of_mem _)

theorem keys_setMember (members : List (String × Value)) (key : String) (v : Value) :
    (setMember members key v).map (·.1) =
      if key ∈ members.map (·.1) then members.map (·.1) else members.map (·.1) ++ [key] := by
  fun_induction setMember with
  | case1 => simp
  | case2 k w rest => simp
  | case3 k w rest key v h ih =>
    have hne : ¬ key = k := fun e ↦ h e.symm
    simp only [List.map_cons, ih, List.mem_cons, hne, false_or]
    split <;> simp

theorem setMember_distinctKeys {members : List (String × Value)} {v : Value}
    (h : (Value.object members).DistinctKeys) (hv : v.DistinctKeys) (key : String) :
    (Value.object (setMember members key v)).DistinctKeys := by
  refine .object ?_ fun m hm ↦ ?_
  · rw [keys_setMember]
    split
    · exact h.keys_nodup
    · rename_i absent
      exact List.nodup_append.2 ⟨h.keys_nodup, by simp, by rintro k hk _ hm rfl; simp_all⟩
  · rcases mem_setMember hm with hm | rfl
    · exact h.of_mem hm
    · exact hv

namespace Reader

/-- What lies on the stack holds no key twice so far. -/
def Frame.DistinctKeys : Frame → Prop
  | .array reversed => ∀ v ∈ reversed, v.DistinctKeys
  | .object members _ => (Value.object members).DistinctKeys

def Phase.DistinctKeys : Phase → Prop
  | .word _ v | .done v => v.DistinctKeys
  | _ => True

structure State.DistinctKeys (s : State) : Prop where
  stack : ∀ f ∈ s.stack, f.DistinctKeys
  phase : s.phase.DistinctKeys

theorem complete_distinctKeys {stack : List Frame} (h : ∀ f ∈ stack, f.DistinctKeys) {v : Value}
    (hv : v.DistinctKeys) : (complete stack v).DistinctKeys := by
  unfold complete
  split
  · exact ⟨by simp, hv⟩
  · rename_i items outer
    have hitems : ∀ w ∈ items, w.DistinctKeys := h (.array items) List.mem_cons_self
    refine ⟨?_, trivial⟩
    simp only [List.forall_mem_cons] at h ⊢
    exact ⟨List.forall_mem_cons.2 ⟨hv, hitems⟩, h.2⟩
  · simp only [List.forall_mem_cons] at h
    refine ⟨?_, trivial⟩
    simp only [List.forall_mem_cons]
    exact ⟨setMember_distinctKeys h.1 hv _, h.2⟩

theorem close_distinctKeys {stack : List Frame} (h : ∀ f ∈ stack, f.DistinctKeys) :
    (close stack).DistinctKeys := by
  unfold close
  split
  · exact ⟨by simp, trivial⟩
  · simp only [List.forall_mem_cons] at h
    exact complete_distinctKeys h.2 (.array fun v hv ↦ h.1 v (List.mem_reverse.1 hv))
  · simp only [List.forall_mem_cons] at h
    exact complete_distinctKeys h.2 h.1

theorem openFrame_distinctKeys {stack : List Frame} (h : ∀ f ∈ stack, f.DistinctKeys)
    {frame : Frame} {phase : Phase} {s : State} (hs : openFrame stack frame phase = .ok s)
    (hframe : frame.DistinctKeys) (hphase : phase.DistinctKeys) : s.DistinctKeys := by
  unfold openFrame at hs
  split at hs
  · cases hs
    exact ⟨List.forall_mem_cons.2 ⟨hframe, h⟩, hphase⟩
  · cases hs

theorem startValue_distinctKeys {stack : List Frame} (h : ∀ f ∈ stack, f.DistinctKeys) {c : Char}
    {s : State} (hs : startValue stack c = .ok s) : s.DistinctKeys := by
  unfold startValue at hs
  split at hs
  · cases hs; exact ⟨h, .null⟩
  · cases hs; exact ⟨h, .bool true⟩
  · cases hs; exact ⟨h, .bool false⟩
  · cases hs; exact ⟨h, trivial⟩
  · exact openFrame_distinctKeys h hs (by simp [Frame.DistinctKeys]) trivial
  · exact openFrame_distinctKeys h hs (Value.DistinctKeys.object (by simp) (by simp)) trivial
  · split at hs
    · cases hs; exact ⟨h, trivial⟩
    · cases hs

theorem afterValue_distinctKeys {s t : State} (h : s.DistinctKeys) {c : Char}
    (ht : afterValue s c = .ok t) : t.DistinctKeys := by
  unfold afterValue at ht
  split at ht
  · cases ht; exact h
  · split at ht <;> cases ht
    · exact close_distinctKeys h.stack
    · exact ⟨h.stack, trivial⟩
    · exact close_distinctKeys h.stack
    · exact ⟨h.stack, trivial⟩

theorem closeString_distinctKeys {stack : List Frame} (h : ∀ f ∈ stack, f.DistinctKeys)
    {isKey : Bool} {reversed : List UInt8} {s : State}
    (hs : closeString stack isKey reversed = .ok s) : s.DistinctKeys := by
  unfold closeString at hs
  split at hs <;> cases hs
  · simp only [List.forall_mem_cons] at h
    exact ⟨List.forall_mem_cons.2 h, trivial⟩
  · exact complete_distinctKeys h (.string _)

theorem step_distinctKeys {s t : State} (h : s.DistinctKeys) {b : UInt8}
    (ht : step s b = .ok t) : t.DistinctKeys := by
  obtain ⟨stack, phase⟩ := s
  have stay {phase : Phase} (hp : phase.DistinctKeys) : State.DistinctKeys ⟨stack, phase⟩ :=
    ⟨h.stack, hp⟩
  cases phase with
  | value =>
    simp only [step] at ht
    split at ht
    · cases ht; exact h
    · exact startValue_distinctKeys h.stack ht
  | firstElement =>
    simp only [step] at ht
    split at ht
    · cases ht; exact h
    · split at ht
      · cases ht; exact close_distinctKeys h.stack
      · exact startValue_distinctKeys h.stack ht
  | nextElement =>
    simp only [step] at ht
    split at ht
    · cases ht; exact h
    · split at ht
      · cases ht
      · exact startValue_distinctKeys h.stack ht
  | firstKey =>
    simp only [step] at ht
    repeat' split at ht
    · cases ht; exact h
    · cases ht; exact stay trivial
    · cases ht; exact close_distinctKeys h.stack
    · cases ht
  | nextKey =>
    simp only [step] at ht
    repeat' split at ht
    · cases ht; exact h
    · cases ht; exact stay trivial
    · cases ht
    · cases ht
  | colon =>
    simp only [step] at ht
    repeat' split at ht
    · cases ht; exact h
    · cases ht; exact stay trivial
    · cases ht
  | word rest v =>
    cases rest with
    | nil => cases ht; exact complete_distinctKeys h.stack h.phase
    | cons expected rest =>
      simp only [step] at ht
      repeat' split at ht
      · cases ht
      · cases ht; exact complete_distinctKeys h.stack h.phase
      · cases ht; exact stay h.phase
  | numeral n =>
    simp only [step] at ht
    split at ht
    · cases ht; exact stay trivial
    · cases ht
    · cases ht
    · split at ht
      · cases ht
      · exact afterValue_distinctKeys (complete_distinctKeys h.stack (.number _)) ht
  | string isKey reversed phase =>
    have inside {reversed : List UInt8} {phase : StringPhase} {c : Char}
        (ht : (stringStep reversed phase b c).map
          (fun p ↦ State.mk stack (.string isKey p.1 p.2)) = .ok t) : t.DistinctKeys := by
      cases hs : stringStep reversed phase b c with
      | error f => rw [hs] at ht; cases ht
      | ok p => rw [hs] at ht; cases ht; exact stay trivial
    cases phase with
    | plain =>
      simp only [step] at ht
      split at ht
      · exact closeString_distinctKeys h.stack ht
      · exact inside ht
    | escape | hex | pairBackslash | pairLetter => exact inside ht
  | afterElement | afterMember | done v => exact afterValue_distinctKeys h ht

theorem finishValue_distinctKeys {s : State} (h : s.DistinctKeys) {v : Value}
    (hv : finishValue s = .ok v) : v.DistinctKeys := by
  obtain ⟨stack, phase⟩ := s
  cases phase with
  | done w => cases hv; exact h.phase
  | _ => cases hv

theorem finish_distinctKeys {s : State} (h : s.DistinctKeys) {v : Value}
    (hv : finish s = .ok v) : v.DistinctKeys := by
  obtain ⟨stack, phase⟩ := s
  cases phase with
  | afterElement | afterMember | done w => exact finishValue_distinctKeys h hv
  | numeral n =>
    simp only [finish] at hv
    repeat' split at hv
    · cases hv
    · exact finishValue_distinctKeys (complete_distinctKeys h.stack (.number _)) hv
    · cases hv
  | _ => cases hv

theorem run_distinctKeys {s : State} (h : s.DistinctKeys) {place : Place} {bytes : List UInt8}
    {v : Value} (hv : run s place bytes = .ok v) : v.DistinctKeys := by
  induction bytes generalizing s place with
  | nil =>
    rw [run, DocumentSchema.Except.mapError_eq_ok_iff] at hv
    exact finish_distinctKeys h hv
  | cons b rest ih =>
    cases hs : step s b with
    | error f => simp [run, hs] at hv
    | ok t =>
      simp only [run, hs] at hv
      exact ih (step_distinctKeys h hs) hv

end Reader

theorem read_distinctKeys {bytes : List UInt8} {v : Value} (h : read bytes = .ok v) :
    v.DistinctKeys :=
  Reader.run_distinctKeys (s := Reader.State.start) ⟨by simp [Reader.State.start], trivial⟩ h

end DocumentSchema.Json
