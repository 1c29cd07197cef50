import DocumentSchema.Pattern.Engine
import DocumentSchema.Proofs.Validation.Presentation

namespace DocumentSchema

open Blueprint
open Json (Value modifyMember)
open Validation

namespace Validation

theorem flatMap_of_only {α β κ : Type} {l : List α} {found : α → List β} {a : α} (key : α → κ)
    (distinct : (l.map key).Nodup) (ha : a ∈ l) (others : ∀ b ∈ l, key b ≠ key a → found b = []) :
    l.flatMap found = found a := by
  obtain ⟨before, after, rfl⟩ := List.append_of_mem ha
  rw [List.map_append, List.map_cons, List.nodup_append, List.nodup_cons] at distinct
  obtain ⟨-, ⟨hafter, -⟩, hbefore⟩ := distinct
  have hnone_before : before.flatMap found = [] := by
    refine List.flatMap_eq_nil_iff.2 fun b hb ↦ others b (by simp [hb]) ?_
    exact hbefore (key b) (List.mem_map_of_mem hb) (key a) List.mem_cons_self
  have hnone_after : after.flatMap found = [] := by
    refine List.flatMap_eq_nil_iff.2 fun b hb ↦ others b (by simp [hb]) ?_
    exact fun same ↦ hafter (same ▸ List.mem_map_of_mem hb)
  rw [List.flatMap_append, List.flatMap_cons, hnone_before, hnone_after, List.nil_append,
    List.append_nil]

variable {s : Schema} {type t : FieldType} {v w new : Value} {p : Path} {id : Nat}
  {f : FieldDefinition} {members members' : List (String × Value)}

section Object

theorem fieldFindings_congr (h : members'.lookup f.name = members.lookup f.name) :
    fieldFindings (members'.map fun m ↦ (m.1, findings s m.2)) f =
      fieldFindings (members.map fun m ↦ (m.1, findings s m.2)) f := by
  rw [fieldFindings, fieldFindings, Json.lookup_map_snd, Json.lookup_map_snd, h]

theorem findings_of_only (fields_nodup : ((s.definition id).fields.map (·.name)).Nodup)
    (isObject : type.objectId? = some id) (declared : f ∈ (s.definition id).fields)
    (clean : findings s (.object members) type = [])
    (others : ∀ k, k ≠ f.name → members'.lookup k = members.lookup k)
    (keys : ∀ k ∈ members'.map (·.1), k ∈ members.map (·.1)) :
    findings s (.object members') type =
      fieldFindings (members'.map fun m ↦ (m.1, findings s m.2)) f := by
  obtain ⟨hfields, hrefused⟩ := (findings_object_eq_nil_iff isObject).1 clean
  have hrefused' : refusedKeys (s.definition id) (members'.map (·.1)) = [] := by
    rw [refusedKeys_eq_nil_iff] at hrefused ⊢
    exact fun closed key hkey ↦ hrefused closed key (keys key hkey)
  have hothers : ∀ g ∈ (s.definition id).fields, g.name ≠ f.name →
      fieldFindings (members'.map fun m ↦ (m.1, findings s m.2)) g = [] := by
    intro g hg hname
    rw [fieldFindings_congr (others g.name hname)]
    exact hfields g hg
  rw [findings_object s isObject, objectFindings_eq, hrefused', List.map_nil, List.append_nil]
  exact flatMap_of_only (·.name) fields_nodup declared hothers

theorem findings_modifyMember (fields_nodup : ((s.definition id).fields.map (·.name)).Nodup)
    (isObject : type.objectId? = some id) (declared : f ∈ (s.definition id).fields)
    (clean : findings s (.object members) type = []) (present : members.lookup f.name = some w)
    (change : Value → Value) :
    findings s (.object (modifyMember f.name change members)) type =
      (findings s (change w) f.type).map (.under [.field f.name]) := by
  have hpresent : (modifyMember f.name change members).lookup f.name = some (change w) := by
    rw [Json.lookup_modifyMember, if_pos rfl, present, Option.map_some]
  rw [← fieldFindings_of_present hpresent]
  refine findings_of_only fields_nodup isObject declared clean (fun k hk ↦ ?_) fun k hk ↦ ?_
  · rw [Json.lookup_modifyMember, if_neg hk]
  · rwa [Json.keys_modifyMember] at hk

theorem findings_remove_required (fields_nodup : ((s.definition id).fields.map (·.name)).Nodup)
    (isObject : type.objectId? = some id) (declared : f ∈ (s.definition id).fields)
    (required : f.required = true) (clean : findings s (.object members) type = []) :
    findings s (.object (members.filter (·.1 ≠ f.name))) type =
      [⟨[.field f.name], .missingField⟩] := by
  have habsent : (members.filter (·.1 ≠ f.name)).lookup f.name = none := by
    rw [List.lookup_eq_none_iff]
    intro m hm
    have hne : m.1 ≠ f.name := by simpa using (List.mem_filter.1 hm).2
    exact bne_iff_ne.2 hne.symm
  have hothers (k : String) (hk : k ≠ f.name) :
      (members.filter (·.1 ≠ f.name)).lookup k = members.lookup k :=
    Json.lookup_filter (fun key ↦ key ≠ f.name) (by simpa using hk) members
  have hkeys : ∀ k ∈ (members.filter (·.1 ≠ f.name)).map (·.1), k ∈ members.map (·.1) :=
    fun k hk ↦ (List.filter_sublist.map _).subset hk
  rw [findings_of_only fields_nodup isObject declared clean hothers hkeys,
    fieldFindings_of_absent habsent, if_pos required]

theorem findings_add_undeclared {before after : List (String × Value)} {key : String} (u : Value)
    (isObject : type.objectId? = some id) (closed : (s.definition id).closed = true)
    (undeclared : ∀ f ∈ (s.definition id).fields, f.name ≠ key)
    (clean : findings s (.object (before ++ after)) type = []) :
    findings s (.object (before ++ (key, u) :: after)) type =
      [⟨[.field key], .unknownField⟩] := by
  obtain ⟨hfields, hrefused⟩ := (findings_object_eq_nil_iff isObject).1 clean
  have hfields' : (s.definition id).fields.flatMap (fieldFindings
      ((before ++ (key, u) :: after).map fun m ↦ (m.1, findings s m.2))) = [] := by
    refine List.flatMap_eq_nil_iff.2 fun f hf ↦ ?_
    rw [fieldFindings_congr (Json.lookup_insert_of_ne (undeclared f hf) u before after)]
    exact hfields f hf
  have hrefused' : refusedKeys (s.definition id)
      (before.map (·.1) ++ key :: after.map (·.1)) = [key] := by
    have hkey := TypeDefinition.field?_isNone_iff.2 undeclared
    rw [refusedKeys, if_pos closed, List.map_append, List.filter_append,
      List.append_eq_nil_iff] at hrefused
    rw [refusedKeys, if_pos closed, List.filter_append, List.filter_cons, if_pos hkey, hrefused.1,
      hrefused.2, List.nil_append]
  rw [findings_object s isObject, objectFindings_eq, hfields', List.map_append, List.map_cons,
    hrefused']
  rfl

theorem declaredMembers_add_undeclared {d : TypeDefinition} {key : String}
    (undeclared : ∀ f ∈ d.fields, f.name ≠ key) (u : Value)
    (before after : List (String × Value)) :
    declaredMembers d (before ++ (key, u) :: after) = declaredMembers d (before ++ after) := by
  have hkey := TypeDefinition.field?_isNone_iff.2 undeclared
  rw [declaredMembers, declaredMembers, List.filter_append, List.filter_append,
    List.filter_cons_of_neg (by simpa using hkey)]

end Object

theorem arrayFindings_eq_flatMap (item : FieldType) (items : List Value) :
    arrayFindings item (items.map (findings s)) =
      items.zipIdx.flatMap fun m ↦ (findings s m.1 item).map (.under [.index m.2]) := by
  simp [arrayFindings, List.mapIdx_eq_zipIdx_map, List.zipIdx_map, List.flatMap_def,
    Function.comp_def]

theorem findings_modify {item : FieldType} {items : List Value} {i : Nat}
    (clean : findings s (.array items) (.array item) = []) (present : items[i]? = some w)
    (change : Value → Value) :
    findings s (.array (items.modify i change)) (.array item) =
      (findings s (change w) item).map (.under [.index i]) := by
  have hchanged : (change w, i) ∈ (items.modify i change).zipIdx := by
    rw [List.mem_zipIdx_iff_getElem?, List.getElem?_modify, present]
    simp
  have hplaces : ((items.modify i change).zipIdx.map Prod.snd).Nodup := by
    rw [List.zipIdx_map_snd]
    exact List.nodup_range'
  rw [findings_array, arrayFindings_eq_flatMap, List.flatMap_eq_nil_iff] at clean
  rw [findings_array, arrayFindings_eq_flatMap]
  refine flatMap_of_only Prod.snd hplaces hchanged fun m hm hne ↦ clean m ?_
  have hplace : i ≠ m.2 := Ne.symm hne
  rw [List.mem_zipIdx_iff_getElem?] at hm ⊢
  simpa [List.getElem?_modify, hplace] using hm

theorem Visited.clean (h : Visited s type v p t w) (clean : findings s v type = []) :
    findings s w t = [] := by
  refine List.eq_nil_iff_forall_not_mem.2 fun g hg ↦ ?_
  have hmem := h.under_mem_findings hg
  rw [clean] at hmem
  cases hmem

theorem Visited.findings_replaceAt
    (fields_nodup : ∀ id, ((s.definition id).fields.map (·.name)).Nodup)
    (h : Visited s type v p t w) (clean : findings s v type = []) (new : Value) :
    findings s (replaceAt new p v) type = (findings s new t).map (.under p) := by
  induction h with
  | here => simp [replaceAt]
  | @member type t id members f v w p isObject declared present rest ih =>
    have hv : findings s v f.type = [] :=
      (Visited.member isObject declared present .here).clean clean
    rw [replaceAt, findings_modifyMember (fields_nodup id) isObject declared clean present, ih hv,
      List.map_map]
    simp [Function.comp_def]
  | @item item t items i v w p present rest ih =>
    have hv : findings s v item = [] := (Visited.item present .here).clean clean
    rw [replaceAt, findings_modify clean present, ih hv, List.map_map]
    simp [Function.comp_def]

inductive Fault (s : Schema) (t : FieldType) : Value → Value → Finding → Prop
  | removed {id : Nat} {members : List (String × Value)} {f : FieldDefinition}
      (isObject : t.objectId? = some id) (declared : f ∈ (s.definition id).fields)
      (required : f.required = true) :
      Fault s t (.object members) (.object (members.filter (·.1 ≠ f.name)))
        ⟨[.field f.name], .missingField⟩
  | added {id : Nat} {before after : List (String × Value)} {key : String} {u : Value}
      (isObject : t.objectId? = some id) (closed : (s.definition id).closed = true)
      (undeclared : ∀ f ∈ (s.definition id).fields, f.name ≠ key) :
      Fault s t (.object (before ++ after)) (.object (before ++ (key, u) :: after))
        ⟨[.field key], .unknownField⟩
  | kind {w u : Value} (wrong : t.admitsKind u = false) :
      Fault s t w u ⟨[], .typeMismatch t.kind u.kind⟩

theorem Fault.findings {f : Finding}
    (fields_nodup : ∀ id, ((s.definition id).fields.map (·.name)).Nodup) (h : Fault s t w new f)
    (clean : findings s w t = []) : Validation.findings s new t = [f] := by
  cases h with
  | @removed id members f isObject declared required =>
    exact findings_remove_required (fields_nodup id) isObject declared required clean
  | added isObject closed undeclared =>
    exact findings_add_undeclared _ isObject closed undeclared clean
  | kind wrong => exact findings_of_kind s wrong

end Validation

namespace Root

variable {openByDefault : Bool} {source : Source} {s : Schema} {name : String} {r : Root}
  {v n w : Value} {p : Path} {t : FieldType}

/-- One thing is found to be wrong with a document, in either mode. -/
structure RejectsFor (r : Root) (v : Value) (f : Finding) : Prop where
  collecting : r.validateAll v = .error (.single f)
  failingFast : r.validate v = .error f

theorem rejectsFor_iff {f : Finding} : r.RejectsFor v f ↔ r.findings v = [f] := by
  constructor
  · intro h
    exact validateAll_eq_error_iff.1 h.collecting
  · intro h
    refine ⟨validateAll_eq_error_iff.2 h, validate_eq_error_iff.2 ?_⟩
    rw [h]
    rfl

/-- A single fault in an accepted document, at any place that a walk visits, is the only thing that
is reported, and it is reported where it is. An undeclared member that is added to an object of an
open type changes nothing. -/
theorem single_fault_single_finding [PatternEngine] (compiled : compile openByDefault source = .ok s)
    (root : s.root name = .ok r) (accepted : r.validate v = .ok n)
    (visited : Visited s (.named r.id) v p t w) :
    (∀ u f, Fault s t w u f → r.RejectsFor (replaceAt u p v) (f.under p)) ∧
      ∀ id before after key u, t.objectId? = some id → (s.definition id).closed = false →
        (∀ f ∈ (s.definition id).fields, f.name ≠ key) → w = .object (before ++ after) →
        r.validate (replaceAt (.object (before ++ (key, u) :: after)) p v) = .ok n ∧
          r.validateAll (replaceAt (.object (before ++ (key, u) :: after)) p v) = .ok n := by
  have hs := Blueprint.compile_wellFormed compiled
  obtain ⟨rfl, -, -⟩ := Schema.root_eq_ok root
  have hclean : r.findings v = [] := (validate_eq_ok_iff.1 accepted).1
  constructor
  · intro u f fault
    have hpart : Validation.findings r.schema u t = [f] :=
      fault.findings hs.fields_nodup (visited.clean hclean)
    have hwhole := visited.findings_replaceAt hs.fields_nodup hclean u
    rw [hpart] at hwhole
    exact rejectsFor_iff.2 hwhole
  · intro id before after key u isObject isOpen undeclared hw
    subst hw
    have hobject := comesToSame_of_declaredMembers isObject isOpen
      (declaredMembers_add_undeclared undeclared u before after).symm
    have hsame := visited.comesToSame local_sameReport hs.fields_nodup hobject
    have hvalid := (validates_iff_of_comesToSame hsame n).1 (validate_eq_ok_iff.1 accepted)
    exact ⟨validate_eq_ok_iff.2 hvalid, validateAll_eq_ok_iff.2 hvalid⟩

/-- The place of a part loses its coordinate, gets another one, or is none; the lid of a box, which
is open, gets another coordinate too. -/
theorem single_fault_single_finding_plainPart :
    let part : Root := ⟨partsSchema, "Part", 0⟩
    let box : Root := ⟨boxSchema true, "Box", 0⟩
    let x (i : Fin 10) : String × Value := ("x", .number (.integer i (by omega)))
    let lidded (lid : List (String × Value)) : Value :=
      .object [("size", .number (.integer 1 one_inRange)), ("lid", .object lid)]
    (((compile false partsBlueprint = .ok partsSchema ∧ partsSchema.root "Part" = .ok part) ∧
        part.validate plainPart = .ok plainPartInFull ∧
        Visited partsSchema (.named 0) plainPart [.field "at"] (.inline 1) (.object [x 3])) ∧
      (compile true boxBlueprint = .ok (boxSchema true) ∧ (boxSchema true).root "Box" = .ok box) ∧
        box.validate (lidded [x 1]) = .ok (lidded [x 1]) ∧
        Visited (boxSchema true) (.named 0) (lidded [x 1]) [.field "lid"] (.inline 1)
          (.object [x 1])) ∧
    part.RejectsFor (replaceAt (.object []) [.field "at"] plainPart)
      ⟨[.field "at", .field "x"], .missingField⟩ ∧
    part.RejectsFor (replaceAt (.object [x 3, ("y", .null)]) [.field "at"] plainPart)
      ⟨[.field "at", .field "y"], .unknownField⟩ ∧
    part.RejectsFor (replaceAt (.string "here") [.field "at"] plainPart)
      ⟨[.field "at"], .typeMismatch .object .string⟩ ∧
    box.validateAll (lidded [x 1, ("y", .null)]) = .ok (lidded [x 1]) := by
  intro part box x lidded
  have hpart : partsSchema.root "Part" = .ok part := rfl
  have hbox : (boxSchema true).root "Box" = .ok box := rfl
  have haccepted : part.validate plainPart = .ok plainPartInFull := by rfl
  have haccepted' : box.validate (lidded [x 1]) = .ok (lidded [x 1]) := by rfl
  have hat : ⟨"at", .inline 1, true, none⟩ ∈ (partsSchema.definition 0).fields := by
    simp [partsSchema, Schema.definition]
  have hlid : ⟨"lid", .inline 1, true, none⟩ ∈ ((boxSchema true).definition 0).fields := by
    simp [boxSchema, Schema.definition]
  have hcoordinate : ∀ f ∈ (partsSchema.definition 1).fields, f.name ≠ "y" := by
    simp [partsSchema, Schema.definition]
  have hcoordinate' : ∀ f ∈ ((boxSchema true).definition 1).fields, f.name ≠ "y" := by
    simp [boxSchema, Schema.definition]
  have hvisited : Visited partsSchema (.named 0) plainPart [.field "at"] (.inline 1)
      (.object [x 3]) := .member rfl hat rfl .here
  have hvisited' : Visited (boxSchema true) (.named 0) (lidded [x 1]) [.field "lid"] (.inline 1)
      (.object [x 1]) := .member rfl hlid rfl .here
  have hsingle :=
    (single_fault_single_finding compile_partsBlueprint hpart haccepted hvisited).1
  have hopen := (single_fault_single_finding (compile_boxBlueprint true) hbox haccepted' hvisited').2
  refine ⟨⟨⟨⟨compile_partsBlueprint, hpart⟩, haccepted, hvisited⟩,
    ⟨compile_boxBlueprint true, hbox⟩, haccepted', hvisited'⟩, ?removed, ?added, ?kind, ?opened⟩
  case removed =>
    have hx : ⟨"x", .scalar ⟨.number, .none⟩, true, none⟩ ∈ (partsSchema.definition 1).fields := by
      simp [partsSchema, Schema.definition]
    exact hsingle _ _ (.removed rfl hx rfl)
  case added =>
    have hadded : Fault partsSchema (.inline 1) (.object ([x 3] ++ []))
        (.object ([x 3] ++ [("y", .null)])) ⟨[.field "y"], .unknownField⟩ :=
      .added rfl rfl hcoordinate
    exact hsingle _ _ hadded
  case kind => exact hsingle _ _ (.kind rfl)
  case opened => exact (hopen 1 [x 1] [] "y" .null rfl rfl hcoordinate' rfl).2

end Root

end DocumentSchema
