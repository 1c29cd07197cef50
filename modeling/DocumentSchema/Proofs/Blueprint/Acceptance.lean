import DocumentSchema.Pattern.Engine
import DocumentSchema.Proofs.Blueprint.Rendering
import DocumentSchema.Proofs.Json.Members

namespace DocumentSchema.Blueprint

open DocumentSchema.Except (bind_eq_error_iff mapError_eq_ok_iff mapError_eq_error_iff)

theorem ofWord?_isSome_iff {word : String} : (ScalarKind.ofWord? word).isSome ↔
    word ∈ ["number", "integer", "string", "boolean", "bool"] := by
  unfold ScalarKind.ofWord?
  split <;> simp_all

section Names

variable {seen names : List String} {ds : List TypeDeclaration} {items : List Item}
  {fault : Located Fault}

theorem unreserved_of_declaredNames (h : declaredNames seen ds = .ok names) :
    ∀ d ∈ ds, d.name.value ∉ ["number", "integer", "string", "boolean", "bool"] := by
  induction ds generalizing seen with
  | nil => simp
  | cons d rest ih =>
    rw [declaredNames] at h
    split at h
    · cases h
    rename_i unreserved
    split at h
    · cases h
    exact List.forall_mem_cons.2 ⟨fun hmem ↦ unreserved (ofWord?_isSome_iff.2 hmem), ih h⟩

variable [PatternEngine]

theorem declaredNames_fault {earlier : List TypeDeclaration}
    (hall : declarations items = earlier ++ ds)
    (h : declaredNames (earlier.map (·.name.value)) ds = .error fault) : HasFault items fault := by
  induction ds generalizing earlier with
  | nil => cases h
  | cons d rest ih =>
    rw [declaredNames] at h
    split at h
    case isTrue reserved =>
      cases h
      refine .reserved ?_ (ofWord?_isSome_iff.1 reserved)
      rw [hall]
      exact List.mem_append_right _ List.mem_cons_self
    case isFalse =>
      split at h
      case isTrue given =>
        cases h
        exact .duplicateType hall (List.contains_iff_mem.1 given)
      case isFalse =>
        have hrest : declarations items = earlier ++ [d] ++ rest := by
          rw [hall, List.append_assoc, List.singleton_append]
        refine ih hrest ?_
        rwa [List.map_append]

end Names

namespace Scope

variable {scope : Scope} {next : Nat} {ds : List TypeDeclaration}

variable [PatternEngine]

theorem resolveTypes_fits {types inner : List TypeDefinition}
    (h : scope.resolveTypes next ds = .ok (types, inner)) :
    ∀ body ∈ ds.flatMap fun d ↦ d.fields :: bodiesWithin d.fields,
      BodyFits scope.names body := by
  induction ds generalizing next types inner with
  | nil => simp
  | cons d rest ih =>
    obtain ⟨fields, own, others, more, hfields, hrest, -, -⟩ := resolveTypes_cons_eq_ok h
    obtain ⟨-, -, hdistinct⟩ := resolveFields_names hfields
    obtain ⟨heach, hwithin⟩ := resolveFields_fits d.fields hfields
    rw [List.flatMap_cons]
    exact List.forall_mem_append.2
      ⟨List.forall_mem_cons.2 ⟨⟨hdistinct, heach⟩, hwithin⟩, ih hrest⟩

theorem resolveTypes_fault {fault : Located Fault}
    (h : scope.resolveTypes next ds = .error fault) :
    ∃ body ∈ ds.flatMap fun d ↦ d.fields :: bodiesWithin d.fields,
      BodyFault scope.names body fault := by
  induction ds generalizing next with
  | nil => cases h
  | cons d rest ih =>
    rw [List.flatMap_cons]
    rcases bind_eq_error_iff.1 h with hfields | ⟨⟨fields, own⟩, -, h⟩
    · have hseen : ∀ n ∈ ([] : List String), n ∈ ([] : List Field).map (·.name.value) := by simp
      rcases resolveFields_fault d.fields hseen hfields with hfault | ⟨body, hbody, hfault⟩
      · exact ⟨d.fields, List.mem_append_left _ List.mem_cons_self, hfault⟩
      · exact ⟨body, List.mem_append_left _ (List.mem_cons_of_mem _ hbody), hfault⟩
    · rcases bind_eq_error_iff.1 h with hrest | ⟨⟨others, more⟩, -, h⟩
      · obtain ⟨body, hbody, hfault⟩ := ih hrest
        exact ⟨body, List.mem_append_right _ hbody, hfault⟩
      · cases h

end Scope

section Roots

variable {names : List String} {found all : List (String × Nat)} {roots : List (Located String)}
  {items : List Item} {fault : Located Fault}

theorem declared_of_resolveRoots (h : resolveRoots names found roots = .ok all) :
    (∀ root ∈ roots, root.value ∈ names) ∧
      ((found.map (·.1)).Nodup → (all.map (·.1)).Nodup) := by
  induction roots generalizing found with
  | nil =>
    cases h
    simp
  | cons root rest ih =>
    rw [resolveRoots] at h
    split at h
    · cases h
    rename_i id hid
    split at h
    · cases h
    rename_i fresh
    rw [Option.isSome_iff_exists, ← Json.mem_keys_iff] at fresh
    obtain ⟨hdeclared, hdistinct⟩ := ih h
    have hroot : root.value ∈ names := List.isSome_idxOf?.1 (Option.isSome_of_eq_some hid)
    refine ⟨List.forall_mem_cons.2 ⟨hroot, hdeclared⟩, fun hfound ↦ hdistinct ?_⟩
    rw [List.map_append]
    exact hfound.append (by simp) (by simpa using fresh)

variable [PatternEngine]

theorem resolveRoots_fault {earlier : List (Located String)}
    (hall : designations items = earlier ++ roots)
    (hfound : found.map (·.1) = earlier.map (·.value))
    (h : resolveRoots (typeNames items) found roots = .error fault) : HasFault items fault := by
  induction roots generalizing earlier found with
  | nil => cases h
  | cons root rest ih =>
    rw [resolveRoots] at h
    split at h
    case h_1 hnone =>
      cases h
      refine .unresolvedRoot ?_ fun hmem ↦ ?_
      · rw [hall]
        exact List.mem_append_right _ List.mem_cons_self
      · rw [← List.isSome_idxOf?, hnone] at hmem
        cases hmem
    case h_2 id hid =>
      split at h
      case isTrue given =>
        cases h
        rw [Option.isSome_iff_exists, ← Json.mem_keys_iff, hfound] at given
        exact .duplicateRoot hall given
      case isFalse =>
        have hrest : designations items = earlier ++ [root] ++ rest := by
          rw [hall, List.append_assoc, List.singleton_append]
        refine ih hrest ?_ h
        rw [List.map_append, List.map_append, hfound]
        rfl

end Roots

section Resolution

variable [PatternEngine] {origin : String} {openByDefault : Bool} {items : List Item} {s : Schema}

theorem resolve_meaningful (h : resolve origin openByDefault items = .ok s) : Meaningful items := by
  obtain ⟨types, inner, roots, -, hdeclared, -, hresolved, hroots⟩ := resolve_passes h
  obtain ⟨hrootsDeclared, hrootsDistinct⟩ := declared_of_resolveRoots hroots
  constructor
  case unreserved => exact List.forall_mem_map.2 (unreserved_of_declaredNames hdeclared)
  case types_distinct => exact (declaredNames_eq_ok hdeclared).2 List.nodup_nil
  case bodies => exact Scope.resolveTypes_fits hresolved
  case roots_declared => exact hrootsDeclared
  case roots_distinct =>
    have hnodup := hrootsDistinct List.nodup_nil
    rwa [keys_resolveRoots hroots] at hnodup

theorem resolve_fault {fault : Located Fault}
    (h : resolve origin openByDefault items = .error fault) : HasFault items fault := by
  rcases bind_eq_error_iff.1 h with hdeclared | ⟨names, hdeclared, h⟩
  · exact declaredNames_fault (List.nil_append _).symm hdeclared
  obtain rfl := declaredNames_eq_typeNames hdeclared
  rcases bind_eq_error_iff.1 h with hresolved | ⟨⟨types, inner⟩, -, h⟩
  · obtain ⟨body, hbody, hfault⟩ := Scope.resolveTypes_fault hresolved
    exact .body hbody hfault
  rcases bind_eq_error_iff.1 h with hroots | ⟨roots, -, h⟩
  · exact resolveRoots_fault (List.nil_append _).symm rfl hroots
  · cases h

theorem exists_resolve_iff :
    (∃ s, resolve origin openByDefault items = .ok s) ↔ Meaningful items := by
  constructor
  · rintro ⟨s, hs⟩
    exact resolve_meaningful hs
  · intro hmeaningful
    cases h : resolve origin openByDefault items with
    | ok s => exact ⟨s, rfl⟩
    | error fault => exact absurd hmeaningful (resolve_fault h).not_meaningful

theorem compile_eq_mapError {text : String} (hitems : itemsOf text = .ok items) :
    compile openByDefault ⟨origin, text⟩ =
      (resolve origin openByDefault items).mapError (.faulty origin) := by
  rw [compile, hitems]
  rfl

theorem exists_compile_iff {text : String} (hitems : itemsOf text = .ok items) :
    (∃ s, compile openByDefault ⟨origin, text⟩ = .ok s) ↔ Meaningful items := by
  simp only [compile_eq_mapError hitems, mapError_eq_ok_iff, exists_resolve_iff]

theorem compile_fault {text : String} {error : CompileError} (hitems : itemsOf text = .ok items)
    (h : compile openByDefault ⟨origin, text⟩ = .error error) :
    ∃ fault, error = .faulty origin fault ∧ HasFault items fault := by
  rw [compile_eq_mapError hitems, mapError_eq_error_iff] at h
  obtain ⟨fault, hfault, rfl⟩ := h
  exact ⟨fault, rfl, resolve_fault hfault⟩

/-- Items resolve if and only if they mean something. Otherwise the error is a fault that they have,
and the schema of items that resolve renders them. The same is so of the text that they are read
from. -/
theorem resolve_accepts_exactly_meaningful (origin : String) (openByDefault : Bool)
    (items : List Item) :
    ((∃ s, resolve origin openByDefault items = .ok s) ↔ Meaningful items) ∧
      (∀ fault, resolve origin openByDefault items = .error fault → HasFault items fault) ∧
      (∀ s, resolve origin openByDefault items = .ok s → Renders s openByDefault items) ∧
      ∀ text, itemsOf text = .ok items →
        ((∃ s, compile openByDefault ⟨origin, text⟩ = .ok s) ↔ Meaningful items) ∧
        ∀ error, compile openByDefault ⟨origin, text⟩ = .error error →
          ∃ fault, error = .faulty origin fault ∧ HasFault items fault :=
  ⟨exists_resolve_iff, fun _ ↦ resolve_fault, fun _ ↦ resolve_renders,
    fun _ hitems ↦ ⟨exists_compile_iff hitems, fun _ ↦ compile_fault hitems⟩⟩

end Resolution

/-- A root of a type that is not declared. -/
def strayRoot : List Item := [.root ⟨"Part", ⟨1, 6⟩⟩]

theorem resolve_accepts_partsBlueprint_not_strayRoot :
    (∃ items, itemsOf partsBlueprint.text = .ok items ∧ Meaningful items ∧
      Renders partsSchema false items) ∧
      HasFault strayRoot ⟨.unresolved "Part", ⟨1, 6⟩⟩ ∧
      itemsOf "root Part;" = .ok strayRoot ∧ ¬ Meaningful strayRoot := by
  obtain ⟨items, hitems, hresolved⟩ := compile_eq_ok compile_partsBlueprint
  obtain ⟨-, -, hrenders, hcompile⟩ := resolve_accepts_exactly_meaningful "parts" false items
  obtain ⟨-, hfault, -, htext⟩ := resolve_accepts_exactly_meaningful "stray" false strayRoot
  refine ⟨⟨items, hitems, (hcompile _ hitems).1.1 ⟨partsSchema, compile_partsBlueprint⟩,
    hrenders _ hresolved⟩, hfault _ rfl, ?_, ?_⟩
  · rfl
  · intro hmeaningful
    obtain ⟨s, hs⟩ := (htext "root Part;" rfl).1.2 hmeaningful
    cases hs

end DocumentSchema.Blueprint
