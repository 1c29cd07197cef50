namespace DocumentSchema

/-- An engine for patterns: it makes a search of the source of a pattern, or says why the source has
none. -/
class PatternEngine where
  search : String → Except String (String → Bool)

/-- A pattern with the search that an engine has made of its source. -/
structure Pattern where
  source : String
  isFoundIn : String → Bool

namespace Pattern

def ofText [PatternEngine] (source : String) : Except String Pattern :=
  (PatternEngine.search source).map (mk source)

theorem ofText_eq_ok_iff [PatternEngine] {source : String} {p : Pattern} :
    ofText source = .ok p ↔ p.source = source ∧ PatternEngine.search source = .ok p.isFoundIn := by
  obtain ⟨source', isFoundIn⟩ := p
  rw [ofText]
  cases PatternEngine.search source with
  | error reason => simp [Except.map]
  | ok search => simp [Except.map, eq_comm]

theorem ofText_eq_error_iff [PatternEngine] {source reason : String} :
    ofText source = .error reason ↔ PatternEngine.search source = .error reason := by
  rw [ofText]
  cases PatternEngine.search source <;> simp [Except.map]

end Pattern

end DocumentSchema
