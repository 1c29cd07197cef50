import DocumentSchema.Json.Pointer
import DocumentSchema.Proofs.Text.Split

namespace DocumentSchema.Json.Pointer

/-- A key that needs no escapes in a pointer. -/
def Plain (key : List Char) : Prop := '/' ∉ key ∧ '~' ∉ key

theorem unescape_of_not_mem {key : List Char} (h : '~' ∉ key) : unescape key = key := by
  induction key with
  | nil => rfl
  | cons c key ih =>
    rw [List.mem_cons, not_or] at h
    obtain ⟨hc, hkey⟩ := h
    rw [unescape, ih hkey]
    all_goals
      rintro rest rfl
      exact absurd rfl hc

theorem keys?_of_plain {keys : List (List Char)} (h : ∀ key ∈ keys, Plain key) :
    keys? (keys.flatMap ('/' :: ·)) = some keys := by
  have hparts := Text.splitAt_parts fun key hkey ↦ (h key hkey).1
  have hunescape : keys.map unescape = keys := by
    refine List.map_congr_left (g := id) ?_ |>.trans (List.map_id keys)
    exact fun key hkey ↦ unescape_of_not_mem (h key hkey).2
  rw [keys?, hparts]
  exact congrArg some hunescape

theorem follow_of_plain {pointer : String} {keys : List (List Char)} (v : Value)
    (hpointer : pointer.toList = keys.flatMap ('/' :: ·)) (h : ∀ key ∈ keys, Plain key) :
    follow pointer v = keys.foldlM step v := by
  rw [follow, hpointer, keys?_of_plain h]
  rfl

end DocumentSchema.Json.Pointer
