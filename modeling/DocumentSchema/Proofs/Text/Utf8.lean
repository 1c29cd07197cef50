import DocumentSchema.Text.Utf8
import Mathlib.Tactic.SplitIfs

namespace DocumentSchema.Text.Utf8

variable {rest : List UInt8}

theorem gather?_continuation {count bits m : Nat} (h : m < 64) :
    gather? (count + 1) bits (UInt8.ofNat (m + 128) :: rest) = gather? count (64 * bits + m) rest := by
  have hrange : ∀ m < 64, (0x80 ≤ UInt8.ofNat (m + 128) && UInt8.ofNat (m + 128) < 0xC0) = true ∧
      (UInt8.ofNat (m + 128)).toNat - 0x80 = m := by decide
  rw [gather?, if_pos (hrange m h).1, (hrange m h).2]

theorem leading?_one : ∀ m < 128, leading? (UInt8.ofNat m) = some (0, m, 0) := by decide

theorem leading?_two : ∀ m < 32, leading? (UInt8.ofNat (m + 192)) = some (1, m, 0x80) := by decide

theorem leading?_three : ∀ m < 16, leading? (UInt8.ofNat (m + 224)) = some (2, m, 0x800) := by decide

theorem leading?_four : ∀ m < 8, leading? (UInt8.ofNat (m + 240)) = some (3, m, 0x10000) := by decide

theorem first?_eq_some {b : UInt8} {count bits least : Nat} {c : Char}
    (leading : leading? b = some (count, bits, least))
    (gathered : gather? count bits rest = some c.toNat) (isLeast : least ≤ c.toNat) :
    first? b rest = some (c, count) := by
  have hvalid : least ≤ c.toNat ∧ c.toNat.isValidChar := ⟨isLeast, c.valid⟩
  simp only [first?, leading, gathered, Option.bind_eq_bind, Option.bind_some, if_pos hvalid,
    Char.ofNat_toNat]

theorem exists_utf8EncodeChar (c : Char) (rest : List UInt8) : ∃ b bytes,
    String.utf8EncodeChar c = b :: bytes ∧ first? b (bytes ++ rest) = some (c, bytes.length) := by
  have hmax : c.toNat < 0x110000 := by
    rcases c.valid with h | ⟨-, h⟩
    · exact Nat.lt_trans h (by decide)
    · exact h
  unfold String.utf8EncodeChar
  simp only [Char.toNat_val]
  split_ifs with h1 h2 h3
  · exact ⟨_, _, rfl, first?_eq_some (leading?_one _ (by omega)) rfl (Nat.zero_le _)⟩
  · refine ⟨_, _, rfl, first?_eq_some (leading?_two _ (by omega)) ?_ (by omega)⟩
    simp only [List.cons_append, List.nil_append, List.length_cons, List.length_nil]
    rw [gather?_continuation (by omega), gather?]
    exact congrArg some (by omega)
  · refine ⟨_, _, rfl, first?_eq_some (leading?_three _ (by omega)) ?_ (by omega)⟩
    simp only [List.cons_append, List.nil_append, List.length_cons, List.length_nil]
    rw [gather?_continuation (by omega), gather?_continuation (by omega), gather?]
    exact congrArg some (by omega)
  · refine ⟨_, _, rfl, first?_eq_some (leading?_four _ (by omega)) ?_ (by omega)⟩
    simp only [List.cons_append, List.nil_append, List.length_cons, List.length_nil]
    rw [gather?_continuation (by omega), gather?_continuation (by omega),
      gather?_continuation (by omega), gather?]
    exact congrArg some (by omega)

theorem decode_encode (cs : List Char) : decode (cs.flatMap String.utf8EncodeChar) = (cs, []) := by
  induction cs with
  | nil => rw [List.flatMap_nil, decode]
  | cons c cs ih =>
    obtain ⟨b, bytes, hencoded, hfirst⟩ := exists_utf8EncodeChar c (cs.flatMap String.utf8EncodeChar)
    rw [List.flatMap_cons, hencoded, List.cons_append, decode, hfirst]
    simp only [List.drop_left, ih]

theorem toList_loop (bytes : ByteArray) (i : Nat) (before : List UInt8) :
    ByteArray.toList.loop bytes i before = before.reverse ++ bytes.data.toList.drop i := by
  fun_induction ByteArray.toList.loop bytes i before with
  | case1 i before inside ih =>
    have hi : i < bytes.data.toList.length := by simpa using inside
    have hbyte : bytes.get! i = bytes.data.toList[i] := by
      rw [Array.getElem_toList]
      exact getElem!_pos bytes.data i hi
    rw [ih, List.drop_eq_getElem_cons hi, hbyte, List.reverse_cons, List.append_assoc,
      List.singleton_append]
  | case2 i before outside =>
    have hi : bytes.data.toList.length ≤ i := by simpa using outside
    rw [List.drop_eq_nil_of_le hi, List.append_nil]

theorem toList_toUTF8 (text : String) :
    text.toUTF8.toList = text.toList.flatMap String.utf8EncodeChar := by
  rw [ByteArray.toList, toList_loop, List.reverse_nil, List.nil_append, List.drop_zero,
    String.toUTF8, ← String.utf8Encode_toList, List.utf8Encode, List.toList_data_toByteArray]

theorem text?_toUTF8 (text : String) : text? text.toUTF8.toList = some text := by
  rw [text?, toList_toUTF8, decode_encode]
  exact congrArg some String.ofList_toList

end DocumentSchema.Text.Utf8
