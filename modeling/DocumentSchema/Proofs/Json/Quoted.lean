import DocumentSchema.Json.Printer
import DocumentSchema.Json.Reader
import Mathlib.Tactic.IntervalCases

namespace DocumentSchema.Json

open Reader (hexDigit? unescape?)

/-- The content of a string up to its closing quote, and what follows the quote. -/
def unquote : List Char → Option (List Char × List Char)
  | [] => none
  | '"' :: rest => some ([], rest)
  | '\\' :: 'u' :: '0' :: '0' :: high :: low :: rest => do
    let code := 16 * (← hexDigit? high) + (← hexDigit? low)
    (unquote rest).map (Prod.map (Char.ofNat code :: ·) id)
  | '\\' :: mark :: rest => do (unquote rest).map (Prod.map ((← unescape? mark) :: ·) id)
  | c :: rest => (unquote rest).map (Prod.map (c :: ·) id)

variable {c : Char}

theorem hexDigit?_digitChar {n : Nat} (h : n < 16) : hexDigit? (Nat.digitChar n) = some n := by
  interval_cases n <;> rfl

theorem unquote_control (h : c.toNat < 0x20) (rest : List Char) :
    unquote ('\\' :: 'u' :: '0' :: '0' :: Nat.digitChar (c.toNat / 16) ::
      Nat.digitChar (c.toNat % 16) :: rest) = (unquote rest).map (Prod.map (c :: ·) id) := by
  have hhigh : hexDigit? (Nat.digitChar (c.toNat / 16)) = some (c.toNat / 16) :=
    hexDigit?_digitChar (by omega)
  have hlow : hexDigit? (Nat.digitChar (c.toNat % 16)) = some (c.toNat % 16) :=
    hexDigit?_digitChar (Nat.mod_lt _ (by decide))
  have hcode : Char.ofNat (16 * (c.toNat / 16) + c.toNat % 16) = c := by
    rw [Nat.div_add_mod, Char.ofNat_toNat]
  rw [unquote, hhigh, hlow]
  simp only [Option.bind_eq_bind, Option.bind_some, hcode]

theorem unquote_plain (quote : c ≠ '"') (backslash : c ≠ '\\') (rest : List Char) :
    unquote (c :: rest) = (unquote rest).map (Prod.map (c :: ·) id) := by
  rw [unquote] <;> simp_all

theorem unquote_escape (c : Char) (rest : List Char) :
    unquote (escape c ++ rest) = (unquote rest).map (Prod.map (c :: ·) id) := by
  by_cases marked : c ∈ ['"', '\\', '\x08', '\x0c', '\n', '\r', '\t']
  · simp only [List.mem_cons, List.not_mem_nil, or_false] at marked
    rcases marked with rfl | rfl | rfl | rfl | rfl | rfl | rfl <;> rfl
  · simp only [List.mem_cons, List.not_mem_nil, or_false, not_or] at marked
    obtain ⟨quote, backslash, backspace, formFeed, newline, carriageReturn, tab⟩ := marked
    unfold escape
    rw [if_neg quote, if_neg backslash, if_neg backspace, if_neg formFeed, if_neg newline,
      if_neg carriageReturn, if_neg tab]
    split
    case isTrue control => exact unquote_control control rest
    case isFalse => exact unquote_plain quote backslash rest

theorem unquote_quoted (s rest : List Char) :
    unquote (s.flatMap escape ++ '"' :: rest) = some (s, rest) := by
  induction s with
  | nil => rfl
  | cons c s ih =>
    rw [List.flatMap_cons, List.append_assoc, unquote_escape, ih]
    rfl

end DocumentSchema.Json
