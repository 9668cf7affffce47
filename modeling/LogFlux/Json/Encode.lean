import Mathlib.Algebra.Group.Int
import Mathlib.Data.String.Basic

/-!
# LogFlux.Json.Encode — JSON values and Go's compact encoder

`JValue` is a JSON document.  `encode` writes it as `encoding/json`'s `encodeState` does: no
white space, strings escaped by `appendString` with `escapeHTML` (the mode `json.Marshal`
uses), integers by `strconv.AppendInt`.  The text is a list of Unicode scalar values; as
UTF-8 bytes the newline byte is exactly the character `'\n'`.

* `newline_not_mem_encode`: the encoder never writes a newline.

The escapes are Go 1.22's (`\b` and `\f`; Go 1.21 writes `\u0008` and `\u000c`, which the
decoder of `LogFlux.Json.Decode` reads back alike).  Numbers are integers: the SDK's payloads
hold no other kind.
-/

namespace LogFlux.Json

inductive JValue where
  | null
  | bool (b : Bool)
  | num (n : Int)
  | str (s : String)
  | arr (xs : List JValue)
  | obj (ms : List (String × JValue))
  deriving Repr

/-- `hex[n]` of `encode.go`, for `n < 16`. -/
def hexDigit (n : Nat) : Char := if n < 10 then Char.ofNat (48 + n) else Char.ofNat (87 + n)

/-- `htmlSafeSet`: the ASCII characters written as they are. -/
def htmlSafe (c : Char) : Bool :=
  decide (0x20 ≤ c.toNat ∧ c.toNat < 0x80) && c != '"' && c != '\\' && c != '<' && c != '>' &&
    c != '&'

/-- `appendString` on one character. -/
def escapeChar (c : Char) : List Char :=
  if c.toNat < 0x80 then
    if htmlSafe c then [c]
    else if c = '\\' ∨ c = '"' then ['\\', c]
    else if c = '\x08' then ['\\', 'b']
    else if c = '\x0c' then ['\\', 'f']
    else if c = '\n' then ['\\', 'n']
    else if c = '\r' then ['\\', 'r']
    else if c = '\t' then ['\\', 't']
    else ['\\', 'u', '0', '0', hexDigit (c.toNat / 16), hexDigit (c.toNat % 16)]
  else if c.toNat = 0x2028 ∨ c.toNat = 0x2029 then ['\\', 'u', '2', '0', '2', hexDigit (c.toNat % 16)]
  else [c]

/-- The escaped characters of a string body. -/
def escapeList : List Char → List Char
  | [] => []
  | c :: cs => escapeChar c ++ escapeList cs

/-- A JSON string literal. -/
def encodeString (s : String) : List Char := '"' :: (escapeList s.toList ++ ['"'])

def decDigits (n : Nat) : List Char :=
  if n < 10 then [hexDigit n] else decDigits (n / 10) ++ [hexDigit (n % 10)]

/-- `strconv.AppendInt(dst, n, 10)`. -/
def encodeInt (n : Int) : List Char :=
  if n < 0 then '-' :: decDigits n.natAbs else decDigits n.natAbs

mutual
/-- `encodeState` without white space. -/
def encode : JValue → List Char
  | .null => ['n', 'u', 'l', 'l']
  | .bool true => ['t', 'r', 'u', 'e']
  | .bool false => ['f', 'a', 'l', 's', 'e']
  | .num n => encodeInt n
  | .str s => encodeString s
  | .arr [] => ['[', ']']
  | .arr (x :: xs) => '[' :: (encode x ++ encodeElems xs)
  | .obj [] => ['\x7b', '\x7d']
  | .obj ((k, v) :: ms) => '\x7b' :: (encodeString k ++ ':' :: (encode v ++ encodeMembers ms))
def encodeElems : List JValue → List Char
  | [] => [']']
  | x :: xs => ',' :: (encode x ++ encodeElems xs)
def encodeMembers : List (String × JValue) → List Char
  | [] => ['\x7d']
  | (k, v) :: ms => ',' :: (encodeString k ++ ':' :: (encode v ++ encodeMembers ms))
end

/-! ## No newline -/

theorem hexDigit_toNat : ∀ n, n < 16 → (hexDigit n).toNat = if n < 10 then 48 + n else 87 + n := by
  decide

theorem newline_ne_hexDigit {n : Nat} (h : n < 16) : '\n' ≠ hexDigit n := by
  intro he
  have := hexDigit_toNat n h
  rw [← he] at this
  split at this <;> simp at this <;> omega

theorem newline_not_mem_escapeChar (c : Char) : '\n' ∉ escapeChar c := by
  have ha : '\n' ≠ hexDigit (c.toNat % 16) := newline_ne_hexDigit (Nat.mod_lt _ (by decide))
  have hc : c ≠ '\n' → '\n' ∉ [c] := fun h h' => h (List.mem_singleton.mp h').symm
  rw [escapeChar]
  by_cases h1 : c.toNat < 0x80
  · rw [if_pos h1]
    by_cases h2 : htmlSafe c = true
    · rw [if_pos h2]; exact hc (by rintro rfl; exact absurd h2 (by decide))
    rw [if_neg h2]
    by_cases h3 : c = '\\' ∨ c = '"'
    · rw [if_pos h3]; rcases h3 with rfl | rfl <;> decide
    rw [if_neg h3]
    by_cases h4 : c = '\x08'
    · rw [if_pos h4]; decide
    rw [if_neg h4]
    by_cases h5 : c = '\x0c'
    · rw [if_pos h5]; decide
    rw [if_neg h5]
    by_cases h6 : c = '\n'
    · rw [if_pos h6]; decide
    rw [if_neg h6]
    by_cases h7 : c = '\r'
    · rw [if_pos h7]; decide
    rw [if_neg h7]
    by_cases h8 : c = '\t'
    · rw [if_pos h8]; decide
    rw [if_neg h8]
    have hb : '\n' ≠ hexDigit (c.toNat / 16) := newline_ne_hexDigit (by omega)
    simp [ha, hb]
  · rw [if_neg h1]
    by_cases h2 : c.toNat = 0x2028 ∨ c.toNat = 0x2029
    · rw [if_pos h2]; simp [ha]
    · rw [if_neg h2]; exact hc (by rintro rfl; exact h1 (by decide))

theorem not_mem_cons_append {a c : Char} {l₁ l₂ : List Char} (hc : a ≠ c) (h₁ : a ∉ l₁)
    (h₂ : a ∉ l₂) : a ∉ c :: (l₁ ++ l₂) := by
  simp only [List.mem_cons, List.mem_append, not_or]; exact ⟨hc, h₁, h₂⟩

theorem newline_not_mem_escapeList : ∀ cs : List Char, '\n' ∉ escapeList cs
  | [] => by simp [escapeList]
  | c :: cs => by
    simp only [escapeList, List.mem_append, not_or]
    exact ⟨newline_not_mem_escapeChar c, newline_not_mem_escapeList cs⟩

theorem newline_not_mem_encodeString (s : String) : '\n' ∉ encodeString s :=
  not_mem_cons_append (by decide) (newline_not_mem_escapeList _) (by decide)

theorem newline_not_mem_decDigits (n : Nat) : '\n' ∉ decDigits n := by
  rw [decDigits]
  split
  · simp only [List.mem_singleton]; exact newline_ne_hexDigit (by omega)
  · simp only [List.mem_append, List.mem_singleton, not_or]
    exact ⟨newline_not_mem_decDigits (n / 10), newline_ne_hexDigit (by omega)⟩
termination_by n
decreasing_by omega

theorem newline_not_mem_encodeInt (n : Int) : '\n' ∉ encodeInt n := by
  unfold encodeInt
  split
  · simp only [List.mem_cons, not_or]; exact ⟨by decide, newline_not_mem_decDigits _⟩
  · exact newline_not_mem_decDigits _

mutual
theorem newline_not_mem_encode : ∀ v : JValue, '\n' ∉ encode v
  | .null => by decide
  | .bool true => by decide
  | .bool false => by decide
  | .num n => newline_not_mem_encodeInt n
  | .str s => newline_not_mem_encodeString s
  | .arr [] => by decide
  | .arr (x :: xs) =>
    not_mem_cons_append (by decide) (newline_not_mem_encode x) (newline_not_mem_encodeElems xs)
  | .obj [] => by decide
  | .obj ((k, v) :: ms) =>
    not_mem_cons_append (by decide) (newline_not_mem_encodeString k)
      (not_mem_cons_append (by decide) (newline_not_mem_encode v) (newline_not_mem_encodeMembers ms))
theorem newline_not_mem_encodeElems : ∀ xs : List JValue, '\n' ∉ encodeElems xs
  | [] => by decide
  | x :: xs =>
    not_mem_cons_append (by decide) (newline_not_mem_encode x) (newline_not_mem_encodeElems xs)
theorem newline_not_mem_encodeMembers : ∀ ms : List (String × JValue), '\n' ∉ encodeMembers ms
  | [] => by decide
  | (k, v) :: ms =>
    not_mem_cons_append (by decide) (newline_not_mem_encodeString k)
      (not_mem_cons_append (by decide) (newline_not_mem_encode v) (newline_not_mem_encodeMembers ms))
end

end LogFlux.Json
