import LogFlux.Json.Encode

/-!
# LogFlux.Json.Decode — the syntax pass of `json.Unmarshal`

`parseDoc` reads one JSON document the way `encoding/json` does before it decodes into a Go
value: `checkValid`'s grammar with white space between tokens, and string bodies unquoted as
`unquote` does (the escapes `\" \\ \/ \b \f \n \r \t \uXXXX`, UTF-16 surrogate pairs, a lone
surrogate read as U+FFFD, control characters refused).  The text is a list of Unicode scalar
values, so the decoder never meets ill-formed UTF-8.  Numbers are integers: a fraction or an
exponent is refused here, where Go accepts it and refuses it only when decoding into an `int`.

Recursion runs on fuel; `parseDoc` gives the document's length as fuel, which is enough for
every document `encode` writes.

* `parseValue_encode`: the decoder reads back what the encoder writes, followed by any text
  that cannot continue a number.
* `parseDoc_encode`: `parseDoc (encode v) = some v`.
-/

namespace LogFlux.Json

/-! ## Tokens -/

/-- JSON white space (`isSpace` of `scanner.go`). -/
def isSpace (c : Char) : Bool := c == ' ' || c == '\t' || c == '\r' || c == '\n'

def skipWs : List Char → List Char
  | c :: cs => if isSpace c then skipWs cs else c :: cs
  | [] => []

def hexVal (c : Char) : Option Nat :=
  if 48 ≤ c.toNat ∧ c.toNat ≤ 57 then some (c.toNat - 48)
  else if 97 ≤ c.toNat ∧ c.toNat ≤ 102 then some (c.toNat - 87)
  else if 65 ≤ c.toNat ∧ c.toNat ≤ 70 then some (c.toNat - 55)
  else none

/-- `getu4` after its `\u`: four hexadecimal digits. -/
def getu4 : List Char → Option Nat
  | a :: b :: c :: d :: _ => do
    let a ← hexVal a; let b ← hexVal b; let c ← hexVal c; let d ← hexVal d
    pure (((a * 16 + b) * 16 + c) * 16 + d)
  | _ => none

/-- The character of a two-character escape `\e`. -/
def unescape : Char → Option Char
  | '"' => some '"'
  | '\\' => some '\\'
  | '/' => some '/'
  | 'b' => some '\x08'
  | 'f' => some '\x0c'
  | 'n' => some '\n'
  | 'r' => some '\r'
  | 't' => some '\t'
  | _ => none

/-- `utf16.IsSurrogate`. -/
def isSurrogate (u : Nat) : Bool := 0xD800 ≤ u && u < 0xE000

/-- `utf16.DecodeRune`: a high and a low surrogate make one character; anything else is
U+FFFD. -/
def decodeRune (u u' : Nat) : Char :=
  if 0xD800 ≤ u ∧ u < 0xDC00 ∧ 0xDC00 ≤ u' ∧ u' < 0xE000 then
    Char.ofNat ((u - 0xD800) * 0x400 + (u' - 0xDC00) + 0x10000)
  else '�'

/-- One character of a string body (`unquote`'s loop), and what follows it: an escape, or a
character other than `"`, `\` and the controls below U+0020.  A surrogate `\uXXXX` takes the
next `\uXXXX` when the two make a pair, and is U+FFFD otherwise. -/
def parseUnit : List Char → Option (Char × List Char)
  | '\\' :: 'u' :: rest =>
    match getu4 rest with
    | none => none
    | some u =>
      if isSurrogate u then
        match rest.drop 4 with
        | '\\' :: 'u' :: rest' =>
          match getu4 rest' with
          | some u' =>
            if decodeRune u u' = '�' then some ('�', rest.drop 4)
            else some (decodeRune u u', rest'.drop 4)
          | none => some ('�', rest.drop 4)
        | _ => some ('�', rest.drop 4)
      else some (Char.ofNat u, rest.drop 4)
  | '\\' :: e :: rest => (unescape e).map fun c => (c, rest)
  | c :: rest => if c.toNat < 0x20 ∨ c = '"' ∨ c = '\\' then none else some (c, rest)
  | [] => none

/-- A string body up to its closing quote, with `n` characters of fuel. -/
def parseStrBody : Nat → List Char → Option (List Char × List Char)
  | 0, _ => none
  | _ + 1, '"' :: rest => some ([], rest)
  | n + 1, cs =>
    match parseUnit cs with
    | some (c, rest) => (parseStrBody n rest).map fun p => (c :: p.1, p.2)
    | none => none

/-- A string literal after its opening quote. -/
def parseString (cs : List Char) : Option (String × List Char) :=
  (parseStrBody cs.length cs).map fun p => (String.mk p.1, p.2)

def parseDigits (acc : Nat) : List Char → Nat × List Char
  | c :: cs => if c.isDigit then parseDigits (acc * 10 + (c.toNat - 48)) cs else (acc, c :: cs)
  | [] => (acc, [])

/-- The end of an integer: a fraction or an exponent is refused. -/
def intEnd (n : Nat) (r : List Char) : Option (Nat × List Char) :=
  match r with
  | '.' :: _ | 'e' :: _ | 'E' :: _ => none
  | _ => some (n, r)

/-- An integer without sign: `0`, or a non-zero digit and more digits. -/
def parseNatural : List Char → Option (Nat × List Char)
  | '0' :: r => intEnd 0 r
  | c :: r => if c.isDigit then intEnd (parseDigits 0 (c :: r)).1 (parseDigits 0 (c :: r)).2 else none
  | [] => none

/-- A number: an optional `-`, then an integer. -/
def parseNumber : List Char → Option (Int × List Char)
  | '-' :: cs => (parseNatural cs).map fun p => (-(p.1 : Int), p.2)
  | cs => (parseNatural cs).map fun p => ((p.1 : Int), p.2)

/-- An object's key and its colon. -/
def parseKey (cs : List Char) : Option (String × List Char) :=
  match skipWs cs with
  | '"' :: r =>
    match parseString r with
    | some (k, r) =>
      match skipWs r with
      | ':' :: r => some (k, r)
      | _ => none
    | none => none
  | _ => none

/-! ## Values -/

mutual
/-- One value, after white space, with `n` of fuel. -/
def parseValue : Nat → List Char → Option (JValue × List Char)
  | 0, _ => none
  | n + 1, cs =>
    match skipWs cs with
    | 'n' :: 'u' :: 'l' :: 'l' :: r => some (.null, r)
    | 't' :: 'r' :: 'u' :: 'e' :: r => some (.bool true, r)
    | 'f' :: 'a' :: 'l' :: 's' :: 'e' :: r => some (.bool false, r)
    | '"' :: r => (parseString r).map fun p => (.str p.1, p.2)
    | '[' :: r =>
      match skipWs r with
      | ']' :: r => some (.arr [], r)
      | _ =>
        match parseValue n r with
        | some (x, r) => (parseElems n r).map fun p => (.arr (x :: p.1), p.2)
        | none => none
    | '\x7b' :: r =>
      match skipWs r with
      | '\x7d' :: r => some (.obj [], r)
      | _ =>
        match parseKey r with
        | some (k, r) =>
          match parseValue n r with
          | some (v, r) => (parseMembers n r).map fun p => (.obj ((k, v) :: p.1), p.2)
          | none => none
        | none => none
    | r => (parseNumber r).map fun p => (.num p.1, p.2)
def parseElems : Nat → List Char → Option (List JValue × List Char)
  | 0, _ => none
  | n + 1, cs =>
    match skipWs cs with
    | ']' :: r => some ([], r)
    | ',' :: r =>
      match parseValue n r with
      | some (x, r) => (parseElems n r).map fun p => (x :: p.1, p.2)
      | none => none
    | _ => none
def parseMembers : Nat → List Char → Option (List (String × JValue) × List Char)
  | 0, _ => none
  | n + 1, cs =>
    match skipWs cs with
    | '\x7d' :: r => some ([], r)
    | ',' :: r =>
      match parseKey r with
      | some (k, r) =>
        match parseValue n r with
        | some (v, r) => (parseMembers n r).map fun p => ((k, v) :: p.1, p.2)
        | none => none
      | none => none
    | _ => none
end

/-- `checkValid` and the parse of `json.Unmarshal`: one value, then only white space. -/
def parseDoc (cs : List Char) : Option JValue :=
  match parseValue cs.length cs with
  | some (v, r) => if skipWs r = [] then some v else none
  | none => none

/-! ## Characters -/

@[simp] theorem skipWs_cons {c : Char} (r : List Char) (h : isSpace c = false) :
    skipWs (c :: r) = c :: r := by
  simp [skipWs, h]

theorem hexVal_hexDigit : ∀ d, d < 16 → hexVal (hexDigit d) = some d := by decide

theorem parseUnit_plain {c : Char} (r : List Char) (hc : c ≠ '\\') :
    parseUnit (c :: r) = if c.toNat < 0x20 ∨ c = '"' ∨ c = '\\' then none else some (c, r) := by
  unfold parseUnit
  split
  · rename_i h; cases h; exact absurd rfl hc
  · rename_i h; cases h; exact absurd rfl hc
  · rename_i h; cases h; rfl
  · rename_i h; cases h

theorem parseUnit_u {u : Nat} (cs r : List Char) (hcs : cs.length = 4)
    (h : getu4 (cs ++ r) = some u) (hs : isSurrogate u = false) :
    parseUnit ('\\' :: 'u' :: (cs ++ r)) = some (Char.ofNat u, r) := by
  simp only [parseUnit, h, hs, List.drop_left' hcs]
  rfl

theorem parseUnit_escapeChar (c : Char) (r : List Char) :
    parseUnit (escapeChar c ++ r) = some (c, r) := by
  have hplain (h1 : c ≠ '\\') (h2 : 0x20 ≤ c.toNat) (h3 : c ≠ '"') :
      parseUnit (c :: r) = some (c, r) := by
    rw [parseUnit_plain r h1, if_neg fun h => h.elim (by omega) fun h => h.elim h3 h1]
  have hd0 : hexVal '0' = some 0 := rfl
  have hd2 : hexVal '2' = some 2 := rfl
  have hlo := hexVal_hexDigit (c.toNat % 16) (Nat.mod_lt _ (by decide))
  rw [escapeChar]
  by_cases h1 : c.toNat < 0x80
  · rw [if_pos h1]
    by_cases h2 : htmlSafe c = true
    · rw [if_pos h2]
      simp only [htmlSafe, Bool.and_eq_true, decide_eq_true_eq, bne_iff_ne, ne_eq] at h2
      exact hplain h2.1.1.1.2 h2.1.1.1.1.1.1 h2.1.1.1.1.2
    rw [if_neg h2]
    by_cases h3 : c = '\\' ∨ c = '"'
    · rw [if_pos h3]; rcases h3 with rfl | rfl <;> rfl
    rw [if_neg h3]
    by_cases h4 : c = '\x08'
    · rw [if_pos h4, h4]; rfl
    rw [if_neg h4]
    by_cases h5 : c = '\x0c'
    · rw [if_pos h5, h5]; rfl
    rw [if_neg h5]
    by_cases h6 : c = '\n'
    · rw [if_pos h6, h6]; rfl
    rw [if_neg h6]
    by_cases h7 : c = '\r'
    · rw [if_pos h7, h7]; rfl
    rw [if_neg h7]
    by_cases h8 : c = '\t'
    · rw [if_pos h8, h8]; rfl
    rw [if_neg h8]
    have hhi := hexVal_hexDigit (c.toNat / 16) (by omega)
    have hu := parseUnit_u (u := c.toNat) ['0', '0', hexDigit (c.toNat / 16), hexDigit (c.toNat % 16)] r rfl
      (by simp [getu4, hd0, hhi, hlo]; omega) (by simp [isSurrogate]; omega)
    rwa [Char.ofNat_toNat] at hu
  · rw [if_neg h1]
    by_cases h2 : c.toNat = 0x2028 ∨ c.toNat = 0x2029
    · rw [if_pos h2]
      have hu := parseUnit_u (u := c.toNat) ['2', '0', '2', hexDigit (c.toNat % 16)] r rfl
        (by simp [getu4, hd0, hd2, hlo]; omega) (by simp [isSurrogate]; omega)
      rwa [Char.ofNat_toNat] at hu
    · rw [if_neg h2]
      exact hplain (fun h => by subst h; exact h1 (by decide)) (by omega)
        (fun h => by subst h; exact h1 (by decide))

theorem escapeChar_ne_nil (c : Char) : escapeChar c ≠ [] := fun h => by
  have := parseUnit_escapeChar c []
  rw [h] at this
  cases this

theorem length_le_escapeList : ∀ cs : List Char, cs.length ≤ (escapeList cs).length
  | [] => le_rfl
  | c :: cs => by
    have := List.length_pos.mpr (escapeChar_ne_nil c)
    have := length_le_escapeList cs
    simp only [escapeList, List.length_cons, List.length_append]
    omega

/-! ## Strings -/

theorem parseStrBody_unit {n : Nat} {cs r : List Char} {c : Char}
    (hq : ∀ rest, cs ≠ '"' :: rest) (h : parseUnit cs = some (c, r)) :
    parseStrBody (n + 1) cs = (parseStrBody n r).map fun p => (c :: p.1, p.2) := by
  rw [parseStrBody.eq_3 cs n hq, h]

theorem parseStrBody_escapeList : ∀ (cs : List Char) (n : Nat) (r : List Char),
    cs.length < n → parseStrBody n (escapeList cs ++ '"' :: r) = some (cs, r)
  | [], n + 1, r, _ => rfl
  | c :: cs, n + 1, r, h => by
    have hu := parseUnit_escapeChar c (escapeList cs ++ '"' :: r)
    have hq : ∀ rest, escapeChar c ++ (escapeList cs ++ '"' :: r) ≠ '"' :: rest :=
      fun rest he => by rw [he, parseUnit_plain rest (by decide)] at hu; cases hu
    rw [escapeList, List.append_assoc, parseStrBody_unit hq hu,
      parseStrBody_escapeList cs n r (by simp only [List.length_cons] at h; omega)]
    rfl

theorem parseString_escapeList (cs r : List Char) :
    parseString (escapeList cs ++ '"' :: r) = some (String.mk cs, r) := by
  have := length_le_escapeList cs
  rw [parseString, parseStrBody_escapeList cs _ r (by simp; omega)]
  rfl

theorem encodeString_append (s : String) (r : List Char) :
    encodeString s ++ r = '"' :: (escapeList s.toList ++ '"' :: r) := by
  simp [encodeString]

theorem parseKey_encodeString (k : String) (r : List Char) :
    parseKey (encodeString k ++ ':' :: r) = some (k, r) := by
  rw [encodeString_append]
  simp [parseKey, isSpace, parseString_escapeList]

/-! ## Numbers -/

/-- Text that cannot continue an integer: no digit, fraction or exponent follows. -/
def numEnd : List Char → Bool
  | c :: _ => !c.isDigit && c != '.' && c != 'e' && c != 'E'
  | [] => true

theorem hexDigit_decimal : ∀ k, k < 10 → (hexDigit k).isDigit = true ∧ (hexDigit k).toNat - 48 = k ∧
    isSpace (hexDigit k) = false ∧ hexDigit k ≠ ']' ∧ hexDigit k ≠ '-' ∧ (hexDigit k = '0' → k = 0) := by
  decide

theorem parseDigits_of_numEnd {r : List Char} (acc : Nat) (hr : numEnd r) :
    parseDigits acc r = (acc, r) := by
  cases r with
  | nil => rfl
  | cons c r => simp_all [numEnd, parseDigits]

theorem intEnd_of_numEnd {r : List Char} (m : Nat) (hr : numEnd r) : intEnd m r = some (m, r) := by
  unfold intEnd; split <;> simp_all [numEnd]

theorem parseDigits_decDigits (acc n : Nat) (r : List Char) :
    parseDigits acc (decDigits n ++ r) = parseDigits (acc * 10 ^ (decDigits n).length + n) r := by
  rw [decDigits]
  split
  · rename_i h
    obtain ⟨hd, hv, -⟩ := hexDigit_decimal n h
    simp [parseDigits, hd, hv]
  · rename_i h
    obtain ⟨hd, hv, -⟩ := hexDigit_decimal (n % 10) (Nat.mod_lt _ (by decide))
    rw [List.append_assoc, parseDigits_decDigits, List.singleton_append, parseDigits, if_pos hd, hv,
      List.length_append, List.length_singleton, Nat.pow_succ, ← Nat.mul_assoc, Nat.add_mul]
    have := Nat.div_add_mod n 10
    congr 1
    omega
termination_by n
decreasing_by omega

theorem decDigits_head (n : Nat) :
    ∃ k ds, decDigits n = hexDigit k :: ds ∧ k < 10 ∧ (k = 0 → n = 0) := by
  rw [decDigits]
  split
  · exact ⟨n, [], rfl, ‹_›, id⟩
  · obtain ⟨k, ds, he, hk, hk0⟩ := decDigits_head (n / 10)
    exact ⟨k, ds ++ _, by rw [he]; rfl, hk, fun h => by have := hk0 h; omega⟩
termination_by n
decreasing_by omega

theorem parseNatural_decDigits (n : Nat) {r : List Char} (hr : numEnd r) :
    parseNatural (decDigits n ++ r) = some (n, r) := by
  obtain ⟨k, ds, he, hk, hk0⟩ := decDigits_head n
  obtain ⟨hd, -, -, -, -, h0⟩ := hexDigit_decimal k hk
  by_cases hz : hexDigit k = '0'
  · obtain rfl := hk0 (h0 hz)
    rw [he, hz]
    have : ds = [] := by rw [decDigits] at he; simp_all
    subst this
    exact intEnd_of_numEnd 0 hr
  · rw [he, List.cons_append, parseNatural.eq_2 _ _ hz, if_pos hd, ← List.cons_append, ← he,
      parseDigits_decDigits, parseDigits_of_numEnd _ hr, Nat.zero_mul, Nat.zero_add]
    exact intEnd_of_numEnd n hr

theorem encodeInt_head (i : Int) :
    ∃ c cs, encodeInt i = c :: cs ∧ (c = '-' ∨ ∃ k < 10, c = hexDigit k) := by
  unfold encodeInt
  split
  · exact ⟨_, _, rfl, .inl rfl⟩
  · obtain ⟨k, ds, he, hk, -⟩ := decDigits_head i.natAbs
    exact ⟨_, _, he, .inr ⟨k, hk, rfl⟩⟩

theorem parseNumber_encodeInt (i : Int) {r : List Char} (hr : numEnd r) :
    parseNumber (encodeInt i ++ r) = some (i, r) := by
  unfold encodeInt
  split
  · rename_i h
    simp only [List.cons_append, parseNumber, parseNatural_decDigits _ hr, Option.map_some']
    congr; omega
  · rename_i h
    obtain ⟨k, ds, he, hk, -⟩ := decDigits_head i.natAbs
    obtain ⟨-, -, -, -, hm, -⟩ := hexDigit_decimal k hk
    have hne : ∀ cs, decDigits i.natAbs ++ r ≠ '-' :: cs := fun cs h' => by
      rw [he, List.cons_append, List.cons.injEq] at h'
      exact hm h'.1
    rw [parseNumber.eq_2 _ hne, parseNatural_decDigits _ hr, Option.map_some']
    congr; omega

/-! ## Values -/

theorem encode_head (v : JValue) :
    ∃ d ds, encode v = d :: ds ∧ isSpace d = false ∧ d ≠ ']' := by
  cases v with
  | num i =>
    obtain ⟨c, cs, he, hc⟩ := encodeInt_head i
    refine ⟨c, cs, he, ?_⟩
    rcases hc with rfl | ⟨k, hk, rfl⟩
    · decide
    · obtain ⟨-, -, hs, hb, -⟩ := hexDigit_decimal k hk
      exact ⟨hs, hb⟩
  | null => exact ⟨_, _, rfl, by decide, by decide⟩
  | bool b => cases b <;> exact ⟨_, _, rfl, by decide, by decide⟩
  | str s => exact ⟨_, _, rfl, by decide, by decide⟩
  | arr xs => cases xs <;> exact ⟨_, _, rfl, by decide, by decide⟩
  | obj ms => cases ms <;> exact ⟨_, _, rfl, by decide, by decide⟩

theorem numEnd_encodeElems (xs : List JValue) (r : List Char) : numEnd (encodeElems xs ++ r) := by
  cases xs <;> rfl

theorem numEnd_encodeMembers (ms : List (String × JValue)) (r : List Char) :
    numEnd (encodeMembers ms ++ r) := by
  cases ms <;> rfl

theorem parseValue_number {c : Char} (hc : c = '-' ∨ ∃ k < 10, c = hexDigit k) (n : Nat)
    (cs : List Char) :
    parseValue (n + 1) (c :: cs) = (parseNumber (c :: cs)).map fun p => (.num p.1, p.2) := by
  rcases hc with rfl | ⟨k, hk, rfl⟩
  · rfl
  · obtain _ | _ | _ | _ | _ | _ | _ | _ | _ | _ | k := k <;> first | rfl | omega

theorem parseValue_arr {n : Nat} {d : Char} {cs r : List Char} {x : JValue}
    (hs : isSpace d = false) (hd : d ≠ ']') (hx : parseValue n (d :: cs) = some (x, r)) :
    parseValue (n + 1) ('[' :: d :: cs) = (parseElems n r).map fun p => (.arr (x :: p.1), p.2) := by
  have e : parseValue (n + 1) ('[' :: d :: cs) =
      match skipWs (d :: cs) with
      | ']' :: r => some (.arr [], r)
      | _ => match parseValue n (d :: cs) with
        | some (x, r) => (parseElems n r).map fun p => (.arr (x :: p.1), p.2)
        | none => none := rfl
  rw [e, skipWs_cons _ hs]
  split
  · rename_i he; exact absurd (List.cons.inj he).1 hd
  · rw [hx]

theorem parseValue_obj {n : Nat} {cs r r' : List Char} {k : String} {v : JValue}
    (hk : parseKey ('"' :: cs) = some (k, r)) (hv : parseValue n r = some (v, r')) :
    parseValue (n + 1) ('\x7b' :: '"' :: cs) =
      (parseMembers n r').map fun p => (.obj ((k, v) :: p.1), p.2) := by
  have e : parseValue (n + 1) ('\x7b' :: '"' :: cs) =
      match parseKey ('"' :: cs) with
      | some (k, r) => match parseValue n r with
        | some (v, r) => (parseMembers n r).map fun p => (.obj ((k, v) :: p.1), p.2)
        | none => none
      | none => none := rfl
  simp only [e, hk, hv]

theorem parseElems_comma {n : Nat} {cs r : List Char} {x : JValue}
    (hx : parseValue n cs = some (x, r)) :
    parseElems (n + 1) (',' :: cs) = (parseElems n r).map fun p => (x :: p.1, p.2) := by
  have e : parseElems (n + 1) (',' :: cs) =
      match parseValue n cs with
      | some (x, r) => (parseElems n r).map fun p => (x :: p.1, p.2)
      | none => none := rfl
  simp only [e, hx]

theorem parseMembers_comma {n : Nat} {cs r r' : List Char} {k : String} {v : JValue}
    (hk : parseKey cs = some (k, r)) (hv : parseValue n r = some (v, r')) :
    parseMembers (n + 1) (',' :: cs) = (parseMembers n r').map fun p => ((k, v) :: p.1, p.2) := by
  have e : parseMembers (n + 1) (',' :: cs) =
      match parseKey cs with
      | some (k, r) => match parseValue n r with
        | some (v, r) => (parseMembers n r).map fun p => ((k, v) :: p.1, p.2)
        | none => none
      | none => none := rfl
  simp only [e, hk, hv]

mutual
/-- **The decoder reads back what the encoder writes**, with fuel the length of the text, when
what follows cannot continue a number. -/
theorem parseValue_encode : ∀ (n : Nat) (v : JValue) (r : List Char),
    (encode v).length ≤ n → numEnd r → parseValue n (encode v ++ r) = some (v, r)
  | 0, v, _, h, _ => by obtain ⟨d, ds, he, -⟩ := encode_head v; simp [he] at h
  | _ + 1, .null, _, _, _ => rfl
  | _ + 1, .bool true, _, _, _ => rfl
  | _ + 1, .bool false, _, _, _ => rfl
  | n + 1, .num i, r, _, hr => by
    obtain ⟨c, cs, he, hc⟩ := encodeInt_head i
    have hn := parseNumber_encodeInt i hr
    rw [he, List.cons_append] at hn
    rw [show encode (.num i) ++ r = c :: (cs ++ r) by rw [← List.cons_append, ← he]; rfl,
      parseValue_number hc, hn]
    rfl
  | n + 1, .str s, r, _, _ => by
    rw [show encode (.str s) ++ r = encodeString s ++ r from rfl, encodeString_append]
    exact congrArg (Option.map _) (parseString_escapeList _ r)
  | _ + 1, .arr [], _, _, _ => rfl
  | n + 1, .arr (x :: xs), r, h, _ => by
    simp only [encode, List.length_cons, List.length_append] at h
    have hx := parseValue_encode n x (encodeElems xs ++ r) (by omega) (numEnd_encodeElems xs r)
    obtain ⟨d, ds, he, hs, hd⟩ := encode_head x
    rw [he, List.cons_append] at hx
    rw [show encode (.arr (x :: xs)) ++ r = '[' :: d :: (ds ++ (encodeElems xs ++ r)) by
        simp [encode, he], parseValue_arr hs hd hx, parseElems_encodeElems n xs r (by omega)]
    rfl
  | _ + 1, .obj [], _, _, _ => rfl
  | n + 1, .obj ((k, v) :: ms), r, h, _ => by
    simp only [encode, List.length_cons, List.length_append] at h
    have hk := parseKey_encodeString k (encode v ++ (encodeMembers ms ++ r))
    rw [encodeString_append] at hk
    rw [show encode (.obj ((k, v) :: ms)) ++ r = '\x7b' :: '"' ::
        (escapeList k.toList ++ '"' :: ':' :: (encode v ++ (encodeMembers ms ++ r))) by
        simp [encode, encodeString_append],
      parseValue_obj hk (parseValue_encode n v _ (by omega) (numEnd_encodeMembers ms r)),
      parseMembers_encodeMembers n ms r (by omega)]
    rfl
theorem parseElems_encodeElems : ∀ (n : Nat) (xs : List JValue) (r : List Char),
    (encodeElems xs).length ≤ n → parseElems n (encodeElems xs ++ r) = some (xs, r)
  | 0, xs, _, h => by cases xs <;> simp [encodeElems] at h
  | _ + 1, [], _, _ => rfl
  | n + 1, x :: xs, r, h => by
    simp only [encodeElems, List.length_cons, List.length_append] at h
    rw [encodeElems, List.cons_append, List.append_assoc,
      parseElems_comma (parseValue_encode n x _ (by omega) (numEnd_encodeElems xs r)),
      parseElems_encodeElems n xs r (by omega)]
    rfl
theorem parseMembers_encodeMembers : ∀ (n : Nat) (ms : List (String × JValue)) (r : List Char),
    (encodeMembers ms).length ≤ n → parseMembers n (encodeMembers ms ++ r) = some (ms, r)
  | 0, ms, _, h => by cases ms <;> simp [encodeMembers] at h
  | _ + 1, [], _, _ => rfl
  | n + 1, (k, v) :: ms, r, h => by
    simp only [encodeMembers, List.length_cons, List.length_append] at h
    rw [encodeMembers, List.cons_append, List.append_assoc, List.cons_append, List.append_assoc,
      parseMembers_comma (parseKey_encodeString k _)
        (parseValue_encode n v _ (by omega) (numEnd_encodeMembers ms r)),
      parseMembers_encodeMembers n ms r (by omega)]
    rfl
end

/-- **`json.Unmarshal`'s syntax pass reads back every document `json.Marshal` writes.** -/
theorem parseDoc_encode (v : JValue) : parseDoc (encode v) = some v := by
  have h := parseValue_encode (encode v).length v [] le_rfl rfl
  rw [List.append_nil] at h
  rw [parseDoc, h]
  rfl

end LogFlux.Json
