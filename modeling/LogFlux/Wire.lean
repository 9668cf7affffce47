import Mathlib.Data.List.Basic
import LogFlux.Types
import LogFlux.Json.Decode

/-!
# LogFlux.Wire — what `sendData` writes, and `json.Unmarshal` of it

`sendData` writes `json.Marshal(data)` and one `'\n'`.  The payloads become JSON documents as
`encoding/json` builds them from the struct tags of `pkg/types`: fields in declaration order,
`omitempty` fields left out when empty, a `map[string]string` as an object with its keys in
increasing order, a nil slice as `null`.  Decoding is `json.Unmarshal` into a zero value: the
syntax pass `parseDoc`, then each member stored into the field its key names (exactly, or
else up to ASCII case), `null` leaving a field as it is (a map or a slice set to nil), other
keys skipped, a mismatched kind or an integer outside the 64-bit range an error.

* `newline_not_mem_marshal`: no document holds a newline.
* `unmarshalEntry_marshal`, `unmarshalBatch_marshal`: `Unmarshal` gives back the entry or the
  batch that was marshalled.
* `splitOn_jsonData`: a stream of writes splits at its newlines into the documents written.
* `sendData_writes_one_document`: the three together.

Key folding is ASCII only here (Go also folds a few non-ASCII letters, such as `ſ` to `S`), and
a slice is decoded into its elements up to its length, not into spare capacity.
-/

namespace LogFlux

open Json

/-! ## `json.Marshal` -/

/-- A string member with `omitempty`: left out when the string is empty. -/
def omitEmpty (name s : String) : List (String × JValue) := if s = "" then [] else [(name, .str s)]

/-- A `map[string]string`, its keys in increasing order as `mapEncoder` sorts them. -/
def Meta.toJson (m : Meta) : JValue := .obj (m.entries.map fun p => (p.1, .str p.2))

/-- `json.Marshal` of a `LogEntry`. -/
def LogEntry.toJson (e : LogEntry) : JValue :=
  .obj ((if e.metadata.entries = [] then [] else [("metadata", e.metadata.toJson)]) ++
    omitEmpty "version" e.version ++ [("payload", .str e.payload), ("source", .str e.source)] ++
    omitEmpty "timestamp" e.timestamp ++ omitEmpty "payloadType" e.payloadType ++
    [("entryType", .num e.entryType.val), ("logLevel", .num e.logLevel.val)])

/-- A `[]LogEntry`: `null` when nil. -/
def entriesJson : Option (List LogEntry) → JValue
  | none => .null
  | some es => .arr (es.map LogEntry.toJson)

/-- `json.Marshal` of a `LogBatch`. -/
def LogBatch.toJson (b : LogBatch) : JValue :=
  .obj (omitEmpty "version" b.version ++ [("entries", entriesJson b.entries)])

/-- `json.Marshal` of a `PingRequest`. -/
def PingRequest.toJson (p : PingRequest) : JValue :=
  .obj (omitEmpty "version" p.version ++ [("action", .str p.action)])

/-- `json.Marshal` of an `AuthRequest`. -/
def AuthRequest.toJson (a : AuthRequest) : JValue :=
  .obj (omitEmpty "version" a.version ++
    [("action", .str a.action), ("shared_secret", .str a.sharedSecret)])

def Payload.toJson : Payload → JValue
  | .entry e => e.toJson
  | .batch b => b.toJson
  | .ping p => p.toJson
  | .auth a => a.toJson

/-- `json.Marshal(data)`; it cannot fail on these types. -/
def marshal (data : Payload) : List Char := encode data.toJson

/-- The bytes `sendData` passes to `conn.Write`: the document and one newline. -/
def jsonData (data : Payload) : List Char := marshal data ++ ['\n']

/-- **No document holds a newline**, so the newline `sendData` adds is the only one in a write. -/
theorem newline_not_mem_marshal (data : Payload) : '\n' ∉ marshal data :=
  newline_not_mem_encode _

/-! ## Framing -/

theorem splitOn_jsonData_cons (data : Payload) (rest : List Char) :
    (jsonData data ++ rest).splitOn '\n' = marshal data :: rest.splitOn '\n' := by
  rw [jsonData, List.append_assoc, List.singleton_append]
  exact List.splitOnP_first (· == '\n') _ (fun c hc he => newline_not_mem_marshal data
    (beq_iff_eq.mp he ▸ hc)) '\n' (beq_self_eq_true _) rest

/-- **A stream of writes splits at its newlines into the documents written**, with the empty
text after the last newline. -/
theorem splitOn_jsonData : ∀ ws : List Payload,
    (ws.map jsonData).flatten.splitOn '\n' = ws.map marshal ++ [[]]
  | [] => rfl
  | data :: ws => by
    rw [List.map_cons, List.flatten_cons, splitOn_jsonData_cons, splitOn_jsonData ws]
    rfl

/-! ## `json.Unmarshal` -/

/-- `foldName`, on ASCII: keys are compared up to letter case. -/
def foldName (s : String) : String := ⟨s.toList.map Char.toUpper⟩

/-- The field a key names: `byExactName`, else `byFoldedName`. -/
def fieldFor (names : List String) (key : String) : Option String :=
  if key ∈ names then some key else names.find? fun n => foldName n = foldName key

/-- A string field: `null` leaves it as it is. -/
def decodeString (cur : String) : JValue → Option String
  | .str s => some s
  | .null => some cur
  | _ => none

/-- An `int` field: an integer of the 64-bit range; `null` leaves it as it is. -/
def decodeInt (cur : GoInt) : JValue → Option GoInt
  | .num n => if h : -2 ^ 63 ≤ n ∧ n < 2 ^ 63 then some ⟨n, h.1, h.2⟩ else none
  | .null => some cur
  | _ => none

/-- A `map[string]string` field: `null` sets it to nil; an object's members are stored into
it, a `null` member as `""`. -/
def decodeMeta (cur : Meta) : JValue → Option Meta
  | .null => some Meta.empty
  | .obj ms => ms.foldlM (fun m p => (decodeString "" p.2).map fun s => m.insert p.1 s) cur
  | _ => none

def LogEntry.zero : LogEntry := ⟨Meta.empty, "", "", "", "", "", ⟨0, by decide, by decide⟩,
  ⟨0, by decide, by decide⟩⟩

def LogEntry.fieldNames : List String :=
  ["metadata", "version", "payload", "source", "timestamp", "payloadType", "entryType", "logLevel"]

/-- One member stored into a `LogEntry`. -/
def LogEntry.setField (e : LogEntry) (m : String × JValue) : Option LogEntry :=
  match fieldFor LogEntry.fieldNames m.1 with
  | some "metadata" => (decodeMeta e.metadata m.2).map fun x => { e with metadata := x }
  | some "version" => (decodeString e.version m.2).map fun x => { e with version := x }
  | some "payload" => (decodeString e.payload m.2).map fun x => { e with payload := x }
  | some "source" => (decodeString e.source m.2).map fun x => { e with source := x }
  | some "timestamp" => (decodeString e.timestamp m.2).map fun x => { e with timestamp := x }
  | some "payloadType" => (decodeString e.payloadType m.2).map fun x => { e with payloadType := x }
  | some "entryType" => (decodeInt e.entryType m.2).map fun x => { e with entryType := x }
  | some "logLevel" => (decodeInt e.logLevel m.2).map fun x => { e with logLevel := x }
  | _ => some e

/-- A document stored into a `LogEntry`: `null` leaves it as it is. -/
def LogEntry.decode (e : LogEntry) : JValue → Option LogEntry
  | .obj ms => ms.foldlM LogEntry.setField e
  | .null => some e
  | _ => none

/-- The elements of an array stored into a slice: element `i` into the slice's element `i`, or
into a zero entry past its end; the result has as many elements as the array. -/
def decodeElems : List LogEntry → List JValue → Option (List LogEntry)
  | _, [] => some []
  | cur, x :: xs => do
    let e ← (cur.headD LogEntry.zero).decode x
    let es ← decodeElems cur.tail xs
    pure (e :: es)

/-- A `[]LogEntry` field: `null` sets it to nil; `[]` makes it empty and not nil. -/
def decodeEntries (cur : Option (List LogEntry)) : JValue → Option (Option (List LogEntry))
  | .null => some none
  | .arr xs => (decodeElems (cur.getD []) xs).map some
  | _ => none

def LogBatch.zero : LogBatch := ⟨"", none⟩

def LogBatch.fieldNames : List String := ["version", "entries"]

/-- One member stored into a `LogBatch`. -/
def LogBatch.setField (b : LogBatch) (m : String × JValue) : Option LogBatch :=
  match fieldFor LogBatch.fieldNames m.1 with
  | some "version" => (decodeString b.version m.2).map fun x => { b with version := x }
  | some "entries" => (decodeEntries b.entries m.2).map fun x => { b with entries := x }
  | _ => some b

/-- A document stored into a `LogBatch`: `null` leaves it as it is. -/
def LogBatch.decode (b : LogBatch) : JValue → Option LogBatch
  | .obj ms => ms.foldlM LogBatch.setField b
  | .null => some b
  | _ => none

/-- `json.Unmarshal(data, &e)` into a zero `LogEntry`; `none` is an error. -/
def unmarshalEntry (data : List Char) : Option LogEntry := (parseDoc data).bind LogEntry.zero.decode

/-- `json.Unmarshal(data, &b)` into a zero `LogBatch`; `none` is an error. -/
def unmarshalBatch (data : List Char) : Option LogBatch := (parseDoc data).bind LogBatch.zero.decode

/-! ## Round trips -/

theorem foldlM_omitEmpty {α : Type} {f : α → String × JValue → Option α} {x : α} (name s : String)
    (set : α → String → α) (hf : ∀ y t, f y (name, .str t) = some (set y t)) (hx : set x "" = x) :
    (omitEmpty name s).foldlM f x = some (set x s) := by
  unfold omitEmpty
  split
  · subst s; rw [hx]; rfl
  · rw [List.foldlM_cons, hf]; rfl

theorem decodeInt_val (cur i : GoInt) : decodeInt cur (.num i.val) = some i :=
  dif_pos ⟨i.lo, i.hi⟩

theorem foldlM_decodeMeta (l : List (String × String)) (acc : Meta) :
    (l.map fun p => (p.1, JValue.str p.2)).foldlM
        (fun m p => (decodeString "" p.2).map fun s => m.insert p.1 s) acc =
      some (l.foldl (fun a p => a.insert p.1 p.2) acc) := by
  induction l generalizing acc with
  | nil => rfl
  | cons p l ih => exact ih (acc.insert p.1 p.2)

theorem entries_foldl_insert (l : List (String × String)) (acc : Meta) :
    (l.foldl (fun a p => a.insert p.1 p.2) acc).entries =
      l.foldl (fun a p => insertKV p.1 p.2 a) acc.entries := by
  induction l generalizing acc with
  | nil => rfl
  | cons p l ih => exact ih (acc.insert p.1 p.2)

theorem decodeMeta_toJson (m : Meta) : decodeMeta Meta.empty m.toJson = some m := by
  rw [Meta.toJson, decodeMeta, foldlM_decodeMeta]
  exact congrArg some (Meta.ext ((entries_foldl_insert _ _).trans
    (foldl_insertKV _ [] m.sorted (by simp))))

/-- **Decoding an entry's document into a zero entry gives the entry back.** -/
theorem LogEntry.decode_toJson (e : LogEntry) : LogEntry.zero.decode e.toJson = some e := by
  have hm : (if e.metadata.entries = [] then [] else [("metadata", e.metadata.toJson)]).foldlM
      LogEntry.setField LogEntry.zero = some { LogEntry.zero with metadata := e.metadata } := by
    split
    · rename_i h
      exact congrArg (fun m => some { LogEntry.zero with metadata := m })
        (Meta.ext h.symm : Meta.empty = e.metadata)
    · rw [List.foldlM_cons]
      show (decodeMeta Meta.empty e.metadata.toJson).map _ >>= _ = _
      rw [decodeMeta_toJson]
      rfl
  have hs : ∀ (y : LogEntry) t, y.setField ("payload", .str t) = some { y with payload := t } ∧
      y.setField ("source", .str t) = some { y with source := t } := fun _ _ => ⟨rfl, rfl⟩
  have hi : ∀ (y : LogEntry) (i : GoInt), y.setField ("entryType", .num i.val) = some { y with entryType := i } ∧
      y.setField ("logLevel", .num i.val) = some { y with logLevel := i } := fun _ i =>
    ⟨congrArg (Option.map _) (decodeInt_val _ i), congrArg (Option.map _) (decodeInt_val _ i)⟩
  have hz : LogEntry.zero.version = "" ∧ LogEntry.zero.timestamp = "" ∧
      LogEntry.zero.payloadType = "" := ⟨rfl, rfl, rfl⟩
  simp only [LogEntry.toJson, LogEntry.decode, List.foldlM_append, hm, Option.bind_eq_bind,
    Option.some_bind, List.foldlM_cons, List.foldlM_nil, Option.pure_def, hs, hi, hz.1, hz.2.1, hz.2.2,
    foldlM_omitEmpty (f := LogEntry.setField) "version" e.version (fun y t => { y with version := t })
      (fun _ _ => rfl),
    foldlM_omitEmpty (f := LogEntry.setField) "timestamp" e.timestamp
      (fun y t => { y with timestamp := t }) (fun _ _ => rfl),
    foldlM_omitEmpty (f := LogEntry.setField) "payloadType" e.payloadType
      (fun y t => { y with payloadType := t }) (fun _ _ => rfl)]

theorem decodeElems_toJson : ∀ es : List LogEntry, decodeElems [] (es.map LogEntry.toJson) = some es
  | [] => rfl
  | e :: es => by
    simp only [List.map_cons, decodeElems, List.headD_nil, List.tail_nil, LogEntry.decode_toJson,
      decodeElems_toJson es]
    rfl

theorem decodeEntries_entriesJson (es : Option (List LogEntry)) :
    decodeEntries none (entriesJson es) = some es := by
  cases es with
  | none => rfl
  | some es => exact congrArg (Option.map some) (decodeElems_toJson es)

/-- **Decoding a batch's document into a zero batch gives the batch back.** -/
theorem LogBatch.decode_toJson (b : LogBatch) : LogBatch.zero.decode b.toJson = some b := by
  have he : ∀ y : LogBatch, y.entries = none →
      y.setField ("entries", entriesJson b.entries) = some { y with entries := b.entries } :=
    fun y hy => by
      show (decodeEntries y.entries _).map _ = _
      rw [hy, decodeEntries_entriesJson]
      rfl
  simp only [LogBatch.toJson, LogBatch.decode, List.foldlM_append, Option.bind_eq_bind,
    Option.some_bind, List.foldlM_cons, List.foldlM_nil, Option.pure_def,
    foldlM_omitEmpty (f := LogBatch.setField) (x := LogBatch.zero) "version" b.version
      (fun y t => { y with version := t }) (fun _ _ => rfl) rfl, he,
    show LogBatch.zero.entries = none from rfl]

theorem unmarshalEntry_marshal (e : LogEntry) : unmarshalEntry (marshal (.entry e)) = some e := by
  rw [unmarshalEntry, marshal, Payload.toJson, parseDoc_encode]
  exact LogEntry.decode_toJson e

theorem unmarshalBatch_marshal (b : LogBatch) : unmarshalBatch (marshal (.batch b)) = some b := by
  rw [unmarshalBatch, marshal, Payload.toJson, parseDoc_encode]
  exact LogBatch.decode_toJson b
/-- **Every write of `sendData` is one document and its newline, and reads back.**  No document
holds a newline; `Unmarshal` of an entry's or a batch's document gives it back; a stream of
writes splits at its newlines into the documents written. -/
theorem sendData_writes_one_document :
    (∀ data : Payload, '\n' ∉ marshal data) ∧
    (∀ e : LogEntry, unmarshalEntry (marshal (.entry e)) = some e) ∧
    (∀ b : LogBatch, unmarshalBatch (marshal (.batch b)) = some b) ∧
    (∀ ws : List Payload, (ws.map jsonData).flatten.splitOn '\n' = ws.map marshal ++ [[]]) :=
  ⟨newline_not_mem_marshal, unmarshalEntry_marshal, unmarshalBatch_marshal, splitOn_jsonData⟩

end LogFlux
