import LogFlux.Config
import LogFlux.Entry
import LogFlux.Json.Decode

/-!
# LogFlux.Integrations.Zap — the `zapcore.Core` (`integrations/zap`)

A `zapcore.Field` keeps its value in `Integer`, `String` or `Interface`, by type.  `Field`
keeps the first two; `fieldToString` never reads `Interface`.  The constructors below are zap's
(`zap.String`, `zap.Int64`, ..., `zap.Duration`, `zap.Time`, `zap.Error`), from the layout of
zap's `field.go`.  `strconv.FormatFloat` is not modelled: it is an argument of
`fieldToString`, and no result here depends on it.  `Core.write` returns the entry `Write`
passes to `client.SendLogEntry`.

* `formatInt_injective`, `formatUint_injective`: `strconv.FormatInt` and `FormatUint` in base
  10 tell their arguments apart (the JSON number decoder reads them back).
* `fieldToString_loses_values`: strings, signed and unsigned integers and booleans keep
  their values; `zap.Duration`, `zap.Time` and `zap.Error` fields all become `""`, so two
  entries written with different durations are the same entry.
* `write_metadata`: for a core built by `NewCore` and any `With` calls, each key of the entry's
  metadata has the value of its last writer among the caller, stack, logger name, the `With`
  fields and the call's fields.
-/

namespace LogFlux.Zap

open LogEntry Json

/-- `zapcore.FieldType`. -/
inductive FieldType where
  | unknownType | arrayMarshalerType | objectMarshalerType | binaryType | boolType
  | byteStringType | complex128Type | complex64Type | durationType | float64Type
  | float32Type | int64Type | int32Type | int16Type | int8Type | stringType | timeType
  | timeFullType | uint64Type | uint32Type | uint16Type | uint8Type | uintptrType
  | reflectType | namespaceType | stringerType | errorType | skipType | inlineMarshalerType
  deriving DecidableEq, Repr

/-- The fields of a `zapcore.Field` that `fieldToString` reads: `Key`, `Type`, `Integer`
(an `int64`) and `String`. -/
structure Field where
  key : String
  type : FieldType
  integer : Int
  string : String
  deriving DecidableEq, Repr

/-! ## zap's constructors -/

/-- `zap.String(key, val)`. -/
def string (key val : String) : Field := ⟨key, .stringType, 0, val⟩

/-- The signed constructors: `Integer: int64(val)`. -/
def signed (type : FieldType) (key : String) (val : Int) : Field := ⟨key, type, val, ""⟩

/-- `zap.Int64(key, val)`; `zap.Int` is `Int64(key, int64(val))`. -/
def int64 : String → Int → Field := signed .int64Type

/-- `zap.Int32(key, val)`. -/
def int32 : String → Int → Field := signed .int32Type

/-- `zap.Int16(key, val)`. -/
def int16 : String → Int → Field := signed .int16Type

/-- `zap.Int8(key, val)`. -/
def int8 : String → Int → Field := signed .int8Type

/-- The unsigned constructors: `Integer: int64(val)`, the bits of `val`. -/
def unsigned (type : FieldType) (key : String) (val : Nat) : Field := ⟨key, type, toInt64 val, ""⟩

/-- `zap.Uint64(key, val)`. -/
def uint64 : String → Nat → Field := unsigned .uint64Type

/-- `zap.Uint32(key, val)`. -/
def uint32 : String → Nat → Field := unsigned .uint32Type

/-- `zap.Uint16(key, val)`. -/
def uint16 : String → Nat → Field := unsigned .uint16Type

/-- `zap.Uint8(key, val)`. -/
def uint8 : String → Nat → Field := unsigned .uint8Type

/-- `zap.Bool(key, val)`: `Integer` 1 for true, 0 for false. -/
def bool (key : String) (val : Bool) : Field := ⟨key, .boolType, if val then 1 else 0, ""⟩

/-- `zap.Duration(key, val)`: the nanoseconds in `Integer`. -/
def duration (key : String) (val : Int) : Field := ⟨key, .durationType, val, ""⟩

/-- `zap.Time(key, val)` for a time in the `UnixNano` range: the nanoseconds in `Integer`, the
location in `Interface`. -/
def time (key : String) (unixNano : Int) : Field := ⟨key, .timeType, unixNano, ""⟩

/-- `zap.Error(err)` for a non-nil `err` with `err.Error() = msg`: the error goes to
`Interface`, so the field does not depend on it. -/
def error (_msg : String) : Field := ⟨"error", .errorType, 0, ""⟩

/-! ## `fieldToString` -/

/-- `strconv.FormatInt(n, 10)`. -/
def formatInt (n : Int) : String := ⟨encodeInt n⟩

/-- `strconv.FormatUint(n, 10)`. -/
def formatUint (n : Nat) : String := ⟨decDigits n⟩

/-- `strconv.FormatBool(b)`. -/
def formatBool (b : Bool) : String := if b then "true" else "false"

/-- `fieldToString(field)`, with `strconv.FormatFloat` of the float types' bits as
`formatFloat`.  `uint64(field.Integer)` is `Integer` modulo `2^64`. -/
def fieldToString (formatFloat : FieldType → Int → String) (field : Field) : String :=
  match field.type with
  | .stringType => field.string
  | .int64Type | .int32Type | .int16Type | .int8Type => formatInt field.integer
  | .uint64Type | .uint32Type | .uint16Type | .uint8Type => formatUint (field.integer % 2 ^ 64).toNat
  | .float64Type | .float32Type => formatFloat field.type field.integer
  | .boolType => formatBool (field.integer == 1)
  | _ => field.string

theorem formatInt_injective : Function.Injective formatInt := fun a b h => by
  have ha := parseNumber_encodeInt a (r := []) rfl
  rw [show encodeInt a = encodeInt b from congrArg String.data h, parseNumber_encodeInt b (r := []) rfl] at ha
  exact (congrArg Prod.fst (Option.some.inj ha)).symm

theorem formatUint_injective : Function.Injective formatUint := fun a b h => by
  have ha := parseNatural_decDigits a (r := []) rfl
  rw [show decDigits a = decDigits b from congrArg String.data h, parseNatural_decDigits b (r := []) rfl] at ha
  exact (congrArg Prod.fst (Option.some.inj ha)).symm

theorem fieldToString_signed (formatFloat : FieldType → Int → String) {type : FieldType}
    (ht : type ∈ [.int64Type, .int32Type, .int16Type, .int8Type]) (key : String) (val : Int) :
    fieldToString formatFloat (signed type key val) = formatInt val := by
  simp only [List.mem_cons, List.mem_singleton, List.not_mem_nil, or_false] at ht
  rcases ht with rfl | rfl | rfl | rfl <;> rfl

theorem fieldToString_unsigned (formatFloat : FieldType → Int → String) {type : FieldType}
    (ht : type ∈ [.uint64Type, .uint32Type, .uint16Type, .uint8Type]) (key : String) {val : Nat}
    (hv : val < 2 ^ 64) : fieldToString formatFloat (unsigned type key val) = formatUint val := by
  have hbits : (toInt64 val % 2 ^ 64).toNat = val := by unfold toInt64; omega
  simp only [List.mem_cons, List.mem_singleton, List.not_mem_nil, or_false] at ht
  rcases ht with rfl | rfl | rfl | rfl <;> simp only [fieldToString, unsigned, hbits]

/-! ## `Core` -/

/-- The fields of `Core` that `Write` reads: the source and the fields of `With`. -/
structure Core where
  source : String
  contextFields : List Field
  level : Int
  deriving DecidableEq, Repr

/-- `NewCore(client, source, level)`: `zap` for an empty source. -/
def newCore (source : String) (level : Int) : Core :=
  ⟨if source = "" then "zap" else source, [], level⟩

/-- `With(fields)`: the core's fields, then `fields`. -/
def Core.withFields (fields : List Field) (c : Core) : Core :=
  { c with contextFields := c.contextFields ++ fields }

/-- The fields of a `zapcore.Entry` that `Write` reads; `caller` is `Caller.String()` when
`Caller.Defined`. -/
structure Entry where
  level : Int
  message : String
  caller : Option String
  stack : String
  loggerName : String
  deriving DecidableEq, Repr

/-- `convertLevel`: `zapcore.DebugLevel` (-1) to `FatalLevel` (5) onto the syslog levels, any
other level to `LevelInfo`. -/
def convertLevel (level : Int) : Int :=
  if level = -1 then 8 else if level = 0 then 7 else if level = 1 then 5 else if level = 2 then 4
  else if level = 3 then 3 else if level = 4 then 2 else if level = 5 then 1 else 7

/-- `Write(entry, fields)`: the entry passed to `SendLogEntry`, built at the time `timestamp`,
`validJSON` saying whether the message is JSON.  Caller, stack and logger name first, then the
core's fields, then `fields`, each through `WithMetadata(field.Key, fieldToString(field))`. -/
def Core.write (formatFloat : FieldType → Int → String) (timestamp : String) (validJSON : Bool)
    (c : Core) (entry : Entry) (fields : List Field) : LogEntry :=
  let e := (newLogEntry timestamp validJSON entry.message c.source).withLogLevel (convertLevel entry.level)
  let e := match entry.caller with
    | some caller => e.withMetadata "caller" caller
    | none => e
  let e := if entry.stack ≠ "" then e.withMetadata "stack" entry.stack else e
  let e := if entry.loggerName ≠ "" then e.withMetadata "logger" entry.loggerName else e
  fields.foldl (fun e f => e.withMetadata f.key (fieldToString formatFloat f))
    (c.contextFields.foldl (fun e f => e.withMetadata f.key (fieldToString formatFloat f)) e)

/-- **What `fieldToString` keeps**: it separates strings, integers and booleans, and prints
every duration, time and error as `""`. -/
theorem fieldToString_loses_values :
    (∀ (formatFloat : FieldType → Int → String) (key a b : String), a ≠ b →
      fieldToString formatFloat (string key a) ≠ fieldToString formatFloat (string key b)) ∧
    (∀ (formatFloat : FieldType → Int → String) (type : FieldType) (key : String) (a b : Int),
      type ∈ [.int64Type, .int32Type, .int16Type, .int8Type] → a ≠ b →
      fieldToString formatFloat (signed type key a) ≠ fieldToString formatFloat (signed type key b)) ∧
    (∀ (formatFloat : FieldType → Int → String) (type : FieldType) (key : String) (a b : Nat),
      type ∈ [.uint64Type, .uint32Type, .uint16Type, .uint8Type] → a < 2 ^ 64 → b < 2 ^ 64 → a ≠ b →
      fieldToString formatFloat (unsigned type key a) ≠ fieldToString formatFloat (unsigned type key b)) ∧
    (∀ (formatFloat : FieldType → Int → String) (key : String) (a b : Bool), a ≠ b →
      fieldToString formatFloat (bool key a) ≠ fieldToString formatFloat (bool key b)) ∧
    (∀ (formatFloat : FieldType → Int → String) (key : String) (d : Int) (t : Int) (msg : String),
      fieldToString formatFloat (duration key d) = "" ∧ fieldToString formatFloat (time key t) = "" ∧
      fieldToString formatFloat (error msg) = "") ∧
    (∀ (formatFloat : FieldType → Int → String) (timestamp : String) (validJSON : Bool) (c : Core)
      (entry : Entry) (key : String) (d d' : Int),
      c.write formatFloat timestamp validJSON entry [duration key d] =
        c.write formatFloat timestamp validJSON entry [duration key d']) := by
  refine ⟨fun _ _ _ _ h => h, fun ff type key a b ht h => ?_, fun ff type key a b ht ha hb h => ?_,
    fun _ _ a b h => ?_, fun _ _ _ _ _ => ⟨rfl, rfl, rfl⟩, fun _ _ _ _ _ _ _ _ => rfl⟩
  · rw [fieldToString_signed ff ht, fieldToString_signed ff ht]
    exact fun h' => h (formatInt_injective h')
  · rw [fieldToString_unsigned ff ht key ha, fieldToString_unsigned ff ht key hb]
    exact fun h' => h (formatUint_injective h')
  · cases a <;> cases b <;> simp_all [fieldToString, bool, formatBool]

/-- `zap.Int32("n", 1)` against `zap.Int32("n", 2)`, and `zap.Uint64("n", 2^64 - 1)` against
`zap.Uint64("n", 0)`, with any `FormatFloat`; `zap.Duration("timeout", 30s)`, as the SDK's
example logs it, against one second. -/
theorem fieldToString_loses_values_examples :
    fieldToString (fun _ _ => "") (int32 "n" 1) ≠ fieldToString (fun _ _ => "") (int32 "n" 2) ∧
    fieldToString (fun _ _ => "") (uint64 "n" (2 ^ 64 - 1)) ≠ fieldToString (fun _ _ => "") (uint64 "n" 0) ∧
    (newCore "app" 0).write (fun _ _ => "") "2024-01-01T00:00:00Z" false ⟨0, "retry", none, "", ""⟩
        [duration "timeout" (30 * second)] =
      (newCore "app" 0).write (fun _ _ => "") "2024-01-01T00:00:00Z" false ⟨0, "retry", none, "", ""⟩
        [duration "timeout" second] :=
  ⟨fieldToString_loses_values.2.1 _ _ _ _ _ (by decide) (by decide),
    fieldToString_loses_values.2.2.1 _ _ _ _ _ (by decide) (by decide) (by decide) (by decide),
    fieldToString_loses_values.2.2.2.2.2 _ _ _ _ _ _ _ _⟩

/-! ## The metadata of `Write` -/

/-- The metadata pairs `Write` takes from the entry itself, before any field: the caller, the
stack and the logger name, each when present. -/
def Entry.header (entry : Entry) : List (String × String) :=
  (entry.caller.map fun caller => ("caller", caller)).toList ++
    (if entry.stack ≠ "" then [("stack", entry.stack)] else []) ++
    (if entry.loggerName ≠ "" then [("logger", entry.loggerName)] else [])

/-- A core built by `NewCore` and a sequence of `With` calls. -/
def buildCore (source : String) (level : Int) (withs : List (List Field)) : Core :=
  withs.foldl (fun c fields => c.withFields fields) (newCore source level)

theorem foldl_withFields_contextFields :
    ∀ (withs : List (List Field)) (c : Core),
      (withs.foldl (fun c fields => c.withFields fields) c).contextFields = c.contextFields ++ withs.flatten
  | [], c => (List.append_nil _).symm
  | fs :: withs, c => by
    rw [List.foldl_cons, foldl_withFields_contextFields withs, Core.withFields, List.flatten_cons,
      List.append_assoc]

theorem buildCore_contextFields (source : String) (level : Int) (withs : List (List Field)) :
    (buildCore source level withs).contextFields = withs.flatten := by
  rw [buildCore, foldl_withFields_contextFields]; rfl

theorem write_eq (formatFloat : FieldType → Int → String) (timestamp : String) (validJSON : Bool)
    (c : Core) (entry : Entry) (fields : List Field) :
    c.write formatFloat timestamp validJSON entry fields =
      (entry.header ++ (c.contextFields ++ fields).map fun f => (f.key, fieldToString formatFloat f)).foldl
        (fun e p => e.withMetadata p.1 p.2)
        ((newLogEntry timestamp validJSON entry.message c.source).withLogLevel (convertLevel entry.level)) := by
  rw [Core.write, List.foldl_append, List.map_append, List.foldl_append, List.foldl_map, List.foldl_map]
  congr 2
  rcases entry with ⟨level, message, caller, stack, loggerName⟩
  rcases caller with _ | caller <;> by_cases hs : stack = "" <;> by_cases hl : loggerName = "" <;>
    simp [Entry.header, hs, hl]

/-- **`Write`'s metadata, for every core, entry and field list**: the last writer of a key
wins. -/
theorem write_metadata (formatFloat : FieldType → Int → String) (timestamp : String)
    (validJSON : Bool) (source : String) (level : Int) (withs : List (List Field)) (entry : Entry)
    (fields : List Field) (k : String) :
    ((buildCore source level withs).write formatFloat timestamp validJSON entry fields).metadata.entries.lookup k =
      if k = "" then none
      else (((entry.header ++ (withs.flatten ++ fields).map fun f => (f.key, fieldToString formatFloat f)).reverse.find?
        fun p => p.1 = k).map Prod.snd) := by
  rw [write_eq, buildCore_contextFields, lookup_foldl_withMetadata Prod.fst Prod.snd]
  by_cases hk : k = "" <;> simp [hk, withLogLevel, newLogEntry, Meta.empty]

end LogFlux.Zap
