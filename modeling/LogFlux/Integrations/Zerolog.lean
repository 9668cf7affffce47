import LogFlux.Integrations.Fields

/-!
# LogFlux.Integrations.Zerolog — the zerolog writer (`integrations/zerolog`)

`Writer` keeps the source; the batch client it sends to is left out.  `Write(p)` trims the line,
asks `json.Unmarshal` for a `map[string]interface{}` and sends one entry built from it, or the
trimmed line as plain text when it is not a JSON object.  The answers of `json.Unmarshal` and
`AutoDetectPayloadType`, the clock and the iteration order of each map are the arguments
`unmarshal`, `validJSON`, `now` and `order`; the text is taken to be valid UTF-8.  A line
`null` unmarshals into a nil map, which is the empty `AnyMap`.

* `write_json`: for every line and every iteration order `Write` returns `len(p)` and sends the
  same entry; from a JSON object, the string fields `message`, `level` and `time` give its
  payload, level and timestamp, and every other non-empty key goes into its metadata.  A
  standard field that is not a string is dropped: a `time` written as a Unix number
  (`zerolog.TimeFormatUnix`) leaves the writer's clock as the timestamp and is stored nowhere.
-/

namespace LogFlux.Zerolog

open LogEntry

/-- `Writer`: the source. -/
structure Writer where
  source : String
  deriving DecidableEq, Repr

/-- `NewWriter(client, source)`: `zerolog` for an empty source. -/
def newWriter (source : String) : Writer := ⟨if source = "" then "zerolog" else source⟩

/-- `unicode.IsSpace`: `'\t'`, `'\n'`, `'\v'`, `'\f'`, `'\r'`, `' '`, U+0085 and U+00A0 in
Latin-1, and above it the other characters of Unicode's `White_Space`. -/
def isSpace (c : Char) : Bool :=
  c = '\t' || c = '\n' || c = '\x0b' || c = '\x0c' || c = '\r' || c = ' ' || c.toNat = 0x85 ||
    c.toNat = 0xA0 || c.toNat = 0x1680 || (0x2000 ≤ c.toNat && c.toNat ≤ 0x200A) ||
    c.toNat = 0x2028 || c.toNat = 0x2029 || c.toNat = 0x202F || c.toNat = 0x205F ||
    c.toNat = 0x3000

/-- `strings.TrimSpace(s)`. -/
def trimSpace (s : String) : String :=
  ⟨((s.toList.dropWhile isSpace).reverse.dropWhile isSpace).reverse⟩

/-- `unicode.ToLower` on the letters that `convertLevel`'s comparisons can see: `A`–`Z`, and
the two letters above ASCII that it lowers into ASCII, `İ` (U+0130) to `i` and the Kelvin sign
(U+212A) to `k`.  Every other letter it lowers to a letter above ASCII, which no level name
holds. -/
def toLower (c : Char) : Char :=
  if c.toNat = 0x130 then 'i' else if c.toNat = 0x212A then 'k' else c.toLower

/-- `zerolog.MessageFieldName`, `zerolog.LevelFieldName`, `zerolog.TimestampFieldName`, at their
defaults. -/
def messageFieldName : String := "message"
def levelFieldName : String := "level"
def timestampFieldName : String := "time"

/-- The keys the metadata loop passes over. -/
def isStandardField (key : String) : Bool :=
  key = messageFieldName || key = levelFieldName || key = timestampFieldName

/-- `extractString(data, key, defaultValue)`: `data[key]` when it is a string. -/
def extractString (data : AnyMap) (key defaultValue : String) : String :=
  match data.get? key with
  | some (.str s) => s
  | _ => defaultValue

/-- `convertLevel`: the level name, lowered, onto the syslog levels; an unknown name to
`LevelInfo`. -/
def convertLevel (level : String) : Int :=
  let l := level.map toLower
  if l = "trace" then 8 else if l = "debug" then 8 else if l = "info" then 7
  else if l = "warn" then 5 else if l = "error" then 4 else if l = "fatal" then 2
  else if l = "panic" then 1 else 7

/-- `formatValue`: `<nil>` for nil, the string, `true` or `false`, else `json.Marshal(v)`, or
`<invalid>` when it fails. -/
def formatValue : Any → String
  | .nil => "<nil>"
  | .str s => s
  | .bool b => if b then "true" else "false"
  | .other _ json => json.getD "<invalid>"

/-- What the metadata loop stores for a value: the string itself, else `formatValue(value)`. -/
def valueText : Any → String
  | .str s => s
  | v => formatValue v

namespace Writer

/-- The entry `Write` builds from a line that `json.Unmarshal` reads as `logData`, the range
visiting its pairs in the order `order`. -/
def fromJSON (now : String) (validJSON : String → Bool) (w : Writer) (logData : AnyMap)
    (order : List (String × Any)) : LogEntry :=
  let logMessage := extractString logData messageFieldName ""
  let entry := (newLogEntry now (validJSON logMessage) logMessage w.source).withLogLevel
    (convertLevel (extractString logData levelFieldName "info"))
  let timestamp := extractString logData timestampFieldName ""
  let entry := if timestamp ≠ "" then entry.withTimestampString timestamp else entry
  rangeMetadata isStandardField valueText order entry

/-- `Write(p)`: the byte count it returns, `len(p)` with a nil error on every path, and the entry
it passes to `SendLogEntry`, if any. -/
def write (now : String) (validJSON : String → Bool) (unmarshal : String → Option AnyMap)
    (order : AnyMap → List (String × Any)) (w : Writer) (p : String) : Nat × Option LogEntry :=
  let message := trimSpace p
  if message = "" then (p.utf8ByteSize, none)
  else
    match unmarshal message with
    | none => (p.utf8ByteSize, some (newLogEntry now (validJSON message) message w.source))
    | some logData => (p.utf8ByteSize, some (w.fromJSON now validJSON logData (order logData)))

variable {now : String} {validJSON : String → Bool}

theorem convertLevel_valid (level : String) : ¬(convertLevel level < 1 ∨ 8 < convertLevel level) := by
  show (fun x : Int => ¬(x < 1 ∨ 8 < x)) (convertLevel level)
  unfold convertLevel
  simp only [apply_ite (fun x : Int => ¬(x < 1 ∨ 8 < x))]
  simp

theorem fromJSON_fields (w : Writer) (logData : AnyMap) (order : List (String × Any)) :
    (w.fromJSON now validJSON logData order).payload = extractString logData messageFieldName "" ∧
      (w.fromJSON now validJSON logData order).logLevel.val =
        convertLevel (extractString logData levelFieldName "info") ∧
      (w.fromJSON now validJSON logData order).timestamp =
        if extractString logData timestampFieldName "" = "" then now
        else extractString logData timestampFieldName "" := by
  rw [fromJSON, rangeMetadata_frame]
  by_cases ht : extractString logData timestampFieldName "" = "" <;>
    simp [ht, withLogLevel, convertLevel_valid, newLogEntry, withTimestampString]

/-- The metadata built from `logData`: every non-standard, non-empty key of the map, with its
value's text. -/
theorem lookup_fromJSON (w : Writer) (logData : AnyMap) {order : List (String × Any)}
    (hp : order.Perm logData.entries) (k : String) :
    (w.fromJSON now validJSON logData order).metadata.entries.lookup k =
      if k = "" ∨ isStandardField k = true then none else (logData.get? k).map valueText := by
  have hk := (hp.map Prod.fst).nodup_iff.mpr logData.nodup
  rw [fromJSON, lookup_rangeMetadata _ _ k hk, lookup_perm hp hk, AnyMap.get?]
  split <;> split <;> simp [withLogLevel, withTimestampString, newLogEntry, Meta.empty]

/-- **`Write` for every line and every iteration order**: a standard field that is not a string
is dropped, so a Unix `time` is stored nowhere. -/
theorem write_json {unmarshal : String → Option AnyMap} {order order' : AnyMap → List (String × Any)}
    (hord : ∀ m, (order m).Perm m.entries) (hord' : ∀ m, (order' m).Perm m.entries) (w : Writer)
    (p : String) :
    w.write now validJSON unmarshal order p = w.write now validJSON unmarshal order' p ∧
      (w.write now validJSON unmarshal order p).1 = p.utf8ByteSize ∧
      ∀ logData, trimSpace p ≠ "" → unmarshal (trimSpace p) = some logData →
        ∃ e, (w.write now validJSON unmarshal order p).2 = some e ∧
          e.payload = extractString logData messageFieldName "" ∧
          e.logLevel.val = convertLevel (extractString logData levelFieldName "info") ∧
          e.timestamp = (if extractString logData timestampFieldName "" = "" then now
            else extractString logData timestampFieldName "") ∧
          ∀ k, e.metadata.entries.lookup k =
            if k = "" ∨ isStandardField k = true then none else (logData.get? k).map valueText := by
  refine ⟨?_, ?_, fun logData hp hu => ⟨_, by dsimp only [write]; rw [if_neg hp, hu], ?_⟩⟩
  · dsimp only [write]
    split
    · rfl
    · rcases unmarshal (trimSpace p) with _ | m
      · rfl
      · have hk := ((hord m).map Prod.fst).nodup_iff.mpr m.nodup
        exact congrArg (fun e => (p.utf8ByteSize, some e))
          (rangeMetadata_perm _ _ ((hord m).trans (hord' m).symm) hk _)
  · dsimp only [write]; split <;> [rfl; split <;> rfl]
  · exact ⟨(fromJSON_fields w logData _).1, (fromJSON_fields w logData _).2.1,
      (fromJSON_fields w logData _).2.2, lookup_fromJSON w logData (hord logData)⟩

end Writer

/-- A zerolog line with `zerolog.TimeFieldFormat = zerolog.TimeFormatUnix`. -/
def unixLine : String :=
  "\x7b\"level\":\"warn\",\"time\":1700000000,\"message\":\"disk low\"\x7d\n"

/-- What `json.Unmarshal` reads from `unixLine`: the time is a `float64`. -/
def unixData : AnyMap :=
  ⟨[("level", .str "warn"), ("time", .other "1.7e+09" (some "1700000000")), ("message", .str "disk low")],
    by decide⟩

/-- `Write(unixLine)`, with the pairs ranged over in their order and in reverse. -/
theorem write_json_unix :
    (∀ m : AnyMap, m.entries.Perm m.entries) ∧ (∀ m : AnyMap, m.entries.reverse.Perm m.entries) ∧
      ((newWriter "").write "2024-01-01T00:00:00Z" (fun _ => false) (fun _ => some unixData)
          AnyMap.entries unixLine =
        (newWriter "").write "2024-01-01T00:00:00Z" (fun _ => false) (fun _ => some unixData)
          (fun m => m.entries.reverse) unixLine ∧
      ((newWriter "").write "2024-01-01T00:00:00Z" (fun _ => false) (fun _ => some unixData)
          AnyMap.entries unixLine).1 = unixLine.utf8ByteSize ∧
      ∀ logData, trimSpace unixLine ≠ "" → some unixData = some logData →
        ∃ e, ((newWriter "").write "2024-01-01T00:00:00Z" (fun _ => false) (fun _ => some unixData)
            AnyMap.entries unixLine).2 = some e ∧
          e.payload = extractString logData messageFieldName "" ∧
          e.logLevel.val = convertLevel (extractString logData levelFieldName "info") ∧
          e.timestamp = (if extractString logData timestampFieldName "" = "" then "2024-01-01T00:00:00Z"
            else extractString logData timestampFieldName "") ∧
          ∀ k, e.metadata.entries.lookup k =
            if k = "" ∨ isStandardField k = true then none else (logData.get? k).map valueText) :=
  ⟨fun _ => .refl _, fun _ => List.reverse_perm _,
    Writer.write_json (fun _ => .refl _) (fun _ => List.reverse_perm _) (newWriter "") unixLine⟩

example : ((newWriter "").write "2024-01-01T00:00:00Z" (fun _ => false) (fun _ => some unixData)
    AnyMap.entries unixLine).2.map (fun e => (e.payload, e.timestamp, e.metadata.entries)) =
      some ("disk low", "2024-01-01T00:00:00Z", []) := by decide


end LogFlux.Zerolog
