import LogFlux.Integrations.Fields

/-!
# LogFlux.Integrations.Logrus — the logrus hook (`integrations/logrus`)

`Hook` keeps the source; the batch client it sends to is left out.  `Fire` returns the entry it
passes to `client.SendLogEntry`, built at the time `timestamp`, `validJSON` saying whether the
message is JSON, the range over `entry.Data` visiting its pairs in the order `order`.

* `fire_metadata`: for every entry and every order of the range `Fire` sends the same entry,
  whose metadata maps each non-empty key of `Data` to its value's text.
-/

namespace LogFlux.Logrus

open LogEntry

/-- `Hook`: the source. -/
structure Hook where
  source : String
  deriving DecidableEq, Repr

/-- `NewHook(client, source)`: `logrus` for an empty source. -/
def newHook (source : String) : Hook := ⟨if source = "" then "logrus" else source⟩

/-- The fields of a `logrus.Entry` that `Fire` reads; `level` is the `logrus.Level`, from
`PanicLevel` (0) to `TraceLevel` (6). -/
structure Entry where
  level : Nat
  message : String
  data : AnyMap

/-- `convertLevel`: `PanicLevel` to `LevelEmergency`, `FatalLevel` to `LevelAlert`, then
`LevelError`, `LevelWarning`, `LevelInfo`, and `DebugLevel` and `TraceLevel` to `LevelDebug`;
any other level to `LevelInfo`. -/
def convertLevel (level : Nat) : Int :=
  if level = 0 then 1 else if level = 1 then 2 else if level = 2 then 4 else if level = 3 then 5
  else if level = 4 then 7 else if level = 5 then 8 else if level = 6 then 8 else 7

/-- `formatValue`: `<nil>` for nil, else `fmt.Sprintf("%v", value)`. -/
def formatValue : Any → String
  | .nil => "<nil>"
  | .str s => s
  | .bool b => if b then "true" else "false"
  | .other text _ => text

/-- What `Fire` stores for a value: the string itself, else `formatValue(value)`. -/
def valueText : Any → String
  | .str s => s
  | v => formatValue v

/-- `Fire(entry)`: the entry passed to `SendLogEntry`. -/
def Hook.fire (timestamp : String) (validJSON : Bool) (h : Hook) (entry : Entry)
    (order : List (String × Any)) : LogEntry :=
  rangeMetadata (fun _ => false) valueText order
    ((newLogEntry timestamp validJSON entry.message h.source).withLogLevel (convertLevel entry.level))

/-- **`Fire` for every entry and every iteration order** of the range over `entry.Data`. -/
theorem fire_metadata (timestamp : String) (validJSON : Bool) (h : Hook) (entry : Entry)
    {order : List (String × Any)} (hp : order.Perm entry.data.entries) :
    h.fire timestamp validJSON entry order = h.fire timestamp validJSON entry entry.data.entries ∧
      ∀ k, (h.fire timestamp validJSON entry order).metadata.entries.lookup k =
        if k = "" then none else (entry.data.get? k).map valueText := by
  have hsame : h.fire timestamp validJSON entry order = h.fire timestamp validJSON entry entry.data.entries :=
    rangeMetadata_perm _ _ hp ((hp.map Prod.fst).nodup_iff.mpr entry.data.nodup) _
  refine ⟨hsame, fun k => ?_⟩
  rw [hsame, Hook.fire, lookup_rangeMetadata _ _ k entry.data.nodup]
  by_cases hk : k = "" <;> simp [hk, withLogLevel, newLogEntry, Meta.empty, AnyMap.get?]

/-- `log.WithFields({"user": "ann", "attempt": 3})`. -/
def loginData : AnyMap := ⟨[("user", .str "ann"), ("attempt", .other "3" (some "3"))], by decide⟩

/-- `Fire` on `loginData`, the range visiting `attempt` first. -/
theorem fire_metadata_swap :
    [("attempt", .other "3" (some "3")), ("user", .str "ann")].Perm loginData.entries ∧
      ((newHook "").fire "2024-01-01T00:00:00Z" false ⟨4, "login", loginData⟩
          [("attempt", .other "3" (some "3")), ("user", .str "ann")] =
        (newHook "").fire "2024-01-01T00:00:00Z" false ⟨4, "login", loginData⟩ loginData.entries ∧
      ∀ k, ((newHook "").fire "2024-01-01T00:00:00Z" false ⟨4, "login", loginData⟩
          [("attempt", .other "3" (some "3")), ("user", .str "ann")]).metadata.entries.lookup k =
        if k = "" then none else (loginData.get? k).map valueText) :=
  ⟨List.Perm.swap _ _ _, fire_metadata _ _ _ ⟨4, "login", loginData⟩ (List.Perm.swap _ _ _)⟩

end LogFlux.Logrus
