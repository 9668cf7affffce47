import LogFlux.Entry

/-!
# LogFlux.Integrations.Slog — the `log/slog` handler (`integrations/slog`)

`Handler` keeps the source and the attributes of its `WithAttrs` calls; the batch client it
sends to is the same for every handler derived from it and is left out.  An attribute is its
key and the text `attr.Value.String()` gives.  `Handle` returns the entry it passes to
`client.SendLogEntry`, built at the time `timestamp`, `validJSON` saying whether the message
is JSON.  A handler is built by `NewHandler` and a list of `WithAttrs`/`WithGroup` calls.

* `build_attrs`, `build_source`: the calls only append attributes, and each group name only
  extends the source.
* `handle_metadata_keys`: the entry's metadata maps every non-empty attribute key, unqualified,
  to the value of its last attribute, the handler's after the record's; a group adds `.name`
  to the source, an empty one too.
-/

namespace LogFlux.Slog

open LogEntry

/-- A `slog.Attr`: its key and `Value.String()`. -/
structure Attr where
  key : String
  value : String
  deriving DecidableEq, Repr

/-- The fields of a `slog.Record` that `Handle` reads. -/
structure Record where
  message : String
  level : Int
  attrs : List Attr
  deriving DecidableEq, Repr

/-- `Handler`: the source and the attributes of `WithAttrs`. -/
structure Handler where
  source : String
  attrs : List Attr
  deriving DecidableEq, Repr

/-- `NewHandler(client, source)`: `slog` for an empty source. -/
def newHandler (source : String) : Handler := ⟨if source = "" then "slog" else source, []⟩

/-- `convertLevel`: `slog.LevelError` (8) and above is `LevelError`, from `LevelWarn` (4)
`LevelWarning`, from `LevelInfo` (0) `LevelInfo`, below it `LevelDebug`. -/
def convertLevel (level : Int) : Int :=
  if 8 ≤ level then 4 else if 4 ≤ level then 5 else if 0 ≤ level then 7 else 8

namespace Handler

/-- `WithAttrs(attrs)`: the handler's attributes, then `attrs`. -/
def withAttrs (attrs : List Attr) (h : Handler) : Handler := { h with attrs := h.attrs ++ attrs }

/-- `WithGroup(name)`: `h.source + "." + name`, the attributes unchanged. -/
def withGroup (name : String) (h : Handler) : Handler := { h with source := h.source ++ "." ++ name }

/-- `Handle(ctx, record)`: the entry passed to `SendLogEntry`.  `WithMetadata(attr.Key,
attr.Value.String())` for the record's attributes, then for the handler's. -/
def handle (timestamp : String) (validJSON : Bool) (h : Handler) (r : Record) : LogEntry :=
  h.attrs.foldl (fun e a => e.withMetadata a.key a.value)
    (r.attrs.foldl (fun e a => e.withMetadata a.key a.value)
      ((newLogEntry timestamp validJSON r.message h.source).withLogLevel (convertLevel r.level)))

end Handler

/-- A call that derives a handler. -/
inductive Call where
  | withAttrs (attrs : List Attr)
  | withGroup (name : String)
  deriving DecidableEq, Repr

def Call.apply (h : Handler) : Call → Handler
  | .withAttrs attrs => h.withAttrs attrs
  | .withGroup name => h.withGroup name

def Call.attrs : Call → List Attr
  | .withAttrs attrs => attrs
  | .withGroup _ => []

/-- What calls append to the source: `.name` for each `WithGroup(name)`. -/
def groupSuffix : List Call → String
  | [] => ""
  | .withAttrs _ :: calls => groupSuffix calls
  | .withGroup name :: calls => "." ++ name ++ groupSuffix calls

/-- `NewHandler(client, source)` then `calls`. -/
def build (source : String) (calls : List Call) : Handler := calls.foldl Call.apply (newHandler source)

/-! ## The handler's state -/

theorem groupSuffix_append_group (calls : List Call) (name : String) :
    groupSuffix (calls ++ [.withGroup name]) = groupSuffix calls ++ "." ++ name := by
  induction calls with
  | nil => exact String.append_empty _
  | cons c calls ih => cases c <;> simp [groupSuffix, ih, String.append_assoc]

theorem foldl_apply (h : Handler) (calls : List Call) :
    calls.foldl Call.apply h = ⟨h.source ++ groupSuffix calls, h.attrs ++ calls.flatMap Call.attrs⟩ := by
  induction calls generalizing h with
  | nil => simp [groupSuffix, String.append_empty]
  | cons c calls ih =>
    rw [List.foldl_cons, ih]
    cases c <;> simp [Call.apply, groupSuffix, Call.attrs, Handler.withAttrs, Handler.withGroup,
      String.append_assoc]

theorem build_attrs (source : String) (calls : List Call) :
    (build source calls).attrs = calls.flatMap Call.attrs := by
  simp [build, foldl_apply, newHandler]

theorem build_source (source : String) (calls : List Call) :
    (build source calls).source = (newHandler source).source ++ groupSuffix calls := by
  simp [build, foldl_apply]

theorem build_source_ne (source : String) (calls : List Call) : (build source calls).source ≠ "" := by
  rw [build_source]
  intro h
  have hd : (newHandler source).source.data = [] := (List.append_eq_nil.mp (congrArg String.data h)).1
  unfold newHandler at hd
  by_cases hs : source = ""
  · rw [if_pos hs] at hd; exact absurd hd (by decide)
  · rw [if_neg hs] at hd; exact hs (String.ext hd)

/-! ## `Handle` -/

theorem handle_eq (timestamp : String) (validJSON : Bool) (h : Handler) (r : Record) :
    h.handle timestamp validJSON r =
      (r.attrs ++ h.attrs).foldl (fun e a => e.withMetadata a.key a.value)
        ((newLogEntry timestamp validJSON r.message h.source).withLogLevel (convertLevel r.level)) := by
  rw [Handler.handle, List.foldl_append]

theorem handle_source (timestamp : String) (validJSON : Bool) (source : String) (calls : List Call)
    (r : Record) :
    ((build source calls).handle timestamp validJSON r).source = (build source calls).source := by
  have hne := build_source_ne source calls
  rw [handle_eq]
  induction (r.attrs ++ (build source calls).attrs) using List.reverseRecOn with
  | nil => simp [withLogLevel, newLogEntry, hne]
  | append_singleton l a ih =>
    rw [List.foldl_append, List.foldl_cons, List.foldl_nil]
    obtain ⟨m, hm⟩ := withMetadata_eq a.key a.value (l.foldl (fun e a => e.withMetadata a.key a.value) _)
    rw [hm]; exact ih

/-- **`Handle` for every handler and record**: groups change the source, never a key. -/
theorem handle_metadata_keys :
    (∀ (timestamp : String) (validJSON : Bool) (source : String) (calls : List Call) (r : Record)
      (k : String),
      ((build source calls).handle timestamp validJSON r).metadata.entries.lookup k =
        if k = "" then none
        else ((r.attrs ++ calls.flatMap Call.attrs).reverse.find? fun a => a.key = k).map Attr.value) ∧
    (∀ (timestamp : String) (validJSON : Bool) (source : String) (calls : List Call) (r : Record),
      ((build source calls).handle timestamp validJSON r).source =
        (newHandler source).source ++ groupSuffix calls) ∧
    (∀ (timestamp : String) (validJSON : Bool) (source : String) (calls : List Call) (r : Record),
      ((build source (calls ++ [.withGroup ""])).handle timestamp validJSON r).source =
        ((build source calls).handle timestamp validJSON r).source ++ ".") ∧
    ((build "app" [.withGroup "g", .withAttrs [⟨"k", "v"⟩]]).handle "2024-01-01T00:00:00Z" false
      ⟨"hello", 0, []⟩).metadata.entries = [("k", "v")] := by
  refine ⟨fun timestamp validJSON source calls r k => ?_, fun timestamp validJSON source calls r => ?_,
    fun timestamp validJSON source calls r => ?_, rfl⟩
  · rw [handle_eq, lookup_foldl_withMetadata, build_attrs]
    by_cases hk : k = "" <;> simp [hk, withLogLevel, newLogEntry, Meta.empty]
  · rw [handle_source, build_source]
  · rw [handle_source, handle_source, build_source, build_source, groupSuffix_append_group,
      String.append_empty, String.append_assoc]

end LogFlux.Slog
