import LogFlux.Types

/-!
# LogFlux.Entry — the `LogEntry` builders (`pkg/types`)

`NewLogEntry`, `WithLogLevel`, `WithMetadata` and `WithAllMetadata`.  `NewLogEntry` reads the
clock and asks `json.Unmarshal` whether the payload is JSON; both answers are its arguments.
A `range` over a Go map visits the pairs in an order the runtime picks: `setAll` takes that
order as a list of the map's pairs, and `withAllMetadata` uses the key order.

* `insertKV_comm`: setting two different keys commutes, so `setAll_perm`: setting the pairs of
  a map gives the same map in every order.
* `lookup_insertKV`, `lookup_foldl_withMetadata`: after a sequence of `WithMetadata` calls, a
  non-empty key maps to the value of its last call.
* `withAllMetadata_agreement`: `WithAllMetadata(m)` agrees with one `WithMetadata` call per
  pair of `m`, in any order, when `m` has no empty key; with the map `{"": v}` it does not.
-/

namespace LogFlux

/-! ## Setting keys -/

theorem insertKV_comm_of_lt {k k' : String} (v v' : String) (h : k < k') :
    ∀ l, insertKV k v (insertKV k' v' l) = insertKV k' v' (insertKV k v l)
  | [] => by rw [insertKV, insertKV, insertKV_cons_of_lt h, insertKV_cons_of_gt h]; rfl
  | (a, b) :: rest => by
    rcases lt_trichotomy a k' with ha | rfl | ha
    · rcases lt_trichotomy a k with hb | rfl | hb
      · rw [insertKV_cons_of_gt ha, insertKV_cons_of_gt hb, insertKV_cons_of_gt hb,
          insertKV_cons_of_gt ha, insertKV_comm_of_lt v v' h rest]
      · rw [insertKV_cons_of_gt ha, insertKV_cons_self, insertKV_cons_self, insertKV_cons_of_gt h]
      · rw [insertKV_cons_of_gt ha, insertKV_cons_of_lt hb, insertKV_cons_of_lt hb,
          insertKV_cons_of_gt h, insertKV_cons_of_gt ha]
    · rw [insertKV_cons_self, insertKV_cons_of_lt h, insertKV_cons_of_lt h, insertKV_cons_of_gt h,
        insertKV_cons_self]
    · rw [insertKV_cons_of_lt ha, insertKV_cons_of_lt (h.trans ha), insertKV_cons_of_lt h,
        insertKV_cons_of_gt h, insertKV_cons_of_lt ha]

theorem insertKV_comm {k k' : String} (v v' : String) (h : k ≠ k') (l : List (String × String)) :
    insertKV k v (insertKV k' v' l) = insertKV k' v' (insertKV k v l) :=
  (lt_or_gt_of_ne h).elim (fun h => insertKV_comm_of_lt v v' h l)
    fun h => (insertKV_comm_of_lt v' v h l).symm

theorem lookup_cons {β : Type} (a k : String) (v : β) (l : List (String × β)) :
    ((k, v) :: l).lookup a = if a = k then some v else l.lookup a := by
  rw [List.lookup_cons]
  by_cases h : a = k
  · simp [h]
  · simp [h, beq_eq_false_iff_ne.mpr h]

theorem lookup_insertKV (k v a : String) :
    ∀ l : List (String × String), (insertKV k v l).lookup a = if a = k then some v else l.lookup a
  | [] => by rw [insertKV, lookup_cons]
  | (k', v') :: rest => by
    rcases lt_trichotomy k k' with h | rfl | h
    · rw [insertKV_cons_of_lt h, lookup_cons, lookup_cons]
    · rw [insertKV_cons_self, lookup_cons, lookup_cons]
      by_cases ha : a = k <;> simp [ha]
    · rw [insertKV_cons_of_gt h, lookup_cons, lookup_cons, lookup_insertKV k v a rest]
      by_cases ha : a = k'
      · subst ha; simp [ne_of_lt h]
      · simp [ha]

namespace Meta

theorem insert_comm {k k' : String} (v v' : String) (h : k ≠ k') (m : Meta) :
    (m.insert k' v').insert k v = (m.insert k v).insert k' v' :=
  ext (insertKV_comm v v' h m.entries)

theorem eq_of_key_eq (m : Meta) {x y : String × String} (hx : x ∈ m.entries) (hy : y ∈ m.entries)
    (h : x.1 = y.1) : x = y := by
  have key : ∀ {l : List (String × String)}, l.Pairwise (fun a b => a.1 < b.1) → x ∈ l → y ∈ l →
      x = y := by
    intro l hl
    induction hl with
    | nil => exact fun hx => absurd hx (List.not_mem_nil x)
    | @cons p l hp _ ih =>
      intro hx hy
      rcases List.mem_cons.mp hx with rfl | hx' <;> rcases List.mem_cons.mp hy with rfl | hy'
      · rfl
      · exact absurd h (ne_of_lt (hp y hy'))
      · exact absurd h.symm (ne_of_lt (hp x hx'))
      · exact ih hx' hy'
  exact key m.sorted hx hy

end Meta

/-- `for k, v := range metadata { newMetadata[k] = v }`, the range visiting the pairs in the
order `order`, into `m`. -/
def setAll (order : List (String × String)) (m : Meta) : Meta :=
  order.foldl (fun m p => m.insert p.1 p.2) m

/-- **A map's pairs set in any order give the same map.** -/
theorem setAll_perm {order order' : List (String × String)} (hp : order.Perm order')
    (hkey : ∀ x ∈ order, ∀ y ∈ order, x.1 = y.1 → x = y) (m : Meta) :
    setAll order m = setAll order' m :=
  hp.foldl_eq' (fun x hx y hy z => by
    by_cases h : x.1 = y.1
    · rw [hkey x hx y hy h]
    · exact Meta.insert_comm _ _ (Ne.symm h) _) m

/-! ## The builders -/

namespace LogEntry

/-- `NewLogEntry(payload, source)` at the time `timestamp` (RFC 3339), `validJSON` saying
whether `json.Unmarshal` accepts the payload (`AutoDetectPayloadType`): version `1.0`,
`TypeLog`, `LevelInfo`, an empty map, and `unknown` for an empty source. -/
def newLogEntry (timestamp : String) (validJSON : Bool) (payload source : String) : LogEntry where
  metadata := Meta.empty
  version := defaultProtocolVersion
  payload := payload
  source := if source = "" then "unknown" else source
  timestamp := timestamp
  payloadType := if validJSON then "generic_json" else "generic"
  entryType := ⟨1, by decide, by decide⟩
  logLevel := ⟨7, by decide, by decide⟩

/-- `WithLogLevel(logLevel)`: a level outside `[LevelEmergency, LevelDebug]` becomes
`LevelInfo`. -/
def withLogLevel (logLevel : Int) (e : LogEntry) : LogEntry :=
  { e with
    logLevel :=
      if h : logLevel < 1 ∨ 8 < logLevel then ⟨7, by decide, by decide⟩
      else ⟨logLevel, by omega, by omega⟩ }

/-- `WithMetadata(key, value)`: skip an empty key, else copy the map and set the key. -/
def withMetadata (key value : String) (e : LogEntry) : LogEntry :=
  if key = "" then e else { e with metadata := e.metadata.insert key value }

/-- `WithTimestampString(timestamp)`. -/
def withTimestampString (timestamp : String) (e : LogEntry) : LogEntry := { e with timestamp := timestamp }

/-- `WithAllMetadata(metadata)`: copy `e.Metadata`, then set every pair of `metadata`, here in
key order (`setAll_perm`: any order gives the same map). -/
def withAllMetadata (metadata : Meta) (e : LogEntry) : LogEntry :=
  { e with metadata := setAll metadata.entries e.metadata }

@[simp] theorem withMetadata_empty (value : String) (e : LogEntry) : e.withMetadata "" value = e :=
  if_pos rfl

theorem withMetadata_of_ne {key : String} (value : String) (e : LogEntry) (h : key ≠ "") :
    e.withMetadata key value = { e with metadata := e.metadata.insert key value } :=
  if_neg h

theorem withMetadata_eq (key value : String) (e : LogEntry) :
    ∃ m, e.withMetadata key value = { e with metadata := m } := by
  by_cases h : key = ""
  · exact ⟨e.metadata, by rw [h, withMetadata_empty]⟩
  · exact ⟨_, withMetadata_of_ne value e h⟩

theorem withMetadata_comm {k k' : String} (v v' : String) (h : k ≠ k') (e : LogEntry) :
    (e.withMetadata k v).withMetadata k' v' = (e.withMetadata k' v').withMetadata k v := by
  by_cases hk : k = ""
  · simp only [hk, withMetadata_empty]
  by_cases hk' : k' = ""
  · simp only [hk', withMetadata_empty]
  simp only [withMetadata_of_ne _ _ hk, withMetadata_of_ne _ _ hk', Meta.insert_comm _ _ h]

/-- One `WithMetadata` call per pair, in the order of the list, on pairs with non-empty keys:
the pairs set in that order. -/
theorem foldl_withMetadata (order : List (String × String)) (hne : ∀ p ∈ order, p.1 ≠ "")
    (e : LogEntry) :
    (order.foldl (fun e p => e.withMetadata p.1 p.2) e).metadata = setAll order e.metadata := by
  induction order generalizing e with
  | nil => rfl
  | cons p order ih =>
    rw [List.foldl_cons, ih (fun q hq => hne q (List.mem_cons_of_mem _ hq)),
      withMetadata_of_ne _ _ (hne p (List.mem_cons_self _ _))]
    rfl

/-- **After a sequence of `WithMetadata` calls** a non-empty key `a` maps to the value of the
last call for `a`, or to what it mapped to before; the empty key is untouched. -/
theorem lookup_foldl_withMetadata {α : Type} (key value : α → String) (l : List α) (e : LogEntry)
    (a : String) :
    (l.foldl (fun e x => e.withMetadata (key x) (value x)) e).metadata.entries.lookup a =
      if a = "" then e.metadata.entries.lookup a
      else ((l.reverse.find? fun x => key x = a).map value).or (e.metadata.entries.lookup a) := by
  induction l generalizing e with
  | nil => by_cases h : a = "" <;> simp [h]
  | cons x l ih =>
    rw [List.foldl_cons, ih]
    by_cases h : a = ""
    · subst h
      by_cases hk : key x = ""
      · simp [hk]
      · simp [withMetadata_of_ne _ _ hk, Meta.insert, lookup_insertKV, Ne.symm hk]
    · by_cases hk : key x = ""
      · simp [h, hk, Ne.symm h, List.find?_append]
      · by_cases hxa : key x = a
        · subst hxa
          simp [hk, withMetadata_of_ne _ _ hk, Meta.insert, lookup_insertKV, List.find?_append]
          cases l.reverse.find? fun y => key y = key x <;> rfl
        · simp [h, withMetadata_of_ne _ _ hk, Meta.insert, lookup_insertKV, Ne.symm hxa, hxa,
            List.find?_append]

end LogEntry

open LogEntry

/-- **`WithAllMetadata(m)` against one `WithMetadata` call per key of `m`**: they agree unless
`m` has the empty key, which only `WithAllMetadata` sets. -/
theorem withAllMetadata_agreement :
    (∀ (e : LogEntry) (m : Meta) (order : List (String × String)), order.Perm m.entries →
      (∀ p ∈ m.entries, p.1 ≠ "") →
      (order.foldl (fun e p => e.withMetadata p.1 p.2) e).metadata = (e.withAllMetadata m).metadata) ∧
    (∀ (e : LogEntry) (m : Meta) (order : List (String × String)), order.Perm m.entries →
      setAll order e.metadata = (e.withAllMetadata m).metadata) ∧
    (∀ (e : LogEntry) (v : String), e.withMetadata "" v = e ∧
      (e.metadata.entries.lookup "" ≠ some v →
        (e.withMetadata "" v).metadata ≠ (e.withAllMetadata (Meta.empty.insert "" v)).metadata)) := by
  have hkey : ∀ (m : Meta) (order : List (String × String)), order.Perm m.entries →
      ∀ x ∈ order, ∀ y ∈ order, x.1 = y.1 → x = y := fun m order hp x hx y hy =>
    m.eq_of_key_eq (hp.mem_iff.mp hx) (hp.mem_iff.mp hy)
  refine ⟨fun e m order hp hne => ?_, fun e m order hp => setAll_perm hp (hkey m order hp) _,
    fun e v => ⟨withMetadata_empty v e, fun hv heq => hv ?_⟩⟩
  · rw [foldl_withMetadata order (fun p hp' => hne p (hp.mem_iff.mp hp'))]
    exact setAll_perm hp (hkey m order hp) _
  · have : (e.withAllMetadata (Meta.empty.insert "" v)).metadata.entries.lookup "" = some v := by
      simp [withAllMetadata, setAll, Meta.insert, Meta.empty, insertKV, lookup_insertKV]
    rwa [← heq, withMetadata_empty] at this

theorem entries_b_c :
    ((Meta.empty.insert "b" "2").insert "c" "3").entries = [("b", "2"), ("c", "3")] := by
  simp [Meta.insert, insertKV, Meta.empty]; decide

/-- An entry with the map `{"a": "1"}` given `{"b": "2", "c": "3"}`, the calls and the range
in reverse key order; and a new entry given `{"": "v"}`. -/
theorem withAllMetadata_agreement_b_c :
    (((Meta.empty.insert "b" "2").insert "c" "3").entries.reverse.foldl
        (fun e p => e.withMetadata p.1 p.2)
        ((newLogEntry "2024-01-01T00:00:00Z" false "hello" "app").withMetadata "a" "1")).metadata =
      (((newLogEntry "2024-01-01T00:00:00Z" false "hello" "app").withMetadata "a" "1").withAllMetadata
        ((Meta.empty.insert "b" "2").insert "c" "3")).metadata ∧
    setAll ((Meta.empty.insert "b" "2").insert "c" "3").entries.reverse
        ((newLogEntry "2024-01-01T00:00:00Z" false "hello" "app").withMetadata "a" "1").metadata =
      (((newLogEntry "2024-01-01T00:00:00Z" false "hello" "app").withMetadata "a" "1").withAllMetadata
        ((Meta.empty.insert "b" "2").insert "c" "3")).metadata ∧
    ((newLogEntry "2024-01-01T00:00:00Z" false "hello" "app").withMetadata "" "v").metadata ≠
      ((newLogEntry "2024-01-01T00:00:00Z" false "hello" "app").withAllMetadata
        (Meta.empty.insert "" "v")).metadata :=
  ⟨withAllMetadata_agreement.1 _ _ _ (List.reverse_perm _) (by rw [entries_b_c]; decide),
    withAllMetadata_agreement.2.1 _ _ _ (List.reverse_perm _),
    (withAllMetadata_agreement.2.2 _ "v").2 (by decide)⟩

end LogFlux
