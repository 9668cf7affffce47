import Mathlib.Data.List.Nodup
import LogFlux.Entry

/-!
# LogFlux.Integrations.Fields — a `map[string]interface{}` copied into an entry's metadata

The logrus hook and the zerolog writer copy a `map[string]interface{}` into the metadata of
the entry they send, one `WithMetadata(key, text(value))` per pair; the zerolog writer passes
over its standard keys.  A `range` over a Go map visits the pairs in an order the runtime
picks, a new one on each run: `rangeMetadata` takes that order as a list of the map's pairs.

* `rangeMetadata_perm`: every order gives the same entry, since the keys of a map differ.
* `lookup_rangeMetadata`: a key that is neither empty nor passed over maps to its value's text.
-/

namespace LogFlux

open LogEntry

/-- An `interface{}` value as the hooks read it: `nil`, a `string`, a `bool`, or another value,
given by its `fmt.Sprintf("%v", v)` text and by what `json.Marshal(v)` returns (`none` on an
error). -/
inductive Any where
  | nil
  | str (s : String)
  | bool (b : Bool)
  | other (text : String) (json : Option String)
  deriving DecidableEq, Repr

/-- A Go `map[string]interface{}`: its pairs, each key once.  A nil map is the empty one: neither
has a pair to range over or a key to read. -/
structure AnyMap where
  entries : List (String × Any)
  nodup : (entries.map Prod.fst).Nodup

/-- `m[key]`, `none` when `!ok`. -/
def AnyMap.get? (m : AnyMap) (key : String) : Option Any := m.entries.lookup key

theorem lookup_perm {l l' : List (String × Any)} (hp : l.Perm l') (hk : (l.map Prod.fst).Nodup)
    (a : String) : l.lookup a = l'.lookup a := by
  induction hp with
  | nil => rfl
  | cons x _ ih =>
    obtain ⟨k, v⟩ := x
    rw [lookup_cons, lookup_cons, ih (List.nodup_cons.mp hk).2]
  | swap x y l =>
    obtain ⟨k, v⟩ := x
    obtain ⟨k', v'⟩ := y
    have hne : k' ≠ k := fun h => (List.nodup_cons.mp hk).1 (h ▸ List.mem_cons_self _ _)
    rw [lookup_cons, lookup_cons, lookup_cons, lookup_cons]
    by_cases ha : a = k'
    · subst ha; simp [hne]
    · simp [ha]
  | trans h₁ _ ih₁ ih₂ => rw [ih₁ hk, ih₂ ((h₁.map Prod.fst).nodup_iff.mp hk)]

/-- `for key, value := range m { if skip(key) { continue }; entry = entry.WithMetadata(key,
text(value)) }`, the range visiting the pairs in the order `order`. -/
def rangeMetadata (skip : String → Bool) (text : Any → String) (order : List (String × Any))
    (e : LogEntry) : LogEntry :=
  order.foldl (fun e p => if skip p.1 then e else e.withMetadata p.1 (text p.2)) e

section Range

variable (skip : String → Bool) (text : Any → String)

/-- **Every iteration order gives the same entry**: the pairs of a map have different keys, and
`WithMetadata` calls for different keys commute. -/
theorem rangeMetadata_perm {order order' : List (String × Any)} (hp : order.Perm order')
    (hk : (order.map Prod.fst).Nodup) (e : LogEntry) :
    rangeMetadata skip text order e = rangeMetadata skip text order' e :=
  hp.foldl_eq' (fun x hx y hy z => by
    by_cases h : x.1 = y.1
    · rw [List.inj_on_of_nodup_map hk hx hy h]
    · by_cases hx : skip x.1 <;> by_cases hy : skip y.1 <;> simp only [hx, hy, if_true, if_false]
      exact withMetadata_comm _ _ h z) e

theorem rangeMetadata_eq : ∀ (order : List (String × Any)) (e : LogEntry),
    ∃ m, rangeMetadata skip text order e = { e with metadata := m }
  | [], e => ⟨e.metadata, rfl⟩
  | p :: order, e => by
    have h : ∃ m, (if skip p.1 then e else e.withMetadata p.1 (text p.2)) = { e with metadata := m } := by
      split
      · exact ⟨e.metadata, rfl⟩
      · exact withMetadata_eq _ _ e
    obtain ⟨m, hm⟩ := h
    obtain ⟨m', hm'⟩ := rangeMetadata_eq order { e with metadata := m }
    exact ⟨m', by rw [rangeMetadata, List.foldl_cons, hm, ← rangeMetadata, hm']⟩

theorem rangeMetadata_frame (order : List (String × Any)) (e : LogEntry) :
    rangeMetadata skip text order e = { e with metadata := (rangeMetadata skip text order e).metadata } := by
  obtain ⟨m, hm⟩ := rangeMetadata_eq skip text order e
  rw [hm]

theorem lookup_rangeStep (a : String) (p : String × Any) (e : LogEntry) :
    (if skip p.1 then e else e.withMetadata p.1 (text p.2)).metadata.entries.lookup a =
      if a = p.1 ∧ ¬(a = "" ∨ skip a = true) then some (text p.2) else e.metadata.entries.lookup a := by
  by_cases hc : a = p.1 ∧ ¬(a = "" ∨ skip a = true)
  · obtain ⟨rfl, hn⟩ := hc
    rw [not_or, Bool.not_eq_true] at hn
    simp [hn.1, hn.2, withMetadata_of_ne _ _ hn.1, Meta.insert, lookup_insertKV]
  · rw [if_neg hc]
    split
    · rfl
    · by_cases he : p.1 = ""
      · rw [he, withMetadata_empty]
      · have ha : a ≠ p.1 := fun ha => hc ⟨ha, by subst ha; simp [he, *]⟩
        simp [withMetadata_of_ne _ _ he, Meta.insert, lookup_insertKV, ha]

/-- **After the range** a key `a` that is neither empty nor passed over maps to the text of its
value in the map, when the map has it; every other key maps to what it mapped to before. -/
theorem lookup_rangeMetadata (a : String) :
    ∀ {order : List (String × Any)}, (order.map Prod.fst).Nodup → ∀ e : LogEntry,
      (rangeMetadata skip text order e).metadata.entries.lookup a =
        if a = "" ∨ skip a = true then e.metadata.entries.lookup a
        else ((order.lookup a).map text).or (e.metadata.entries.lookup a)
  | [], _, e => by split <;> rfl
  | p :: order, hk, e => by
    obtain ⟨hp, hk⟩ := List.nodup_cons.mp hk
    rw [rangeMetadata, List.foldl_cons, ← rangeMetadata, lookup_rangeMetadata a hk, lookup_cons,
      lookup_rangeStep]
    by_cases hs : a = "" ∨ skip a = true
    · simp only [hs, not_true, and_false, if_false, if_true]
    · by_cases ha : a = p.1
      · subst ha
        have hn : order.lookup p.1 = none :=
          List.lookup_eq_none_iff.mpr fun q hq => bne_iff_ne.mpr fun h => hp (h ▸ List.mem_map_of_mem _ hq)
        simp only [hs, hn, not_false_eq_true, and_self, if_true, if_false, Option.map_none',
          Option.map_some', Option.none_or, Option.or_some]
      · simp only [hs, ha, false_and, if_false]

end Range

end LogFlux
