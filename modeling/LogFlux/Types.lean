import Mathlib.Algebra.Group.Int
import Mathlib.Data.String.Basic

/-!
# LogFlux.Types — the payloads the client sends (`pkg/types`)

`LogEntry`, `LogBatch`, `PingRequest` and `AuthRequest` with the fields their JSON tags name,
and `Payload`, the values `sendWithRetry` is called with.

* A Go `int` is `GoInt`: an integer of the 64-bit range, which the JSON decoder checks.
* A Go `map[string]string` is `Meta`: its pairs in increasing key order, each key once, so
  that equal maps are equal values.  A nil map and an empty one are the same `Meta`: no
  function of the SDK tells them apart, and `omitempty` drops both.
* A Go slice of entries is an `Option (List LogEntry)`: `none` is the nil slice, which JSON
  writes as `null`.
-/

namespace LogFlux

structure GoInt where
  val : Int
  lo : -2 ^ 63 ≤ val
  hi : val < 2 ^ 63
  deriving DecidableEq, Repr

/-- Insert `(k, v)` into a key-sorted association list, replacing the pair of key `k`. -/
def insertKV (k v : String) : List (String × String) → List (String × String)
  | [] => [(k, v)]
  | (k', v') :: rest =>
    if k < k' then (k, v) :: (k', v') :: rest
    else if k = k' then (k, v) :: rest
    else (k', v') :: insertKV k v rest

section InsertKV

variable {k k' v v' : String} {rest : List (String × String)}

theorem insertKV_cons_of_lt (h : k < k') :
    insertKV k v ((k', v') :: rest) = (k, v) :: (k', v') :: rest := if_pos h

theorem insertKV_cons_self : insertKV k v ((k, v') :: rest) = (k, v) :: rest := by
  rw [insertKV, if_neg (lt_irrefl k), if_pos rfl]

theorem insertKV_cons_of_gt (h : k' < k) :
    insertKV k v ((k', v') :: rest) = (k', v') :: insertKV k v rest := by
  rw [insertKV, if_neg (lt_asymm h), if_neg (ne_of_gt h)]

end InsertKV

theorem mem_insertKV {k v : String} {x : String × String} :
    ∀ {l : List (String × String)}, x ∈ insertKV k v l → x.1 = k ∨ x ∈ l
  | [], h => by simp [insertKV] at h; simp [h]
  | (k', v') :: rest, h => by
    unfold insertKV at h
    split_ifs at h with h1 h2
    · rcases List.mem_cons.mp h with rfl | h
      · exact .inl rfl
      · exact .inr h
    · rcases List.mem_cons.mp h with rfl | h
      · exact .inl rfl
      · exact .inr (List.mem_cons_of_mem _ h)
    · rcases List.mem_cons.mp h with rfl | h
      · exact .inr (List.mem_cons_self _ _)
      · exact (mem_insertKV h).imp_right (List.mem_cons_of_mem _)

theorem insertKV_sorted {k v : String} :
    ∀ {l : List (String × String)}, l.Pairwise (fun a b => a.1 < b.1) →
      (insertKV k v l).Pairwise (fun a b => a.1 < b.1)
  | [], _ => by simp [insertKV]
  | (k', v') :: rest, h => by
    obtain ⟨hk', hr⟩ := List.pairwise_cons.mp h
    unfold insertKV
    split_ifs with h1 h2
    · exact List.Pairwise.cons (fun x hx => by
        rcases List.mem_cons.mp hx with rfl | hx
        · exact h1
        · exact h1.trans (hk' x hx)) h
    · subst h2; exact List.Pairwise.cons hk' hr
    · have hlt : k' < k := lt_of_le_of_ne (not_lt.mp h1) (Ne.symm h2)
      exact List.Pairwise.cons (fun x hx => by
        rcases mem_insertKV hx with hx | hx
        · exact hx ▸ hlt
        · exact hk' x hx) (insertKV_sorted hr)

theorem insertKV_of_lt {k v : String} :
    ∀ {l : List (String × String)}, (∀ x ∈ l, x.1 < k) → insertKV k v l = l ++ [(k, v)]
  | [], _ => rfl
  | (k', v') :: rest, h => by
    have h' : k' < k := h _ (List.mem_cons_self _ _)
    rw [insertKV_cons_of_gt h', insertKV_of_lt fun x hx => h x (List.mem_cons_of_mem _ hx)]
    rfl

theorem foldl_insertKV : ∀ (l acc : List (String × String)), l.Pairwise (fun a b => a.1 < b.1) →
    (∀ x ∈ acc, ∀ y ∈ l, x.1 < y.1) → l.foldl (fun a p => insertKV p.1 p.2 a) acc = acc ++ l
  | [], acc, _, _ => (List.append_nil acc).symm
  | p :: l, acc, hl, hacc => by
    obtain ⟨hp, hl⟩ := List.pairwise_cons.mp hl
    have hacc' : ∀ x ∈ acc ++ [p], ∀ y ∈ l, x.1 < y.1 := fun x hx y hy => by
      rcases List.mem_append.mp hx with hx | hx
      · exact hacc x hx y (List.mem_cons_of_mem _ hy)
      · rw [List.mem_singleton.mp hx]; exact hp y hy
    rw [List.foldl_cons, insertKV_of_lt fun x hx => hacc x hx p (List.mem_cons_self _ _),
      foldl_insertKV l _ hl hacc', List.append_assoc]
    rfl

/-- A Go `map[string]string`. -/
structure Meta where
  entries : List (String × String)
  sorted : entries.Pairwise (fun a b => a.1 < b.1)
  deriving DecidableEq

namespace Meta

def empty : Meta := ⟨[], List.Pairwise.nil⟩

/-- `m[k] = v`. -/
def insert (k v : String) (m : Meta) : Meta := ⟨insertKV k v m.entries, insertKV_sorted m.sorted⟩

theorem ext {m m' : Meta} (h : m.entries = m'.entries) : m = m' := by
  cases m; cases m'; cases h; rfl

end Meta

/-- `types.LogEntry`. -/
structure LogEntry where
  metadata : Meta
  version : String
  payload : String
  source : String
  timestamp : String
  payloadType : String
  entryType : GoInt
  logLevel : GoInt
  deriving DecidableEq

/-- `types.LogBatch`. -/
structure LogBatch where
  version : String
  entries : Option (List LogEntry)
  deriving DecidableEq

/-- `types.PingRequest`. -/
structure PingRequest where
  version : String
  action : String
  deriving DecidableEq

/-- `types.AuthRequest`. -/
structure AuthRequest where
  version : String
  action : String
  sharedSecret : String
  deriving DecidableEq

/-- `DefaultProtocolVersion`. -/
def defaultProtocolVersion : String := "1.0"

/-- `NewPingRequest()`. -/
def newPingRequest : PingRequest := ⟨defaultProtocolVersion, "ping"⟩

/-- `NewAuthRequest(secret)`; it panics (`none`) on an empty secret. -/
def newAuthRequest (sharedSecret : String) : Option AuthRequest :=
  if sharedSecret = "" then none else some ⟨defaultProtocolVersion, "authenticate", sharedSecret⟩

/-- The values `sendWithRetry` is called with. -/
inductive Payload where
  | entry (e : LogEntry)
  | batch (b : LogBatch)
  | ping (p : PingRequest)
  | auth (a : AuthRequest)
  deriving DecidableEq

end LogFlux
