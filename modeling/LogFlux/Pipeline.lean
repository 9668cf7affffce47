import LogFlux.Retry
import LogFlux.Wire
import LogFlux.Entry

/-!
# LogFlux.Pipeline — a `BatchClient` over a sync-mode `Client`, down to the bytes on each connection

Every method of `BatchClient` makes its calls into the client under `bc.mu`, one after another,
so a run of the batcher (`LogFlux.Batch`) feeds its `ClientCall`s, in order, to the client.  In
sync mode `SendLogEntry` and `SendLogBatch` stamp the entries without a timestamp with
`time.Now()` and call `sendWithRetry`, whose loop is `Client.sendWithRetryLoop`; the batcher's
`Close` calls the client's `Close`.  What the environment decides for each call is a `CallEnv`:
the clock, and for every pass the network's outcome, the draw of `rand.Float64()`, and how many
bytes a failing `Write` got out before it failed.

`sendData` writes `jsonData data`, the document and a newline, in one `conn.Write`.  A `Write`
that fails has written `n < len(b)` bytes: some first bytes of the document, never its newline.
A `Write` record is one such call: the handle of the connection, the document, and where it was
cut.  What a line-based reader of a connection gets is the text before each newline (`lines`).

* `wired_attempt`, `wired_sendLoop`, `wired_sendWire`: every pass keeps `Wired`: handles are
  fresh, a cut write is the last write on its connection, and the current connection has none.
* `lines_stream`: so the lines of each connection are the documents written whole on it.
* `run_delivery`: over every run of the pipeline, the batcher's calls are its run's, the entries
  it was given are those of its calls and its buffer, a call writes its document whole exactly
  once if it returned `nil` and never otherwise, and every line of every connection is such a
  document.
* `run_total`: with a positive `Timeout`, for `MaxRetries` below `math.MaxInt` and enough fuel,
  the pipeline runs to the end of every run of the batcher.
-/

namespace LogFlux

/-! ## Writes and the text of a connection -/

/-- A `conn.Write(jsonData)` of `sendData` on the connection with handle `conn`: all of
`jsonData data` (`cut = none`), or the first `m` bytes of the document (`cut = some m`) when
`Write` failed after them. -/
structure Write where
  conn : Nat
  data : Payload
  cut : Option Nat
  deriving DecidableEq

namespace Write

def bytes (w : Write) : List Char :=
  match w.cut with
  | none => jsonData w.data
  | some m => (marshal w.data).take m

def whole (w : Write) : Bool := w.cut.isNone

end Write

/-- The text the connection with handle `n` carried: the bytes of its writes, in order. -/
def stream (ws : List Write) (n : Nat) : List Char :=
  ((ws.filter fun w => w.conn = n).map Write.bytes).flatten

/-- The documents written whole on the connection with handle `n`. -/
def delivered (ws : List Write) (n : Nat) : List Payload :=
  ((ws.filter fun w => w.conn = n).filter Write.whole).map Write.data

/-- The lines of a text: what stands before each newline. -/
def lines (t : List Char) : List (List Char) := (t.splitOn '\n').dropLast

theorem newline_not_mem_bytes_of_cut {w : Write} (h : w.whole = false) : '\n' ∉ w.bytes := by
  unfold Write.whole at h
  unfold Write.bytes
  rcases hc : w.cut with _ | m
  · simp [hc] at h
  · exact fun hm => newline_not_mem_marshal w.data (List.mem_of_mem_take hm)

theorem lines_of_newline_not_mem {t : List Char} (h : '\n' ∉ t) : lines t = [] := by
  rw [lines, List.splitOn, List.splitOnP_eq_single (· == '\n') t fun x hx he =>
    h (eq_of_beq he ▸ hx)]
  rfl

/-- **A connection whose writes all went through but maybe the last** reads as the documents
of the writes that went through. -/
theorem lines_flatten :
    ∀ {ws : List Write}, ws.Pairwise (fun w _ => w.whole = true) →
      lines (ws.map Write.bytes).flatten = (ws.filter Write.whole).map (marshal ∘ Write.data)
  | [], _ => rfl
  | w :: ws, hp => by
    obtain ⟨hw, hp⟩ := List.pairwise_cons.mp hp
    rcases ws with _ | ⟨w', ws⟩
    · cases hb : w.whole
      · rw [List.map_singleton, List.flatten_singleton, lines_of_newline_not_mem
          (newline_not_mem_bytes_of_cut hb), List.filter_cons_of_neg (by simp [hb])]; rfl
      · have hc : w.cut = none := Option.isNone_iff_eq_none.mp hb
        simp only [lines, List.map_singleton, List.flatten_singleton, Write.bytes, hc,
          List.filter_cons_of_pos hb, List.filter_nil, List.map_singleton]
        rw [← List.append_nil (jsonData w.data), splitOn_jsonData_cons]; rfl
    · have hc : w.cut = none := Option.isNone_iff_eq_none.mp (hw w' (List.mem_cons_self _ _))
      have e : ((w :: w' :: ws).map Write.bytes).flatten =
          jsonData w.data ++ ((w' :: ws).map Write.bytes).flatten := by
        simp [Write.bytes, hc]
      rw [e, List.filter_cons_of_pos (hw w' (List.mem_cons_self _ _)), List.map_cons (marshal ∘ Write.data),
        ← lines_flatten hp, lines, lines, splitOn_jsonData_cons,
        List.dropLast_cons_of_ne_nil (l := List.splitOn '\n' _) (List.splitOnP_ne_nil _ _)]
      rfl

/-- **The lines of every connection are the documents written whole on it**, when a cut write
is the last write on its connection. -/
theorem lines_stream {ws : List Write}
    (hp : ws.Pairwise fun w w' => w.conn = w'.conn → w.whole = true) (n : Nat) :
    lines (stream ws n) = (delivered ws n).map marshal := by
  have hq : (ws.filter fun w => w.conn = n).Pairwise (fun w _ => w.whole = true) :=
    (hp.filter _).imp_of_mem fun {a b} ha hb h => h (by
      rw [of_decide_eq_true (List.mem_filter.mp ha).2, of_decide_eq_true (List.mem_filter.mp hb).2])
  rw [stream, lines_flatten hq, delivered, List.map_map]

/-! ## What the passes of `sendWithRetry` write -/

namespace Client

variable (cfg : Config)

/-- What a pass wrote: the whole document when `sendData` went through, its first `cut` bytes
when `Write` failed, nothing when there was no connection or `SetWriteDeadline` failed. -/
def Pass.writes (data : Payload) (cut : Nat) (p : Pass) : List Write :=
  match p.send with
  | some (some k, none) => [⟨k.id, data, none⟩]
  | some (some k, some (.write _)) => [⟨k.id, data, some cut⟩]
  | _ => []

/-- The writes of a loop's passes, pass `j` cut after `cut j` bytes when its `Write` failed. -/
def passWrites (data : Payload) : (Nat → Nat) → List Pass → List Write
  | _, [] => []
  | cut, p :: ps => p.writes data (cut 0) ++ passWrites data (fun j => cut (j + 1)) ps

theorem Pass.writes_of_ok {p : Pass} {k : Conn} (h : p.send = some (some k, none)) (data : Payload)
    (cut : Nat) : p.writes data cut = [⟨k.id, data, none⟩] := by
  rw [Pass.writes, h]

theorem Pass.writes_of_error {p : Pass} {k : Conn} {e : Err} (h : p.send = some (some k, some e))
    (data : Payload) (cut : Nat) :
    p.writes data cut = [] ∨ p.writes data cut = [⟨k.id, data, some cut⟩] := by
  rw [Pass.writes, h]; cases e <;> simp

/-- The connections of a client and the writes made so far: the handles in use or written to
are below `nextConn`, the current connection has no cut write, and a cut write is the last write
on its connection. -/
structure Wired (c : Client) (ws : List Write) : Prop where
  conn_lt : ∀ n ∈ c.conn.map Conn.id, n < c.nextConn
  ids_lt : ∀ w ∈ ws, w.conn < c.nextConn
  cut_off : ∀ w ∈ ws, w.whole = false → c.conn.map Conn.id ≠ some w.conn
  last_cut : ws.Pairwise fun w w' => w.conn = w'.conn → w.whole = true

namespace Wired

variable {cfg} {c c' : Client} {ws : List Write}

theorem congr (h : Wired c ws) (hc : c'.conn.map Conn.id = c.conn.map Conn.id)
    (hn : c'.nextConn = c.nextConn) : Wired c' ws :=
  ⟨hc ▸ hn ▸ h.conn_lt, hn ▸ h.ids_lt, hc ▸ h.cut_off, h.last_cut⟩

theorem forget (h : Wired c ws) (hc : c'.conn = none) (hn : c'.nextConn = c.nextConn) :
    Wired c' ws :=
  ⟨by simp [hc], hn ▸ h.ids_lt, fun _ _ _ => by simp [hc], h.last_cut⟩

theorem dial (h : Wired c ws) (addrs : String × String) :
    Wired { c with conn := some ⟨c.nextConn, false, addrs.1, addrs.2⟩, nextConn := c.nextConn + 1 } ws :=
  ⟨by simp, fun w hw => Nat.lt_succ_of_lt (h.ids_lt w hw),
    fun w hw _ he => absurd (h.ids_lt w hw) (by simp at he; omega), h.last_cut⟩

theorem last_cut_append (h : Wired c ws) {k : Conn} (hk : c.conn = some k) {w : Write}
    (hw : w.conn = k.id) : (ws ++ [w]).Pairwise fun w w' => w.conn = w'.conn → w.whole = true :=
  List.pairwise_append.mpr ⟨h.last_cut, List.pairwise_singleton _ _, fun a ha b hb hab => by
    rw [List.mem_singleton.mp hb, hw] at hab
    by_contra hna
    exact h.cut_off a ha (Bool.eq_false_iff.mpr hna) (by rw [hk, hab]; rfl)⟩

theorem ids_lt_append (h : Wired c ws) {k : Conn} (hk : c.conn = some k) {w : Write}
    (hw : w.conn = k.id) : ∀ w' ∈ ws ++ [w], w'.conn < c.nextConn := fun w' hw' => by
  rcases List.mem_append.mp hw' with hw' | hw'
  · exact h.ids_lt w' hw'
  · rw [List.mem_singleton.mp hw', hw]; exact h.conn_lt _ (by simp [hk])

theorem write (h : Wired c ws) {k : Conn} (hk : c.conn = some k) (data : Payload) :
    Wired c (ws ++ [⟨k.id, data, none⟩]) :=
  ⟨h.conn_lt, h.ids_lt_append hk rfl, fun w hw hc => by
    rcases List.mem_append.mp hw with hw | hw
    · exact h.cut_off w hw hc
    · rw [List.mem_singleton.mp hw] at hc; exact absurd hc Bool.noConfusion,
    h.last_cut_append hk rfl⟩

theorem cutWrite (h : Wired c ws) {k : Conn} (hk : c.conn = some k) (hc : c'.conn = none)
    (hn : c'.nextConn = c.nextConn) (data : Payload) (m : Nat) :
    Wired c' (ws ++ [⟨k.id, data, some m⟩]) :=
  ⟨by simp [hc], hn ▸ h.ids_lt_append hk rfl, fun _ _ _ => by simp [hc], h.last_cut_append hk rfl⟩

end Wired

@[simp] theorem stopAsync_nextConn (c : Client) : (c.stopAsync cfg).nextConn = c.nextConn := by
  unfold stopAsync; split <;> rfl

theorem close_conn_id (c : Client) : (c.close cfg).2.conn.map Conn.id = c.conn.map Conn.id := by
  rw [close_snd]; cases c.conn <;> rfl

theorem close_nextConn (c : Client) : (c.close cfg).2.nextConn = c.nextConn := by
  rw [close_snd]; exact stopAsync_nextConn cfg c

/-- `if c.conn == nil { c.Connect(ctx) }` keeps `Wired`, and leaves a connection when it returns
`nil`. -/
theorem Wired.ensureConn {c : Client} {ws : List Write} (h : Wired c ws) (dial : Option Err)
    (addrs : String × String) :
    Wired (c.ensureConn cfg dial addrs).2 ws ∧
      ((c.ensureConn cfg dial addrs).1 = none → ∃ k, (c.ensureConn cfg dial addrs).2.conn = some k) := by
  unfold Client.ensureConn
  by_cases hc : c.conn = none
  · rw [if_pos hc]
    cases dial with
    | none => exact ⟨h.dial addrs, fun _ => ⟨_, rfl⟩⟩
    | some e => exact ⟨h.forget rfl rfl, fun h => Option.noConfusion h⟩
  · rw [if_neg hc]; exact ⟨h, fun _ => Option.ne_none_iff_exists'.mp hc⟩

/-- **One pass keeps `Wired`**, and writes its document whole exactly when it succeeds. -/
theorem wired_attempt {c : Client} {ws : List Write} (h : Wired c ws) (r : ℚ) (a : Attempt)
    (t : Int) (data : Payload) (m : Nat) :
    Wired (c.attempt cfg a).2 (ws ++ (runPass cfg r a t c).writes data m) ∧
      (((runPass cfg r a t c).writes data m).filter Write.whole).map Write.data =
        match (c.attempt cfg a).1 with
        | .ok () => [data]
        | .error _ => [] := by
  obtain ⟨h₁, hk⟩ := h.ensureConn cfg a.dial a.addrs
  have hs : (runPass cfg r a t c).send = if (c.ensureConn cfg a.dial a.addrs).1 = none then
      some ((c.ensureConn cfg a.dial a.addrs).2.conn, sendData cfg a) else none := rfl
  unfold attempt
  rcases he : c.ensureConn cfg a.dial a.addrs with ⟨_ | e, c₁⟩ <;> rw [he] at h₁ hk hs
  · obtain ⟨k, hk⟩ := hk rfl
    rw [if_pos rfl, hk] at hs
    rcases hsd : sendData cfg a with _ | e <;> rw [hsd] at hs
    · rw [Pass.writes_of_ok hs]; exact ⟨h₁.write hk data, rfl⟩
    · dsimp only
      rcases Pass.writes_of_error hs data m with h0 | h0 <;> rw [h0]
      · rw [List.append_nil]; exact ⟨h₁.forget rfl (close_nextConn cfg c₁), rfl⟩
      · exact ⟨h₁.cutWrite hk rfl (by exact close_nextConn cfg c₁) data m, rfl⟩
  · rw [if_neg (by simp)] at hs
    rw [Pass.writes, hs, List.append_nil]; exact ⟨h₁, rfl⟩

/-- **Every loop keeps `Wired`**, and its passes write the document whole once when it ends `ok`
and never when it ends with an error. -/
theorem wired_sendLoop (env : Nat → Attempt) (draw : Nat → ℚ) (data : Payload) :
    ∀ (cut : Nat → Nat) {fuel k : Nat} {t : Int} {l : Option Err} {c : Client} {ws : List Write}
      {r : Except (Option Err) Unit × Client × List Pass}, Wired c ws →
      sendLoop cfg env draw fuel k t l c = some r →
      Wired r.2.1 (ws ++ passWrites data cut r.2.2) ∧
        ((passWrites data cut r.2.2).filter Write.whole).map Write.data =
          match r.1 with
          | .ok () => [data]
          | .error _ => []
  | _, 0, _, _, _, _, _, _, _, h => Option.noConfusion h
  | cut, fuel + 1, k, t, l, c, ws, r, hw, h => by
    rw [sendLoop] at h
    split at h
    · obtain ⟨hw₁, hd₁⟩ := wired_attempt cfg hw (draw k) (env k) t data (cut 0)
      rcases ha : c.attempt cfg (env k) with ⟨e | ⟨⟩, c'⟩ <;> rw [ha] at h hw₁ hd₁
      · obtain ⟨r', hr', rfl⟩ := Option.map_eq_some'.mp h
        obtain ⟨hw₂, hd₂⟩ := wired_sendLoop env draw data _ hw₁ hr'
        refine ⟨by rw [passWrites, ← List.append_assoc]; exact hw₂, ?_⟩
        rw [passWrites, List.filter_append, List.map_append, hd₁, hd₂, List.nil_append]
      · cases h
        refine ⟨by rw [passWrites, passWrites, List.append_nil]; exact hw₁, ?_⟩
        rw [passWrites, passWrites, List.append_nil, hd₁]
    · cases h; exact ⟨by rw [passWrites, List.append_nil]; exact hw, rfl⟩

end Client

/-- What the environment decides for one call into the client: the clock of `canExecute`
(`now₀`) and of `onFailure` (`now₁`), the readings of `time.Now()` the call stamps entries
with, and for pass `j` the network's outcome, the draw of `rand.Float64()`, and the bytes a
failing `Write` got out. -/
structure CallEnv where
  now₀ : Int
  now₁ : Int
  clock : Nat → String
  net : Nat → Attempt
  draw : Nat → ℚ
  cut : Nat → Nat

namespace Client

variable (cfg : Config)

/-- `if entry.Timestamp == "" { entry.Timestamp = time.Now().UTC().Format(time.RFC3339) }`, with
`now` the clock's text. -/
def stamp (now : String) (e : LogEntry) : LogEntry :=
  if e.timestamp = "" then { e with timestamp := now } else e

/-- The loop of `SendLogBatch` over its entries: entry `i` is stamped with reading `i`. -/
def stampAll (clock : Nat → String) : List LogEntry → List LogEntry
  | [] => []
  | e :: es => stamp (clock 0) e :: stampAll (fun i => clock (i + 1)) es

/-- The `LogBatch` `SendLogBatch(entries)` sends: `DefaultProtocolVersion` and the stamped
entries (a nil slice stays nil). -/
def logBatch (clock : Nat → String) (entries : Option (List LogEntry)) : LogBatch :=
  ⟨defaultProtocolVersion, entries.map (stampAll clock)⟩

/-- `sendWithRetry(data)`: its error, the client it leaves, and what its passes wrote. -/
def sendWire (fuel : Nat) (ev : CallEnv) (data : Payload) (c : Client) :
    Option (Option Err × Client × List Write) :=
  (c.sendWithRetryLoop cfg fuel ev.now₀ ev.now₁ ev.net ev.draw).map fun r =>
    (r.1, r.2.1, passWrites data ev.cut r.2.2.1)

/-- `SendLogEntry(entry)` in sync mode (`AsyncMode` false): stamp it, then `sendWithRetry`. -/
def sendLogEntry (fuel : Nat) (ev : CallEnv) (entry : LogEntry) (c : Client) :
    Option (Option Err × Client × List Write) :=
  c.sendWire cfg fuel ev (.entry (stamp (ev.clock 0) entry))

/-- `SendLogBatch(entries)` in sync mode (`AsyncMode` false). -/
def sendLogBatch (fuel : Nat) (ev : CallEnv) (entries : Option (List LogEntry)) (c : Client) :
    Option (Option Err × Client × List Write) :=
  c.sendWire cfg fuel ev (.batch (logBatch ev.clock entries))

/-- **`sendWithRetry` keeps `Wired`**, and writes its document whole once when it returns `nil`
and never when it returns an error. -/
theorem wired_sendWire {fuel : Nat} {ev : CallEnv} {data : Payload} {c c' : Client}
    {ws new : List Write} {err : Option Err} (hw : Wired c ws)
    (h : c.sendWire cfg fuel ev data = some (err, c', new)) :
    Wired c' (ws ++ new) ∧
      (new.filter Write.whole).map Write.data = if err = none then [data] else [] := by
  obtain ⟨⟨err, c', ps, rs⟩, hr, he⟩ := Option.map_eq_some'.mp h
  cases he
  unfold sendWithRetryLoop at hr
  rcases hce : c.cb.canExecute cfg ev.now₀ with ⟨_ | e, cb⟩ <;> rw [hce] at hr
  · obtain ⟨⟨res, c₁, ps₁⟩, hl, hm⟩ := Option.map_eq_some'.mp hr
    obtain ⟨hw₁, hd₁⟩ := wired_sendLoop cfg ev.net ev.draw data ev.cut
      (hw.congr rfl rfl : Wired { c with cb := cb } ws) hl
    rcases res with e | ⟨⟩ <;> cases hm <;> exact ⟨hw₁.congr rfl rfl, by rw [hd₁]; rfl⟩
  · cases hr; exact ⟨by rw [passWrites, List.append_nil]; exact hw.congr rfl rfl, rfl⟩

/-- The sync-mode client's handling of one call of the batcher: `SendLogBatch(batchCopy)`,
`SendLogEntry(entry)`, or `Close()`, which writes nothing. -/
def execCall (fuel : Nat) (ev : CallEnv) :
    Batch.ClientCall LogEntry → Client → Option (Option Err × Client × List Write)
  | .sendLogBatch entries, c => c.sendLogBatch cfg fuel ev (some entries)
  | .sendLogEntry entry, c => c.sendLogEntry cfg fuel ev entry
  | .close, c => some ((c.close cfg).1, (c.close cfg).2, [])

/-- The document a call of the batcher sends, stamped by the clock `clock`. -/
def callData (clock : Nat → String) : Batch.ClientCall LogEntry → Option Payload
  | .sendLogBatch entries => some (.batch (logBatch clock (some entries)))
  | .sendLogEntry entry => some (.entry (stamp (clock 0) entry))
  | .close => none

/-- **Every call keeps `Wired`**, and writes its document whole once when it returns `nil` and
never when it returns an error. -/
theorem wired_execCall {fuel : Nat} {ev : CallEnv} {call : Batch.ClientCall LogEntry}
    {c c' : Client} {ws new : List Write} {err : Option Err} (hw : Wired c ws)
    (h : c.execCall cfg fuel ev call = some (err, c', new)) :
    Wired c' (ws ++ new) ∧ (new.filter Write.whole).map Write.data =
      if err = none then (callData ev.clock call).toList else [] := by
  cases call with
  | sendLogBatch entries => exact wired_sendWire cfg hw h
  | sendLogEntry entry => exact wired_sendWire cfg hw h
  | close =>
    cases h
    refine ⟨by rw [List.append_nil]; exact hw.congr (close_conn_id cfg c) (close_nextConn cfg c), ?_⟩
    split <;> rfl

end Client

namespace Pipeline

open Batch Client

/-- What became of one call of the batcher: the call, its document, its error, and its
writes. -/
structure Outcome where
  call : ClientCall LogEntry
  data : Option Payload
  err : Option Err
  writes : List Write

variable (bcfg : BatchConfig) (cfg : Config) (fuel : Nat) (env : Nat → CallEnv)

/-- The calls of one step on the client, call `j` in the environment `env j`. -/
def execCalls : Nat → List (ClientCall LogEntry) → Client → Option (Client × List Outcome)
  | _, [], c => some (c, [])
  | j, call :: cs, c =>
    (c.execCall cfg fuel (env j) call).bind fun r =>
      (execCalls (j + 1) cs r.2.1).map fun r' =>
        (r'.1, ⟨call, callData (env j).clock call, r.1, r.2.2⟩ :: r'.2)

/-- A run of the batcher over the client: each step's calls made on the client in order, with
`j` calls made before. -/
def run : BatchClient LogEntry → Client → Nat → List (Op LogEntry) →
    Option (BatchClient LogEntry × Client × List Outcome)
  | bc, c, _, [] => some (bc, c, [])
  | bc, c, j, op :: ops =>
    (step bcfg bc op).bind fun s =>
      (execCalls cfg fuel env j s.2 c).bind fun e =>
        (run s.1 e.1 (j + s.2.length) ops).map fun r => (r.1, r.2.1, e.2 ++ r.2.2)

/-- What a call wrote whole is its document when it returned `nil`, and nothing otherwise. -/
def Outcome.Delivers (o : Outcome) : Prop :=
  (o.writes.filter Write.whole).map Write.data = if o.err = none then o.data.toList else []

/-- What a run of the pipeline from the batcher `bc` over `ops` did, ending with the batcher `bc'`
and the outcomes `os`: its calls are those of the batcher's run; the entries given to
`SendLogEntry` are, in order, those of the batches sent, of the entries forwarded, and of the
buffer; each call writes its document whole once when it returns `nil` and never otherwise, so
the documents written whole are, in order, those of the calls that returned `nil`; and the lines
of every connection are the documents written whole on it. -/
structure Delivery (bc : BatchClient LogEntry) (ops : List (Op LogEntry)) (bc' : BatchClient LogEntry)
    (os : List Outcome) : Prop where
  calls : Batch.run bcfg bc ops = some (bc', os.map Outcome.call)
  conserves : (batches (os.map Outcome.call)).flatten ++ forwarded (os.map Outcome.call) ++ bc'.batch =
    bc.batch ++ inputs ops
  delivers : ∀ o ∈ os, o.Delivers
  in_order : ((os.flatMap Outcome.writes).filter Write.whole).map Write.data =
    os.flatMap fun o => if o.err = none then o.data.toList else []
  lines_eq : ∀ n, lines (stream (os.flatMap Outcome.writes) n) =
    (delivered (os.flatMap Outcome.writes) n).map marshal

variable {bcfg cfg fuel env}

theorem execCalls_spec :
    ∀ {j : Nat} {cs : List (ClientCall LogEntry)} {c c' : Client} {os : List Outcome}
      {ws : List Write}, Wired c ws → execCalls cfg fuel env j cs c = some (c', os) →
      os.map Outcome.call = cs ∧ Wired c' (ws ++ os.flatMap Outcome.writes) ∧
        ∀ o ∈ os, o.Delivers
  | _, [], _, _, _, _, hw, h => by cases h; exact ⟨rfl, by simpa using hw, by simp⟩
  | j, call :: cs, c, c', os, ws, hw, h => by
    obtain ⟨⟨err, c₁, new⟩, h₁, h₂⟩ := Option.bind_eq_some.mp h
    obtain ⟨⟨c₂, os₂⟩, h₃, h₄⟩ := Option.map_eq_some'.mp h₂
    cases h₄
    obtain ⟨hw₁, hd₁⟩ := wired_execCall cfg hw h₁
    obtain ⟨hc, hw₂, hd₂⟩ := execCalls_spec hw₁ h₃
    refine ⟨by rw [List.map_cons, hc], by simpa using hw₂, ?_⟩
    rintro o (_ | ⟨_, ho⟩)
    · exact hd₁
    · exact hd₂ o ho

theorem run_spec :
    ∀ {bc bc' : BatchClient LogEntry} {c c' : Client} {j : Nat} {ops : List (Op LogEntry)}
      {os : List Outcome} {ws : List Write}, Wired c ws →
      run bcfg cfg fuel env bc c j ops = some (bc', c', os) →
      Batch.run bcfg bc ops = some (bc', os.map Outcome.call) ∧
        Wired c' (ws ++ os.flatMap Outcome.writes) ∧ ∀ o ∈ os, o.Delivers
  | _, _, _, _, _, [], _, _, hw, h => by cases h; exact ⟨rfl, by simpa using hw, by simp⟩
  | bc, bc', c, c', j, op :: ops, os, ws, hw, h => by
    obtain ⟨⟨bc₁, cs⟩, h₁, h₂⟩ := Option.bind_eq_some.mp h
    obtain ⟨⟨c₁, os₁⟩, h₃, h₄⟩ := Option.bind_eq_some.mp h₂
    obtain ⟨⟨bc₂, c₂, os₂⟩, h₅, h₆⟩ := Option.map_eq_some'.mp h₄
    cases h₆
    obtain ⟨hc₁, hw₁, hd₁⟩ := execCalls_spec hw h₃
    obtain ⟨hr₂, hw₂, hd₂⟩ := run_spec hw₁ h₅
    refine ⟨?_, by simpa using hw₂, fun o ho => (List.mem_append.mp ho).elim (hd₁ o) (hd₂ o)⟩
    rw [Batch.run, h₁, Option.some_bind, hr₂, Option.map_some', List.map_append, hc₁]

theorem wired_nil {c : Client} (hc : ∀ k, c.conn = some k → k.id < c.nextConn) : Wired c [] :=
  ⟨fun n hn => by
    obtain ⟨k, hk, rfl⟩ := Option.mem_map.mp hn
    exact hc k hk, by simp, by simp, List.Pairwise.nil⟩

/-- **A batcher over a sync-mode client, down to the bytes on each connection.**  Every run from
a batcher whose buffer is empty once it is stopped, on a client in sync mode whose connection's
handle is below `nextConn`, in every environment, is a `Delivery`. -/
theorem run_delivery {bc bc' : BatchClient LogEntry} {c c' : Client} {j : Nat}
    {ops : List (Op LogEntry)} {os : List Outcome} (_hsync : cfg.asyncMode = false)
    (hbc : bc.stopped = true → bc.batch = [])
    (hc : ∀ k, c.conn = some k → k.id < c.nextConn)
    (h : run bcfg cfg fuel env bc c j ops = some (bc', c', os)) : Delivery bcfg bc ops bc' os := by
  obtain ⟨hr, hw, hd⟩ := run_spec (wired_nil hc) h
  refine ⟨hr, (run_conserves_from bcfg hbc hr).1, hd, ?_, lines_stream hw.last_cut⟩
  rw [List.filter_flatMap, List.map_flatMap]
  exact List.flatMap_congr hd

def helloEntry : LogEntry := LogEntry.newLogEntry "2024-01-01T00:00:00Z" false "hello" "app"

/-- An environment where every dial, deadline and write goes through. -/
def calmEnv : Nat → CallEnv :=
  fun _ => ⟨0, 0, fun _ => "2024-01-01T00:00:00Z", fun _ => okAttempt, fun _ => 0, fun _ => 0⟩

/-- `NewBatchClient(DefaultBatchConfig())` over the default client in sync mode: `hello`, then
`Flush`. -/
theorem run_delivery_flush :
    ∃ bc₀ bc' c' os, newBatchClient defaultBatchConfig = some bc₀ ∧
      run defaultBatchConfig syncConfig 5 calmEnv bc₀ idleClient 0 [.sendLogEntry helloEntry, .flush] =
        some (bc', c', os) ∧ Delivery defaultBatchConfig bc₀ [.sendLogEntry helloEntry, .flush] bc' os :=
  ⟨_, _, _, _, rfl, rfl, run_delivery rfl (fun h => Bool.noConfusion h) (fun _ h => Option.noConfusion h)
    (rfl : run defaultBatchConfig syncConfig 5 calmEnv _ idleClient 0 _ = _)⟩

theorem sendWire_isSome (hmin : -2 ^ 63 ≤ cfg.maxRetries) (hmax : cfg.maxRetries < 2 ^ 63 - 1)
    (hf : (cfg.maxRetries + 1).toNat < fuel) (ev : CallEnv) (data : Payload) (c : Client) :
    (c.sendWire cfg fuel ev data).isSome := by
  unfold sendWire sendWithRetryLoop
  cases c.cb.canExecute cfg ev.now₀ with
  | mk e cb =>
    cases e
    · dsimp only; rw [sendLoop_start cfg ev.net ev.draw hmin hmax hf]; rfl
    · rfl

theorem execCalls_total (hmin : -2 ^ 63 ≤ cfg.maxRetries) (hmax : cfg.maxRetries < 2 ^ 63 - 1)
    (hf : (cfg.maxRetries + 1).toNat < fuel) :
    ∀ (j : Nat) (cs : List (ClientCall LogEntry)) (c : Client),
      ∃ c' os, execCalls cfg fuel env j cs c = some (c', os) ∧ os.map Outcome.call = cs
  | _, [], c => ⟨c, [], rfl, rfl⟩
  | j, call :: cs, c => by
    obtain ⟨⟨err, c₁, new⟩, h₁⟩ : ∃ r, c.execCall cfg fuel (env j) call = some r := by
      cases call with
      | close => exact ⟨_, rfl⟩
      | _ => exact Option.isSome_iff_exists.mp (sendWire_isSome hmin hmax hf _ _ _)
    obtain ⟨c', os, h₂, h₃⟩ := execCalls_total hmin hmax hf (j + 1) cs c₁
    exact ⟨c', _, by rw [execCalls, h₁, Option.some_bind, h₂]; rfl, by rw [List.map_cons, h₃]⟩

/-- **The pipeline runs to the end of every run of the batcher**, in sync mode with a positive
`Timeout`, so that every `Write` has a deadline and returns. -/
theorem run_total (hsync : cfg.asyncMode = false) (ht : 0 < cfg.timeout)
    (hmin : -2 ^ 63 ≤ cfg.maxRetries) (hmax : cfg.maxRetries < 2 ^ 63 - 1)
    (hf : (cfg.maxRetries + 1).toNat < fuel) :
    ∀ {bc bc' : BatchClient LogEntry} {ops : List (Op LogEntry)} {cs : List (ClientCall LogEntry)},
      Batch.run bcfg bc ops = some (bc', cs) → ∀ (c : Client) (j : Nat),
      ∃ c' os, run bcfg cfg fuel env bc c j ops = some (bc', c', os) ∧ os.map Outcome.call = cs
  | _, _, [], _, h, c, _ => by cases h; exact ⟨c, [], rfl, rfl⟩
  | bc, bc', op :: ops, cs, h, c, j => by
    obtain ⟨bc₁, c₁, c₂, h₁, h₂, rfl⟩ := run_cons bcfg h
    obtain ⟨c', os₁, h₃, h₄⟩ := @execCalls_total cfg fuel env hmin hmax hf j c₁ c
    obtain ⟨c'', os₂, h₅, h₆⟩ := run_total hsync ht hmin hmax hf h₂ c' (j + c₁.length)
    exact ⟨c'', os₁ ++ os₂, by rw [run, h₁, Option.some_bind, h₃, Option.some_bind, h₅]; rfl,
      by rw [List.map_append, h₄, h₆]⟩

/-- The batcher's run of `run_delivery_flush`, on the default client in sync mode. -/
theorem run_total_flush :
    ∃ bc₀ bc' cs, newBatchClient defaultBatchConfig = some bc₀ ∧
      Batch.run defaultBatchConfig bc₀ [.sendLogEntry helloEntry, .flush] = some (bc', cs) ∧
      ∃ c' os, run defaultBatchConfig syncConfig 5 calmEnv bc₀ idleClient 0
        [.sendLogEntry helloEntry, .flush] = some (bc', c', os) ∧ os.map Outcome.call = cs :=
  ⟨_, _, _, rfl, rfl, run_total rfl (by decide) (by decide) (by decide) (by decide) (by rfl) idleClient 0⟩

end Pipeline



end LogFlux
