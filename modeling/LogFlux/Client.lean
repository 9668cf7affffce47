import LogFlux.Breaker
import LogFlux.Batch

/-!
# LogFlux.Client — the connection, `Close` and one pass of `sendWithRetry` (`client.go`)

`Client` holds the fields these methods read and write on the goroutine that calls them: the
connection, whether `asyncChan` and `stopChan` are non-nil, whether the async worker is still
running, and the circuit breaker.  What the network does is an argument: `Attempt` says how the
dial, `SetWriteDeadline` and `Write` of one pass end.  `Close`'s `asyncWorker.Wait()` returns
once the worker has drained the queue and exited, which `LogFlux.Dispatch` shows for a `Close` on
a goroutine other than the worker's; on the worker's own goroutine it never returns
(`LogFlux.Dispatch.close_in_sendWithRetry`).  `stopAsync` is `Close` as such another goroutine
runs it.  The loop of `sendWithRetry` is `LogFlux.Client.sendLoop`.

* `close_twice`: a second `Close` changes nothing; it returns `nil` when there is no
  connection, and `close unix @->/tmp/logflux-agent.sock: use of closed network connection`
  (the network and the connection's addresses) when there is one, since `Close` closes `c.conn`
  without clearing it.  A batcher's second `Close` makes exactly that one call.
* `attempt_write_failure`, `Stopped.attempt`: a failed `sendData` ends the pass with `Close`'s
  client, and a pass from a client whose async side is shut down leaves it shut down.
-/

namespace LogFlux

/-- A `net.Conn`: its handle, whether its `Close` has run, and its `LocalAddr()` and
`RemoteAddr()` as they print (`@` and the socket path for a Unix socket). -/
structure Conn where
  id : Nat
  closed : Bool
  laddr : String
  raddr : String
  deriving DecidableEq, Repr

/-- The fields of `Client` that `Connect`, `Close` and `sendWithRetry` touch: `c.conn`,
`asyncChan != nil`, `stopChan != nil`, the worker goroutine running, the breaker, and the
handle of the next connection dialled. -/
structure Client where
  conn : Option Conn
  asyncChan : Bool
  stopChan : Bool
  worker : Bool
  cb : CircuitBreaker
  nextConn : Nat
  deriving DecidableEq, Repr

/-- How one attempt of `sendWithRetry` ends on the network: the dial's error (when there is no
connection), `SetWriteDeadline`'s and `Write`'s, and the local and remote address of the
connection a successful dial makes. -/
structure Attempt where
  dial : Option Err
  deadline : Option Err
  write : Option Err
  addrs : String × String
  deriving DecidableEq, Repr

/-- `NewClient(cfg)`: `make(chan asyncRequest, ChannelBuffer)` panics (`none`) on a negative
buffer; async mode starts the worker. -/
def newClient (cfg : Config) : Option Client :=
  if cfg.asyncMode && decide (cfg.channelBuffer < 0) then none
  else some ⟨none, cfg.asyncMode, cfg.asyncMode, cfg.asyncMode, CircuitBreaker.init, 0⟩

namespace Client

variable (cfg : Config)

/-- `Connect`: `c.conn, err = dialer.DialContext(...)` stores the dial's result, `nil` on an
error; a new connection has the addresses `addrs`. -/
def connect (dial : Option Err) (addrs : String × String) (c : Client) : Option Err × Client :=
  match dial with
  | some e => (some (.connect cfg.network cfg.address e), { c with conn := none })
  | none =>
    (none, { c with conn := some ⟨c.nextConn, false, addrs.1, addrs.2⟩, nextConn := c.nextConn + 1 })

/-- The async part of `Close` on a goroutine other than the worker's: close `stopChan`, wait for
the worker to drain the queue and exit, close `asyncChan`, clear both fields. -/
def stopAsync (c : Client) : Client :=
  if cfg.asyncMode && c.stopChan then
    { c with asyncChan := false, stopChan := false, worker := false }
  else c

/-- `c.conn.Close()`: the connection stays in the field; closing a closed one fails with
`net.ErrClosed`, wrapped in an `OpError` naming the connection's addresses. -/
def closeConn (c : Client) : Option Err × Client :=
  match c.conn with
  | some k =>
    (if k.closed then some (.close cfg.network k.laddr k.raddr .useOfClosed) else none,
      { c with conn := some { k with closed := true } })
  | none => (none, c)

/-- `Close`: stop the worker in async mode, then close `c.conn`. -/
def close (c : Client) : Option Err × Client := (c.stopAsync cfg).closeConn cfg

/-- `sendData`: marshal (it cannot fail on the SDK's payloads), set the write deadline when a
timeout is configured, write.  `a.write` is how a `Write` that returned ended; with no deadline
(`Timeout ≤ 0`) a `Write` to a peer that stops reading never returns, which no `Attempt`
describes. -/
def sendData (a : Attempt) : Option Err :=
  match (if 0 < cfg.timeout then a.deadline else none), a.write with
  | some e, _ => some (.writeDeadline e)
  | none, some e => some (.write e)
  | none, none => none

/-- `if c.conn == nil { ... c.Connect(ctx) ... }`: dial when there is no connection. -/
def ensureConn (dial : Option Err) (addrs : String × String) (c : Client) : Option Err × Client :=
  if c.conn = none then c.connect cfg dial addrs else (none, c)

/-- One pass of the loop body: connect if needed, then `sendData`; on a failed `sendData`,
`_ = c.Close()` and `c.conn = nil`.  An error continues the loop as `lastErr`. -/
def attempt (a : Attempt) (c : Client) : Except Err Unit × Client :=
  match c.ensureConn cfg a.dial a.addrs with
  | (some e, c) => (.error e, c)
  | (none, c) =>
    match sendData cfg a with
    | some e => (.error e, { (c.close cfg).2 with conn := none })
    | none => (.ok (), c)

/-! ## `Close` -/

@[simp] theorem stopAsync_conn (c : Client) : (c.stopAsync cfg).conn = c.conn := by
  unfold stopAsync; split <;> rfl

@[simp] theorem stopAsync_cb (c : Client) : (c.stopAsync cfg).cb = c.cb := by
  unfold stopAsync; split <;> rfl

theorem closeConn_snd (c : Client) :
    (c.closeConn cfg).2 = { c with conn := c.conn.map fun k => { k with closed := true } } := by
  rcases c with ⟨_ | k, _⟩ <;> rfl

theorem close_snd (c : Client) :
    (c.close cfg).2 = { c.stopAsync cfg with conn := c.conn.map fun k => { k with closed := true } } := by
  rw [close, closeConn_snd, stopAsync_conn]

theorem close_close_snd (c : Client) : ((c.close cfg).2.close cfg).2 = (c.close cfg).2 := by
  rcases c with ⟨_ | k, a, s, w, cb, n⟩ <;> simp only [close_snd, stopAsync] <;>
    cases cfg.asyncMode <;> cases s <;> rfl

/-- **`Close` is not idempotent.**  The second call changes nothing; it returns `nil` only
when there is no connection, and otherwise the error of closing a closed `net.Conn`.  The
batcher's second `Close` flushes nothing and returns the client's second `Close`. -/
theorem close_twice (c : Client) :
    ((c.close cfg).2.close cfg).2 = (c.close cfg).2 ∧
    (c.conn = none → ((c.close cfg).2.close cfg).1 = none) ∧
    (∀ k, c.conn = some k →
      ((c.close cfg).2.close cfg).1 = some (.close cfg.network k.laddr k.raddr .useOfClosed)) ∧
    ∀ {E : Type} (bcfg : BatchConfig) (bc : Batch.BatchClient E),
      ((bc.close bcfg).1.close bcfg).2 = [.close] := by
  refine ⟨close_close_snd cfg c, fun h => ?_, fun k hk => ?_, fun bcfg bc => ?_⟩
  · simp [close, closeConn_snd, closeConn, h]
  · simp [close, closeConn_snd, closeConn, hk]
  · simp [Batch.BatchClient.close, Batch.BatchClient.flushBatchLocked]
    split <;> simp_all [Batch.BatchClient.flushBatchLocked]

/-- `DefaultConfig` after `Connect` succeeds on the Unix socket: the second `Close` fails. -/
theorem close_twice_after_connect :
    newClient defaultConfig = some ⟨none, true, true, true, CircuitBreaker.init, 0⟩ ∧
    let c := (connect defaultConfig none ("@", "/tmp/logflux-agent.sock")
      ⟨none, true, true, true, CircuitBreaker.init, 0⟩).2
    c.conn = some ⟨0, false, "@", "/tmp/logflux-agent.sock"⟩ ∧ ((c.close defaultConfig).2.close defaultConfig).1 =
      some (.close "unix" "@" "/tmp/logflux-agent.sock" .useOfClosed) :=
  ⟨rfl, rfl, (close_twice defaultConfig _).2.2.1 ⟨0, false, "@", "/tmp/logflux-agent.sock"⟩ rfl⟩

/-! ## One pass -/

@[simp] theorem connect_cb (dial : Option Err) (addrs : String × String) (c : Client) :
    (c.connect cfg dial addrs).2.cb = c.cb := by
  cases dial <;> rfl

@[simp] theorem ensureConn_cb (dial : Option Err) (addrs : String × String) (c : Client) :
    (c.ensureConn cfg dial addrs).2.cb = c.cb := by
  unfold ensureConn; split <;> simp

@[simp] theorem attempt_cb (a : Attempt) (c : Client) : (c.attempt cfg a).2.cb = c.cb := by
  have hc := ensureConn_cb cfg a.dial a.addrs c
  unfold attempt
  rcases h : c.ensureConn cfg a.dial a.addrs with ⟨_ | e, c'⟩ <;> rw [h] at hc
  · cases sendData cfg a <;> simpa [close_snd] using hc
  · exact hc

/-! ## A failed `sendData` runs `Close` -/

/-- The async side is shut down: both channels `nil`, the worker gone. -/
def Stopped (c : Client) : Prop := c.asyncChan = false ∧ c.stopChan = false ∧ c.worker = false

theorem Stopped.stopAsync {c : Client} (h : c.Stopped) : (c.stopAsync cfg).Stopped := by
  unfold Client.stopAsync; split <;> simp_all [Stopped]

theorem Stopped.attempt {c : Client} (a : Attempt) (h : c.Stopped) : (c.attempt cfg a).2.Stopped := by
  have he : (c.ensureConn cfg a.dial a.addrs).2.Stopped := by
    unfold ensureConn connect; split
    · split <;> exact h
    · exact h
  unfold Client.attempt
  rcases hr : c.ensureConn cfg a.dial a.addrs with ⟨_ | e, c'⟩ <;> rw [hr] at he
  · cases sendData cfg a
    · exact he
    · simpa [close_snd, Stopped] using he.stopAsync cfg
  · exact he

end Client

end LogFlux
