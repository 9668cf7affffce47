import Mathlib.Data.List.Nodup
import Mathlib.Logic.Function.Basic
import LogFlux.Config
import LogFlux.Errors

/-!
# LogFlux.Dispatch — the async dispatcher of `Client` as an interleaving of goroutines

An async-mode `Client` has one worker goroutine (`startAsyncWorker`), any number of
producers (`sendAsync`, `SendAsyncWithResponse`) and any number of goroutines that call
`Close`, directly or from a failed `sendData` inside their own `sendWithRetry` (`Ping`,
`Authenticate`).  `step` is one atomic action of one of them; `Reachable` is every state of
every interleaving from the client `NewClient` builds.

* A producer's call runs under `c.mu.RLock()` and never blocks inside, so it is one step,
  enabled while no goroutine holds `c.mu` for writing.
* The worker's outer `select` takes a buffered request (`recv`), the closed `stopChan`
  (`stop`), or parks; a producer hands its request straight to a parked worker, as a Go
  channel does with a waiting receiver.  The drain loop takes what is buffered, then returns.
* A goroutine in `Close` takes `c.mu`, closes `stopChan`, and waits on `asyncWorker` holding
  `c.mu`; when the worker has exited it closes `asyncChan`, sets both fields to `nil` and
  unlocks.  `Close` from the worker's own `sendWithRetry` is the same code.
* `stop` is `c.stopChan`: open, closed, or `nil` after `Close`.  `asyncChan` is `nil` and closed
  exactly when `stopChan` is `nil`: one step of `Close` does both.
* A result channel (`make(chan error, 1)`) keeps the values sent on it; sending on or closing
  a closed channel sets `panicked`.  `enqueued`, `sent` and `drained` are ghost logs of the
  requests accepted, passed to `sendWithRetry`, and answered `client shutting down`.

Main results:
* `dispatch_safe`: along every interleaving, the requests passed to `sendWithRetry` are a
  prefix of those accepted, in order; the rest are drained or still buffered, and nothing is
  buffered once `Close` has finished; no request is handled twice; each result channel gets
  at most one value and is closed only after it; no request is accepted after `stopChan` is
  closed; no step panics.
* `close_in_sendWithRetry`: a failed write on the worker sends it into `Close`, which waits on
  the worker itself: it never takes a request again, and once it holds `c.mu` no producer ever
  gets the lock.  A failed write on a caller's goroutine returns to `sendWithRetry` only after
  the worker has exited and both channels are `nil`.
-/

namespace LogFlux.Dispatch

/-- An `asyncRequest`: a ghost id naming it and its result channel, the payload, and whether
it carries a `respChan`. -/
structure Req (D : Type) where
  id : Nat
  data : D
  withResp : Bool
  deriving DecidableEq, Repr

/-- A result channel: the values sent on it, and whether it is closed. -/
structure RespChan where
  vals : List (Option Err)
  closed : Bool
  deriving DecidableEq, Repr

def RespChan.empty : RespChan := ⟨[], false⟩

/-- `c.stopChan`: open, closed by `Close`, or `nil` (closed) once `Close` has finished. -/
inductive StopChan where
  | open
  | closed
  | cleared
  deriving DecidableEq, Repr

/-- Who holds `c.mu` for writing. -/
inductive Holder where
  | free
  | worker
  | caller (i : Nat)
  deriving DecidableEq, Repr

/-- Where the worker goroutine is. -/
inductive WorkerPc (D : Type) where
  /-- about to run the outer `select` -/
  | loop
  /-- blocked in the outer `select` -/
  | parked
  /-- inside `sendWithRetry(req.data)` -/
  | busy (r : Req D)
  /-- inside the `c.Close()` of a failed `sendData`: waiting for `c.mu`, then (holding it)
  on `asyncWorker` -/
  | closing (r : Req D)
  /-- in the drain loop -/
  | drain
  /-- returned, `asyncWorker.Done()` run -/
  | exited
  deriving DecidableEq, Repr

/-- Where a goroutine other than the worker is. -/
inductive CallerPc where
  /-- outside `Close` and `sendWithRetry` -/
  | idle
  /-- inside its own `sendWithRetry` (`Ping`, `Authenticate`) -/
  | sending
  /-- inside `Close`: waiting for `c.mu`, then (holding it) on `asyncWorker`; `ret` when
  `Close` was called by `sendWithRetry` -/
  | closing (ret : Bool)
  deriving DecidableEq, Repr

/-- The dispatcher's state. -/
structure Sys (D : Type) where
  queue : List (Req D)
  stop : StopChan
  mu : Holder
  worker : WorkerPc D
  callers : List CallerPc
  resp : Nat → RespChan
  nextId : Nat
  enqueued : List (Req D)
  sent : List (Req D)
  drained : List (Req D)
  lateEnqueue : Bool
  panicked : Bool

/-- One action of one goroutine. -/
inductive Act (D : Type) where
  /-- a producer's `sendAsync(data)` -/
  | sendAsync (data : D)
  /-- a producer's `SendAsyncWithResponse(data)` -/
  | sendAsyncWithResponse (data : D)
  /-- the worker blocks in the outer `select` -/
  | park
  /-- the worker's outer `select` takes a buffered request -/
  | recv
  /-- the worker's outer `select` takes the closed `stopChan` -/
  | stop
  /-- the worker's `sendWithRetry` returns `err`, which goes to the result channel -/
  | finish (err : Option Err)
  /-- the worker's `sendData` fails: `sendWithRetry` calls `Close` -/
  | writeFail
  /-- the worker's drain loop takes a buffered request -/
  | drainRecv
  /-- the worker's drain loop finds nothing and returns -/
  | drainExit
  /-- a new goroutine -/
  | spawn
  /-- goroutine `i` enters `sendWithRetry` -/
  | startSend (i : Nat)
  /-- goroutine `i`'s `sendWithRetry` returns -/
  | finishSend (i : Nat)
  /-- goroutine `i`'s `sendData` fails: its `sendWithRetry` calls `Close` -/
  | sendFail (i : Nat)
  /-- goroutine `i` calls `Close` -/
  | callClose (i : Nat)
  /-- the worker, inside `Close`, takes `c.mu` -/
  | workerLock
  /-- goroutine `i`, inside `Close`, takes `c.mu` -/
  | lock (i : Nat)
  /-- goroutine `i`'s `asyncWorker.Wait()` returns -/
  | wake (i : Nat)
  deriving DecidableEq, Repr

variable {D : Type} (cfg : Config)

namespace Sys

/-- The client `NewClient` builds in async mode. -/
def init : Sys D :=
  ⟨[], .open, .free, .loop, [], fun _ => RespChan.empty, 0, [], [], [], false, false⟩

/-- `respChan <- err; close(respChan)` on the result channel of request `i`. -/
def reply (s : Sys D) (i : Nat) (err : Option Err) : Sys D :=
  { s with
    resp := Function.update s.resp i ⟨(s.resp i).vals ++ [err], true⟩
    panicked := s.panicked || (s.resp i).closed }

/-- `select { case c.asyncChan <- req: ... default: ... }`: the request goes to a parked
worker, or into a buffer with room; `none` when the channel is full. -/
def offer (s : Sys D) (r : Req D) : Option (Sys D) :=
  let late := s.lateEnqueue || s.stop != .open
  match s.worker with
  | .parked =>
    some { s with worker := .busy r, enqueued := s.enqueued ++ [r], sent := s.sent ++ [r],
                  lateEnqueue := late }
  | _ =>
    if s.queue.length < cfg.channelBuffer.toNat then
      some { s with queue := s.queue ++ [r], enqueued := s.enqueued ++ [r], lateEnqueue := late }
    else none

/-- A producer's call with request `r`, under `c.mu.RLock()`: `notInit` is what it does when the
fields are `nil`, `full` what it does when the channel is full. -/
def produce (s : Sys D) (r : Req D) (notInit full : Sys D → Sys D) : Option (Sys D) :=
  if s.mu = .free then
    if s.stop = .cleared then some (notInit { s with nextId := s.nextId + 1 })
    else some (({ s with nextId := s.nextId + 1 }.offer cfg r).getD (full { s with nextId := s.nextId + 1 }))
  else none

/-- `sendAsync(data)`: fire and forget, the error is returned. -/
def sendAsync (s : Sys D) (d : D) : Option (Sys D) := s.produce cfg ⟨s.nextId, d, false⟩ id id

/-- `SendAsyncWithResponse(data)`: the error goes to the new result channel. -/
def sendAsyncWithResponse (s : Sys D) (d : D) : Option (Sys D) :=
  s.produce cfg ⟨s.nextId, d, true⟩ (·.reply s.nextId (some .asyncNotInitialized))
    (·.reply s.nextId (some .channelFull))

/-- Goroutine `i` moves from `a` to `b`. -/
def move (s : Sys D) (i : Nat) (a b : CallerPc) : Option (Sys D) :=
  if s.callers[i]? = some a then some { s with callers := s.callers.set i b } else none

end Sys

open Sys

/-- One step; `none` when the action is not enabled. -/
def step (s : Sys D) : Act D → Option (Sys D)
  | .sendAsync d => s.sendAsync cfg d
  | .sendAsyncWithResponse d => s.sendAsyncWithResponse cfg d
  | .park =>
    match s.worker with
    | .loop =>
      if (s.queue.isEmpty || s.stop == .cleared) && s.stop != .closed then
        some { s with worker := .parked }
      else none
    | _ => none
  | .recv =>
    match s.worker, s.queue with
    | .loop, r :: q =>
      if s.stop ≠ .cleared then some { s with worker := .busy r, queue := q, sent := s.sent ++ [r] }
      else none
    | _, _ => none
  | .stop =>
    match s.worker with
    | .loop | .parked => if s.stop = .closed then some { s with worker := .drain } else none
    | _ => none
  | .finish e =>
    match s.worker with
    | .busy r =>
      let s := { s with worker := .loop }
      some (if r.withResp then s.reply r.id e else s)
    | _ => none
  | .writeFail =>
    match s.worker with
    | .busy r => some { s with worker := .closing r }
    | _ => none
  | .drainRecv =>
    match s.worker, s.queue with
    | .drain, r :: q =>
      if s.stop ≠ .cleared then
        let s := { s with queue := q, drained := s.drained ++ [r] }
        some (if r.withResp then s.reply r.id (some .shuttingDown) else s)
      else none
    | _, _ => none
  | .drainExit =>
    match s.worker with
    | .drain => if s.queue.isEmpty || s.stop == .cleared then some { s with worker := .exited } else none
    | _ => none
  | .spawn => some { s with callers := s.callers ++ [.idle] }
  | .startSend i => s.move i .idle .sending
  | .finishSend i => s.move i .sending .idle
  | .sendFail i => s.move i .sending (.closing true)
  | .callClose i => s.move i .idle (.closing false)
  | .workerLock =>
    match s.worker with
    | .closing r =>
      if s.mu = .free then
        match s.stop with
        | .open => some { s with stop := .closed, mu := .worker }
        | .closed => some { s with panicked := true }
        | .cleared => some { s with worker := .busy r }
      else none
    | _ => none
  | .lock i =>
    match s.callers[i]? with
    | some (.closing ret) =>
      if s.mu = .free then
        match s.stop with
        | .open => some { s with stop := .closed, mu := .caller i }
        | .closed => some { s with panicked := true }
        | .cleared => some { s with callers := s.callers.set i (if ret then .sending else .idle) }
      else none
    | _ => none
  | .wake i =>
    match s.callers[i]?, s.worker with
    | some (.closing ret), .exited =>
      if s.mu = .caller i then
        some { s with stop := .cleared, mu := .free, panicked := s.panicked || s.stop == .cleared,
                      callers := s.callers.set i (if ret then .sending else .idle) }
      else none
    | _, _ => none

def run (s : Sys D) : List (Act D) → Option (Sys D)
  | [] => some s
  | a :: as => (step cfg s a).bind (run · as)

/-- The states of every interleaving from `NewClient`'s client. -/
inductive Reachable : Sys D → Prop where
  | init : Reachable Sys.init
  | step {s s' : Sys D} {a : Act D} : Reachable s → step cfg s a = some s' → Reachable s'

theorem reachable_of_run {s s' : Sys D} :
    ∀ {acts : List (Act D)}, Reachable cfg s → run cfg s acts = some s' → Reachable cfg s'
  | [], h, hr => by cases hr; exact h
  | a :: as, h, hr => by
    simp only [run] at hr
    cases hs : step cfg s a with
    | none => simp [hs] at hr
    | some s₁ => rw [hs, Option.some_bind] at hr; exact reachable_of_run (h.step hs) hr

/-! ## The invariant -/

namespace WorkerPc

def req : WorkerPc D → Option (Req D)
  | .busy r | .closing r => some r
  | _ => none

def draining : WorkerPc D → Bool
  | .drain | .exited => true
  | _ => false

end WorkerPc

/-- A result channel that got at most one value, and was closed only after it. -/
def RespChan.Ok (c : RespChan) : Prop := c.vals.length ≤ 1 ∧ (c.closed = true → c.vals.length = 1)

/-- What holds in every reachable state. -/
structure Inv (s : Sys D) : Prop where
  order : s.enqueued = s.sent ++ s.drained ++ s.queue
  nodup : (s.enqueued.map Req.id).Nodup
  below : ∀ r ∈ s.enqueued, r.id < s.nextId
  fresh : ∀ i, s.nextId ≤ i → s.resp i = RespChan.empty
  respOk : ∀ i, (s.resp i).Ok
  queued : ∀ r ∈ s.queue, r.withResp = true → s.resp r.id = RespChan.empty
  drainedResp : ∀ r ∈ s.drained, r.withResp = true → s.resp r.id = ⟨[some .shuttingDown], true⟩
  inflight : ∀ r, s.worker.req = some r →
    r ∈ s.sent ∧ (r.withResp = true → s.resp r.id = RespChan.empty)
  parked : s.worker = .parked → s.queue = []
  preDrain : s.worker.draining = false → s.drained = []
  held : s.stop = .closed ↔ s.mu ≠ .free
  muWorker : s.mu = .worker → ∃ r, s.worker = .closing r
  muCaller : ∀ i, s.mu = .caller i → ∃ ret, s.callers[i]? = some (.closing ret)
  openLoop : s.stop = .open → s.worker.draining = false
  exitedEmpty : s.worker = .exited → s.queue = []
  cleared : s.stop = .cleared → s.worker = .exited
  late : s.lateEnqueue = false
  safe : s.panicked = false

theorem inv_init : Inv (Sys.init : Sys D) where
  order := rfl
  nodup := List.nodup_nil
  below := by simp [Sys.init]
  fresh _ _ := rfl
  respOk _ := ⟨by simp [Sys.init, RespChan.empty], by simp [Sys.init, RespChan.empty]⟩
  queued := by simp [Sys.init]
  drainedResp := by simp [Sys.init]
  inflight := by simp [Sys.init, WorkerPc.req]
  parked _ := rfl
  preDrain _ := rfl
  held := by simp [Sys.init]
  muWorker := by simp [Sys.init]
  muCaller := by simp [Sys.init]
  openLoop _ := rfl
  exitedEmpty _ := rfl
  cleared := by simp [Sys.init]
  late := rfl
  safe := rfl

section Step

variable {s s' : Sys D}

theorem ids_ne {l₁ l₂ : List (Req D)} {a b : Req D} (h : ((l₁ ++ l₂).map Req.id).Nodup)
    (ha : a ∈ l₁) (hb : b ∈ l₂) : a.id ≠ b.id := by
  rw [List.map_append, List.nodup_append] at h
  exact fun he => h.2.2 (List.mem_map_of_mem _ ha) (he ▸ List.mem_map_of_mem _ hb)

theorem reply_resp (i j : Nat) (e : Option Err) :
    (s.reply i e).resp j = if j = i then ⟨(s.resp i).vals ++ [e], true⟩ else s.resp j :=
  Function.update_apply ..

theorem RespChan.ok_reply_empty (e : Option Err) :
    (⟨RespChan.empty.vals ++ [e], true⟩ : RespChan).Ok := ⟨by simp [RespChan.empty], fun _ => rfl⟩

namespace Inv

theorem lt_of_mem (hi : Inv s) {r : Req D} (h : r ∈ s.sent ++ s.drained ++ s.queue) :
    r.id < s.nextId :=
  hi.below r (hi.order ▸ h)

theorem nodup' (hi : Inv s) : ((s.sent ++ s.drained ++ s.queue).map Req.id).Nodup :=
  hi.order ▸ hi.nodup

theorem stop_open (hi : Inv s) (hmu : s.mu = .free) (hcl : s.stop ≠ .cleared) : s.stop = .open := by
  cases h : s.stop
  · rfl
  · exact absurd hmu (hi.held.mp h)
  · exact absurd h hcl

theorem bump (hi : Inv s) : Inv { s with nextId := s.nextId + 1 } :=
  { hi with
    below := fun r hr => Nat.lt_succ_of_lt (hi.below r hr)
    fresh := fun i h => hi.fresh i (Nat.le_of_succ_le h) }

theorem mem_of_sent {r : Req D} (h : r ∈ s.sent) : r ∈ s.sent ++ s.drained ++ s.queue :=
  List.mem_append_left _ (List.mem_append_left _ h)

theorem mem_of_drained {r : Req D} (h : r ∈ s.drained) : r ∈ s.sent ++ s.drained ++ s.queue :=
  List.mem_append_left _ (List.mem_append_right _ h)

theorem mem_of_queue {r : Req D} (h : r ∈ s.queue) : r ∈ s.sent ++ s.drained ++ s.queue :=
  List.mem_append_right _ h

theorem replyNew (hi : Inv s) (e : Option Err) :
    Inv ({ s with nextId := s.nextId + 1 }.reply s.nextId e) := by
  have hne : ∀ r ∈ s.sent ++ s.drained ++ s.queue, r.id ≠ s.nextId :=
    fun r hr => Nat.ne_of_lt (hi.lt_of_mem hr)
  have hfr : s.resp s.nextId = RespChan.empty := hi.fresh _ (Nat.le_refl _)
  exact
  { hi.bump with
    fresh := fun i h => by
      have h : s.nextId + 1 ≤ i := h
      rw [reply_resp, if_neg (by omega)]; exact hi.fresh i (by omega)
    respOk := fun i => by
      rw [reply_resp]; split
      · rw [hfr]; exact RespChan.ok_reply_empty e
      · exact hi.respOk i
    queued := fun r (hr : r ∈ s.queue) hw => by
      rw [reply_resp, if_neg (hne r (mem_of_queue hr))]; exact hi.queued r hr hw
    drainedResp := fun r (hr : r ∈ s.drained) hw => by
      rw [reply_resp, if_neg (hne r (mem_of_drained hr))]; exact hi.drainedResp r hr hw
    inflight := fun r hr => by
      obtain ⟨h1, h2⟩ := hi.inflight r hr
      refine ⟨h1, fun hw => ?_⟩
      rw [reply_resp, if_neg (hne r (mem_of_sent h1))]; exact h2 hw
    safe := by simp [Sys.reply, hi.safe, hfr, RespChan.empty] }

theorem offer (hi : Inv s) (hmu : s.mu = .free) (hop : s.stop = .open) {r : Req D}
    (hr : r.id = s.nextId)
    (h : ({ s with nextId := s.nextId + 1 } : Sys D).offer cfg r = some s') : Inv s' := by
  have hnew : r.id ∉ s.enqueued.map Req.id := fun hm => by
    obtain ⟨q, hq, he⟩ := List.mem_map.mp hm
    exact absurd (hi.below q hq) (by omega)
  have hbelow : ∀ q ∈ s.enqueued ++ [r], q.id < s.nextId + 1 := fun q hq => by
    rcases List.mem_append.mp hq with hq | hq
    · exact Nat.lt_succ_of_lt (hi.below q hq)
    · rw [List.mem_singleton.mp hq, hr]; exact Nat.lt_succ_self _
  have hnodup : ((s.enqueued ++ [r]).map Req.id).Nodup := by
    simp [List.nodup_append, hi.nodup, hnew]
  have hfr : r.withResp = true → s.resp r.id = RespChan.empty := fun _ => hi.fresh _ (by omega)
  have hb := hi.bump
  have hmw : s.mu ≠ .worker := by rw [hmu]; exact Holder.noConfusion
  unfold Sys.offer at h
  split at h
  · rename_i hw
    cases h
    have hq : s.queue = [] := hi.parked hw
    have hd : s.drained = [] := hi.preDrain (by rw [hw]; rfl)
    exact
    { hb with
      order := by simp [hi.order, hq, hd]
      nodup := hnodup
      below := hbelow
      inflight := fun q hq => by
        cases hq; exact ⟨List.mem_append_right _ (List.mem_singleton_self _), hfr⟩
      parked := fun h => by cases h
      preDrain := fun _ => hd
      muWorker := fun h => absurd h hmw
      openLoop := fun _ => rfl
      exitedEmpty := fun h => by cases h
      cleared := fun h => by simp [hop] at h
      late := by simp [hi.late, hop] }
  · rename_i hw
    split at h
    · cases h
      have hex : s.worker ≠ .exited := fun he => by
        have := hi.openLoop hop; rw [he] at this; cases this
      exact
      { hb with
        order := by simp [hi.order]
        nodup := hnodup
        below := hbelow
        queued := fun q hq hw => by
          rcases List.mem_append.mp hq with hq | hq
          · exact hi.queued q hq hw
          · rw [List.mem_singleton.mp hq]; exact hfr (List.mem_singleton.mp hq ▸ hw)
        parked := fun h => (hw h).elim
        exitedEmpty := fun h => absurd h hex
        late := by simp [hi.late, hop] }
    · cases h

theorem reply_basics (hi : Inv s) {i : Nat} (hlt : i < s.nextId) (hfr : s.resp i = RespChan.empty)
    (e : Option Err) {t : Sys D} (ht : t.resp = s.resp) (htn : t.nextId = s.nextId)
    (htp : t.panicked = s.panicked) :
    (∀ j, (t.reply i e).nextId ≤ j → (t.reply i e).resp j = RespChan.empty) ∧
      (∀ j, ((t.reply i e).resp j).Ok) ∧ (t.reply i e).panicked = false := by
  refine ⟨fun j hj => ?_, fun j => ?_, ?_⟩
  · have hj : s.nextId ≤ j := htn ▸ hj
    rw [reply_resp, if_neg (by omega), ht]; exact hi.fresh j hj
  · rw [reply_resp, ht]; split
    · rw [hfr]; exact RespChan.ok_reply_empty e
    · exact hi.respOk j
  · simp [Sys.reply, htp, ht, hi.safe, hfr, RespChan.empty]

theorem produce (hi : Inv s) {r : Req D} {notInit full : Sys D → Sys D}
    (h : s.produce cfg r notInit full = some s') (hr : r.id = s.nextId)
    (hn : Inv (notInit { s with nextId := s.nextId + 1 }))
    (hf : Inv (full { s with nextId := s.nextId + 1 })) : Inv s' := by
  unfold Sys.produce at h
  split at h
  · rename_i hmu
    split at h
    · cases h; exact hn
    · rename_i hcl
      cases h
      cases ho : ({ s with nextId := s.nextId + 1 } : Sys D).offer cfg r with
      | none => exact hf
      | some s'' => exact hi.offer cfg hmu (hi.stop_open hmu hcl) hr ho
  · cases h

theorem sendAsyncWithResponse (hi : Inv s) {d : D} (h : s.sendAsyncWithResponse cfg d = some s') :
    Inv s' := by
  unfold Sys.sendAsyncWithResponse at h
  exact hi.produce cfg h rfl (hi.replyNew _) (hi.replyNew _)

/-! ### The worker's steps -/

theorem mu_ne_worker (hi : Inv s) (hw : ∀ r, s.worker ≠ .closing r) : s.mu ≠ .worker :=
  fun hm => let ⟨r, hr⟩ := hi.muWorker hm; hw r hr

theorem stop_ne_cleared (hi : Inv s) (hw : s.worker ≠ .exited) : s.stop ≠ .cleared :=
  fun hc => hw (hi.cleared hc)

theorem park (hi : Inv s) (h : step cfg s .park = some s') : Inv s' := by
  cases hw : s.worker <;> simp [step, hw] at h
  obtain ⟨⟨hq, -⟩, rfl⟩ := h
  have hncl := hi.stop_ne_cleared (by rw [hw]; exact WorkerPc.noConfusion)
  exact
  { hi with
    inflight := fun r hr => by cases hr
    parked := fun _ => hq.resolve_right hncl
    preDrain := fun _ => hi.preDrain (by rw [hw]; rfl)
    muWorker := fun hm => absurd hm (hi.mu_ne_worker (by simp [hw]))
    openLoop := fun _ => rfl
    exitedEmpty := fun he => by cases he
    cleared := fun hc => absurd hc hncl }

theorem recv (hi : Inv s) (h : step cfg s .recv = some s') : Inv s' := by
  cases hw : s.worker <;> cases hq : s.queue <;> simp [step, hw, hq] at h
  rename_i r q
  obtain ⟨hncl, rfl⟩ := h
  have hd : s.drained = [] := hi.preDrain (by rw [hw]; rfl)
  have hqr := hi.queued
  rw [hq] at hqr
  exact
  { hi with
    order := by rw [hi.order, hq, hd]; simp
    queued := fun q' hq' => hqr q' (List.mem_cons_of_mem _ hq')
    inflight := fun r' hr' => by
      cases hr'; exact ⟨List.mem_append_right _ (List.mem_singleton_self _), hqr _ (List.mem_cons_self _ _)⟩
    parked := fun h => by cases h
    preDrain := fun _ => hd
    muWorker := fun hm => absurd hm (hi.mu_ne_worker (by simp [hw]))
    openLoop := fun _ => rfl
    exitedEmpty := fun he => by cases he
    cleared := fun hc => absurd hc hncl }

theorem stop (hi : Inv s) (h : step cfg s .stop = some s') : Inv s' := by
  cases hw : s.worker <;> simp [step, hw] at h <;> obtain ⟨hcl, rfl⟩ := h <;>
  exact
  { hi with
    inflight := fun r hr => by cases hr
    parked := fun h => by cases h
    preDrain := fun h => by cases h
    muWorker := fun hm => absurd hm (hi.mu_ne_worker (by simp [hw]))
    openLoop := fun ho => by rw [hcl] at ho; cases ho
    exitedEmpty := fun he => by cases he
    cleared := fun hc => by rw [hcl] at hc; cases hc }

theorem finish (hi : Inv s) (e : Option Err) (h : step cfg s (.finish e) = some s') : Inv s' := by
  cases hw : s.worker <;> simp [step, hw] at h
  rename_i r
  subst h
  obtain ⟨hrs, hre⟩ := hi.inflight r (by rw [hw]; rfl)
  have hd : s.drained = [] := hi.preDrain (by rw [hw]; rfl)
  have hncl := hi.stop_ne_cleared (by rw [hw]; exact WorkerPc.noConfusion)
  have hmw := hi.mu_ne_worker (by simp [hw])
  have hl : Inv { s with worker := .loop } :=
    { hi with
      inflight := fun r hr => by cases hr
      parked := fun h => by cases h
      preDrain := fun _ => hd
      muWorker := fun hm => absurd hm hmw
      openLoop := fun _ => rfl
      exitedEmpty := fun he => by cases he
      cleared := fun hc => absurd hc hncl }
  split
  · rename_i hresp
    have hne : ∀ q ∈ s.queue, q.id ≠ r.id := fun q hq =>
      (ids_ne hi.nodup' (List.mem_append_left _ hrs) hq).symm
    obtain ⟨hf1, hf2, hf3⟩ := hi.reply_basics (hi.lt_of_mem (mem_of_sent hrs)) (hre hresp) e
      (t := { s with worker := .loop }) rfl rfl rfl
    exact
    { hl with
      fresh := hf1
      respOk := hf2
      inflight := fun r' hr' => by cases hr'
      queued := fun q (hq : q ∈ s.queue) hw => by
        rw [reply_resp, if_neg (hne q hq)]; exact hi.queued q hq hw
      drainedResp := fun q (hq : q ∈ s.drained) => by rw [hd] at hq; cases hq
      safe := hf3 }
  · exact hl

theorem writeFail (hi : Inv s) (h : step cfg s .writeFail = some s') : Inv s' := by
  cases hw : s.worker <;> simp [step, hw] at h
  rename_i r
  subst h
  exact
  { hi with
    inflight := fun r' hr' => hi.inflight r' (by rw [hw]; exact hr')
    parked := fun h => by cases h
    preDrain := fun _ => hi.preDrain (by rw [hw]; rfl)
    muWorker := fun _ => ⟨r, rfl⟩
    openLoop := fun _ => rfl
    exitedEmpty := fun he => by cases he
    cleared := fun hc => absurd hc (hi.stop_ne_cleared (by rw [hw]; exact WorkerPc.noConfusion)) }

theorem drainRecv (hi : Inv s) (h : step cfg s .drainRecv = some s') : Inv s' := by
  cases hw : s.worker <;> cases hq : s.queue <;> simp [step, hw, hq] at h
  rename_i r q
  obtain ⟨-, rfl⟩ := h
  have hnd := hi.nodup'
  rw [hq] at hnd
  have hqr := hi.queued
  rw [hq] at hqr
  have hqn : r.id ∉ q.map Req.id := by
    rw [List.map_append, List.nodup_append] at hnd
    exact (List.nodup_cons.mp hnd.2.1).1
  have hord : s.enqueued = s.sent ++ (s.drained ++ [r]) ++ q := by rw [hi.order, hq]; simp
  have hmw := hi.mu_ne_worker (by simp [hw])
  have hop : s.stop ≠ .open := fun ho => absurd (hi.openLoop ho) (by simp [hw, WorkerPc.draining])
  have hncl := hi.stop_ne_cleared (by rw [hw]; exact WorkerPc.noConfusion)
  split
  · rename_i hresp
    have hfr := hqr r (List.mem_cons_self _ _) hresp
    obtain ⟨hf1, hf2, hf3⟩ := hi.reply_basics (hi.lt_of_mem (mem_of_queue (hq ▸ List.mem_cons_self _ _)))
      hfr (some .shuttingDown) (t := { s with queue := q, drained := s.drained ++ [r] }) rfl rfl rfl
    exact
    { hi with
      order := hord
      fresh := hf1
      respOk := hf2
      queued := fun q' (hq' : q' ∈ q) hw' => by
        rw [reply_resp, if_neg fun he => hqn (by rw [← he]; exact List.mem_map_of_mem _ hq')]
        exact hqr q' (List.mem_cons_of_mem _ hq') hw'
      drainedResp := fun q' (hq' : q' ∈ s.drained ++ [r]) hwr => by
        rcases List.mem_append.mp hq' with hq' | hq'
        · rw [reply_resp, if_neg (ids_ne hnd (List.mem_append_right _ hq') (List.mem_cons_self _ _))]
          exact hi.drainedResp q' hq' hwr
        · rw [List.mem_singleton.mp hq', reply_resp, if_pos rfl, hfr]; rfl
      inflight := fun r' hr' => by cases hr'
      muWorker := fun hm => absurd hm hmw
      openLoop := fun ho => absurd ho hop
      cleared := fun hc => absurd hc hncl
      parked := fun h => by cases h
      preDrain := fun h => by cases h
      exitedEmpty := fun h => by cases h
      safe := hf3 }
  · rename_i hresp
    exact
    { hi with
      order := hord
      queued := fun q' hq' => hqr q' (List.mem_cons_of_mem _ hq')
      drainedResp := fun q' hq' hwr => by
        rcases List.mem_append.mp hq' with hq' | hq'
        · exact hi.drainedResp q' hq' hwr
        · rw [List.mem_singleton.mp hq'] at hwr; exact absurd hwr hresp
      inflight := fun r' hr' => by cases hr'
      muWorker := fun hm => absurd hm hmw
      openLoop := fun ho => absurd ho hop
      cleared := fun hc => absurd hc hncl
      parked := fun h => by cases h
      preDrain := fun h => by cases h
      exitedEmpty := fun h => by cases h }

theorem drainExit (hi : Inv s) (h : step cfg s .drainExit = some s') : Inv s' := by
  cases hw : s.worker <;> simp [step, hw] at h
  obtain ⟨hq, rfl⟩ := h
  have hncl := hi.stop_ne_cleared (by rw [hw]; exact WorkerPc.noConfusion)
  exact
  { hi with
    inflight := fun r hr => by cases hr
    parked := fun h => by cases h
    preDrain := fun h => by cases h
    muWorker := fun hm => absurd hm (hi.mu_ne_worker (by simp [hw]))
    openLoop := fun ho => absurd (hi.openLoop ho) (by simp [hw, WorkerPc.draining])
    exitedEmpty := fun _ => hq.resolve_right hncl
    cleared := fun _ => rfl }

theorem workerLock (hi : Inv s) (h : step cfg s .workerLock = some s') : Inv s' := by
  cases hw : s.worker <;> simp [step, hw] at h
  rename_i r
  obtain ⟨hmu, h⟩ := h
  cases hst : s.stop <;> simp [hst] at h <;> subst h
  · exact
    { hi with
      inflight := fun r' hr' => hi.inflight r' (by rw [hw]; exact hr')
      parked := fun h => by cases h
      preDrain := fun _ => hi.preDrain (by rw [hw]; rfl)
      held := by simp
      muWorker := fun _ => ⟨r, rfl⟩
      muCaller := fun i hm => by cases hm
      openLoop := fun h => by cases h
      exitedEmpty := fun h => by cases h
      cleared := fun h => by cases h }
  · exact absurd hmu (hi.held.mp hst)
  · exact absurd (hi.cleared hst) (by rw [hw]; exact WorkerPc.noConfusion)

/-! ### The other goroutines' steps -/

theorem spawn (hi : Inv s) (h : step cfg s .spawn = some s') : Inv s' := by
  cases h
  exact
  { hi with
    muCaller := fun i hm => by
      obtain ⟨ret, hr⟩ := hi.muCaller i hm
      exact ⟨ret, by rw [List.getElem?_append_left (List.getElem?_eq_some_iff.mp hr).1]; exact hr⟩ }

theorem move (hi : Inv s) {i : Nat} {a b : CallerPc} (ha : ∀ ret, a ≠ .closing ret)
    (h : s.move i a b = some s') : Inv s' := by
  unfold Sys.move at h
  split at h
  · rename_i hc
    cases h
    exact
    { hi with
      muCaller := fun j hm => by
        obtain ⟨ret, hr⟩ := hi.muCaller j hm
        by_cases hij : i = j
        · subst hij; rw [hc] at hr; exact absurd (Option.some.inj hr) (ha ret)
        · exact ⟨ret, by rw [List.getElem?_set_ne hij]; exact hr⟩ }
  · cases h

theorem lock (hi : Inv s) {i : Nat} (h : step cfg s (.lock i) = some s') : Inv s' := by
  simp only [step] at h
  split at h
  · rename_i ret hc
    split at h
    · rename_i hmu
      split at h <;> cases h <;> rename_i hst
      · exact
        { hi with
          held := by simp
          muWorker := fun hm => by cases hm
          muCaller := fun j hm => by cases hm; exact ⟨ret, hc⟩
          openLoop := fun h => by cases h
          cleared := fun h => by cases h }
      · exact absurd hmu (hi.held.mp hst)
      · exact
        { hi with
          muCaller := fun j hm => by rw [hmu] at hm; cases hm }
    · cases h
  · cases h

theorem wake (hi : Inv s) {i : Nat} (h : step cfg s (.wake i) = some s') : Inv s' := by
  simp only [step] at h
  split at h
  · rename_i ret hc hw
    split at h
    · rename_i hmu
      cases h
      have hst : s.stop = .closed := hi.held.mpr (by rw [hmu]; exact Holder.noConfusion)
      exact
      { hi with
        held := by simp
        muWorker := fun hm => by cases hm
        muCaller := fun j hm => by cases hm
        openLoop := fun h => by cases h
        cleared := fun _ => hw
        safe := by simp [hi.safe, hst] }
    · cases h
  · cases h

theorem next (hi : Inv s) : ∀ {a : Act D}, step cfg s a = some s' → Inv s'
  | .sendAsync _, h => hi.produce cfg h rfl hi.bump hi.bump
  | .sendAsyncWithResponse _, h => hi.sendAsyncWithResponse cfg h
  | .park, h => hi.park cfg h
  | .recv, h => hi.recv cfg h
  | .stop, h => hi.stop cfg h
  | .finish e, h => hi.finish cfg e h
  | .writeFail, h => hi.writeFail cfg h
  | .drainRecv, h => hi.drainRecv cfg h
  | .drainExit, h => hi.drainExit cfg h
  | .spawn, h => hi.spawn cfg h
  | .startSend _, h => hi.move (fun _ h => by cases h) h
  | .finishSend _, h => hi.move (fun _ h => by cases h) h
  | .sendFail _, h => hi.move (fun _ h => by cases h) h
  | .callClose _, h => hi.move (fun _ h => by cases h) h
  | .workerLock, h => hi.workerLock cfg h
  | .lock _, h => hi.lock cfg h
  | .wake _, h => hi.wake cfg h

end Inv

theorem Reachable.inv {s : Sys D} (h : Reachable cfg s) : Inv s := by
  induction h with
  | init => exact inv_init
  | step _ hs ih => exact ih.next cfg hs


end Step

/-! ## Safety along every interleaving -/

/-- **The dispatcher is safe in every interleaving**: requests are passed on in order, handled
once, answered once, never accepted after `stopChan` is closed, and no step panics. -/
theorem dispatch_safe {s : Sys D} (h : Reachable cfg s) :
    s.enqueued = s.sent ++ s.drained ++ s.queue ∧
    (s.stop = .cleared → s.queue = [] ∧ s.enqueued = s.sent ++ s.drained) ∧
    ((s.sent ++ s.drained).map Req.id).Nodup ∧
    (∀ r ∈ s.drained, r.withResp = true → s.resp r.id = ⟨[some .shuttingDown], true⟩) ∧
    (∀ i, (s.resp i).vals.length ≤ 1 ∧ ((s.resp i).closed = true → (s.resp i).vals.length = 1)) ∧
    s.lateEnqueue = false ∧ s.panicked = false := by
  have hi := h.inv
  have hq : s.stop = .cleared → s.queue = [] := fun hc => hi.exitedEmpty (hi.cleared hc)
  refine ⟨hi.order, fun hc => ⟨hq hc, by rw [hi.order, hq hc, List.append_nil]⟩, ?_,
    hi.drainedResp, hi.respOk, hi.late, hi.safe⟩
  exact hi.nodup'.sublist ((List.sublist_append_left _ _).map _)

/-- A shutdown with one request in flight and one buffered: the worker takes `stopChan`, so
the buffered request is drained; after `Close` every accepted request was sent or drained. -/
theorem dispatch_safe_after_close :
    let s := (run defaultConfig (Sys.init : Sys Nat) [.sendAsync 0, .recv, .sendAsync 1, .spawn,
      .callClose 0, .lock 0, .finish none, .stop, .drainRecv, .drainExit, .wake 0]).getD Sys.init
    s.stop = .cleared ∧ s.enqueued = s.sent ++ s.drained ∧ s.drained.map Req.id = [1] ∧
      s.panicked = false := by
  intro s
  have h := reachable_of_run defaultConfig Reachable.init
    (rfl : run defaultConfig Sys.init [.sendAsync 0, .recv, .sendAsync 1, .spawn, .callClose 0,
      .lock 0, .finish none, .stop, .drainRecv, .drainExit, .wake 0] = some s)
  obtain ⟨-, hc, -, -, -, -, hp⟩ := dispatch_safe defaultConfig h
  exact ⟨rfl, (hc rfl).2, rfl, hp⟩

/-! ## `Close` inside `sendWithRetry` -/

section CloseInSend

variable {s s' : Sys D}

theorem produce_frame {r : Req D} {notInit full : Sys D → Sys D} (hw : s.worker ≠ .parked)
    (hn : ∀ t, (notInit t).worker = t.worker ∧ (notInit t).sent = t.sent ∧ (notInit t).drained = t.drained)
    (hf : ∀ t, (full t).worker = t.worker ∧ (full t).sent = t.sent ∧ (full t).drained = t.drained)
    (h : s.produce cfg r notInit full = some s') :
    s'.worker = s.worker ∧ s'.sent = s.sent ∧ s'.drained = s.drained := by
  unfold Sys.produce at h
  split at h
  · split at h
    · cases h; exact hn _
    · cases h
      unfold Sys.offer
      split
      · rename_i hp; exact absurd hp hw
      · split
        · exact ⟨rfl, rfl, rfl⟩
        · exact hf _
  · cases h

/-- While the worker is in the `Close` of its own `sendWithRetry`, no step moves it or adds to
the requests sent or drained. -/
theorem step_closing {r : Req D} (hi : Inv s) (hw : s.worker = .closing r) {a : Act D}
    (h : step cfg s a = some s') :
    s'.worker = .closing r ∧ s'.sent = s.sent ∧ s'.drained = s.drained := by
  have hnp : s.worker ≠ .parked := by rw [hw]; exact WorkerPc.noConfusion
  have hrf : ∀ (i : Nat) (e : Option Err) (t : Sys D), (Sys.reply t i e).worker = t.worker ∧ (Sys.reply t i e).sent = t.sent ∧
      (Sys.reply t i e).drained = t.drained := fun _ _ _ => ⟨rfl, rfl, rfl⟩
  cases a with
  | sendAsync d =>
    rw [← hw]; exact produce_frame cfg hnp (fun _ => ⟨rfl, rfl, rfl⟩) (fun _ => ⟨rfl, rfl, rfl⟩) h
  | sendAsyncWithResponse d =>
    rw [← hw]; exact produce_frame cfg hnp (fun _ => hrf _ _ _) (fun _ => hrf _ _ _) h
  | workerLock =>
    simp only [step, hw] at h
    split at h
    · split at h <;> cases h <;> rename_i hst
      · exact ⟨rfl, rfl, rfl⟩
      · exact ⟨rfl, rfl, rfl⟩
      · exact absurd (hi.cleared hst) (by rw [hw]; exact WorkerPc.noConfusion)
    · cases h
  | spawn => cases h; exact ⟨hw, rfl, rfl⟩
  | startSend i | finishSend i | sendFail i | callClose i =>
    simp only [step, Sys.move] at h; split at h <;> cases h; exact ⟨hw, rfl, rfl⟩
  | lock i =>
    simp only [step] at h
    split at h
    · split at h
      · split at h <;> cases h <;> exact ⟨hw, rfl, rfl⟩
      · cases h
    · cases h
  | wake i => simp [step, hw] at h
  | _ => simp [step, hw] at h

theorem step_mu_held (hmu : s.mu ≠ .free) (hw : s.worker ≠ .exited) {a : Act D}
    (h : step cfg s a = some s') : s'.mu ≠ .free := by
  cases a with
  | sendAsync d => simp [step, Sys.sendAsync, Sys.produce, hmu] at h
  | sendAsyncWithResponse d => simp [step, Sys.sendAsyncWithResponse, Sys.produce, hmu] at h
  | wake i =>
    simp only [step] at h
    split at h
    · rename_i hx; exact absurd hx hw
    · cases h
  | _ =>
    simp only [step, Sys.move] at h
    repeat' split at h
    all_goals cases h
    all_goals first | exact hmu | exact absurd ‹s.mu = .free› hmu

/-- Along every run from a state whose worker is in its own `Close`, it stays there, neither
sends nor drains another request, and a held `c.mu` stays held. -/
theorem run_closing {r : Req D} :
    ∀ {acts : List (Act D)} {s s' : Sys D}, s.worker = .closing r → Reachable cfg s →
      run cfg s acts = some s' → s'.worker = .closing r ∧ s'.sent = s.sent ∧
        s'.drained = s.drained ∧ (s.mu ≠ .free → s'.mu ≠ .free)
  | [], _, _, hw, _, h => by cases h; exact ⟨hw, rfl, rfl, id⟩
  | a :: as, s, s', hw, hs, h => by
    simp only [run] at h
    cases h₁ : step cfg s a with
    | none => simp [h₁] at h
    | some s₁ =>
      rw [h₁, Option.some_bind] at h
      obtain ⟨hw₁, hs₁, hd₁⟩ := step_closing cfg hs.inv hw h₁
      obtain ⟨hw', hs', hd', hm'⟩ := run_closing hw₁ (hs.step h₁) h
      exact ⟨hw', hs'.trans hs₁, hd'.trans hd₁,
        fun hm => hm' (step_mu_held cfg hm (by rw [hw]; exact WorkerPc.noConfusion) h₁)⟩

theorem blocked_of_held {s : Sys D} (hmu : s.mu ≠ .free) (d : D) (i : Nat) :
    step cfg s (.sendAsync d) = none ∧ step cfg s (.sendAsyncWithResponse d) = none ∧
      step cfg s (.lock i) = none ∧ step cfg s .workerLock = none := by
  refine ⟨by simp [step, Sys.sendAsync, Sys.produce, hmu], by simp [step, Sys.sendAsyncWithResponse,
    Sys.produce, hmu], ?_, ?_⟩
  · simp only [step]; split <;> simp [hmu]
  · simp only [step]; split <;> simp [hmu]

theorem produce_callers {r : Req D} {notInit full : Sys D → Sys D}
    (h : s.produce cfg r notInit full = some s') (hn : ∀ t, (notInit t).callers = t.callers)
    (hf : ∀ t, (full t).callers = t.callers) : s'.callers = s.callers := by
  unfold Sys.produce at h
  split at h
  · split at h
    · cases h; exact hn _
    · cases h
      unfold Sys.offer
      split
      · rfl
      · split
        · rfl
        · exact hf _
  · cases h

/-- **The `Close` of a caller's `sendWithRetry` waits for the worker.**  The step that takes
goroutine `i` from that `Close` back into `sendWithRetry` leaves `stopChan` `nil` (and so
`asyncChan`), with the worker exited. -/
theorem resume_after_close {i : Nat} (hs : Reachable cfg s)
    (hc : s.callers[i]? = some (.closing true)) {a : Act D} (h : step cfg s a = some s')
    (hr : s'.callers[i]? = some .sending) : s'.stop = .cleared ∧ s'.worker = .exited := by
  have hi := hs.inv
  have hsame : s'.callers = s.callers → False := fun he => by rw [he, hc] at hr; cases hr
  cases a with
  | sendAsync d => exact absurd (produce_callers cfg h (fun _ => rfl) (fun _ => rfl)) hsame
  | sendAsyncWithResponse d =>
    simp only [step, Sys.sendAsyncWithResponse] at h
    exact absurd (produce_callers cfg h (fun _ => rfl) (fun _ => rfl)) hsame
  | spawn =>
    cases h
    rw [List.getElem?_append_left (List.getElem?_eq_some_iff.mp hc).1, hc] at hr; cases hr
  | startSend j | finishSend j | sendFail j | callClose j =>
    simp only [step, Sys.move] at h
    split at h
    · rename_i hj
      cases h
      by_cases hij : j = i
      · subst hij; rw [hc] at hj; cases hj
      · rw [List.getElem?_set_ne hij, hc] at hr; cases hr
    · cases h
  | lock j =>
    simp only [step] at h
    split at h
    · split at h
      · split at h <;> cases h <;> rename_i hst
        · exact absurd rfl hsame
        · exact absurd rfl hsame
        · by_cases hij : j = i
          · exact ⟨hst, hi.cleared hst⟩
          · rw [List.getElem?_set_ne hij, hc] at hr; cases hr
      · cases h
    · cases h
  | wake j =>
    simp only [step] at h
    split at h
    · rename_i hw
      split at h
      · cases h
        by_cases hij : j = i
        · exact ⟨rfl, hw⟩
        · rw [List.getElem?_set_ne hij, hc] at hr; cases hr
      · cases h
    · cases h
  | _ =>
    simp only [step] at h
    repeat' split at h
    all_goals cases h
    all_goals exact absurd rfl hsame

end CloseInSend

/-- **`Close` inside `sendWithRetry`** deadlocks on the worker, which waits on itself, and
returns on any other goroutine once the worker has exited. -/
theorem close_in_sendWithRetry {s : Sys D} (hs : Reachable cfg s) :
    (∀ (r : Req D) (acts : List (Act D)) (s' : Sys D), s.worker = .busy r →
      run cfg s (.writeFail :: acts) = some s' →
      s'.worker = .closing r ∧ s'.sent = s.sent ∧ s'.drained = s.drained ∧
      (s'.mu ≠ .free →
        (∀ (d : D) (i : Nat), step cfg s' (.sendAsync d) = none ∧
          step cfg s' (.sendAsyncWithResponse d) = none ∧ step cfg s' (.lock i) = none) ∧
        ∀ (acts' : List (Act D)) (s'' : Sys D), run cfg s' acts' = some s'' → s''.mu ≠ .free)) ∧
    (∀ (i : Nat) (a : Act D) (s' : Sys D), s.callers[i]? = some (.closing true) →
      step cfg s a = some s' → s'.callers[i]? = some .sending →
      s'.stop = .cleared ∧ s'.worker = .exited) := by
  refine ⟨fun r acts s' hw h => ?_, fun i a s' hc h hr => resume_after_close cfg hs hc h hr⟩
  have h₁ : step cfg s .writeFail = some { s with worker := .closing r } := by simp [step, hw]
  rw [run, h₁, Option.some_bind] at h
  have hs₁ := hs.step h₁
  obtain ⟨hw', hse, hd, -⟩ := run_closing cfg rfl hs₁ h
  refine ⟨hw', hse, hd, fun hmu => ⟨fun d i => ?_, fun acts' s'' h' => ?_⟩⟩
  · obtain ⟨h1, h2, h3, -⟩ := blocked_of_held cfg hmu d i; exact ⟨h1, h2, h3⟩
  · exact (run_closing cfg hw' (reachable_of_run cfg hs₁ h) h').2.2.2 hmu

/-- The default client: a queued entry, taken by the worker, whose write fails.  The worker
takes `c.mu` in its `Close` and waits on itself; the next `SendLogEntry` cannot get the lock. -/
theorem close_in_sendWithRetry_on_worker :
    let s₁ := (run defaultConfig (Sys.init : Sys Nat) [.sendAsync 0, .recv]).getD Sys.init
    let s₂ := (run defaultConfig s₁ [.writeFail, .workerLock]).getD Sys.init
    s₁.worker = .busy ⟨0, 0, false⟩ ∧ s₂.mu = .worker ∧ step defaultConfig s₂ (.sendAsync 1) = none := by
  intro s₁ s₂
  have hr := reachable_of_run defaultConfig Reachable.init
    (rfl : run defaultConfig Sys.init [.sendAsync 0, .recv] = some s₁)
  have hmu : s₂.mu ≠ .free := by decide
  exact ⟨rfl, rfl,
    (((close_in_sendWithRetry defaultConfig hr).1 _ [.workerLock] s₂ rfl rfl).2.2.2 hmu).1 1 0 |>.1⟩

end LogFlux.Dispatch
