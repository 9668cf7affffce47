import LogFlux.Config

/-!
# LogFlux.Batch — the batcher (`BatchClient` in `batch.go`)

Every method of `BatchClient` runs under `bc.mu`, so each is one step of `step`.  The flush
timer is `time.AfterFunc`: a timer is `armed` until it expires, then its callback is `fired`
and waits for `bc.mu`; `Timer.Stop` disarms an armed timer and cannot recall a fired callback.
What the batcher asks of the wrapped `Client` is the list of `ClientCall`s a step returns.
Entries are of any type `E`: the batcher never looks inside them.

* `run_conserves`: over every run, the batches sent, then the entries forwarded after `Close`,
  then the pending buffer, are the entries given to `SendLogEntry`, in order; every batch sent
  is non-empty.
* `stopped_run`: once `Close` has run, no step sends a batch, arms a timer or keeps an entry:
  each `SendLogEntry` goes straight to the client.
* `idle_timer_strands_entry`: a timer that fires on an empty buffer is not re-armed, and an
  entry appended afterwards waits with no timer.
* `batch_size_bounds`: between steps the buffer holds fewer than `max MaxBatchSize 1` entries
  and every batch has one to `max MaxBatchSize 1`; `MaxBatchSize` 0 and 101 are accepted.
-/

namespace LogFlux.Batch

/-- The state of a `BatchClient`: the pending buffer, `stopped`, the handle in `bc.timer`,
the timers armed, the callbacks fired and waiting for the lock, and the next handle. -/
structure BatchClient (E : Type) where
  batch : List E
  stopped : Bool
  timer : Option Nat
  armed : List Nat
  fired : List Nat
  nextTimer : Nat
  deriving DecidableEq, Repr

/-- A call into the wrapped `Client`. -/
inductive ClientCall (E : Type) where
  | sendLogBatch (entries : List E)
  | sendLogEntry (entry : E)
  | close
  deriving DecidableEq, Repr

/-- What can happen to a `BatchClient`: a method call, or a timer expiring (its callback
starts) or its callback taking the lock. -/
inductive Op (E : Type) where
  | sendLogEntry (entry : E)
  | flush
  | expire (t : Nat)
  | callback (t : Nat)
  | close
  deriving DecidableEq, Repr

variable {E : Type} (cfg : BatchConfig)

namespace BatchClient

/-- `Timer.Stop` on handle `t`. -/
def stopTimer (t : Nat) (bc : BatchClient E) : BatchClient E :=
  { bc with armed := bc.armed.erase t }

/-- `if bc.timer != nil { bc.timer.Stop() }`. -/
def stopCurrent (bc : BatchClient E) : BatchClient E :=
  match bc.timer with
  | some t => bc.stopTimer t
  | none => bc

/-- `startFlushTimerLocked`: stop the current timer, arm a new one. -/
def startFlushTimerLocked (bc : BatchClient E) : BatchClient E :=
  let bc := bc.stopCurrent
  { bc with
    timer := some bc.nextTimer
    armed := bc.armed ++ [bc.nextTimer]
    nextTimer := bc.nextTimer + 1 }

/-- `flushBatchLocked`: send a copy of a non-empty buffer, clear it, re-arm the timer while
auto-flush is on and the batcher is not stopped. -/
def flushBatchLocked (bc : BatchClient E) : BatchClient E × List (ClientCall E) :=
  if bc.batch.isEmpty then (bc, [])
  else
    let bc' := { bc with batch := [] }
    ((if cfg.autoFlush && !bc.stopped then bc'.startFlushTimerLocked else bc'),
      [.sendLogBatch bc.batch])

/-- `SendLogEntry`: forward when stopped, else append and flush a full buffer. -/
def sendLogEntry (e : E) (bc : BatchClient E) : BatchClient E × List (ClientCall E) :=
  if bc.stopped then (bc, [.sendLogEntry e])
  else
    let bc := { bc with batch := bc.batch ++ [e] }
    if cfg.maxBatchSize ≤ bc.batch.length then bc.flushBatchLocked cfg else (bc, [])

/-- The body of the `time.AfterFunc` callback. -/
def timerCallback (bc : BatchClient E) : BatchClient E × List (ClientCall E) :=
  if !bc.stopped && !bc.batch.isEmpty then bc.flushBatchLocked cfg else (bc, [])

/-- `Close`: stop, stop the timer, flush what is left, close the client. -/
def close (bc : BatchClient E) : BatchClient E × List (ClientCall E) :=
  let bc := { bc with stopped := true }.stopCurrent
  let r := if !bc.batch.isEmpty then bc.flushBatchLocked cfg else (bc, [])
  (r.1, r.2 ++ [.close])

end BatchClient

open BatchClient

/-- `NewBatchClient`: `make([]LogEntry, 0, MaxBatchSize)` panics (`none`) on a negative size;
the timer is armed when auto-flush is on with a positive interval. -/
def newBatchClient : Option (BatchClient E) :=
  if cfg.maxBatchSize < 0 then none
  else
    let bc : BatchClient E := ⟨[], false, none, [], [], 0⟩
    some (if cfg.autoFlush && decide (0 < cfg.flushInterval) then bc.startFlushTimerLocked else bc)

/-- One step; `none` when the timer event is not enabled. -/
def step (bc : BatchClient E) : Op E → Option (BatchClient E × List (ClientCall E))
  | .sendLogEntry e => some (bc.sendLogEntry cfg e)
  | .flush => some (bc.flushBatchLocked cfg)
  | .expire t =>
    if t ∈ bc.armed then some ({ bc with armed := bc.armed.erase t, fired := bc.fired ++ [t] }, [])
    else none
  | .callback t =>
    if t ∈ bc.fired then some (timerCallback cfg { bc with fired := bc.fired.erase t }) else none
  | .close => some (bc.close cfg)

def run (bc : BatchClient E) : List (Op E) → Option (BatchClient E × List (ClientCall E))
  | [] => some (bc, [])
  | op :: ops =>
    (step cfg bc op).bind fun r => (run r.1 ops).map fun r' => (r'.1, r.2 ++ r'.2)

/-- The states some run reaches from a batcher `NewBatchClient` built. -/
inductive Reachable : BatchClient E → Prop where
  | init {bc : BatchClient E} : newBatchClient cfg = some bc → Reachable bc
  | step {bc bc' : BatchClient E} {op : Op E} {cs : List (ClientCall E)} :
      Reachable bc → step cfg bc op = some (bc', cs) → Reachable bc'

/-! ## Reading the calls -/

/-- The entries given to `SendLogEntry` by a list of operations. -/
def inputs : List (Op E) → List E
  | [] => []
  | .sendLogEntry e :: ops => e :: inputs ops
  | _ :: ops => inputs ops

/-- The batches passed to `client.SendLogBatch`. -/
def batches : List (ClientCall E) → List (List E)
  | [] => []
  | .sendLogBatch b :: cs => b :: batches cs
  | _ :: cs => batches cs

/-- The entries forwarded to `client.SendLogEntry`. -/
def forwarded : List (ClientCall E) → List E
  | [] => []
  | .sendLogEntry e :: cs => e :: forwarded cs
  | _ :: cs => forwarded cs

@[simp] theorem batches_append (c d : List (ClientCall E)) :
    batches (c ++ d) = batches c ++ batches d := by
  induction c with
  | nil => rfl
  | cons x c ih => cases x <;> simp [batches, ih]

@[simp] theorem forwarded_append (c d : List (ClientCall E)) :
    forwarded (c ++ d) = forwarded c ++ forwarded d := by
  induction c with
  | nil => rfl
  | cons x c ih => cases x <;> simp [forwarded, ih]

@[simp] theorem inputs_cons_sendLogEntry (e : E) (ops : List (Op E)) :
    inputs (.sendLogEntry e :: ops) = e :: inputs ops := rfl

/-! ## One step -/

namespace BatchClient

@[simp] theorem stopCurrent_batch (bc : BatchClient E) : bc.stopCurrent.batch = bc.batch := by
  unfold stopCurrent stopTimer; split <;> rfl

@[simp] theorem stopCurrent_stopped (bc : BatchClient E) : bc.stopCurrent.stopped = bc.stopped := by
  unfold stopCurrent stopTimer; split <;> rfl

@[simp] theorem stopCurrent_timer (bc : BatchClient E) : bc.stopCurrent.timer = bc.timer := by
  unfold stopCurrent stopTimer; split <;> rfl

@[simp] theorem stopCurrent_nextTimer (bc : BatchClient E) :
    bc.stopCurrent.nextTimer = bc.nextTimer := by
  unfold stopCurrent stopTimer; split <;> rfl

theorem mem_stopCurrent_armed {bc : BatchClient E} {t : Nat} (h : t ∈ bc.stopCurrent.armed) :
    t ∈ bc.armed := by
  unfold stopCurrent stopTimer at h; split at h
  · exact List.mem_of_mem_erase h
  · exact h

/-- What a flush leaves and sends: an empty buffer, and the old buffer as one batch when it was
non-empty. -/
theorem flushBatchLocked_eq {bc bc' : BatchClient E} {cs : List (ClientCall E)}
    (h : bc.flushBatchLocked cfg = (bc', cs)) :
    bc'.batch = [] ∧ bc'.stopped = bc.stopped ∧ forwarded cs = [] ∧
      (batches cs).flatten = bc.batch ∧ ∀ b ∈ batches cs, b ≠ [] := by
  unfold flushBatchLocked at h
  split at h
  · cases h; rename_i he; simp [forwarded, batches, List.isEmpty_iff.mp he]
  · rename_i he
    cases h
    refine ⟨by split <;> simp [startFlushTimerLocked], by split <;> simp [startFlushTimerLocked],
      rfl, by simp [batches], ?_⟩
    simp only [batches, List.mem_singleton, forall_eq]
    intro h'; simp [h'] at he

theorem flushBatchLocked_facts (bc : BatchClient E) :
    let r := bc.flushBatchLocked cfg
    r.1.batch = [] ∧ r.1.stopped = bc.stopped ∧ forwarded r.2 = [] ∧
      (batches r.2).flatten = bc.batch ∧ ∀ b ∈ batches r.2, b ≠ [] :=
  flushBatchLocked_eq cfg rfl

end BatchClient

/-- **A step of a running batcher**: it forwards nothing; the batches it sends, then the new
buffer, are the old buffer then the entry it was given; every batch is non-empty; and a step
that stops the batcher leaves the buffer empty. -/
theorem step_running {bc bc' : BatchClient E} {op : Op E} {cs : List (ClientCall E)}
    (hs : bc.stopped = false) (h : step cfg bc op = some (bc', cs)) :
    forwarded cs = [] ∧ (batches cs).flatten ++ bc'.batch = bc.batch ++ inputs [op] ∧
      (∀ b ∈ batches cs, b ≠ []) ∧ (bc'.stopped = true → bc'.batch = []) := by
  cases op with
  | sendLogEntry e =>
    simp only [step, sendLogEntry, hs, Bool.false_eq_true, ↓reduceIte, Option.some.injEq] at h
    split at h
    · obtain ⟨h1, -, h3, h4, h5⟩ := flushBatchLocked_eq cfg h
      exact ⟨h3, by simp [h4, h1, inputs], h5, fun _ => h1⟩
    · cases h; simp [forwarded, batches, inputs, hs]
  | flush =>
    obtain ⟨h1, -, h3, h4, h5⟩ := flushBatchLocked_eq cfg (Option.some.inj h)
    exact ⟨h3, by simp [h4, h1, inputs], h5, fun _ => h1⟩
  | expire t =>
    simp only [step] at h
    split at h
    · cases h; simp [forwarded, batches, inputs, hs]
    · cases h
  | callback t =>
    simp only [step] at h
    split at h
    · simp only [timerCallback, hs, Option.some.injEq] at h
      split at h
      · obtain ⟨h1, -, h3, h4, h5⟩ := flushBatchLocked_eq cfg h
        exact ⟨h3, by simp [h4, h1, inputs], h5, fun _ => h1⟩
      · cases h; simp [forwarded, batches, inputs, hs]
    · cases h
  | close =>
    simp only [step, BatchClient.close, Option.some.injEq, Prod.mk.injEq] at h
    obtain ⟨rfl, rfl⟩ := h
    split
    · obtain ⟨h1, -, h3, h4, h5⟩ := flushBatchLocked_facts cfg { bc with stopped := true }.stopCurrent
      simp only [forwarded_append, h3, batches_append, batches, forwarded, List.flatten_append, h4,
        h1, List.append_nil, stopCurrent_batch, inputs, List.mem_append, List.mem_nil_iff, or_false]
      exact ⟨trivial, trivial, h5, fun _ => trivial⟩
    · rename_i he
      have hb : bc.batch = [] := by simpa using he
      simp [forwarded, batches, inputs, hb]

/-- **A step of a stopped batcher** with an empty buffer: the buffer stays empty, no batch is
sent, the entry given is forwarded, and no timer is armed (`nextTimer` and `bc.timer` stay,
the armed timers only shrink). -/
theorem step_stopped {bc bc' : BatchClient E} {op : Op E} {cs : List (ClientCall E)}
    (hs : bc.stopped = true) (hb : bc.batch = []) (h : step cfg bc op = some (bc', cs)) :
    bc'.stopped = true ∧ bc'.batch = [] ∧ batches cs = [] ∧ forwarded cs = inputs [op] ∧
      bc'.timer = bc.timer ∧ bc'.nextTimer = bc.nextTimer ∧ ∀ t ∈ bc'.armed, t ∈ bc.armed := by
  cases op with
  | sendLogEntry e =>
    simp only [step, sendLogEntry, hs, ↓reduceIte, Option.some.injEq, Prod.mk.injEq] at h
    obtain ⟨rfl, rfl⟩ := h
    simp [hs, hb, batches, forwarded, inputs]
  | flush =>
    simp only [step, flushBatchLocked, hb, List.isEmpty_nil, ↓reduceIte, Option.some.injEq,
      Prod.mk.injEq] at h
    obtain ⟨rfl, rfl⟩ := h
    simp [hs, hb, batches, forwarded, inputs]
  | expire t =>
    simp only [step] at h
    split at h
    · cases h
      exact ⟨hs, hb, rfl, rfl, rfl, rfl, fun _ ht => List.mem_of_mem_erase ht⟩
    · cases h
  | callback t =>
    simp only [step] at h
    split at h
    · simp only [timerCallback, hs, Bool.not_true, Bool.false_and, Bool.false_eq_true, ↓reduceIte,
        Option.some.injEq, Prod.mk.injEq] at h
      obtain ⟨rfl, rfl⟩ := h
      simp [hs, hb, batches, forwarded, inputs]
    · cases h
  | close =>
    simp only [step, BatchClient.close, stopCurrent_batch, hb, List.isEmpty_nil, Bool.not_true,
      Bool.false_eq_true, ↓reduceIte, Option.some.injEq, Prod.mk.injEq] at h
    obtain ⟨rfl, rfl⟩ := h
    exact ⟨by simp, by simp [hb], rfl, rfl, by simp, by simp, fun _ ht => (mem_stopCurrent_armed ht :)⟩

theorem inputs_cons (op : Op E) (ops : List (Op E)) : inputs (op :: ops) = inputs [op] ++ inputs ops := by
  cases op <;> rfl

theorem run_cons {bc bc' : BatchClient E} {op : Op E} {ops : List (Op E)} {cs : List (ClientCall E)}
    (h : run cfg bc (op :: ops) = some (bc', cs)) :
    ∃ bc₁ c₁ c₂, step cfg bc op = some (bc₁, c₁) ∧ run cfg bc₁ ops = some (bc', c₂) ∧ cs = c₁ ++ c₂ := by
  obtain ⟨⟨bc₁, c₁⟩, h₁, h₂⟩ := Option.bind_eq_some.mp h
  obtain ⟨⟨bc₂, c₂⟩, h₃, h₄⟩ := Option.map_eq_some'.mp h₂
  cases h₄
  exact ⟨bc₁, c₁, c₂, h₁, h₃, rfl⟩

theorem run_stopped {bc : BatchClient E} (hs : bc.stopped = true) (hb : bc.batch = [])
    {ops : List (Op E)} {bc' : BatchClient E} {cs : List (ClientCall E)}
    (h : run cfg bc ops = some (bc', cs)) :
    bc'.stopped = true ∧ bc'.batch = [] ∧ batches cs = [] ∧ forwarded cs = inputs ops ∧
      bc'.timer = bc.timer ∧ bc'.nextTimer = bc.nextTimer ∧ ∀ t ∈ bc'.armed, t ∈ bc.armed := by
  induction ops generalizing bc cs with
  | nil => cases h; exact ⟨hs, hb, rfl, rfl, rfl, rfl, fun _ => id⟩
  | cons op ops ih =>
    obtain ⟨bc₁, c₁, c₂, h₁, h₂, rfl⟩ := run_cons cfg h
    obtain ⟨s₁, b₁, e₁, f₁, t₁, n₁, a₁⟩ := step_stopped cfg hs hb h₁
    obtain ⟨s₂, b₂, e₂, f₂, t₂, n₂, a₂⟩ := ih s₁ b₁ h₂
    refine ⟨s₂, b₂, by simp [e₁, e₂], ?_, t₂.trans t₁, n₂.trans n₁, fun t ht => a₁ t (a₂ t ht)⟩
    rw [forwarded_append, f₁, f₂, ← inputs_cons]

/-- Every run from a batcher whose buffer is empty once stopped: the batches sent, then the
entries forwarded, then the buffer left, are the buffer at the start then the entries given. -/
theorem run_conserves_from {bc : BatchClient E} (hinv : bc.stopped = true → bc.batch = [])
    {ops : List (Op E)} {bc' : BatchClient E} {cs : List (ClientCall E)}
    (h : run cfg bc ops = some (bc', cs)) :
    (batches cs).flatten ++ forwarded cs ++ bc'.batch = bc.batch ++ inputs ops ∧
      ∀ b ∈ batches cs, b ≠ [] := by
  induction ops generalizing bc cs with
  | nil => cases h; simp [batches, forwarded, inputs]
  | cons op ops ih =>
    obtain ⟨bc₁, c₁, c₂, h₁, h₂, rfl⟩ := run_cons cfg h
    cases hs : bc.stopped
    · obtain ⟨f₁, e₁, n₁, i₁⟩ := step_running cfg hs h₁
      obtain ⟨e₂, n₂⟩ := ih i₁ h₂
      refine ⟨?_, by simpa using fun b hb => hb.elim (n₁ b) (n₂ b)⟩
      rw [inputs_cons, ← List.append_assoc, ← e₁]
      simpa [f₁] using e₂
    · have hb := hinv hs
      obtain ⟨s₁, b₁, e₁, f₁, -⟩ := step_stopped cfg hs hb h₁
      obtain ⟨-, b₂, e₂, f₂, -⟩ := run_stopped cfg s₁ b₁ h₂
      refine ⟨?_, by simp [e₁, e₂]⟩
      simp [e₁, e₂, f₁, f₂, b₂, hb, ← inputs_cons]

/-! ## Reachable states -/

theorem newBatchClient_init {bc : BatchClient E} (h : newBatchClient cfg = some bc) :
    bc.batch = [] ∧ bc.stopped = false := by
  unfold newBatchClient at h
  split at h
  · cases h
  · cases h; split <;> simp [startFlushTimerLocked]

theorem Reachable.stopped_batch {bc : BatchClient E} (h : Reachable cfg bc) :
    bc.stopped = true → bc.batch = [] := by
  induction h with
  | init h => simp [(newBatchClient_init cfg h).2]
  | @step bc₀ _ _ _ _ hstep ih =>
    cases hs : bc₀.stopped
    · exact (step_running cfg hs hstep).2.2.2
    · exact fun _ => (step_stopped cfg hs (ih hs) hstep).2.1

theorem reachable_of_run {bc bc' : BatchClient E} {ops : List (Op E)} {cs : List (ClientCall E)}
    (hr : Reachable cfg bc) (h : run cfg bc ops = some (bc', cs)) : Reachable cfg bc' := by
  induction ops generalizing bc cs with
  | nil => cases h; exact hr
  | cons op ops ih =>
    obtain ⟨bc₁, c₁, c₂, h₁, h₂, rfl⟩ := run_cons cfg h
    exact ih (hr.step h₁) h₂

/-! ## Every run -/

/-- **No entry is lost, duplicated or reordered** by a batcher, and no empty batch is sent. -/
theorem run_conserves {bc₀ bc : BatchClient E} {ops : List (Op E)} {cs : List (ClientCall E)}
    (h₀ : newBatchClient cfg = some bc₀) (h : run cfg bc₀ ops = some (bc, cs)) :
    (batches cs).flatten ++ forwarded cs ++ bc.batch = inputs ops ∧ ∀ b ∈ batches cs, b ≠ [] := by
  obtain ⟨hb, hs⟩ := newBatchClient_init cfg h₀
  simpa [hb] using run_conserves_from cfg (fun h' => by simp [hs] at h') h

/-- Batches of two. -/
def pairConfig : BatchConfig := { defaultBatchConfig with maxBatchSize := 2 }

/-- Three entries through batches of two, then `Close`. -/
theorem run_conserves_three :
    ∃ bc₀ bc : BatchClient Nat, ∃ cs, newBatchClient pairConfig = some bc₀ ∧
      run pairConfig bc₀ [.sendLogEntry 1, .sendLogEntry 2, .sendLogEntry 3, .close] = some (bc, cs) ∧
      (batches cs).flatten ++ forwarded cs ++ bc.batch = [1, 2, 3] ∧ ∀ b ∈ batches cs, b ≠ [] := by
  obtain ⟨bc₀, h₀⟩ : ∃ bc₀, newBatchClient pairConfig = some (bc₀ : BatchClient Nat) := ⟨_, rfl⟩
  obtain ⟨r, h⟩ : ∃ r, run pairConfig bc₀
      [.sendLogEntry 1, .sendLogEntry 2, .sendLogEntry 3, .close] = some r := by
    cases h₀; exact ⟨_, rfl⟩
  exact ⟨bc₀, r.1, r.2, h₀, h, run_conserves pairConfig h₀ h⟩

/-- **After `Close`, nothing is batched any more**, also by callbacks that fired before `Close`
and took the lock after it. -/
theorem stopped_run {bc bc' : BatchClient E} {ops : List (Op E)} {cs : List (ClientCall E)}
    (hr : Reachable cfg bc) (hs : bc.stopped = true) (h : run cfg bc ops = some (bc', cs)) :
    bc'.batch = [] ∧ batches cs = [] ∧ forwarded cs = inputs ops ∧
      bc'.nextTimer = bc.nextTimer ∧ ∀ t ∈ bc'.armed, t ∈ bc.armed := by
  obtain ⟨-, b, e, f, -, n, a⟩ := run_stopped cfg hs (hr.stopped_batch cfg hs) h
  exact ⟨b, e, f, n, a⟩

/-- A batcher closed with one entry pending, then a flush, a stale callback and one more
entry. -/
theorem stopped_run_after_close :
    ∃ bc bc' : BatchClient Nat, ∃ cs, Reachable defaultBatchConfig bc ∧ bc.stopped = true ∧
      run defaultBatchConfig bc [.flush, .callback 0, .sendLogEntry 2] = some (bc', cs) ∧
      bc'.batch = [] ∧ batches cs = [] ∧ forwarded cs = [2] ∧
      bc'.nextTimer = bc.nextTimer ∧ ∀ t ∈ bc'.armed, t ∈ bc.armed := by
  obtain ⟨bc₀, h₀⟩ : ∃ bc₀, newBatchClient defaultBatchConfig = some (bc₀ : BatchClient Nat) :=
    ⟨_, rfl⟩
  obtain ⟨r, h₁⟩ : ∃ r, run defaultBatchConfig bc₀ [.expire 0, .sendLogEntry 1, .close] = some r := by
    cases h₀; exact ⟨_, rfl⟩
  have hr := reachable_of_run defaultBatchConfig (.init h₀) h₁
  obtain ⟨r', h₂⟩ : ∃ r', run defaultBatchConfig r.1 [.flush, .callback 0, .sendLogEntry 2] = some r' := by
    cases h₀; cases h₁; exact ⟨_, rfl⟩
  have hs : r.1.stopped = true := by cases h₀; cases h₁; rfl
  exact ⟨r.1, r'.1, r'.2, hr, hs, h₂, stopped_run defaultBatchConfig hr hs h₂⟩

/-- A timer that fires on an empty buffer does nothing and is not re-armed: an entry appended
afterwards waits in the buffer of a running batcher with no timer armed and no callback
pending. -/
theorem idle_timer_strands_entry :
    ∃ bc : BatchClient Nat, Reachable defaultBatchConfig bc ∧ bc.stopped = false ∧
      bc.batch = [7] ∧ bc.armed = [] ∧ bc.fired = [] := by
  have h₀ : newBatchClient defaultBatchConfig = some (⟨[], false, some 0, [0], [], 1⟩ : BatchClient Nat) :=
    rfl
  have h : run defaultBatchConfig ⟨[], false, some 0, [0], [], 1⟩ [.expire 0, .callback 0, .sendLogEntry 7] =
      some (⟨[7], false, some 0, [], [], 1⟩, []) := rfl
  exact ⟨_, reachable_of_run defaultBatchConfig (.init h₀) h, rfl, rfl, rfl, rfl⟩

/-! ## Batch sizes

Between steps (when `bc.mu` is free) the buffer holds fewer than `MaxBatchSize` entries, and
none when `MaxBatchSize ≤ 0`; so every batch has between one and `max MaxBatchSize 1`
entries.  Nothing checks `MaxBatchSize` against the API's limits: `NewBatchClient` accepts
`0` and `101`. -/

namespace BatchClient

theorem flushBatchLocked_snd_of_ne_nil {bc : BatchClient E} (h : bc.batch ≠ []) :
    (bc.flushBatchLocked cfg).2 = [.sendLogBatch bc.batch] := by
  unfold flushBatchLocked; rw [if_neg (by simpa using h)]

theorem batches_flushBatchLocked (bc : BatchClient E) :
    ∀ b ∈ batches (bc.flushBatchLocked cfg).2, b = bc.batch := by
  unfold flushBatchLocked; split <;> simp [batches]

theorem flushBatchLocked_sizes {bc bc' : BatchClient E} {cs : List (ClientCall E)}
    (hb : (bc.batch.length : Int) ≤ max cfg.maxBatchSize 1) (h : bc.flushBatchLocked cfg = (bc', cs)) :
    (bc'.batch.length : Int) < max cfg.maxBatchSize 1 ∧
      ∀ b ∈ batches cs, 0 < b.length ∧ (b.length : Int) ≤ max cfg.maxBatchSize 1 := by
  obtain ⟨h1, -, -, -, h5⟩ := flushBatchLocked_eq cfg h
  have h6 := batches_flushBatchLocked cfg bc
  rw [h] at h6
  refine ⟨by simp only [h1, List.length_nil]; omega,
    fun b hb' => ⟨List.length_pos.mpr (h5 b hb'), ?_⟩⟩
  rw [h6 b hb']; exact hb

end BatchClient

/-- **One step keeps the buffer below the bound** and sends batches of one to
`max MaxBatchSize 1` entries. -/
theorem step_batch_sizes {bc bc' : BatchClient E} {op : Op E} {cs : List (ClientCall E)}
    (hb : (bc.batch.length : Int) < max cfg.maxBatchSize 1) (h : step cfg bc op = some (bc', cs)) :
    (bc'.batch.length : Int) < max cfg.maxBatchSize 1 ∧
      ∀ b ∈ batches cs, 0 < b.length ∧ (b.length : Int) ≤ max cfg.maxBatchSize 1 := by
  cases op with
  | sendLogEntry e =>
    simp only [step, sendLogEntry, Option.some.injEq] at h
    split at h
    · cases h; exact ⟨hb, by simp [batches]⟩
    · split at h
      · exact flushBatchLocked_sizes cfg
          (by simp only [List.length_append, List.length_singleton]; push_cast; omega) h
      · cases h; rename_i hm; simp only [List.length_append, List.length_singleton] at hm ⊢
        exact ⟨by push_cast at hm ⊢; omega, by simp [batches]⟩
  | flush => exact flushBatchLocked_sizes cfg (Int.le_of_lt hb) (Option.some.inj h)
  | expire t =>
    simp only [step] at h
    split at h
    · cases h; exact ⟨hb, by simp [batches]⟩
    · cases h
  | callback t =>
    simp only [step, Option.some.injEq] at h
    split at h
    · simp only [timerCallback] at h
      split at h
      · refine flushBatchLocked_sizes cfg ?_ (Option.some.inj h)
        exact Int.le_of_lt hb
      · cases h; exact ⟨hb, by simp [batches]⟩
    · cases h
  | close =>
    simp only [step, BatchClient.close, Option.some.injEq, Prod.mk.injEq] at h
    obtain ⟨rfl, rfl⟩ := h
    split
    · obtain ⟨h1, h2⟩ := flushBatchLocked_sizes cfg (by simpa using Int.le_of_lt hb) (Prod.ext rfl rfl :
        ({ bc with stopped := true }.stopCurrent.flushBatchLocked cfg) = (_, _))
      exact ⟨h1, by simpa [batches] using h2⟩
    · exact ⟨by simpa using hb, by simp [batches]⟩

theorem Reachable.batch_length_lt {bc : BatchClient E} (h : Reachable cfg bc) :
    (bc.batch.length : Int) < max cfg.maxBatchSize 1 := by
  induction h with
  | init h => rw [(newBatchClient_init cfg h).1, List.length_nil]; omega
  | step _ hstep ih => exact (step_batch_sizes cfg ih hstep).1

theorem run_batch_sizes {bc bc' : BatchClient E} {ops : List (Op E)} {cs : List (ClientCall E)}
    (hb : (bc.batch.length : Int) < max cfg.maxBatchSize 1) (h : run cfg bc ops = some (bc', cs)) :
    (bc'.batch.length : Int) < max cfg.maxBatchSize 1 ∧
      ∀ b ∈ batches cs, 0 < b.length ∧ (b.length : Int) ≤ max cfg.maxBatchSize 1 := by
  induction ops generalizing bc cs with
  | nil => cases h; exact ⟨hb, by simp [batches]⟩
  | cons op ops ih =>
    obtain ⟨bc₁, c₁, c₂, h₁, h₂, rfl⟩ := run_cons cfg h
    obtain ⟨b₁, s₁⟩ := step_batch_sizes cfg hb h₁
    obtain ⟨b₂, s₂⟩ := ih b₁ h₂
    refine ⟨b₂, fun b hb => ?_⟩
    rw [batches_append, List.mem_append] at hb
    exact hb.elim (s₁ b) (s₂ b)

/-- A running batcher fills its buffer up to `MaxBatchSize` entries and then sends it as one
batch. -/
theorem run_fill_flush {bc : BatchClient E} (hs : bc.stopped = false) (es : List E) (e : E)
    (hm : (bc.batch.length : Int) + es.length + 1 = cfg.maxBatchSize) :
    ∃ bc', run cfg bc (es.map .sendLogEntry ++ [.sendLogEntry e]) =
      some (bc', [.sendLogBatch (bc.batch ++ es ++ [e])]) := by
  induction es generalizing bc with
  | nil =>
    have hf : cfg.maxBatchSize ≤ ((bc.batch ++ [e]).length : Int) := by simp at hm ⊢; omega
    have hstep : step cfg bc (.sendLogEntry e) =
        some ({ bc with batch := bc.batch ++ [e] }.flushBatchLocked cfg) := by
      simp only [step, sendLogEntry, hs, Bool.false_eq_true, ↓reduceIte, hf]
    refine ⟨({ bc with batch := bc.batch ++ [e] }.flushBatchLocked cfg).1, ?_⟩
    rw [List.map_nil, List.nil_append, run, hstep, Option.some_bind, run, Option.map_some',
      flushBatchLocked_snd_of_ne_nil cfg (by simp)]
    simp
  | cons x es ih =>
    have hx : ¬ cfg.maxBatchSize ≤ ((bc.batch ++ [x]).length : Int) := by simp at hm ⊢; omega
    have hstep : step cfg bc (.sendLogEntry x) = some ({ bc with batch := bc.batch ++ [x] }, []) := by
      simp only [step, sendLogEntry, hs, Bool.false_eq_true, ↓reduceIte, hx]
    obtain ⟨bc', h'⟩ := @ih { bc with batch := bc.batch ++ [x] } hs (by simp at hm ⊢; omega)
    refine ⟨bc', ?_⟩
    rw [List.map_cons, List.cons_append, run, hstep, Option.some_bind, h', Option.map_some']
    simp

/-- `MaxBatchSize` 0, which `NewBatchClient` accepts. -/
def emptyBatchConfig : BatchConfig := { defaultBatchConfig with maxBatchSize := 0 }

/-- `MaxBatchSize` 101, one above the API's limit, which `NewBatchClient` accepts. -/
def wideBatchConfig : BatchConfig := { defaultBatchConfig with maxBatchSize := 101 }

/-- **Batch sizes, for every configuration `NewBatchClient` accepts.**  `MaxBatchSize` 0 still
sends batches of one, and 101 sends batches above the API's limit. -/
theorem batch_size_bounds :
    (∀ {E : Type} (cfg : BatchConfig) (bc₀ bc : BatchClient E) (ops : List (Op E))
      (cs : List (ClientCall E)), newBatchClient cfg = some bc₀ → run cfg bc₀ ops = some (bc, cs) →
      (∀ b ∈ batches cs, minBatchSize ≤ b.length ∧ (b.length : Int) ≤ max cfg.maxBatchSize 1) ∧
        (bc.batch.length : Int) < max cfg.maxBatchSize 1) ∧
    (∀ {E : Type} (cfg : BatchConfig) (bc₀ : BatchClient E) (es : List E) (e : E),
      newBatchClient cfg = some bc₀ → (es.length : Int) + 1 = cfg.maxBatchSize →
      ∃ bc, run cfg bc₀ (es.map .sendLogEntry ++ [.sendLogEntry e]) =
        some (bc, [.sendLogBatch (es ++ [e])])) ∧
    (∃ bc₀ bc : BatchClient Nat, newBatchClient emptyBatchConfig = some bc₀ ∧
      ¬ (bc₀.batch.length : Int) < emptyBatchConfig.maxBatchSize ∧
      run emptyBatchConfig bc₀ [.sendLogEntry 7] = some (bc, [.sendLogBatch [7]]) ∧
      emptyBatchConfig.maxBatchSize < [7].length) ∧
    (∃ bc₀ bc : BatchClient Nat, newBatchClient wideBatchConfig = some bc₀ ∧
      run wideBatchConfig bc₀ ((List.range 101).map .sendLogEntry) =
        some (bc, [.sendLogBatch (List.range 101)]) ∧
      maxBatchSize < (List.range 101).length) := by
  refine ⟨fun cfg bc₀ bc ops cs h₀ h => ?_, fun cfg bc₀ es e h₀ hm => ?_, ⟨_, _, rfl, by decide, rfl, by decide⟩, ?_⟩
  · obtain ⟨hb, hs⟩ := run_batch_sizes cfg (Reachable.batch_length_lt cfg (.init h₀)) h
    exact ⟨fun b hb' => ⟨by have := (hs b hb').1; unfold minBatchSize; omega, (hs b hb').2⟩, hb⟩
  · obtain ⟨hb, hs⟩ := newBatchClient_init cfg h₀
    simpa [hb] using run_fill_flush cfg hs es e (by rw [hb]; simpa using hm)
  · obtain ⟨bc, h⟩ := @run_fill_flush Nat wideBatchConfig ⟨[], false, some 0, [0], [], 1⟩ rfl
      (List.range 100) 100 (by decide)
    refine ⟨_, bc, rfl, ?_, by decide⟩
    rw [List.range_succ, List.map_append]; simpa using h

/-- The default batcher given one entry, flushed and closed; two entries through batches of
two. -/
theorem batch_size_bounds_default :
    (∃ bc₀ bc : BatchClient Nat, ∃ cs, newBatchClient defaultBatchConfig = some bc₀ ∧
      run defaultBatchConfig bc₀ [.sendLogEntry 1, .flush, .close] = some (bc, cs) ∧
      (∀ b ∈ batches cs, minBatchSize ≤ b.length ∧ (b.length : Int) ≤ max defaultBatchConfig.maxBatchSize 1) ∧
      (bc.batch.length : Int) < max defaultBatchConfig.maxBatchSize 1) ∧
    (∃ bc₀ : BatchClient Nat, newBatchClient pairConfig = some bc₀ ∧
      ∃ bc, run pairConfig bc₀ ([1].map .sendLogEntry ++ [.sendLogEntry 2]) =
        some (bc, [.sendLogBatch [1, 2]])) := by
  obtain ⟨bc₀, h₀⟩ : ∃ bc₀, newBatchClient defaultBatchConfig = some (bc₀ : BatchClient Nat) :=
    ⟨_, rfl⟩
  obtain ⟨r, h⟩ : ∃ r, run defaultBatchConfig bc₀ [.sendLogEntry 1, .flush, .close] = some r := by
    cases h₀; exact ⟨_, rfl⟩
  obtain ⟨p₀, hp⟩ : ∃ p₀, newBatchClient pairConfig = some (p₀ : BatchClient Nat) := ⟨_, rfl⟩
  exact ⟨⟨bc₀, r.1, r.2, h₀, h, batch_size_bounds.1 _ _ _ _ _ h₀ h⟩,
    ⟨p₀, hp, batch_size_bounds.2.1 _ _ [1] 2 hp (by decide)⟩⟩

end LogFlux.Batch
