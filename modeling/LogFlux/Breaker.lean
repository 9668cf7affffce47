import LogFlux.Config
import LogFlux.Errors

/-!
# LogFlux.Breaker — the circuit breaker and the three-state machine it implements

`CircuitBreaker` holds the three atomic fields of `circuitBreaker` (`client.go`); `canExecute`,
`onSuccess` and `onFailure` are its methods with their atomic accesses run back to back (the
accesses interleaved with other calls are `LogFlux.BreakerRace`).  `guardedCall` is the
breaker's share of one `sendWithRetry` call: the gate, then the report of the outcome.

The specification's machine is `Breaker`: `closed c` after `c` consecutive failures, or
`opened t` since the failure at time `t`.  `specCall` is one call on it.

* `guardedCall_refines`: while `int32(T)` is `T` (`1 ≤ T < 2^31`), one call maps `abs` of the
  breaker to `specCall` of `abs`, admits exactly the calls the machine admits, leaves a rejected
  breaker untouched, and keeps `Quiet` (never half-open between calls, fewer than `T` failures
  while closed).
* `runCalls_refines`: the same over every sequence of calls, from `CircuitBreaker.init`.
* `threshold_wraps_opens_early`: at `T = 2^32 + 1` one failure opens the circuit.
-/

namespace LogFlux

/-- `circuitBreakerState`: the values ever stored in `cb.state`. -/
inductive CircuitBreakerState where
  | circuitClosed
  | circuitOpen
  | circuitHalfOpen
  deriving DecidableEq, Repr

/-- `circuitBreaker`: unix nanoseconds of the last failure, the state, the `int32` count of
consecutive failures. -/
structure CircuitBreaker where
  lastFailureTime : Int
  state : CircuitBreakerState
  failureCount : Int
  deriving DecidableEq, Repr

namespace CircuitBreaker

variable (cfg : Config)

/-- The breaker `NewClient` builds. -/
def init : CircuitBreaker := ⟨0, .circuitClosed, 0⟩

/-- `atomic.CompareAndSwapInt32(&cb.state, old, new)`. -/
def casState (cb : CircuitBreaker) (old new : CircuitBreakerState) : Bool × CircuitBreaker :=
  if cb.state = old then (true, { cb with state := new }) else (false, cb)

/-- `canExecute` at clock `now`: `time.Since(lastFailure) >= CircuitBreakerTimeout` is
`now - lastFailureTime ≥ timeout`. -/
def canExecute (now : Int) (cb : CircuitBreaker) : Option Err × CircuitBreaker :=
  match cb.state with
  | .circuitClosed => (none, cb)
  | .circuitOpen =>
    if cfg.circuitBreakerTimeout ≤ now - cb.lastFailureTime then
      match cb.casState .circuitOpen .circuitHalfOpen with
      | (true, cb') => (none, cb')
      | (false, cb') => (some .circuitOpen, cb')
    else (some .circuitOpen, cb)
  | .circuitHalfOpen => (none, cb)

/-- `onSuccess`. -/
def onSuccess (cb : CircuitBreaker) : CircuitBreaker :=
  match cb.state with
  | .circuitHalfOpen => { cb with state := .circuitClosed, failureCount := 0 }
  | .circuitClosed => { cb with failureCount := 0 }
  | .circuitOpen => cb

/-- `onFailure` at clock `now`: `AddInt32` wraps, and the threshold is read through `int32`. -/
def onFailure (now : Int) (cb : CircuitBreaker) : CircuitBreaker :=
  let failures := toInt32 (cb.failureCount + 1)
  let cb := { cb with failureCount := failures, lastFailureTime := now }
  match cb.state with
  | .circuitHalfOpen => { cb with state := .circuitOpen }
  | .circuitClosed =>
    if toInt32 cfg.circuitBreakerThreshold ≤ failures then { cb with state := .circuitOpen } else cb
  | .circuitOpen => cb

/-- The breaker's share of one `sendWithRetry` call: the gate at `now₀`; when admitted, the
outcome `ok` of the attempts reported at `now₁`.  The flag says whether the call was admitted. -/
def guardedCall (now₀ now₁ : Int) (ok : Bool) (cb : CircuitBreaker) : Bool × CircuitBreaker :=
  match cb.canExecute cfg now₀ with
  | (some _, cb') => (false, cb')
  | (none, cb') => (true, if ok then cb'.onSuccess else cb'.onFailure cfg now₁)

end CircuitBreaker

/-! ## The specification's machine -/

/-- The breaker as the specification describes it between calls. -/
inductive Breaker where
  | closed (c : Nat)
  | opened (t : Int)
  deriving DecidableEq, Repr

/-- Whether the machine admits a call at `now`. -/
def specAdmits (timeout now : Int) : Breaker → Bool
  | .closed _ => true
  | .opened t => decide (timeout ≤ now - t)

/-- One call on the machine, with threshold `T`: admitted at `now₀`, reported at `now₁`. -/
def specCall (T timeout now₀ now₁ : Int) (ok : Bool) : Breaker → Breaker
  | .closed c => if ok then .closed 0 else if T ≤ (c : Int) + 1 then .opened now₁ else .closed (c + 1)
  | .opened t =>
    if now₀ - t < timeout then .opened t else if ok then .closed 0 else .opened now₁

namespace CircuitBreaker

/-- The machine state a breaker stands for. -/
def abs (cb : CircuitBreaker) : Breaker :=
  match cb.state with
  | .circuitClosed => .closed cb.failureCount.toNat
  | _ => .opened cb.lastFailureTime

/-- The breaker between calls: open, or closed with fewer than `T` failures. -/
def Quiet (T : Int) (cb : CircuitBreaker) : Prop :=
  cb.state = .circuitOpen ∨ (cb.state = .circuitClosed ∧ 0 ≤ cb.failureCount ∧ cb.failureCount < T)

theorem quiet_init {T : Int} (h : 1 ≤ T) : Quiet T init := .inr ⟨rfl, by decide, h⟩

section Refinement

variable {cfg : Config} (now₀ now₁ : Int) (ok : Bool) {cb : CircuitBreaker}
variable (hT : 1 ≤ cfg.circuitBreakerThreshold) (hT' : cfg.circuitBreakerThreshold < 2 ^ 31)
include hT hT'

theorem guardedCall_closed (hs : cb.state = .circuitClosed) (h0 : 0 ≤ cb.failureCount)
    (hc : cb.failureCount < cfg.circuitBreakerThreshold) :
    let r := cb.guardedCall cfg now₀ now₁ ok
    r.1 = true ∧
      r.2.abs = specCall cfg.circuitBreakerThreshold cfg.circuitBreakerTimeout now₀ now₁ ok cb.abs ∧
      Quiet cfg.circuitBreakerThreshold r.2 := by
  have hw : toInt32 (cb.failureCount + 1) = cb.failureCount + 1 := toInt32_of_range (by omega) (by omega)
  have hTw : toInt32 cfg.circuitBreakerThreshold = cfg.circuitBreakerThreshold :=
    toInt32_of_range (by omega) hT'
  have hn : ((cb.failureCount.toNat : Nat) : Int) = cb.failureCount := Int.toNat_of_nonneg h0
  cases ok
  · simp only [guardedCall, canExecute, onFailure, abs, specCall, hs, hw, hTw, hn,
      Bool.false_eq_true, ↓reduceIte, true_and]
    by_cases h : cfg.circuitBreakerThreshold ≤ cb.failureCount + 1
    · simp only [h, ↓reduceIte, Quiet, true_or, and_true]
    · simp only [h, ↓reduceIte, Quiet, Breaker.closed.injEq]
      exact ⟨by omega, .inr ⟨trivial, by omega, by omega⟩⟩
  · simp [guardedCall, canExecute, onSuccess, abs, specCall, hs, Quiet]
    omega

theorem guardedCall_open (hs : cb.state = .circuitOpen) :
    let r := cb.guardedCall cfg now₀ now₁ ok
    r.1 = specAdmits cfg.circuitBreakerTimeout now₀ cb.abs ∧
      r.2.abs = specCall cfg.circuitBreakerThreshold cfg.circuitBreakerTimeout now₀ now₁ ok cb.abs ∧
      Quiet cfg.circuitBreakerThreshold r.2 ∧ (r.1 = false → r.2 = cb) := by
  by_cases ht : cfg.circuitBreakerTimeout ≤ now₀ - cb.lastFailureTime
  · have ht' : ¬ now₀ - cb.lastFailureTime < cfg.circuitBreakerTimeout := by omega
    cases ok <;> simp [guardedCall, canExecute, casState, onSuccess, onFailure, abs, specCall,
      specAdmits, hs, ht, ht', Quiet]
    omega
  · have ht' : now₀ - cb.lastFailureTime < cfg.circuitBreakerTimeout := by omega
    simp [guardedCall, canExecute, abs, specCall, specAdmits, hs, ht, ht', Quiet]

/-- **One call refines the machine**, for the thresholds `int32` keeps. -/
theorem guardedCall_refines (hq : Quiet cfg.circuitBreakerThreshold cb) :
    let r := cb.guardedCall cfg now₀ now₁ ok
    r.1 = specAdmits cfg.circuitBreakerTimeout now₀ cb.abs ∧
      r.2.abs = specCall cfg.circuitBreakerThreshold cfg.circuitBreakerTimeout now₀ now₁ ok cb.abs ∧
      Quiet cfg.circuitBreakerThreshold r.2 ∧ (r.1 = false → r.2 = cb) := by
  rcases hq with hs | ⟨hs, h0, hc⟩
  · exact guardedCall_open now₀ now₁ ok hT hT' hs
  · obtain ⟨h1, h2, h3⟩ := guardedCall_closed now₀ now₁ ok hT hT' hs h0 hc
    refine ⟨?_, h2, h3, by simp [h1]⟩
    rw [h1]; simp [abs, hs, specAdmits]

end Refinement

end CircuitBreaker

/-! ## Sequences of calls -/

/-- One call of a sequential run: the clock at the gate, the clock at the report, the outcome. -/
structure Call where
  now₀ : Int
  now₁ : Int
  ok : Bool
  deriving DecidableEq, Repr

/-- The breaker after a sequence of calls. -/
def runCalls (cfg : Config) (cb : CircuitBreaker) (calls : List Call) : CircuitBreaker :=
  calls.foldl (fun cb k => (cb.guardedCall cfg k.now₀ k.now₁ k.ok).2) cb

/-- The machine after a sequence of calls. -/
def specRun (T timeout : Int) (b : Breaker) (calls : List Call) : Breaker :=
  calls.foldl (fun b k => specCall T timeout k.now₀ k.now₁ k.ok b) b

/-- **Every sequential run refines the machine**, from any quiet breaker. -/
theorem runCalls_refines {cfg : Config} (hT : 1 ≤ cfg.circuitBreakerThreshold)
    (hT' : cfg.circuitBreakerThreshold < 2 ^ 31) (calls : List Call) :
    ∀ cb : CircuitBreaker, cb.Quiet cfg.circuitBreakerThreshold →
      (runCalls cfg cb calls).abs =
        specRun cfg.circuitBreakerThreshold cfg.circuitBreakerTimeout cb.abs calls ∧
      (runCalls cfg cb calls).Quiet cfg.circuitBreakerThreshold := by
  induction calls with
  | nil => exact fun cb hq => ⟨rfl, hq⟩
  | cons k calls ih =>
    intro cb hq
    obtain ⟨-, h2, h3, -⟩ := CircuitBreaker.guardedCall_refines k.now₀ k.now₁ k.ok hT hT' hq
    simp only [runCalls, specRun, List.foldl_cons] at ih ⊢
    rw [← h2]
    exact ih _ h3

/-- A fresh default breaker through one failed call follows the machine. -/
theorem runCalls_refines_one_failure :
    (1 : Int) ≤ defaultConfig.circuitBreakerThreshold ∧
      defaultConfig.circuitBreakerThreshold < 2 ^ 31 ∧
      CircuitBreaker.init.Quiet defaultConfig.circuitBreakerThreshold ∧
      (runCalls defaultConfig CircuitBreaker.init [⟨0, 0, false⟩]).abs =
        specRun defaultConfig.circuitBreakerThreshold defaultConfig.circuitBreakerTimeout
          CircuitBreaker.init.abs [⟨0, 0, false⟩] :=
  ⟨by decide, by decide, CircuitBreaker.quiet_init (by decide),
    (runCalls_refines (by decide : (1 : Int) ≤ defaultConfig.circuitBreakerThreshold) (by decide)
      [⟨0, 0, false⟩] CircuitBreaker.init (CircuitBreaker.quiet_init (by decide))).1⟩

/-- At `T = 2^32 + 1`, `int32(T) = 1`: the first failure opens a fresh breaker, where the
machine counts `closed 1`. -/
theorem threshold_wraps_opens_early :
    let cfg : Config := { defaultConfig with circuitBreakerThreshold := 2 ^ 32 + 1 }
    (CircuitBreaker.init.guardedCall cfg 0 0 false).2.state = .circuitOpen ∧
      specCall cfg.circuitBreakerThreshold cfg.circuitBreakerTimeout 0 0 false
        CircuitBreaker.init.abs = .closed 1 := by
  decide

end LogFlux
