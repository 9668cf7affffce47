import LogFlux.Pipeline

/-!
# LogFlux.BreakerBridge — the client's breaker over every run of the pipeline

`LogFlux.runCalls_refines` follows the breaker through calls given by their clocks and outcomes.
In the pipeline (`LogFlux.Pipeline.run`) the calls are the batcher's: each `SendLogBatch` and
`SendLogEntry` is one `sendWithRetry`, whose outcome is whether it returned `nil`, and `Close`
does not touch the breaker.  `breakerCalls` reads the breaker's calls off the outcomes of a run,
call `j` made in the environment `env j`.

* `sendWithRetryLoop_guardedCall`: one `sendWithRetry` call is `guardedCall` on the breaker,
  with the outcome `err == nil`; the gate refused it iff it returned `ErrCircuitOpen`, and then it
  made no pass.  `sendWithRetryLoop_breaker` spells out the breaker it leaves.
* `run_breaker`: over every run of the sync pipeline from a quiet breaker, the breaker follows the
  specification's machine fed with the run's `sendWithRetry` calls; the machine refuses exactly
  the calls that returned `ErrCircuitOpen`, and those wrote nothing.
-/

namespace LogFlux

/-- Whether the machine admits each call of a sequence. -/
def specAdmitted (T timeout : Int) : Breaker → List Call → List Bool
  | _, [] => []
  | b, k :: ks =>
    specAdmits timeout k.now₀ b :: specAdmitted T timeout (specCall T timeout k.now₀ k.now₁ k.ok b) ks

theorem specRun_append (T timeout : Int) (b : Breaker) (l₁ l₂ : List Call) :
    specRun T timeout b (l₁ ++ l₂) = specRun T timeout (specRun T timeout b l₁) l₂ :=
  List.foldl_append _ _ _ _

theorem specAdmitted_append (T timeout : Int) (l₂ : List Call) :
    ∀ (b : Breaker) (l₁ : List Call), specAdmitted T timeout b (l₁ ++ l₂) =
      specAdmitted T timeout b l₁ ++ specAdmitted T timeout (specRun T timeout b l₁) l₂
  | _, [] => rfl
  | _, _ :: l₁ => congrArg (_ :: ·) (specAdmitted_append T timeout l₂ _ l₁)

namespace Client

variable (cfg : Config)

theorem canExecute_refuses {now : Int} {cb cb' : CircuitBreaker} {e : Err}
    (h : cb.canExecute cfg now = (some e, cb')) : e = .circuitOpen := by
  rcases cb with ⟨f, _ | _ | _, t⟩ <;>
    simp only [CircuitBreaker.canExecute, CircuitBreaker.casState, if_true] at h
  · cases h
  · split_ifs at h <;> cases h
    rfl
  · cases h

theorem exhausted_ne_circuitOpen (last : Option Err) : exhausted cfg last ≠ .circuitOpen := by
  cases last <;> simp [exhausted]

theorem sendLoop_cb (env : Nat → Attempt) (draw : Nat → ℚ) :
    ∀ {fuel k : Nat} {t : Int} {l : Option Err} {c c' : Client} {r : Except (Option Err) Unit}
      {ps : List Pass}, sendLoop cfg env draw fuel k t l c = some (r, c', ps) → c'.cb = c.cb
  | 0, _, _, _, _, _, _, _, h => Option.noConfusion h
  | fuel + 1, k, t, l, c, c', r, ps, h => by
    have hc := attempt_cb cfg (env k) c
    rw [sendLoop] at h
    split_ifs at h
    · rcases ha : c.attempt cfg (env k) with ⟨_ | ⟨⟩, c₁⟩ <;> rw [ha] at h hc
      · obtain ⟨_, h₁, h₂⟩ := Option.map_eq_some'.mp h
        cases h₂
        rw [sendLoop_cb env draw h₁, hc]
      · cases h; exact hc
    · cases h; rfl

/-- **One `sendWithRetry` call is `guardedCall`** on the breaker, with the outcome `err == nil`:
the gate refused it iff it returned `ErrCircuitOpen`, and then it made no pass. -/
theorem sendWithRetryLoop_guardedCall {fuel : Nat} {now₀ now₁ : Int} {env : Nat → Attempt}
    {draw : Nat → ℚ} {c c' : Client} {err : Option Err} {ps : List Pass} {rs : List Report}
    (h : c.sendWithRetryLoop cfg fuel now₀ now₁ env draw = some (err, c', ps, rs)) :
    c'.cb = (c.cb.guardedCall cfg now₀ now₁ err.isNone).2 ∧
      (c.cb.guardedCall cfg now₀ now₁ err.isNone).1 = decide (err ≠ some .circuitOpen) ∧
      (err = some .circuitOpen → ps = []) := by
  unfold sendWithRetryLoop at h
  rcases hce : c.cb.canExecute cfg now₀ with ⟨_ | e, cb⟩ <;> rw [hce] at h
  · obtain ⟨⟨res, c₁, ps₁⟩, hl, hm⟩ := Option.map_eq_some'.mp h
    have hcb := sendLoop_cb cfg env draw hl
    rcases res with last | ⟨⟩ <;> cases hm <;>
      simp [CircuitBreaker.guardedCall, hce, hcb, exhausted_ne_circuitOpen]
  · cases h
    rw [canExecute_refuses cfg hce]
    simp [CircuitBreaker.guardedCall, hce]

/-- **The breaker after one `sendWithRetry` call** is what `canExecute` leaves, followed, when it
admitted the call, by `onSuccess` on `nil` and `onFailure` otherwise: the retries, connects and
closes in between never touch it. -/
theorem sendWithRetryLoop_breaker {fuel : Nat} {now₀ now₁ : Int} {env : Nat → Attempt}
    {draw : Nat → ℚ} {c c' : Client} {err : Option Err} {ps : List Pass} {rs : List Report}
    (h : c.sendWithRetryLoop cfg fuel now₀ now₁ env draw = some (err, c', ps, rs)) :
    c'.cb = match c.cb.canExecute cfg now₀ with
      | (some _, cb) => cb
      | (none, cb) => if err = none then cb.onSuccess else cb.onFailure cfg now₁ := by
  rw [(sendWithRetryLoop_guardedCall cfg h).1, CircuitBreaker.guardedCall]
  rcases c.cb.canExecute cfg now₀ with ⟨_ | _, cb⟩ <;> cases err <;> rfl

/-- A call through a healthy network from a fresh breaker ends with `onSuccess`'s breaker. -/
theorem sendWithRetryLoop_breaker_ok :
    ∃ err c' ps rs, idleClient.sendWithRetryLoop syncConfig 5 0 0 (fun _ => okAttempt) (fun _ => 0) =
      some (err, c', ps, rs) ∧ c'.cb = CircuitBreaker.init.onSuccess :=
  ⟨_, _, _, _, rfl, (@sendWithRetryLoop_breaker syncConfig 5 0 0 (fun _ => okAttempt) (fun _ => 0)
    idleClient _ _ _ _ rfl).trans rfl⟩

theorem sendWire_guardedCall {fuel : Nat} {ev : CallEnv} {data : Payload} {c c' : Client}
    {err : Option Err} {new : List Write} (h : c.sendWire cfg fuel ev data = some (err, c', new)) :
    c'.cb = (c.cb.guardedCall cfg ev.now₀ ev.now₁ err.isNone).2 ∧
      (c.cb.guardedCall cfg ev.now₀ ev.now₁ err.isNone).1 = decide (err ≠ some .circuitOpen) ∧
      (err = some .circuitOpen → new = []) := by
  obtain ⟨⟨err, c', ps, rs⟩, hr, he⟩ := Option.map_eq_some'.mp h
  cases he
  obtain ⟨h₁, h₂, h₃⟩ := sendWithRetryLoop_guardedCall cfg hr
  exact ⟨h₁, h₂, fun he => by rw [h₃ he]; rfl⟩

end Client

namespace Pipeline

open Batch Client

/-- A call of the batcher that goes through `sendWithRetry`: every call but `Close`. -/
def Outcome.isSend (o : Outcome) : Bool :=
  match o.call with
  | .close => false
  | _ => true

variable (cfg : Config) (env : Nat → CallEnv)

/-- The breaker's calls of a run's outcomes, outcome `i` made in the environment `env (j + i)`:
a send is gated at `now₀` and reported at `now₁` with its outcome `err == nil`. -/
def breakerCalls : Nat → List Outcome → List Call
  | _, [] => []
  | j, o :: os =>
    (if o.isSend then [⟨(env j).now₀, (env j).now₁, o.err.isNone⟩] else []) ++ breakerCalls (j + 1) os

/-- Whether the gate let each send of the outcomes through: it refused those that returned
`ErrCircuitOpen`. -/
def passedGate (os : List Outcome) : List Bool :=
  (os.filter Outcome.isSend).map fun o => decide (o.err ≠ some .circuitOpen)

theorem breakerCalls_append (os₂ : List Outcome) :
    ∀ (j : Nat) (os₁ : List Outcome),
      breakerCalls env j (os₁ ++ os₂) = breakerCalls env j os₁ ++ breakerCalls env (j + os₁.length) os₂
  | _, [] => rfl
  | j, o :: os₁ => by
    rw [List.cons_append, breakerCalls, breakerCalls, breakerCalls_append os₂ (j + 1) os₁,
      List.length_cons, Nat.add_assoc, Nat.add_comm 1, List.append_assoc]

/-- What the calls `os`, numbered from `j`, did to the breaker, from `cb` to `cb'`: it follows the
machine fed with their `sendWithRetry` calls and ends quiet; the machine refused exactly the
sends that returned `ErrCircuitOpen`, and those wrote nothing. -/
structure Follows (j : Nat) (cb : CircuitBreaker) (os : List Outcome) (cb' : CircuitBreaker) : Prop where
  abs : cb'.abs =
    specRun cfg.circuitBreakerThreshold cfg.circuitBreakerTimeout cb.abs (breakerCalls env j os)
  quiet : cb'.Quiet cfg.circuitBreakerThreshold
  gate : passedGate os =
    specAdmitted cfg.circuitBreakerThreshold cfg.circuitBreakerTimeout cb.abs (breakerCalls env j os)
  refused : ∀ o ∈ os, o.isSend = true → o.err = some .circuitOpen → o.writes = []

variable {cfg env}

namespace Follows

theorem nil {j : Nat} {cb : CircuitBreaker} (hq : cb.Quiet cfg.circuitBreakerThreshold) :
    Follows cfg env j cb [] cb :=
  ⟨rfl, hq, rfl, fun _ h => absurd h (List.not_mem_nil _)⟩

theorem append {j : Nat} {cb cb₁ cb₂ : CircuitBreaker} {os₁ os₂ : List Outcome}
    (h₁ : Follows cfg env j cb os₁ cb₁) (h₂ : Follows cfg env (j + os₁.length) cb₁ os₂ cb₂) :
    Follows cfg env j cb (os₁ ++ os₂) cb₂ where
  abs := by rw [breakerCalls_append, specRun_append, ← h₁.abs, h₂.abs]
  quiet := h₂.quiet
  gate := by
    rw [breakerCalls_append, specAdmitted_append, ← h₁.abs, ← h₁.gate, ← h₂.gate, passedGate,
      passedGate, passedGate, List.filter_append, List.map_append]
  refused o ho := (List.mem_append.mp ho).elim (h₁.refused o) (h₂.refused o)

end Follows

section Run

variable {bcfg : BatchConfig} {fuel : Nat}
variable (hT : 1 ≤ cfg.circuitBreakerThreshold) (hT' : cfg.circuitBreakerThreshold < 2 ^ 31)
include hT hT'

theorem follows_execCall {j : Nat} {call : ClientCall LogEntry} {c c' : Client} {err : Option Err}
    {new : List Write} (hq : c.cb.Quiet cfg.circuitBreakerThreshold)
    (h : c.execCall cfg fuel (env j) call = some (err, c', new)) :
    Follows cfg env j c.cb [⟨call, callData (env j).clock call, err, new⟩] c'.cb := by
  cases call with
  | close =>
    cases h
    rw [close_snd, stopAsync_cb]
    exact ⟨rfl, hq, rfl, by rintro o (_ | ⟨_, ⟨⟩⟩) ⟨⟩⟩
  | _ =>
    obtain ⟨h₁, h₂, h₃⟩ := sendWire_guardedCall cfg h
    obtain ⟨r₁, r₂, r₃, -⟩ := CircuitBreaker.guardedCall_refines (env j).now₀ (env j).now₁ err.isNone hT hT' hq
    rw [h₁]
    refine ⟨r₂, r₃, ?_, ?_⟩
    · show [decide (err ≠ some .circuitOpen)] = [specAdmits cfg.circuitBreakerTimeout (env j).now₀ c.cb.abs]
      rw [← r₁, h₂]
    · rintro o (_ | ⟨_, ⟨⟩⟩) _ he
      exact h₃ he

theorem follows_execCalls :
    ∀ {j : Nat} {cs : List (ClientCall LogEntry)} {c c' : Client} {os : List Outcome},
      c.cb.Quiet cfg.circuitBreakerThreshold → execCalls cfg fuel env j cs c = some (c', os) →
      os.length = cs.length ∧ Follows cfg env j c.cb os c'.cb
  | _, [], _, _, _, hq, h => by cases h; exact ⟨rfl, .nil hq⟩
  | j, call :: cs, c, c', os, hq, h => by
    obtain ⟨⟨err, c₁, new⟩, h₁, h₂⟩ := Option.bind_eq_some.mp h
    obtain ⟨⟨c₂, os₂⟩, h₃, h₄⟩ := Option.map_eq_some'.mp h₂
    cases h₄
    have hf₁ := follows_execCall hT hT' hq h₁
    obtain ⟨hl, hf₂⟩ := follows_execCalls hf₁.quiet h₃
    exact ⟨congrArg Nat.succ hl, hf₁.append hf₂⟩

/-- **The client's breaker over every run of the pipeline** follows the specification's machine
fed with the run's `sendWithRetry` calls. -/
theorem run_breaker (hsync : cfg.asyncMode = false) :
    ∀ {bc bc' : BatchClient LogEntry} {c c' : Client} {j : Nat} {ops : List (Op LogEntry)}
      {os : List Outcome}, c.cb.Quiet cfg.circuitBreakerThreshold →
      run bcfg cfg fuel env bc c j ops = some (bc', c', os) → Follows cfg env j c.cb os c'.cb
  | _, _, _, _, _, [], _, hq, h => by cases h; exact .nil hq
  | bc, bc', c, c', j, op :: ops, os, hq, h => by
    obtain ⟨⟨bc₁, cs⟩, h₁, h₂⟩ := Option.bind_eq_some.mp h
    obtain ⟨⟨c₁, os₁⟩, h₃, h₄⟩ := Option.bind_eq_some.mp h₂
    obtain ⟨⟨bc₂, c₂, os₂⟩, h₅, h₆⟩ := Option.map_eq_some'.mp h₄
    cases h₆
    obtain ⟨hl, hf₁⟩ := follows_execCalls hT hT' hq h₃
    exact hf₁.append (hl ▸ run_breaker hsync hf₁.quiet h₅)

end Run

/-- The run of `run_delivery_flush`: its one send follows the machine from a fresh breaker. -/
theorem run_breaker_flush :
    ∃ bc₀ bc' c' os, newBatchClient defaultBatchConfig = some bc₀ ∧
      run defaultBatchConfig syncConfig 5 calmEnv bc₀ idleClient 0 [.sendLogEntry helloEntry, .flush] =
        some (bc', c', os) ∧ Follows syncConfig calmEnv 0 idleClient.cb os c'.cb := by
  refine ⟨_, _, _, _, rfl, rfl, ?_⟩
  exact run_breaker (by decide) (by decide) rfl (CircuitBreaker.quiet_init (by decide))
    (rfl : run defaultBatchConfig syncConfig 5 calmEnv ⟨[], false, some 0, [0], [], 1⟩ idleClient 0
      [.sendLogEntry helloEntry, .flush] = _)

end Pipeline

end LogFlux
