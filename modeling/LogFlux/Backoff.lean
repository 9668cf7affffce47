import LogFlux.Float64
import LogFlux.Config

/-!
# LogFlux.Backoff — `Config.CalculateBackoffDelay`

The delay slept before retry `attempt` of `sendWithRetry`: `float64(RetryDelay)` multiplied
`attempt` times by `RetryMultiplier`, capped at `float64(MaxRetryDelay)`, moved by a jitter of up
to `± JitterPercent` of itself, converted to a `time.Duration`, and raised back to `RetryDelay`
when below it.  The draw of `rand.Float64()`, in `[0, 1)`, is the argument `r`.

The code is written once, over the arithmetic it computes in (`BackoffArith`), and read twice:
`calculateBackoffDelay` in Go's `float64`, where every product and sum is rounded and
`float64(math.MaxInt64)` is `2^63`; `exactBackoffDelay` over exact rationals, the products
taken over the reals.  The `float64` settings are the rationals they hold, and `float64(x)`
of such a value is `x` itself (`round_round`).

* `exactBackoffDelay_bounds`: over the reals the delay lies between `RetryDelay` and
  `MaxRetryDelay × (1 + JitterPercent)` when `RetryDelay` is not above that bound.
* `calculateBackoffDelay_le`: in `float64` it is at most that bound widened by `2^-50`, or
  `RetryDelay`.
* `calculateBackoffDelay_mono`: in `float64`, from a positive `RetryDelay`, with a multiplier of
  at least `1`, no jitter or a draw of at least `1/2`, and the widened bound below `2^63`, the
  delay does not decrease from one attempt to a later one; `topConfig_delay`: at
  `MaxRetryDelay = math.MaxInt64` it falls from `2^62` to 1 ns at attempt 63.
-/

namespace LogFlux

/-- The arithmetic `CalculateBackoffDelay` computes in: `float64(x)` of the settings, the draw and
the constants, the products, sums and differences, `<`, and `time.Duration(x)`. -/
structure BackoffArith (α : Type) where
  ofRat : ℚ → α
  mul : α → α → α
  add : α → α → α
  sub : α → α → α
  lt : α → α → Bool
  toDuration : α → Int

/-- Go's `float64`. -/
def float64Arith : BackoffArith F64 :=
  ⟨F64.ofRat, F64.mul, F64.add, F64.sub, F64.lt, F64.toDuration⟩

/-- Exact rationals: the products and sums over the reals. -/
def exactArith : BackoffArith ℚ :=
  ⟨id, (· * ·), (· + ·), (· - ·), fun a b => decide (a < b), toDuration⟩

namespace Config

variable {α : Type} (A : BackoffArith α) (c : Config)

/-- `delay := float64(c.RetryDelay)`, then `delay *= c.RetryMultiplier`, `n` times. -/
def grown (n : Nat) : α :=
  (fun d => A.mul d (A.ofRat c.retryMultiplier))^[n] (A.ofRat c.retryDelay)

/-- `if maxDelay := float64(c.MaxRetryDelay); delay > maxDelay { delay = maxDelay }`. -/
def capped (n : Nat) : α :=
  if A.lt (A.ofRat c.maxRetryDelay) (c.grown A n) then A.ofRat c.maxRetryDelay else c.grown A n

/-- `if c.JitterPercent > 0`: `delay += (rand.Float64()*2 - 1) * (delay * c.JitterPercent)`. -/
def jittered (r : ℚ) (delay : α) : α :=
  if A.lt (A.ofRat 0) (A.ofRat c.jitterPercent) then
    A.add delay (A.mul (A.sub (A.mul (A.ofRat r) (A.ofRat 2)) (A.ofRat 1))
      (A.mul delay (A.ofRat c.jitterPercent)))
  else delay

/-- `time.Duration(delay)`, raised to `RetryDelay` when below it. -/
def clampDelay (delay : α) : Int :=
  if A.toDuration delay < c.retryDelay then c.retryDelay else A.toDuration delay

/-- `CalculateBackoffDelay(attempt)` in the arithmetic `A`, with `rand.Float64()` returning `r`. -/
def backoffDelay (r : ℚ) (attempt : Int) : Int :=
  if attempt ≤ 0 then c.retryDelay else c.clampDelay A (c.jittered A r (c.capped A attempt.toNat))

/-- `CalculateBackoffDelay(attempt)` as Go runs it, in `float64`. -/
def calculateBackoffDelay (r : ℚ) (attempt : Int) : Int := c.backoffDelay float64Arith r attempt

/-- `CalculateBackoffDelay(attempt)` with its products and sums over the reals. -/
def exactBackoffDelay (r : ℚ) (attempt : Int) : Int := c.backoffDelay exactArith r attempt

theorem grown_succ (n : Nat) : c.grown A (n + 1) = A.mul (c.grown A n) (A.ofRat c.retryMultiplier) :=
  Function.iterate_succ_apply' _ n _

theorem retryDelay_le_clampDelay (delay : α) : c.retryDelay ≤ c.clampDelay A delay := by
  unfold clampDelay; split <;> omega

theorem retryDelay_le_backoffDelay (r : ℚ) (attempt : Int) :
    c.retryDelay ≤ c.backoffDelay A r attempt := by
  unfold backoffDelay; split
  · exact le_rfl
  · exact c.retryDelay_le_clampDelay A _

theorem clampDelay_le_max (delay : α) :
    c.clampDelay A delay ≤ max c.retryDelay (A.toDuration delay) := by
  unfold clampDelay; split <;> omega

/-! ## Over the reals -/

section Exact

variable {c}

theorem grown_exact (n : Nat) : c.grown exactArith n = c.retryDelay * c.retryMultiplier ^ n := by
  induction n with
  | zero => simp [grown, exactArith]
  | succ n ih => rw [grown_succ, ih, pow_succ, ← mul_assoc]; rfl

/-- The factor the jitter multiplies the delay by. -/
def jitterFactor (c : Config) (r : ℚ) : ℚ :=
  if 0 < c.jitterPercent then 1 + (r * 2 - 1) * c.jitterPercent else 1

theorem jittered_exact (r delay : ℚ) : c.jittered exactArith r delay = delay * c.jitterFactor r := by
  unfold jittered jitterFactor
  by_cases h : 0 < c.jitterPercent
  · simp only [exactArith, id, decide_eq_true h, if_true, if_pos h]; ring
  · simp only [exactArith, id, decide_eq_false h, if_neg h]; simp

theorem jitterFactor_mem {r : ℚ} (hJ0 : 0 ≤ c.jitterPercent) (hJ1 : c.jitterPercent ≤ 1)
    (hr0 : 0 ≤ r) (hr1 : r < 1) : 0 ≤ c.jitterFactor r ∧ c.jitterFactor r ≤ 1 + c.jitterPercent := by
  unfold jitterFactor
  split
  · constructor <;> linarith [mul_nonneg hr0 hJ0, mul_nonneg (sub_nonneg.2 hr1.le) hJ0]
  · constructor <;> linarith

theorem capped_exact_le (n : Nat) : c.capped exactArith n ≤ c.maxRetryDelay := by
  unfold capped
  split
  · exact le_rfl
  · rename_i h; simpa [exactArith] using h

theorem jittered_capped_exact_le {r : ℚ} (hJ0 : 0 ≤ c.jitterPercent) (hJ1 : c.jitterPercent ≤ 1)
    (hr0 : 0 ≤ r) (hr1 : r < 1) (n : Nat) :
    c.jittered exactArith r (c.capped exactArith n) ≤ max (c.maxRetryDelay * (1 + c.jitterPercent)) 0 := by
  obtain ⟨hf0, hf1⟩ := jitterFactor_mem hJ0 hJ1 hr0 hr1
  have hc := capped_exact_le (c := c) n
  rw [jittered_exact]
  rcases le_total 0 (c.capped exactArith n) with h | h
  · exact le_max_of_le_left (mul_le_mul hc hf1 hf0 (h.trans hc))
  · exact le_max_of_le_right (mul_nonpos_of_nonpos_of_nonneg h hf0)

/-- **At most `MaxRetryDelay × (1 + JitterPercent)`** over the reals, when `RetryDelay` is not
above it. -/
theorem exactBackoffDelay_le {r : ℚ} (hJ0 : 0 ≤ c.jitterPercent) (hJ1 : c.jitterPercent ≤ 1)
    (hr0 : 0 ≤ r) (hr1 : r < 1) (hmax : 0 ≤ c.maxRetryDelay)
    (hRD : (c.retryDelay : ℚ) ≤ c.maxRetryDelay * (1 + c.jitterPercent)) (attempt : Int) :
    (c.exactBackoffDelay r attempt : ℚ) ≤ c.maxRetryDelay * (1 + c.jitterPercent) := by
  have hb : 0 ≤ (c.maxRetryDelay : ℚ) * (1 + c.jitterPercent) :=
    mul_nonneg (by exact_mod_cast hmax) (by linarith)
  unfold exactBackoffDelay backoffDelay
  split
  · exact hRD
  · have hcl := c.clampDelay_le_max exactArith (c.jittered exactArith r (c.capped exactArith attempt.toNat))
    have hd := (toDuration_le_max _).trans
      (max_le_max (jittered_capped_exact_le hJ0 hJ1 hr0 hr1 attempt.toNat) (le_refl (0 : ℚ)))
    rw [max_eq_left (le_max_right _ _), max_eq_left hb] at hd
    calc _ ≤ ((max c.retryDelay (toDuration (c.jittered exactArith r (c.capped exactArith attempt.toNat))) : Int) : ℚ) := by
          exact_mod_cast hcl
      _ ≤ _ := by push_cast; exact max_le hRD hd

end Exact

/-! ## In `float64` -/

section Float

open F64

variable {c}

theorem ofRat_fin {x : ℚ} (h : |x| ≤ 2 ^ 1023) : ∃ hx, F64.ofRat x = .fin ⟨round x, hx⟩ :=
  ⟨_, ofRat_eq (abs_round_lt h)⟩

theorem ofRat_fin_of_le {x : ℚ} (a : {x : ℚ // IsFinite x}) (h : |x| ≤ |a.1|) :
    ∃ hx, F64.ofRat x = .fin ⟨round x, hx⟩ :=
  ⟨_, ofRat_eq ((abs_round_le h a.2.1).trans_lt a.2.2)⟩

theorem round_intCast {n : ℤ} (h : |n| < 2 ^ 53) : round n = n := by
  simpa using round_mul_two_pow (k := 0) h (by norm_num)

theorem round_one : round 1 = 1 := by exact_mod_cast round_intCast (n := 1) (by norm_num)

theorem round_two : round 2 = 2 := by exact_mod_cast round_intCast (n := 2) (by norm_num)

/-- While every product is a `float64`, the growth loop computes exactly. -/
theorem grown_float_exact (hm : IsFinite c.retryMultiplier) {n : Nat}
    (h : ∀ j ≤ n, IsFinite (c.retryDelay * c.retryMultiplier ^ j)) :
    c.grown float64Arith n = F64.ofRat (c.retryDelay * c.retryMultiplier ^ n) := by
  induction n with
  | zero => simp [grown, float64Arith]
  | succ n ih =>
    rw [grown_succ, ih fun j hj => h j (by omega), ofRat_of_isFinite (h n (by omega))]
    show F64.mul _ (F64.ofRat _) = _
    rw [ofRat_of_isFinite hm, pow_succ, ← mul_assoc]; rfl

/-- The factor `rand.Float64()*2 - 1` computes for the draw `r`. -/
def drawFactor (r : ℚ) : ℚ := round (round (round r * 2) - 1)

theorem round_draw_mem {r : ℚ} (hr0 : 0 ≤ r) (hr1 : r ≤ 1) : 0 ≤ round r ∧ round r ≤ 1 :=
  ⟨round_nonneg hr0, (round_mono hr1).trans_eq round_one⟩

theorem drawFactor_mem {r : ℚ} (hr0 : 0 ≤ r) (hr1 : r ≤ 1) : -1 ≤ drawFactor r ∧ drawFactor r ≤ 1 := by
  obtain ⟨hr, hr'⟩ := round_draw_mem hr0 hr1
  have ht := round_nonneg (by linarith : (0 : ℚ) ≤ round r * 2)
  have ht' : round (round r * 2) ≤ 2 := (round_mono (by linarith)).trans_eq round_two
  have hm1 : round (-1) = -1 := by rw [round_neg, round_one]
  exact ⟨hm1.symm.trans_le (round_mono (by linarith)), (round_mono (by linarith)).trans_eq round_one⟩

theorem drawFactor_nonneg {r : ℚ} (hr : 1 / 2 ≤ r) : 0 ≤ drawFactor r := by
  have hh : round (1 / 2) = 1 / 2 := round_eq_self (n := 1) (k := -1)
    (by
      have habs : |(1 / 2 : ℚ)| = 2 ^ (-1 : ℤ) := by norm_num
      unfold ulpExp; rw [floorLog2_eq (k := -1) habs.ge (by rw [habs]; norm_num)]; omega) (by norm_num)
  have : 1 ≤ round (round r * 2) :=
    round_one.symm.trans_le (round_mono (by linarith [hh.symm.trans_le (round_mono hr)]))
  exact round_zero.symm.trans_le (round_mono (by linarith))

theorem abs_le_two_pow_of_nonneg {x : ℚ} (h0 : 0 ≤ x) (h1 : x ≤ 2) : |x| ≤ 2 ^ 1023 :=
  (abs_of_nonneg h0).trans_le (h1.trans (by norm_num))

/-- **The jitter in `float64`.**  On a finite delay `z`, with the jitter and the draw in
`[0, 1]`: when `float64(JitterPercent) > 0`, `z` plus the rounded product of the draw's factor
and the rounded `z × JitterPercent`, rounded; else `z`. -/
theorem jittered_fin {r : ℚ} (hJ0 : 0 ≤ c.jitterPercent) (hJ1 : c.jitterPercent ≤ 1)
    (hr0 : 0 ≤ r) (hr1 : r ≤ 1) (z : {x : ℚ // IsFinite x}) :
    c.jittered float64Arith r (.fin z) =
      if 0 < round c.jitterPercent then
        F64.ofRat (z.1 + round (drawFactor r * round (z.1 * round c.jitterPercent)))
      else .fin z := by
  have hJ : |round c.jitterPercent| ≤ 1 := abs_le.mpr
    ⟨by linarith [round_nonneg hJ0], (round_mono hJ1).trans_eq round_one⟩
  obtain ⟨hr, hr'⟩ := round_draw_mem hr0 hr1
  obtain ⟨hJf, hJe⟩ := ofRat_fin (abs_le_two_pow_of_nonneg hJ0 (hJ1.trans one_le_two))
  obtain ⟨hrf, hre⟩ := ofRat_fin (abs_le_two_pow_of_nonneg hr0 (hr1.trans one_le_two))
  obtain ⟨htf, hte⟩ := ofRat_fin (abs_le_two_pow_of_nonneg (mul_nonneg hr zero_le_two) (by linarith))
  obtain ⟨hsf, hse⟩ := ofRat_fin (x := round (round r * 2) - 1) (by
    have := round_nonneg (by linarith : (0 : ℚ) ≤ round r * 2)
    have : round (round r * 2) ≤ 2 := (round_mono (by linarith)).trans_eq round_two
    exact abs_le.mpr ⟨by linarith, by linarith⟩)
  obtain ⟨hjf, hje⟩ := ofRat_fin_of_le (x := z.1 * round c.jitterPercent) z
    (by rw [abs_mul]; exact mul_le_of_le_one_right (abs_nonneg _) hJ)
  obtain ⟨haf, hae⟩ := ofRat_fin_of_le (x := drawFactor r * round (z.1 * round c.jitterPercent))
    ⟨_, hjf⟩ (by rw [abs_mul]; exact mul_le_of_le_one_left (abs_nonneg _) (abs_le.mpr (drawFactor_mem hr0 hr1)))
  have h0 := ofRat_of_isFinite (x := 0) ⟨round_zero, by norm_num⟩
  have h1 := ofRat_of_isFinite (x := 1) ⟨round_one, by norm_num⟩
  have h2 := ofRat_of_isFinite (x := 2) ⟨round_two, by norm_num⟩
  unfold jittered
  simp only [float64Arith, hJe, h0, hre, h1, h2, F64.lt, decide_eq_true_eq]
  split
  · simp only [F64.mul, F64.sub, hte, hse, hje]
    unfold drawFactor at hae
    simp only [hae]; rfl
  · rfl

/-- `MaxRetryDelay × (1 + JitterPercent)`, widened by `2^-50` for the `float64` roundings. -/
def backoffBound (c : Config) : ℚ := c.maxRetryDelay * (1 + c.jitterPercent) * (1 + 1 / 2 ^ 50)

theorem backoffBound_nonneg (hJ0 : 0 ≤ c.jitterPercent) (hM : 0 ≤ c.maxRetryDelay) :
    0 ≤ c.backoffBound :=
  mul_nonneg (mul_nonneg (by exact_mod_cast hM) (by linarith)) (by norm_num)

theorem le_backoffBound (hJ0 : 0 ≤ c.jitterPercent) (hM : (0 : ℚ) ≤ c.maxRetryDelay) :
    (c.maxRetryDelay : ℚ) ≤ c.backoffBound := by
  unfold backoffBound; rw [mul_assoc]
  exact le_mul_of_one_le_right hM (one_le_mul_of_one_le_of_one_le (by linarith) (by norm_num))

theorem jitter_arith_le {M J J' z j a f : ℚ} (hM : 1 ≤ M) (hJ1 : J ≤ 1)
    (hzM : z ≤ M + M / 2 ^ 53 + 1 / 2 ^ 1075) (hJ'0 : 0 ≤ J') (hJ' : J' ≤ J + J / 2 ^ 53 + 1 / 2 ^ 1075)
    (hj : j ≤ z * J' + z * J' / 2 ^ 53 + 1 / 2 ^ 1075) (ha : a ≤ j) (hJ0 : 0 ≤ J)
    (hf : f ≤ (z + a) + (z + a) / 2 ^ 53 + 1 / 2 ^ 1075) :
    f ≤ M * (1 + J) * (1 + 1 / 2 ^ 50) := by
  have hzJ : z * J' ≤ (M + M / 2 ^ 53 + 1 / 2 ^ 1075) * (J + J / 2 ^ 53 + 1 / 2 ^ 1075) :=
    mul_le_mul hzM hJ' hJ'0 (by linarith)
  have hMJ : 0 ≤ M * J := mul_nonneg (by linarith) hJ0
  ring_nf at hzJ ⊢
  linarith

theorem round_le_add' {x : ℚ} (hx : 0 ≤ x) : round x ≤ x + x / 2 ^ 53 + 1 / 2 ^ 1075 := by
  have := round_le_add hx; norm_num at this ⊢; linarith

theorem val_jittered_le {r : ℚ} (hJ0 : 0 ≤ c.jitterPercent) (hJ1 : c.jitterPercent ≤ 1)
    (hr0 : 0 ≤ r) (hr1 : r ≤ 1) (hM1 : 1 ≤ c.maxRetryDelay) (z : {x : ℚ // IsFinite x})
    (hz : z.1 ≤ round c.maxRetryDelay) : (c.jittered float64Arith r (.fin z)).val ≤ c.backoffBound := by
  have hB := backoffBound_nonneg hJ0 (by omega : 0 ≤ c.maxRetryDelay)
  have hM : (1 : ℚ) ≤ c.maxRetryDelay := by exact_mod_cast hM1
  have hM' := hz.trans (round_le_add' (zero_le_one.trans hM))
  have hBM : (c.maxRetryDelay : ℚ) + c.maxRetryDelay / 2 ^ 53 + 1 / 2 ^ 1075 ≤ c.backoffBound := by
    calc _ ≤ (c.maxRetryDelay : ℚ) * (1 + 1 / 2 ^ 50) := by linarith
      _ ≤ c.backoffBound := mul_le_mul_of_nonneg_right
          (le_mul_of_one_le_right (zero_le_one.trans hM) (le_add_of_nonneg_right hJ0)) (by norm_num)
  rw [jittered_fin hJ0 hJ1 hr0 hr1]
  split
  · refine (F64.val_ofRat_le _).trans (max_le ?_ hB)
    set J' := round c.jitterPercent
    set j := round (z.1 * J')
    set a := round (drawFactor r * j)
    have hJ'0 : 0 ≤ J' := round_nonneg hJ0
    have hJ'1 : |J'| ≤ 1 := (abs_of_nonneg hJ'0).trans_le ((round_mono hJ1).trans_eq round_one)
    have hj : |j| ≤ |z.1| := abs_round_le (by rw [abs_mul]; exact mul_le_of_le_one_right (abs_nonneg _) hJ'1) z.2.1
    have ha : |a| ≤ |j| := abs_round_le (by
      rw [abs_mul]; exact mul_le_of_le_one_left (abs_nonneg _) (abs_le.mpr (drawFactor_mem hr0 hr1)))
      (round_round _)
    rcases le_or_lt z.1 0 with hz0 | hz0
    · have : z.1 + a ≤ 0 := by
        have := le_abs_self a; rw [abs_of_nonpos hz0] at hj; linarith
      exact (round_nonpos this).trans hB
    · have hj0 : 0 ≤ j := round_nonneg (mul_nonneg hz0.le hJ'0)
      rw [abs_of_nonneg hj0, abs_of_pos hz0] at hj
      rw [abs_of_nonneg hj0] at ha
      have hza : 0 ≤ z.1 + a := by linarith [neg_abs_le a]
      exact jitter_arith_le hM hJ1 hM' hJ'0 (round_le_add' hJ0) (round_le_add' (mul_nonneg hz0.le hJ'0))
        ((le_abs_self a).trans ha) hJ0 (round_le_add' hza)
  · exact hM'.trans hBM

/-- A delay of the growing phase from a positive `RetryDelay`: finite and positive, or `+Inf`. -/
def Growing (d : F64) : Prop := d = .inf false ∨ ∃ x : {x : ℚ // IsFinite x}, d = .fin x ∧ 0 < x.1

/-- `d` is not above `e` in the growing phase: `e` is `+Inf`, or both are finite and in order. -/
def GrowLe (d e : F64) : Prop :=
  e = .inf false ∨ ∃ x y : {x : ℚ // IsFinite x}, d = .fin x ∧ e = .fin y ∧ x.1 ≤ y.1

theorem GrowLe.refl {d : F64} (h : Growing d) : GrowLe d d := by
  rcases h with h | ⟨x, rfl, -⟩
  · exact .inl h
  · exact .inr ⟨x, x, rfl, rfl, le_rfl⟩

theorem GrowLe.trans {d e f : F64} (h₁ : GrowLe d e) (h₂ : GrowLe e f) : GrowLe d f := by
  rcases h₂ with h₂ | ⟨y, z, rfl, rfl, hyz⟩
  · exact .inl h₂
  · rcases h₁ with h₁ | ⟨x, y', rfl, h, hxy⟩
    · cases h₁
    · cases h; exact .inr ⟨x, z, rfl, rfl, hxy.trans hyz⟩

theorem growing_mul {m : ℚ} (hm : 1 ≤ m) {d : F64} (h : Growing d) :
    Growing (F64.mul d (F64.ofRat m)) ∧ GrowLe d (F64.mul d (F64.ofRat m)) := by
  have hinf : ∀ e, Growing (.inf false) ∧ GrowLe e (.inf false) := fun _ => ⟨.inl rfl, .inl rfl⟩
  rcases F64.ofRat_cases_of_pos (by linarith : (0 : ℚ) < m) with ⟨hf, he⟩ | he <;> rw [he]
  · have hm' : 1 ≤ round m := round_one.symm.trans_le (round_mono hm)
    rcases h with rfl | ⟨x, rfl, hx⟩
    · have : F64.mul (.inf false) (.fin ⟨round m, hf⟩) = .inf false := by
        simp [F64.mul, (by linarith : round m ≠ 0), (by linarith : ¬ round m < 0)]
      rw [this]; exact hinf _
    · have hxm : x.1 ≤ x.1 * round m := le_mul_of_one_le_right hx.le hm'
      rcases F64.ofRat_cases_of_pos (hx.trans_le hxm) with ⟨hf', he'⟩ | he'
      · have hge : x.1 ≤ round (x.1 * round m) := x.2.1.symm.trans_le (round_mono hxm)
        exact ⟨.inr ⟨_, he', hx.trans_le hge⟩, .inr ⟨x, _, rfl, he', hge⟩⟩
      · exact ⟨.inl he', .inl he'⟩
  · rcases h with rfl | ⟨x, rfl, hx⟩
    · exact hinf _
    · have : F64.mul (.fin x) (.inf false) = .inf false := by simp [F64.mul, hx.ne', hx.not_lt]
      rw [this]; exact hinf _

theorem grown_growing (hRD : 0 < c.retryDelay) (hm : 1 ≤ c.retryMultiplier) (n : Nat) :
    Growing (c.grown float64Arith n) := by
  induction n with
  | zero =>
    have hRD' : (1 : ℚ) ≤ c.retryDelay := by exact_mod_cast hRD
    rcases F64.ofRat_cases_of_pos (by linarith : (0 : ℚ) < c.retryDelay) with ⟨hf, he⟩ | he
    · exact .inr ⟨_, he, zero_lt_one.trans_le (round_one.symm.trans_le (round_mono hRD'))⟩
    · exact .inl he
  | succ n ih => rw [grown_succ]; exact (growing_mul hm ih).1

theorem grown_growLe (hRD : 0 < c.retryDelay) (hm : 1 ≤ c.retryMultiplier) {m n : Nat} (h : m ≤ n) :
    GrowLe (c.grown float64Arith m) (c.grown float64Arith n) := by
  induction n, h using Nat.le_induction with
  | base => exact .refl (grown_growing hRD hm m)
  | succ n _ ih => rw [grown_succ]; exact ih.trans (growing_mul hm (grown_growing hRD hm n)).2

theorem cap_fin (M x : {x : ℚ // IsFinite x}) :
    (if F64.lt (.fin M) (.fin x) then F64.fin M else .fin x) = .fin (if M.1 < x.1 then M else x) := by
  by_cases h : M.1 < x.1 <;> simp [F64.lt, h]

theorem capped_mono_float (hRD : 0 < c.retryDelay) (hm : 1 ≤ c.retryMultiplier)
    (hM1 : 1 ≤ c.maxRetryDelay) (hM : |(c.maxRetryDelay : ℚ)| ≤ 2 ^ 1023) {m n : Nat} (h : m ≤ n) :
    ∃ z z' : {x : ℚ // IsFinite x}, c.capped float64Arith m = .fin z ∧
      c.capped float64Arith n = .fin z' ∧ 0 < z.1 ∧ z.1 ≤ z'.1 ∧ z'.1 ≤ round c.maxRetryDelay := by
  obtain ⟨hMf, hMe⟩ := ofRat_fin hM
  have hM' : 1 ≤ round (c.maxRetryDelay : ℚ) :=
    round_one.symm.trans_le (round_mono (by exact_mod_cast hM1))
  have hcap : ∀ k, c.capped float64Arith k = if F64.lt (.fin ⟨_, hMf⟩) (c.grown float64Arith k) then
      .fin ⟨_, hMf⟩ else c.grown float64Arith k := fun k => by
    show (if F64.lt (F64.ofRat _) _ then F64.ofRat _ else _) = _; rw [hMe]
  have hM0 : ∀ x : {x : ℚ // IsFinite x}, 0 < x.1 →
      0 < (if round (c.maxRetryDelay : ℚ) < x.1 then ⟨_, hMf⟩ else x : {x : ℚ // IsFinite x}).1 ∧
      (if round (c.maxRetryDelay : ℚ) < x.1 then ⟨_, hMf⟩ else x : {x : ℚ // IsFinite x}).1 ≤
        round (c.maxRetryDelay : ℚ) := fun x hx => by
    split
    · exact ⟨by linarith, le_rfl⟩
    · exact ⟨hx, not_lt.mp ‹_›⟩
  rw [hcap, hcap]
  rcases grown_growLe hRD hm h with he | ⟨x, y, hx, hy, hxy⟩
  · rw [he]
    rcases grown_growing hRD hm m with hd | ⟨x, hx, hx0⟩
    · rw [hd]
      exact ⟨⟨_, hMf⟩, ⟨_, hMf⟩, by simp [F64.lt], by simp [F64.lt], by simp; linarith, le_rfl, le_rfl⟩
    · rw [hx, cap_fin]
      exact ⟨_, ⟨_, hMf⟩, rfl, by simp [F64.lt], (hM0 x hx0).1, (hM0 x hx0).2, le_rfl⟩
  · have hx0 : 0 < x.1 := by
      rcases grown_growing hRD hm m with hd | ⟨x', hx', hx0⟩
      · rw [hd] at hx; cases hx
      · rw [hx] at hx'; cases hx'; exact hx0
    rw [hx, hy, cap_fin, cap_fin]
    refine ⟨_, _, rfl, rfl, (hM0 x hx0).1, ?_, (hM0 y (hx0.trans_le hxy)).2⟩
    split_ifs with h₁ h₂ h₂
    · exact le_rfl
    · exact absurd (h₁.trans_le hxy) h₂
    · exact not_lt.mp h₁
    · exact hxy

theorem jittered_mono_float {r : ℚ} (hJ0 : 0 ≤ c.jitterPercent) (hJ1 : c.jitterPercent ≤ 1)
    (hr0 : 0 ≤ r) (hr1 : r ≤ 1) (hdraw : 1 / 2 ≤ r ∨ c.jitterPercent = 0)
    {z z' : {x : ℚ // IsFinite x}} (hz : 0 < z.1) (hzz : z.1 ≤ z'.1) (hz' : z'.1 ≤ 2 ^ 64) :
    ∃ w w' : {x : ℚ // IsFinite x}, c.jittered float64Arith r (.fin z) = .fin w ∧
      c.jittered float64Arith r (.fin z') = .fin w' ∧ w.1 ≤ w'.1 := by
  rw [jittered_fin hJ0 hJ1 hr0 hr1, jittered_fin hJ0 hJ1 hr0 hr1]
  split
  · rename_i hJ
    have hs : 0 ≤ drawFactor r := by
      rcases hdraw with h | h
      · exact drawFactor_nonneg h
      · rw [h, round_zero] at hJ; exact absurd hJ (lt_irrefl 0)
    have hJ'0 := round_nonneg hJ0
    have hJ'1 : round c.jitterPercent ≤ 1 := (round_mono hJ1).trans_eq round_one
    have hsum : ∀ x : {x : ℚ // IsFinite x}, 0 < x.1 → x.1 ≤ 2 ^ 64 →
        |x.1 + round (drawFactor r * round (x.1 * round c.jitterPercent))| ≤ 2 ^ 1023 := fun x hx hx' => by
      have hj := abs_round_le (x := x.1 * round c.jitterPercent) (y := x.1)
        (by rw [abs_mul, abs_of_nonneg hJ'0]; exact mul_le_of_le_one_right (abs_nonneg _) hJ'1) x.2.1
      have ha := abs_round_le (x := drawFactor r * round (x.1 * round c.jitterPercent))
        (by rw [abs_mul]; exact mul_le_of_le_one_left (abs_nonneg _) (abs_le.mpr (drawFactor_mem hr0 hr1)))
        (round_round _)
      rw [abs_of_pos hx] at hj
      exact (abs_add _ _).trans (by rw [abs_of_pos hx]; linarith)
    obtain ⟨hwf, hwe⟩ := ofRat_fin (hsum z hz (hzz.trans hz'))
    obtain ⟨hwf', hwe'⟩ := ofRat_fin (hsum z' (hz.trans_le hzz) hz')
    refine ⟨_, _, hwe, hwe', round_mono (add_le_add hzz (round_mono (mul_le_mul_of_nonneg_left
      (round_mono (mul_le_mul_of_nonneg_right hzz hJ'0)) hs)))⟩
  · exact ⟨z, z', rfl, rfl, hzz⟩

/-- **The `float64` backoff does not decrease with the attempt**, from a positive `RetryDelay`,
with a multiplier of at least `1`, no jitter or a draw of at least `1/2`, and the widened bound
below `2^63`. -/
theorem calculateBackoffDelay_mono {r : ℚ} (hRD : 0 < c.retryDelay) (hm : 1 ≤ c.retryMultiplier)
    (hJ0 : 0 ≤ c.jitterPercent) (hJ1 : c.jitterPercent ≤ 1) (hr0 : 0 ≤ r) (hr1 : r < 1)
    (hdraw : 1 / 2 ≤ r ∨ c.jitterPercent = 0) (hM1 : 1 ≤ c.maxRetryDelay)
    (hB : c.backoffBound < 2 ^ 63) {a b : Int} (hab : a ≤ b) :
    c.calculateBackoffDelay r a ≤ c.calculateBackoffDelay r b := by
  by_cases ha : a ≤ 0
  · rw [calculateBackoffDelay, backoffDelay, if_pos ha]
    exact c.retryDelay_le_backoffDelay float64Arith r b
  have hb : ¬ b ≤ 0 := by omega
  have hM0 : (0 : ℚ) ≤ c.maxRetryDelay := by exact_mod_cast (by omega : (0 : Int) ≤ c.maxRetryDelay)
  have hM : (c.maxRetryDelay : ℚ) ≤ 2 ^ 63 := ((le_backoffBound hJ0 hM0).trans_lt hB).le
  obtain ⟨z, z', hz, hz', hz0, hzz, hzM⟩ := capped_mono_float hRD hm hM1
    (by rw [abs_of_nonneg hM0]; exact hM.trans (by norm_num)) (show a.toNat ≤ b.toNat by omega)
  have hz'64 : z'.1 ≤ 2 ^ 64 := hzM.trans ((round_le_add' hM0).trans (by linarith))
  obtain ⟨w, w', hw, hw', hww⟩ := jittered_mono_float hJ0 hJ1 hr0 hr1.le hdraw hz0 hzz hz'64
  have hw'B : w'.1 < 2 ^ 63 := by
    have := val_jittered_le hJ0 hJ1 hr0 hr1.le hM1 z' hzM
    rw [hw'] at this; exact lt_of_le_of_lt this hB
  have := toDuration_mono hww hw'B
  rw [calculateBackoffDelay, backoffDelay, if_neg ha, calculateBackoffDelay, backoffDelay, if_neg hb,
    hz, hz', hw, hw']
  unfold clampDelay
  show (if LogFlux.toDuration w.1 < c.retryDelay then c.retryDelay else LogFlux.toDuration w.1) ≤
    (if LogFlux.toDuration w'.1 < c.retryDelay then c.retryDelay else LogFlux.toDuration w'.1)
  split <;> split <;> omega

end Float

end Config

/-! ## Where the bounds and the order fail -/

/-- `RetryDelay` (10 s) above `MaxRetryDelay` (1 s): a `Config` nothing validates against. -/
def slowStartConfig : Config := { defaultConfig with retryDelay := 10 * second, maxRetryDelay := second }

/-- `MaxRetryDelay` at `math.MaxInt64`, from a 1 ns `RetryDelay`, with no jitter. -/
def topConfig : Config :=
  { defaultConfig with retryDelay := 1, maxRetryDelay := 2 ^ 63 - 1, jitterPercent := 0 }

namespace Config

open F64

theorem topConfig_grown {n : Nat} (hn : n ≤ 63) :
    topConfig.grown float64Arith n = .fin ⟨2 ^ n, isFinite_two_pow (by omega)⟩ := by
  have hv (j : Nat) : (topConfig.retryDelay : ℚ) * topConfig.retryMultiplier ^ j = 2 ^ j := by
    simp [topConfig, defaultConfig]
  have hm : IsFinite topConfig.retryMultiplier := by
    rw [show topConfig.retryMultiplier = 2 ^ 1 by norm_num [topConfig, defaultConfig]]
    exact isFinite_two_pow (by norm_num)
  rw [grown_float_exact hm fun j hj => by rw [hv]; exact isFinite_two_pow (by omega), hv]
  exact ofRat_of_isFinite _

theorem topConfig_maxRetryDelay :
    F64.ofRat topConfig.maxRetryDelay = .fin ⟨2 ^ 63, isFinite_two_pow (by norm_num)⟩ := by
  have h : round (topConfig.maxRetryDelay : ℚ) = 2 ^ 63 := by
    rw [show (topConfig.maxRetryDelay : ℚ) = 2 ^ 63 - 1 by norm_num [topConfig]]; exact round_maxInt64
  rw [ofRat_eq (by rw [h]; norm_num)]; exact congrArg F64.fin (Subtype.ext h)

/-- From 1 ns the delay doubles exactly, below the cap `float64(math.MaxInt64) = 2^63`, up to
attempt 62; attempt 63's `2^63` converts to `math.MinInt64` and is raised to `RetryDelay`. -/
theorem topConfig_delay {n : Nat} (hn0 : 0 < n) (hn : n ≤ 63) :
    topConfig.calculateBackoffDelay 0 n = if n < 63 then 2 ^ n else 1 := by
  have hJ : topConfig.jitterPercent = 0 := rfl
  have hcap : topConfig.capped float64Arith n = .fin ⟨2 ^ n, isFinite_two_pow (by omega)⟩ := by
    have hle : ¬ (2 : ℚ) ^ 63 < 2 ^ n := not_lt.mpr (pow_le_pow_right₀ one_le_two hn)
    unfold capped
    rw [topConfig_grown hn]
    simp only [float64Arith, topConfig_maxRetryDelay, F64.lt, hle, decide_False,
      Bool.false_eq_true, if_false]
  have hd : LogFlux.toDuration (2 ^ n : ℚ) = if n < 63 then 2 ^ n else -2 ^ 63 := by
    rw [show (2 : ℚ) ^ n = ((2 ^ n : ℤ) : ℚ) by push_cast; rfl, toDuration_intCast]
    have hlt : (2 : ℤ) ^ n < 2 ^ 63 ↔ n < 63 := pow_lt_pow_iff_right₀ one_lt_two
    have hpos : (0 : ℤ) < 2 ^ n := pow_pos two_pos n
    by_cases h : n < 63
    · rw [if_pos ⟨by omega, hlt.mpr h⟩, if_pos h]
    · rw [if_neg fun h' => h (hlt.mp h'.2), if_neg h]
  unfold calculateBackoffDelay backoffDelay
  rw [if_neg (by omega), Int.toNat_natCast, hcap, jittered_fin (by rw [hJ]) (by rw [hJ]; norm_num)
    le_rfl zero_le_one, hJ, round_zero, if_neg (lt_irrefl 0)]
  unfold clampDelay
  simp only [float64Arith, F64.toDuration, hd, show topConfig.retryDelay = 1 from rfl]
  have hpos : (1 : ℤ) ≤ 2 ^ n := one_le_pow₀ one_le_two
  by_cases h : n < 63
  · rw [if_pos h, if_neg (not_lt.mpr hpos), if_pos h]
  · rw [if_neg h, if_pos (by norm_num), if_neg h]

/-- `slowStartConfig`'s first retry: `2 ×` 10 s is capped at 1 s, which the clamp raises back to
`RetryDelay`. -/
theorem slowStart_delay : slowStartConfig.exactBackoffDelay (1 / 2) 1 = 10 * second := by
  unfold exactBackoffDelay backoffDelay clampDelay
  rw [if_neg (by norm_num), jittered_exact]
  unfold capped
  rw [grown_exact]
  norm_num [exactArith, slowStartConfig, defaultConfig, second, jitterFactor, LogFlux.toDuration,
    truncate]

end Config

/-- **Over the reals, `RetryDelay ≤ CalculateBackoffDelay(attempt) ≤ MaxRetryDelay × (1 +
JitterPercent)` when `RetryDelay` is not above the bound**, and the delay of `attempt ≤ 0` is
`RetryDelay`. -/
theorem exactBackoffDelay_bounds :
    ∀ (c : Config) (r : ℚ) (attempt : Int), 0 ≤ c.jitterPercent → c.jitterPercent ≤ 1 → 0 ≤ r →
      r < 1 → 0 ≤ c.maxRetryDelay → (c.retryDelay : ℚ) ≤ c.maxRetryDelay * (1 + c.jitterPercent) →
      (attempt ≤ 0 → c.exactBackoffDelay r attempt = c.retryDelay) ∧
        c.retryDelay ≤ c.exactBackoffDelay r attempt ∧
        (c.exactBackoffDelay r attempt : ℚ) ≤ c.maxRetryDelay * (1 + c.jitterPercent) :=
  fun c r attempt hJ0 hJ1 hr0 hr1 hmax hRD =>
    ⟨fun h => if_pos h, c.retryDelay_le_backoffDelay exactArith r attempt,
      Config.exactBackoffDelay_le hJ0 hJ1 hr0 hr1 hmax hRD attempt⟩

/-- The default configuration's third retry, with the draw `1/2`. -/
theorem exactBackoffDelay_bounds_default :
    ((3 : Int) ≤ 0 → defaultConfig.exactBackoffDelay (1 / 2) 3 = defaultConfig.retryDelay) ∧
      defaultConfig.retryDelay ≤ defaultConfig.exactBackoffDelay (1 / 2) 3 ∧
      (defaultConfig.exactBackoffDelay (1 / 2) 3 : ℚ) ≤
        defaultConfig.maxRetryDelay * (1 + defaultConfig.jitterPercent) :=
  exactBackoffDelay_bounds defaultConfig (1 / 2) 3 (by norm_num [defaultConfig])
    (by norm_num [defaultConfig]) (by norm_num) (by norm_num) (by decide)
    (by norm_num [defaultConfig, second])

/-- With `RetryDelay` 10 s and `MaxRetryDelay` 1 s the first retry sleeps 10 s, above
`MaxRetryDelay × (1 + JitterPercent)`. -/
theorem slowStart_exceeds_bound :
    0 ≤ slowStartConfig.jitterPercent ∧ slowStartConfig.jitterPercent ≤ 1 ∧
      slowStartConfig.exactBackoffDelay (1 / 2) 1 = 10 * second ∧
      (slowStartConfig.maxRetryDelay : ℚ) * (1 + slowStartConfig.jitterPercent) < 10 * second := by
  refine ⟨by norm_num [slowStartConfig, defaultConfig], by norm_num [slowStartConfig, defaultConfig],
    Config.slowStart_delay, by norm_num [slowStartConfig, defaultConfig, second]⟩

/-- **In `float64` the backoff is monotone only below the `int64` range**: at `MaxRetryDelay =
math.MaxInt64` the cap is `2^63`, which converts to `math.MinInt64` and is clamped to 1 ns. -/
theorem calculateBackoffDelay_monotone :
    (∀ (c : Config) (r : ℚ) (a b : Int), 0 < c.retryDelay → 1 ≤ c.retryMultiplier →
      0 ≤ c.jitterPercent → c.jitterPercent ≤ 1 → 0 ≤ r → r < 1 →
      (1 / 2 ≤ r ∨ c.jitterPercent = 0) → 1 ≤ c.maxRetryDelay → c.backoffBound < 2 ^ 63 → a ≤ b →
      c.calculateBackoffDelay r a ≤ c.calculateBackoffDelay r b) ∧
    (∀ n : Nat, 0 < n → n < 63 → topConfig.calculateBackoffDelay 0 n = 2 ^ n) ∧
    topConfig.calculateBackoffDelay 0 63 = 1 :=
  ⟨fun c r a b hRD hm hJ0 hJ1 hr0 hr1 hdraw hM1 hB hab =>
    Config.calculateBackoffDelay_mono hRD hm hJ0 hJ1 hr0 hr1 hdraw hM1 hB hab,
    fun n hn0 hn => (Config.topConfig_delay hn0 hn.le).trans (if_pos hn),
    Config.topConfig_delay (by norm_num) le_rfl⟩

/-- The default configuration's first and fourth retries, with the draw `1/2`. -/
theorem calculateBackoffDelay_monotone_default :
    defaultConfig.calculateBackoffDelay (1 / 2) 1 ≤ defaultConfig.calculateBackoffDelay (1 / 2) 4 :=
  calculateBackoffDelay_monotone.1 defaultConfig (1 / 2) 1 4 (by decide) (by norm_num [defaultConfig])
    (by norm_num [defaultConfig]) (by norm_num [defaultConfig]) (by norm_num) (by norm_num)
    (.inl le_rfl) (by decide) (by norm_num [Config.backoffBound, defaultConfig, second]) (by decide)

end LogFlux
