import Mathlib.Data.Rat.Floor
import Mathlib.Tactic.Linarith

/-!
# LogFlux.Float64 — Go's `float64` arithmetic

IEEE 754 binary64, rounding to nearest with ties to even, as Go computes `float64` products,
sums and conversions.  A finite value is a rational on the binary64 grid: in the binade
`[2^k, 2^(k+1))` the grid's spacing is `2^(k-52)`, and never below `2^-1074` (the
subnormals).  `round x` is the grid point nearest `x`, with no bound on the exponent above;
a rounded value of magnitude `2^1024` or more overflows to an infinity, as IEEE 754 has it.
`time.Duration(x)` is amd64's `CVTTSD2SQ`: truncation toward zero, and `math.MinInt64` for
`NaN`, the infinities and every value outside the `int64` range.

* `round_mono`: rounding is monotone.
* `round_round`: rounding is a projection onto the grid.
* `abs_round_sub_le_abs`: the rounding error is at most `|x| / 2^53 + 2^-1075`.
-/

namespace LogFlux

/-! ## Bit lengths and binades -/

/-- `⌊log₂ n⌋` by halving, at most `fuel` times; `0` for `n < 2`. -/
def log2Fuel : Nat → Nat → Nat
  | 0, _ => 0
  | fuel + 1, n => if n < 2 then 0 else log2Fuel fuel (n / 2) + 1

def natLog2 (n : Nat) : Nat := log2Fuel n n

theorem two_pow_log2Fuel_le : ∀ (fuel : Nat) {n : Nat}, 0 < n → 2 ^ log2Fuel fuel n ≤ n
  | 0, _, h => h
  | fuel + 1, n, h => by
    unfold log2Fuel
    split
    · exact h
    · have := two_pow_log2Fuel_le fuel (n := n / 2) (by omega)
      rw [Nat.pow_succ]; omega

theorem lt_two_pow_log2Fuel : ∀ (fuel : Nat) {n : Nat}, n ≤ fuel → n < 2 ^ (log2Fuel fuel n + 1)
  | 0, _, h => by simp at h; simp [h]
  | fuel + 1, n, h => by
    unfold log2Fuel
    split
    · omega
    · have := lt_two_pow_log2Fuel fuel (n := n / 2) (by omega)
      rw [Nat.pow_succ]; omega

theorem two_pow_natLog2_le {n : Nat} (h : 0 < n) : 2 ^ natLog2 n ≤ n := two_pow_log2Fuel_le n h

theorem lt_two_pow_natLog2 (n : Nat) : n < 2 ^ (natLog2 n + 1) := lt_two_pow_log2Fuel n le_rfl

/-- `⌊log₂ |x|⌋` for `x ≠ 0`: the bit length of the numerator less that of the denominator, or
one less than that. -/
def floorLog2 (x : ℚ) : ℤ :=
  let k : ℤ := (natLog2 x.num.natAbs : ℤ) - natLog2 x.den
  if (2 : ℚ) ^ k ≤ |x| then k else k - 1

theorem abs_eq_natAbs_div_den (x : ℚ) : |x| = (x.num.natAbs : ℚ) / x.den := by
  conv_lhs => rw [← Rat.num_div_den x]
  rw [abs_div, Nat.abs_cast, Nat.cast_natAbs, Int.cast_abs]

/-- `x` lies in the binade `[2^k, 2^(k+1))` of `k = floorLog2 x`. -/
theorem floorLog2_spec {x : ℚ} (hx : x ≠ 0) :
    (2 : ℚ) ^ floorLog2 x ≤ |x| ∧ |x| < 2 ^ (floorLog2 x + 1) := by
  set a := natLog2 x.num.natAbs
  set b := natLog2 x.den
  have hn : 0 < x.num.natAbs := Int.natAbs_pos.mpr (Rat.num_ne_zero.mpr hx)
  have hd : 0 < x.den := x.den_pos
  have ha : (2 : ℚ) ^ (a : ℤ) ≤ x.num.natAbs := by
    rw [zpow_natCast]; exact_mod_cast two_pow_natLog2_le hn
  have ha' : (x.num.natAbs : ℚ) < 2 ^ ((a : ℤ) + 1) := by
    rw [← Nat.cast_succ, zpow_natCast]; exact_mod_cast lt_two_pow_natLog2 _
  have hb : (2 : ℚ) ^ (b : ℤ) ≤ x.den := by
    rw [zpow_natCast]; exact_mod_cast two_pow_natLog2_le hd
  have hb' : (x.den : ℚ) < 2 ^ ((b : ℤ) + 1) := by
    rw [← Nat.cast_succ, zpow_natCast]; exact_mod_cast lt_two_pow_natLog2 _
  have hd0 : (0 : ℚ) < x.den := by exact_mod_cast hd
  have hx' := abs_eq_natAbs_div_den x
  have hlo : (2 : ℚ) ^ ((a : ℤ) - b - 1) < |x| := by
    rw [hx', lt_div_iff₀ hd0]
    calc (2 : ℚ) ^ ((a : ℤ) - b - 1) * x.den < 2 ^ ((a : ℤ) - b - 1) * 2 ^ ((b : ℤ) + 1) :=
          mul_lt_mul_of_pos_left hb' (zpow_pos two_pos _)
      _ = 2 ^ (a : ℤ) := by rw [← zpow_add₀ two_ne_zero]; congr 1; omega
      _ ≤ x.num.natAbs := ha
  have hhi : |x| < (2 : ℚ) ^ ((a : ℤ) - b + 1) := by
    rw [hx', div_lt_iff₀ hd0]
    calc (x.num.natAbs : ℚ) < 2 ^ ((a : ℤ) + 1) := ha'
      _ = 2 ^ ((a : ℤ) - b + 1) * 2 ^ (b : ℤ) := by rw [← zpow_add₀ two_ne_zero]; congr 1; omega
      _ ≤ 2 ^ ((a : ℤ) - b + 1) * x.den := mul_le_mul_of_nonneg_left hb (zpow_pos two_pos _).le
  unfold floorLog2
  dsimp only
  split
  · exact ⟨‹_›, hhi⟩
  · rename_i h
    exact ⟨hlo.le, by rw [sub_add_cancel]; exact lt_of_not_le h⟩

/-- The binade of `x` is the one its bounds name. -/
theorem floorLog2_eq {x : ℚ} {k : ℤ} (h₁ : (2 : ℚ) ^ k ≤ |x|) (h₂ : |x| < 2 ^ (k + 1)) :
    floorLog2 x = k := by
  have hx : x ≠ 0 := fun h => by
    rw [h, abs_zero] at h₁; exact absurd h₁ (not_le.mpr (zpow_pos two_pos k))
  obtain ⟨h₃, h₄⟩ := floorLog2_spec hx
  have := (zpow_lt_zpow_iff_right₀ one_lt_two).mp (h₃.trans_lt h₂)
  have := (zpow_lt_zpow_iff_right₀ one_lt_two).mp (h₁.trans_lt h₄)
  omega

@[simp] theorem floorLog2_neg (x : ℚ) : floorLog2 (-x) = floorLog2 x := by
  simp [floorLog2]

theorem floorLog2_mono {x y : ℚ} (hx : x ≠ 0) (h : |x| ≤ |y|) : floorLog2 x ≤ floorLog2 y := by
  have hy : y ≠ 0 := by rintro rfl; exact hx (by simpa using h)
  have := (zpow_lt_zpow_iff_right₀ one_lt_two).mp
    (((floorLog2_spec hx).1.trans h).trans_lt (floorLog2_spec hy).2)
  omega

/-! ## Rounding to an integer -/

/-- The integer nearest `q`, the even one of two at the same distance. -/
def roundEven (q : ℚ) : ℤ :=
  if q - ⌊q⌋ < 1 / 2 then ⌊q⌋
  else if 1 / 2 < q - ⌊q⌋ then ⌊q⌋ + 1
  else if ⌊q⌋ % 2 = 0 then ⌊q⌋ else ⌊q⌋ + 1

theorem roundEven_floor (q : ℚ) : roundEven q = ⌊q⌋ ∨ roundEven q = ⌊q⌋ + 1 := by
  unfold roundEven; split_ifs <;> simp

@[simp] theorem roundEven_intCast (n : ℤ) : roundEven n = n := by
  simp [roundEven]

@[simp] theorem roundEven_zero : roundEven 0 = 0 := by simpa using roundEven_intCast 0

theorem roundEven_of_lt {q : ℚ} (h : q - ⌊q⌋ < 1 / 2) : roundEven q = ⌊q⌋ := if_pos h

theorem roundEven_of_gt {q : ℚ} (h : 1 / 2 < q - ⌊q⌋) : roundEven q = ⌊q⌋ + 1 := by
  rw [roundEven, if_neg (not_lt.mpr h.le), if_pos h]

theorem roundEven_of_eq {q : ℚ} (h : q - ⌊q⌋ = 1 / 2) :
    roundEven q = if ⌊q⌋ % 2 = 0 then ⌊q⌋ else ⌊q⌋ + 1 := by
  rw [roundEven, if_neg (by rw [h]; norm_num), if_neg (by rw [h]; norm_num)]

theorem abs_roundEven_sub_le (q : ℚ) : |(roundEven q : ℚ) - q| ≤ 1 / 2 := by
  have h₁ : (0 : ℚ) ≤ q - ⌊q⌋ := sub_nonneg.mpr (Int.floor_le q)
  have h₂ : q - ⌊q⌋ < 1 := by linarith [Int.lt_floor_add_one q]
  rcases lt_trichotomy (q - ⌊q⌋) (1 / 2) with h | h | h
  · rw [roundEven_of_lt h, abs_sub_comm, abs_of_nonneg h₁]; exact h.le
  · have he : (⌊q⌋ : ℚ) - q = -(1 / 2) := by rw [← h]; ring
    rw [roundEven_of_eq h]
    split_ifs
    · rw [he, abs_neg, abs_of_pos one_half_pos]
    · push_cast; rw [add_sub_right_comm, he]; norm_num [abs_of_pos]
  · rw [roundEven_of_gt h, abs_of_nonneg (by push_cast; linarith)]; push_cast; linarith

theorem roundEven_mono {q r : ℚ} (h : q ≤ r) : roundEven q ≤ roundEven r := by
  have hf := Int.floor_mono h
  rcases lt_or_eq_of_le hf with hlt | heq
  · rcases roundEven_floor q with hq | hq <;> rcases roundEven_floor r with hr | hr <;> omega
  have hab : q - ⌊q⌋ ≤ r - ⌊r⌋ := by rw [heq]; linarith
  rcases lt_trichotomy (q - ⌊q⌋) (1 / 2) with ha | ha | ha
  · rw [roundEven_of_lt ha]; rcases roundEven_floor r with hr | hr <;> omega
  · rcases hab.lt_or_eq with hb | hb
    · rw [roundEven_of_gt (q := r) (by rw [← ha]; exact hb)]
      rcases roundEven_floor q with hq | hq <;> omega
    · rw [roundEven_of_eq ha, roundEven_of_eq (hb ▸ ha), heq]
  · rw [roundEven_of_gt ha, roundEven_of_gt (ha.trans_le hab), heq]

theorem le_roundEven {q : ℚ} {n : ℤ} (h : (n : ℚ) ≤ q) : n ≤ roundEven q :=
  roundEven_intCast n ▸ roundEven_mono h

theorem roundEven_le {q : ℚ} {n : ℤ} (h : q ≤ n) : roundEven q ≤ n :=
  roundEven_intCast n ▸ roundEven_mono h

theorem roundEven_neg (q : ℚ) : roundEven (-q) = -roundEven q := by
  rcases eq_or_ne (Int.fract q) 0 with h0 | h0
  · obtain ⟨n, rfl⟩ : ∃ n : ℤ, q = n := ⟨⌊q⌋, by rw [Int.fract, sub_eq_zero] at h0; exact h0⟩
    rw [← Int.cast_neg, roundEven_intCast, roundEven_intCast]
  · have hfl : ⌊-q⌋ = -⌊q⌋ - 1 := by
      have hpos : 0 < Int.fract q := lt_of_le_of_ne (Int.fract_nonneg q) (Ne.symm h0)
      have h1 := Int.fract_lt_one q
      rw [Int.fract] at hpos h1
      have hc : ⌈q⌉ = ⌊q⌋ + 1 := by rw [Int.ceil_eq_iff]; push_cast; constructor <;> linarith
      rw [Int.floor_neg, hc]; ring
    have hfr : -q - ⌊-q⌋ = 1 - (q - ⌊q⌋) := by rw [hfl]; push_cast; ring
    rcases lt_trichotomy (q - ⌊q⌋) (1 / 2) with h | h | h
    · rw [roundEven_of_lt h, roundEven_of_gt (by rw [hfr]; linarith), hfl]; ring
    · rw [roundEven_of_eq h, roundEven_of_eq (by rw [hfr, h]; norm_num), hfl]
      split_ifs <;> omega
    · rw [roundEven_of_gt h, roundEven_of_lt (by rw [hfr]; linarith), hfl]; ring


/-! ## The binary64 grid -/

/-- The exponent of the grid's spacing around `x`: 53 significant bits in the binade of `x`,
and never a spacing below `2^-1074`, that of the subnormals. -/
def ulpExp (x : ℚ) : ℤ := max (floorLog2 x) (-1022) - 52

/-- Round to nearest, ties to even, with no bound on the exponent above: the multiple of
`2^(ulpExp x)` nearest `x`. -/
def round (x : ℚ) : ℚ := roundEven (x / 2 ^ ulpExp x) * 2 ^ ulpExp x

theorem ulpExp_ge (x : ℚ) : -1074 ≤ ulpExp x := by unfold ulpExp; omega

@[simp] theorem ulpExp_neg (x : ℚ) : ulpExp (-x) = ulpExp x := by simp [ulpExp]

@[simp] theorem round_zero : round 0 = 0 := by simp [round]

theorem round_neg (x : ℚ) : round (-x) = -round x := by
  unfold round; rw [ulpExp_neg, neg_div, roundEven_neg]; push_cast; ring

theorem abs_round_sub_le (x : ℚ) : |round x - x| ≤ 2 ^ (ulpExp x - 1) := by
  have hp : (0 : ℚ) < 2 ^ ulpExp x := zpow_pos two_pos _
  have he : round x - x = ((roundEven (x / 2 ^ ulpExp x) : ℚ) - x / 2 ^ ulpExp x) * 2 ^ ulpExp x := by
    rw [round, sub_mul, div_mul_cancel₀ _ hp.ne']
  rw [he, abs_mul, abs_of_pos hp, zpow_sub₀ two_ne_zero, zpow_one]
  calc _ ≤ 1 / 2 * (2 : ℚ) ^ ulpExp x := mul_le_mul_of_nonneg_right (abs_roundEven_sub_le _) hp.le
    _ = _ := by ring

/-- The error relative to the value, plus the spacing of the subnormals. -/
theorem abs_round_sub_le_abs (x : ℚ) : |round x - x| ≤ |x| / 2 ^ 53 + 2 ^ (-1075 : ℤ) := by
  have h0 : 0 ≤ |x| / 2 ^ 53 := by positivity
  have hη : (0 : ℚ) < 2 ^ (-1075 : ℤ) := zpow_pos two_pos _
  rcases eq_or_ne x 0 with rfl | hx
  · rw [round_zero, sub_zero, abs_zero]; exact add_nonneg h0 hη.le
  refine (abs_round_sub_le x).trans ?_
  by_cases hl : -1022 ≤ floorLog2 x
  · have he : ulpExp x - 1 = floorLog2 x - (53 : ℕ) := by unfold ulpExp; omega
    rw [he, zpow_sub₀ two_ne_zero, zpow_natCast]
    exact le_add_of_le_of_nonneg (div_le_div_of_nonneg_right (floorLog2_spec hx).1 (by positivity)) hη.le
  · have he : ulpExp x - 1 = -1075 := by unfold ulpExp; omega
    rw [he]; exact le_add_of_nonneg_left h0

theorem round_le_add {x : ℚ} (hx : 0 ≤ x) : round x ≤ x + x / 2 ^ 53 + 2 ^ (-1075 : ℤ) := by
  have := (abs_le.mp (abs_round_sub_le_abs x)).2
  rw [abs_of_nonneg hx] at this; linarith

theorem round_nonneg {x : ℚ} (hx : 0 ≤ x) : 0 ≤ round x := by
  have hp : (0 : ℚ) < 2 ^ ulpExp x := zpow_pos two_pos _
  have : (0 : ℤ) ≤ roundEven (x / 2 ^ ulpExp x) := le_roundEven (by simpa using div_nonneg hx hp.le)
  unfold round; exact mul_nonneg (by exact_mod_cast this) hp.le

theorem round_nonpos {x : ℚ} (hx : x ≤ 0) : round x ≤ 0 := by
  have := round_nonneg (neg_nonneg.mpr hx); rw [round_neg] at this; linarith

theorem round_abs (x : ℚ) : round |x| = |round x| := by
  rcases le_total 0 x with h | h
  · rw [abs_of_nonneg h, abs_of_nonneg (round_nonneg h)]
  · rw [abs_of_nonpos h, abs_of_nonpos (round_nonpos h), round_neg]

theorem round_le_two_pow {x : ℚ} (hx : 0 ≤ x) : round x ≤ 2 ^ (ulpExp x + 53) := by
  have hp : (0 : ℚ) < 2 ^ ulpExp x := zpow_pos two_pos _
  rcases hx.eq_or_lt with rfl | hx
  · rw [round_zero]; exact (zpow_pos two_pos _).le
  have hlt : x < 2 ^ (ulpExp x + 53) := by
    have := (floorLog2_spec hx.ne').2
    rw [abs_of_pos hx] at this
    exact this.trans_le (zpow_le_zpow_right₀ one_le_two (by unfold ulpExp; omega))
  have h53 : (2 : ℚ) ^ (53 : ℤ) = (2 ^ 53 : ℤ) := by norm_num
  rw [zpow_add₀ two_ne_zero, h53] at hlt ⊢
  have := roundEven_le (q := x / 2 ^ ulpExp x) (n := 2 ^ 53) (by rw [div_le_iff₀ hp]; linarith)
  unfold round
  rw [mul_comm ((2 : ℚ) ^ ulpExp x)]
  exact mul_le_mul_of_nonneg_right (by exact_mod_cast this) hp.le

theorem two_pow_le_round {x : ℚ} (hx : 0 < x) (hl : -1022 ≤ floorLog2 x) :
    (2 : ℚ) ^ floorLog2 x ≤ round x := by
  have hp : (0 : ℚ) < 2 ^ ulpExp x := zpow_pos two_pos _
  have he : (2 : ℚ) ^ floorLog2 x = ((2 ^ 52 : ℤ) : ℚ) * 2 ^ ulpExp x := by
    rw [show floorLog2 x = 52 + ulpExp x by unfold ulpExp; omega, zpow_add₀ two_ne_zero]; norm_num
  have hfl := (floorLog2_spec hx.ne').1
  rw [abs_of_pos hx, he] at hfl
  have := le_roundEven (q := x / 2 ^ ulpExp x) (n := 2 ^ 52) (by rw [le_div_iff₀ hp]; exact hfl)
  unfold round
  rw [he]
  exact mul_le_mul_of_nonneg_right (by exact_mod_cast this) hp.le

theorem round_mono_of_pos {x y : ℚ} (hx : 0 < x) (h : x ≤ y) : round x ≤ round y := by
  have hy := hx.trans_le h
  have hfl := floorLog2_mono (y := y) hx.ne' (by rwa [abs_of_pos hx, abs_of_pos hy])
  rcases (show ulpExp x ≤ ulpExp y by unfold ulpExp; omega).eq_or_lt with he | he
  · have hp : (0 : ℚ) < 2 ^ ulpExp x := zpow_pos two_pos _
    have := roundEven_mono (div_le_div_of_nonneg_right h hp.le)
    unfold round; rw [← he]
    exact mul_le_mul_of_nonneg_right (by exact_mod_cast this) hp.le
  · have hl : -1022 ≤ floorLog2 y := by unfold ulpExp at he; omega
    calc round x ≤ 2 ^ (ulpExp x + 53) := round_le_two_pow hx.le
      _ ≤ 2 ^ floorLog2 y := zpow_le_zpow_right₀ one_le_two (by unfold ulpExp at he ⊢; omega)
      _ ≤ round y := two_pow_le_round hy hl

/-- **Rounding is monotone.** -/
theorem round_mono {x y : ℚ} (h : x ≤ y) : round x ≤ round y := by
  rcases lt_trichotomy x 0 with hx | rfl | hx
  · rcases lt_or_le y 0 with hy | hy
    · have := round_mono_of_pos (neg_pos.mpr hy) (neg_le_neg h)
      rw [round_neg, round_neg] at this; linarith
    · exact (round_nonpos hx.le).trans (round_nonneg hy)
  · rw [round_zero]; exact round_nonneg h
  · exact round_mono_of_pos hx h

/-- A multiple of a power of two at least the spacing is on the grid. -/
theorem round_eq_self {x : ℚ} {n k : ℤ} (hk : ulpExp x ≤ k) (hx : x = n * 2 ^ k) : round x = x := by
  obtain ⟨m, hm⟩ : ∃ m : ℕ, k - ulpExp x = m := ⟨(k - ulpExp x).toNat, by omega⟩
  have hp : (2 : ℚ) ^ ulpExp x ≠ 0 := zpow_ne_zero _ two_ne_zero
  have hq : x / 2 ^ ulpExp x = ((n * 2 ^ m : ℤ) : ℚ) := by
    rw [div_eq_iff hp]; push_cast
    calc x = n * 2 ^ k := hx
      _ = _ := by rw [show k = m + ulpExp x by omega, zpow_add₀ two_ne_zero, zpow_natCast]; ring
  unfold round
  rw [hq, roundEven_intCast, ← hq, div_mul_cancel₀ _ hp]

theorem abs_mul_two_pow_lt {n k : ℤ} (hn : |n| < 2 ^ 53) : |(n : ℚ) * 2 ^ k| < 2 ^ (53 + k) := by
  rw [abs_mul, abs_of_pos (zpow_pos (two_pos : (0 : ℚ) < 2) k), zpow_add₀ two_ne_zero, ← Int.cast_abs]
  exact mul_lt_mul_of_pos_right (by exact_mod_cast hn) (zpow_pos two_pos k)

/-- `n × 2^k` with a 53-bit `n` and `k` no lower than the subnormals' is on the grid. -/
theorem round_mul_two_pow {n k : ℤ} (hn : |n| < 2 ^ 53) (hk : -1074 ≤ k) :
    round (n * 2 ^ k) = n * 2 ^ k := by
  rcases eq_or_ne n 0 with rfl | hn0
  · simp
  have hx : (n : ℚ) * 2 ^ k ≠ 0 := mul_ne_zero (Int.cast_ne_zero.mpr hn0) (zpow_ne_zero _ two_ne_zero)
  have hfl : floorLog2 (n * 2 ^ k) < 53 + k := (zpow_lt_zpow_iff_right₀ one_lt_two).mp
    ((floorLog2_spec hx).1.trans_lt (abs_mul_two_pow_lt hn))
  exact round_eq_self (by unfold ulpExp; omega) rfl

/-- `float64(math.MaxInt64)` is `2^63`: `2^63 - 1` lies between the grid points `2^63 - 2^10`
and `2^63`, nearer the second. -/
theorem round_maxInt64 : round (2 ^ 63 - 1) = 2 ^ 63 := by
  have hfl : floorLog2 (2 ^ 63 - 1) = 62 := floorLog2_eq (by norm_num) (by norm_num)
  have hq : ⌊((2 : ℚ) ^ 63 - 1) / 2 ^ (10 : ℤ)⌋ = 2 ^ 53 - 1 := by
    rw [Int.floor_eq_iff]; norm_num
  unfold round roundEven ulpExp
  rw [hfl, show max (62 : ℤ) (-1022) - 52 = 10 by norm_num, hq]
  norm_num

theorem round_round_of_nonneg {x : ℚ} (hx : 0 ≤ x) : round (round x) = round x := by
  have hle := round_le_two_pow hx
  have hE := ulpExp_ge x
  have hgrid : round x = roundEven (x / 2 ^ ulpExp x) * 2 ^ ulpExp x := rfl
  rcases hle.lt_or_eq with hlt | heq
  · rcases (round_nonneg hx).eq_or_lt with h0 | hpos
    · rw [← h0, round_zero]
    refine round_eq_self (n := roundEven (x / 2 ^ ulpExp x)) ?_ hgrid
    have := (zpow_lt_zpow_iff_right₀ one_lt_two).mp
      (((floorLog2_spec hpos.ne').1.trans_eq (abs_of_pos hpos)).trans_lt hlt)
    unfold ulpExp at this ⊢; omega
  · have hfl : floorLog2 (round x) = ulpExp x + 53 := by
      refine floorLog2_eq (by rw [heq, abs_of_pos (zpow_pos two_pos _)]) ?_
      rw [heq, abs_of_pos (zpow_pos two_pos _)]
      exact zpow_lt_zpow_right₀ one_lt_two (by omega)
    exact round_eq_self (n := 1) (k := ulpExp x + 53) (by unfold ulpExp at hfl ⊢; omega)
      (by rw [heq, Int.cast_one, one_mul])

/-- **Rounding is a projection onto the grid.** -/
theorem round_round (x : ℚ) : round (round x) = round x := by
  rcases le_total 0 x with hx | hx
  · exact round_round_of_nonneg hx
  · have := round_round_of_nonneg (neg_nonneg.mpr hx)
    rw [round_neg, round_neg, neg_inj] at this; exact this

theorem abs_round_le {x y : ℚ} (h : |x| ≤ |y|) (hy : round y = y) : |round x| ≤ |y| := by
  calc |round x| = round |x| := (round_abs x).symm
    _ ≤ round |y| := round_mono h
    _ = |y| := by rw [round_abs, hy]


theorem abs_round_lt {x : ℚ} (h : |x| ≤ 2 ^ 1023) : |round x| < 2 ^ 1024 := by
  rw [← round_abs]
  have := round_le_add (abs_nonneg x)
  have hη : (2 : ℚ) ^ (-1075 : ℤ) ≤ 1 := by norm_num
  have hx := abs_nonneg x
  linarith

/-! ## `time.Duration(x)` -/

def truncate (x : ℚ) : Int := if 0 ≤ x then ⌊x⌋ else ⌈x⌉

/-- `time.Duration(x)` of a finite value on amd64: truncated when it fits in `int64`, else
`math.MinInt64`. -/
def toDuration (x : ℚ) : Int :=
  if -2 ^ 63 ≤ truncate x ∧ truncate x < 2 ^ 63 then truncate x else -2 ^ 63

theorem truncate_intCast (n : ℤ) : truncate n = n := by
  unfold truncate; split <;> simp

theorem toDuration_intCast (n : ℤ) :
    toDuration n = if -2 ^ 63 ≤ n ∧ n < 2 ^ 63 then n else -2 ^ 63 := by
  rw [toDuration, truncate_intCast]

theorem truncate_le_max (x : ℚ) : (truncate x : ℚ) ≤ max x 0 := by
  unfold truncate
  split
  · exact (Int.floor_le x).trans (le_max_left _ _)
  · rename_i h
    have : ⌈x⌉ ≤ 0 := Int.ceil_le.mpr (by push_cast; linarith)
    exact (by exact_mod_cast this : (⌈x⌉ : ℚ) ≤ 0).trans (le_max_right _ _)

theorem truncate_mono {x y : ℚ} (h : x ≤ y) : truncate x ≤ truncate y := by
  unfold truncate
  split <;> split
  · exact Int.floor_mono h
  · linarith
  · exact (Int.ceil_le.mpr (by push_cast; linarith)).trans (Int.floor_nonneg.mpr ‹_›)
  · exact Int.ceil_mono h

theorem toDuration_of_lt {x : ℚ} (h : x < 2 ^ 63) : toDuration x = max (truncate x) (-2 ^ 63) := by
  have ht : truncate x < 2 ^ 63 := by
    have := (truncate_le_max x).trans_lt (max_lt h (by norm_num))
    exact_mod_cast this
  unfold toDuration
  split
  · rename_i h'; exact (max_eq_left h'.1).symm
  · rename_i h'; exact (max_eq_right (by push_neg at h'; omega)).symm

theorem toDuration_le_max (x : ℚ) : (toDuration x : ℚ) ≤ max x 0 := by
  unfold toDuration
  split
  · exact truncate_le_max x
  · exact (by norm_num : ((-2 ^ 63 : Int) : ℚ) ≤ 0).trans (le_max_right _ _)

theorem toDuration_mono {x y : ℚ} (h : x ≤ y) (hy : y < 2 ^ 63) : toDuration x ≤ toDuration y := by
  rw [toDuration_of_lt (h.trans_lt hy), toDuration_of_lt hy]
  exact max_le_max (truncate_mono h) le_rfl

/-! ## `float64` -/

/-- A finite `float64`: a point of the grid, below `2^1024` in magnitude. -/
def IsFinite (x : ℚ) : Prop := round x = x ∧ |x| < 2 ^ 1024

instance : DecidablePred IsFinite := fun _ => instDecidableAnd

theorem isFinite_mul_two_pow {n k : ℤ} (hn : |n| < 2 ^ 53) (hk : -1074 ≤ k) (hk' : k ≤ 971) :
    IsFinite (n * 2 ^ k) :=
  ⟨round_mul_two_pow hn hk, calc
    |(n : ℚ) * 2 ^ k| < 2 ^ (53 + k) := abs_mul_two_pow_lt hn
    _ ≤ 2 ^ (1024 : ℤ) := zpow_le_zpow_right₀ one_le_two (by omega)
    _ = 2 ^ 1024 := by norm_num⟩

theorem isFinite_two_pow {n : Nat} (hn : n ≤ 971) : IsFinite (2 ^ n) := by
  simpa using isFinite_mul_two_pow (n := 1) (k := n) (by norm_num) (by omega) (by omega)

/-- A Go `float64`: a finite value, an infinity (`-Inf` when `neg`), or `NaN`.  The two zeros
are one value: nothing modelled here tells them apart. -/
inductive F64 where
  | fin (x : {x : ℚ // IsFinite x})
  | inf (neg : Bool)
  | nan
  deriving DecidableEq

namespace F64

/-- The `float64` nearest `x`; from `2^1024` on after rounding, the infinity of `x`'s sign. -/
def ofRat (x : ℚ) : F64 :=
  if h : |round x| < 2 ^ 1024 then fin ⟨round x, round_round x, h⟩ else inf (decide (x < 0))

def mul : F64 → F64 → F64
  | fin a, fin b => ofRat (a.1 * b.1)
  | fin a, inf s | inf s, fin a => if a.1 = 0 then nan else inf (s != decide (a.1 < 0))
  | inf s, inf t => inf (s != t)
  | _, _ => nan

def add : F64 → F64 → F64
  | fin a, fin b => ofRat (a.1 + b.1)
  | fin _, inf s | inf s, fin _ => inf s
  | inf s, inf t => if s = t then inf s else nan
  | _, _ => nan

def sub : F64 → F64 → F64
  | fin a, fin b => ofRat (a.1 - b.1)
  | fin _, inf s => inf (!s)
  | inf s, fin _ => inf s
  | inf s, inf t => if s = t then nan else inf s
  | _, _ => nan

/-- `a < b`; false when either is `NaN`. -/
def lt : F64 → F64 → Bool
  | fin a, fin b => decide (a.1 < b.1)
  | inf true, fin _ | fin _, inf false | inf true, inf false => true
  | _, _ => false

/-- `time.Duration(x)` on amd64: `CVTTSD2SQ` truncates toward zero, and gives
`math.MinInt64` for `NaN`, the infinities and every value out of the `int64` range. -/
def toDuration : F64 → Int
  | fin a => LogFlux.toDuration a.1
  | _ => -2 ^ 63

def val : F64 → ℚ
  | fin a => a.1
  | _ => 0

theorem ofRat_eq {x : ℚ} (h : |round x| < 2 ^ 1024) : ofRat x = fin ⟨round x, round_round x, h⟩ :=
  dif_pos h

theorem ofRat_of_isFinite {x : ℚ} (h : IsFinite x) : ofRat x = fin ⟨x, h⟩ := by
  rw [ofRat_eq (by rw [h.1]; exact h.2)]
  exact congrArg fin (Subtype.ext h.1)

theorem val_ofRat_le (x : ℚ) : (ofRat x).val ≤ max (round x) 0 := by
  unfold ofRat; split
  · exact le_max_left _ _
  · exact le_max_right _ _

theorem ofRat_cases_of_pos {x : ℚ} (hx : 0 < x) :
    (∃ h, ofRat x = fin ⟨round x, h⟩) ∨ ofRat x = inf false := by
  unfold ofRat; split
  · exact .inl ⟨⟨round_round x, ‹_›⟩, rfl⟩
  · exact .inr (by simp [hx.not_lt])

theorem toDuration_le_max (x : F64) : (x.toDuration : ℚ) ≤ max x.val 0 := by
  cases x with
  | fin a => exact LogFlux.toDuration_le_max a.1
  | _ => norm_num [toDuration, val]

end F64

end LogFlux
