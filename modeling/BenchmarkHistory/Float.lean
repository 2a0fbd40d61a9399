import Mathlib.Data.Int.Log
import Mathlib.Data.Rat.Floor
import Mathlib.Tactic.Linarith
import Mathlib.Tactic.NormNum
import Mathlib.Tactic.Positivity

/-! Python's `float`, an IEEE 754 double. A finite double is kept as the
rational it equals: an integer below `2 ^ 53` in size times a power of two no
smaller than `2 ^ -1074`, the whole below `2 ^ 1024`. The other values are the
two infinities and `nan`. An operation on finite doubles rounds the exact
result to the nearest double, a tie going to the even significand, and past
the largest finite double to the infinity of its sign; the special values
follow IEEE's tables. The sign of a zero is not kept: the scripts test zeros
only with `==`, which does not see it. -/

namespace BenchmarkHistory

/-- The integer nearest to `q`, a half going to the even one: `numpy.rint`, and
the rounding a double operation makes at its last bit. -/
def roundHalfEven (q : ℚ) : ℤ :=
  let down := ⌊q⌋
  if q - down < 1 / 2 then down
  else if 1 / 2 < q - down then down + 1
  else if down % 2 = 0 then down else down + 1

theorem abs_roundHalfEven_sub_le (q : ℚ) : |(roundHalfEven q : ℚ) - q| ≤ 1 / 2 := by
  have below : 0 ≤ q - ⌊q⌋ := Int.fract_nonneg q
  have above : q - ⌊q⌋ < 1 := Int.fract_lt_one q
  have down : |(⌊q⌋ : ℚ) - q| = q - ⌊q⌋ := by rw [abs_sub_comm, abs_of_nonneg below]
  have up : |((⌊q⌋ + 1 : ℤ) : ℚ) - q| = 1 - (q - ⌊q⌋) := by
    rw [← abs_of_pos (sub_pos.mpr above)]; push_cast; ring_nf
  simp only [roundHalfEven]
  split_ifs with small large
  · rw [down]; exact small.le
  · rw [up]; linarith only [large]
  · rw [down]; exact not_lt.mp large
  · rw [up]; linarith only [not_lt.mp small]

@[simp]
theorem roundHalfEven_intCast (n : ℤ) : roundHalfEven n = n := by
  simp [roundHalfEven]

theorem le_roundHalfEven {q : ℚ} {n : ℤ} (h : n ≤ q) : n ≤ roundHalfEven q := by
  have near := (abs_le.mp (abs_roundHalfEven_sub_le q)).1
  by_contra below
  have low : (roundHalfEven q : ℚ) ≤ n - 1 := by exact_mod_cast (show roundHalfEven q ≤ n - 1 by omega)
  linarith

theorem roundHalfEven_le {q : ℚ} {n : ℤ} (h : q ≤ n) : roundHalfEven q ≤ n := by
  have near := (abs_le.mp (abs_roundHalfEven_sub_le q)).2
  by_contra above
  have high : (n + 1 : ℚ) ≤ roundHalfEven q := by exact_mod_cast (show n + 1 ≤ roundHalfEven q by omega)
  linarith

theorem le_abs_roundHalfEven {q : ℚ} {n : ℤ} (h : n ≤ |q|) : n ≤ |roundHalfEven q| := by
  rcases le_total 0 q with pos | neg
  · exact (le_roundHalfEven (by rwa [abs_of_nonneg pos] at h)).trans (le_abs_self _)
  · have low : roundHalfEven q ≤ -n :=
      roundHalfEven_le (by rw [abs_of_nonpos neg] at h; push_cast; linarith)
    exact (le_neg.mpr low).trans (neg_le_abs _)

theorem abs_roundHalfEven_le {q : ℚ} {n : ℤ} (h : |q| ≤ n) : |roundHalfEven q| ≤ n :=
  abs_le.mpr ⟨le_roundHalfEven (by push_cast; linarith [neg_abs_le q]),
    roundHalfEven_le (by linarith [le_abs_self q])⟩

/-- `q` is a finite double. -/
def IsDouble (q : ℚ) : Prop :=
  (∃ m e : ℤ, |m| < 2 ^ 53 ∧ -1074 ≤ e ∧ q = m * 2 ^ e) ∧ |q| < 2 ^ 1024

theorem isDouble_intCast {n : ℤ} (h : |n| < 2 ^ 53) : IsDouble n := by
  have small : (|n| : ℚ) < 2 ^ 53 := by exact_mod_cast h
  refine ⟨⟨n, 0, h, by norm_num, by simp⟩, ?_⟩
  linarith [show (2 : ℚ) ^ 53 ≤ 2 ^ 1024 from pow_le_pow_right₀ (by norm_num) (by norm_num)]

theorem isDouble_natCast {n : ℕ} (h : n < 2 ^ 53) : IsDouble n := by
  exact_mod_cast isDouble_intCast (n := n) (by rw [Nat.abs_cast]; exact_mod_cast h)

theorem IsDouble.neg {q : ℚ} (h : IsDouble q) : IsDouble (-q) := by
  obtain ⟨⟨m, e, hm, he, rfl⟩, small⟩ := h
  exact ⟨⟨-m, e, by rwa [abs_neg], he, by push_cast; ring⟩, by rwa [abs_neg]⟩

theorem IsDouble.abs {q : ℚ} (h : IsDouble q) : IsDouble |q| := by
  rcases abs_choice q with same | same <;> rw [same]
  exacts [h, h.neg]

/-- A significand of up to `2 ^ 53` in size is a double below the overflow
bound: `2 ^ 53 * 2 ^ e` is `2 ^ 52 * 2 ^ (e + 1)`. -/
theorem isDouble_of_significand {m e : ℤ} (hm : |m| ≤ 2 ^ 53) (he : -1074 ≤ e)
    (small : |(m : ℚ) * 2 ^ e| < 2 ^ 1024) : IsDouble (m * 2 ^ e) := by
  refine ⟨?_, small⟩
  rcases hm.lt_or_eq with below | edge
  · exact ⟨m, e, below, he, rfl⟩
  · have twice : (2 : ℚ) ^ (e + 1) = 2 * 2 ^ e := by rw [zpow_add_one₀ two_ne_zero, mul_comm]
    rcases abs_eq (by norm_num) |>.mp edge with rfl | rfl
    · exact ⟨2 ^ 52, e + 1, by norm_num, by omega, by rw [twice]; push_cast; ring⟩
    · exact ⟨-2 ^ 52, e + 1, by norm_num, by omega, by rw [twice]; push_cast; ring⟩

/-- Python's `float`. -/
inductive PyFloat
  | finite (value : ℚ) (double : IsDouble value)
  | inf (negative : Bool)
  | nan
  deriving DecidableEq, Repr

/-- The exponent of the last bit of a double next to `q`: 52 places below the
leading bit, and never below the subnormals' `2 ^ -1074`. -/
def ulpExponent (q : ℚ) : ℤ := max (Int.log 2 |q| - 52) (-1074)

/-- `q` rounded to the nearest multiple of `2 ^ ulpExponent q`, a tie going to
the even multiple. -/
def roundToUlp (q : ℚ) : ℚ := roundHalfEven (q / 2 ^ ulpExponent q) * 2 ^ ulpExponent q

theorem abs_lt_two_zpow_ulpExponent (q : ℚ) : |q| < 2 ^ (ulpExponent q + 53) := by
  calc |q| < (2 : ℚ) ^ (Int.log 2 |q| + 1) := by exact_mod_cast Int.lt_zpow_succ_log_self one_lt_two |q|
    _ ≤ 2 ^ (ulpExponent q + 53) := zpow_le_zpow_right₀ one_le_two (by unfold ulpExponent; omega)

theorem abs_roundHalfEven_ulp_le (q : ℚ) : |roundHalfEven (q / 2 ^ ulpExponent q)| ≤ 2 ^ 53 := by
  have spread : (0 : ℚ) < 2 ^ ulpExponent q := zpow_pos two_pos _
  refine abs_roundHalfEven_le ?_
  rw [abs_div, abs_of_pos spread, div_le_iff₀ spread]
  calc |q| ≤ 2 ^ (ulpExponent q + 53) := (abs_lt_two_zpow_ulpExponent q).le
    _ = _ := by rw [zpow_add₀ two_ne_zero, mul_comm]; norm_num

theorem isDouble_roundToUlp {q : ℚ} (small : |roundToUlp q| < 2 ^ 1024) : IsDouble (roundToUlp q) :=
  isDouble_of_significand (abs_roundHalfEven_ulp_le q) (le_max_right _ _) small

/-- `float` of an exact result: the double nearest `q`, a tie going to the even
significand, or the infinity of `q`'s sign past the largest finite double. -/
def roundDouble (q : ℚ) : PyFloat :=
  if small : |roundToUlp q| < 2 ^ 1024 then .finite (roundToUlp q) (isDouble_roundToUlp small)
  else .inf (decide (q < 0))

theorem roundToUlp_nonneg {q : ℚ} (h : 0 ≤ q) : 0 ≤ roundToUlp q := by
  have spread : (0 : ℚ) < 2 ^ ulpExponent q := zpow_pos two_pos _
  have up : (0 : ℤ) ≤ roundHalfEven (q / 2 ^ ulpExponent q) := le_roundHalfEven (by push_cast; positivity)
  unfold roundToUlp
  exact mul_nonneg (by exact_mod_cast up) spread.le

theorem roundToUlp_nonpos {q : ℚ} (h : q ≤ 0) : roundToUlp q ≤ 0 := by
  have spread : (0 : ℚ) < 2 ^ ulpExponent q := zpow_pos two_pos _
  have down : roundHalfEven (q / 2 ^ ulpExponent q) ≤ 0 :=
    roundHalfEven_le (by push_cast; exact div_nonpos_of_nonpos_of_nonneg h spread.le)
  unfold roundToUlp
  exact mul_nonpos_of_nonpos_of_nonneg (by exact_mod_cast down) spread.le

/-- Rounding keeps a value at least `2 ^ j` in size at least that size, for a
`j` no smaller than the exponent of the least subnormal. -/
theorem le_abs_roundToUlp {q : ℚ} {j : ℤ} (low : -1074 ≤ j) (big : 2 ^ j ≤ |q|) : 2 ^ j ≤ |roundToUlp q| := by
  have spread : (0 : ℚ) < 2 ^ ulpExponent q := zpow_pos two_pos _
  have lead : j ≤ Int.log 2 |q| :=
    (Int.zpow_le_iff_le_log one_lt_two ((zpow_pos two_pos j).trans_le big)).mp (by exact_mod_cast big)
  have top : (2 : ℚ) ^ max j (ulpExponent q) ≤ |q| := by
    calc (2 : ℚ) ^ max j (ulpExponent q) ≤ 2 ^ Int.log 2 |q| :=
          zpow_le_zpow_right₀ one_le_two (by unfold ulpExponent; omega)
      _ ≤ |q| := by exact_mod_cast Int.zpow_log_le_self one_lt_two ((zpow_pos two_pos j).trans_le big)
  obtain ⟨d, hd⟩ : ∃ d : ℕ, max j (ulpExponent q) = ulpExponent q + d := ⟨(max j (ulpExponent q) - ulpExponent q).toNat, by omega⟩
  have split : (2 : ℚ) ^ max j (ulpExponent q) = 2 ^ d * 2 ^ ulpExponent q := by
    rw [hd, zpow_add₀ two_ne_zero, zpow_natCast, mul_comm]
  have scaled : ((2 ^ d : ℤ) : ℚ) ≤ |q / 2 ^ ulpExponent q| := by
    rw [abs_div, abs_of_pos spread, le_div_iff₀ spread]; push_cast; rwa [← split]
  have significand : (2 : ℚ) ^ d ≤ |(roundHalfEven (q / 2 ^ ulpExponent q) : ℚ)| := by
    exact_mod_cast le_abs_roundHalfEven scaled
  calc (2 : ℚ) ^ j ≤ 2 ^ max j (ulpExponent q) := zpow_le_zpow_right₀ one_le_two (le_max_left _ _)
    _ = 2 ^ d * 2 ^ ulpExponent q := split
    _ ≤ |roundToUlp q| := by
      rw [roundToUlp, abs_mul, abs_of_pos spread]
      exact mul_le_mul_of_nonneg_right significand spread.le

/-- Every double is a whole multiple of the last bit `ulpExponent` gives it. -/
theorem IsDouble.eq_mul_ulp {q : ℚ} (h : IsDouble q) : ∃ k : ℤ, q = k * 2 ^ ulpExponent q := by
  obtain ⟨⟨m, e, hm, he, rfl⟩, -⟩ := h
  rcases eq_or_ne m 0 with rfl | nonzero
  · exact ⟨0, by simp⟩
  have size : 0 < |(m : ℚ) * 2 ^ e| := abs_pos.mpr (mul_ne_zero (by exact_mod_cast nonzero) (zpow_ne_zero _ two_ne_zero))
  have below : |(m : ℚ) * 2 ^ e| < (2 : ℕ) ^ (e + 53) := by
    rw [abs_mul, abs_of_pos (zpow_pos (two_pos : (0 : ℚ) < 2) e), zpow_add₀ (by norm_num), mul_comm (_ ^ e)]
    push_cast
    exact mul_lt_mul_of_pos_right (by exact_mod_cast hm) (zpow_pos two_pos e)
  have lead := (Int.lt_zpow_iff_log_lt one_lt_two size).mp below
  obtain ⟨d, hd⟩ : ∃ d : ℕ, e = ulpExponent ((m : ℚ) * 2 ^ e) + d :=
    ⟨(e - ulpExponent ((m : ℚ) * 2 ^ e)).toNat, by unfold ulpExponent; omega⟩
  refine ⟨m * 2 ^ d, ?_⟩
  conv_lhs => rw [hd, zpow_add₀ two_ne_zero, zpow_natCast]
  push_cast
  ring

theorem roundToUlp_of_isDouble {q : ℚ} (h : IsDouble q) : roundToUlp q = q := by
  obtain ⟨k, hk⟩ := h.eq_mul_ulp
  have spread : (2 : ℚ) ^ ulpExponent q ≠ 0 := zpow_ne_zero _ two_ne_zero
  have whole : q / 2 ^ ulpExponent q = k := by rw [div_eq_iff spread, ← hk]
  rw [roundToUlp, whole, roundHalfEven_intCast, ← hk]

theorem roundDouble_eq_finite {q r : ℚ} (h : IsDouble r) (same : roundToUlp q = r) : roundDouble q = .finite r h := by
  unfold roundDouble
  split
  · congr
  · next big => exact absurd (by rw [same]; exact h.2) big

/-- Rounding leaves a double as it is. -/
theorem roundDouble_of_isDouble {q : ℚ} (h : IsDouble q) : roundDouble q = .finite q h :=
  roundDouble_eq_finite h (roundToUlp_of_isDouble h)

theorem roundDouble_eq_of_eq {q r : ℚ} (same : q = r) (h : IsDouble r) : roundDouble q = .finite r h := by
  subst same
  exact roundDouble_of_isDouble h

/-- The leading bit of a normal value, read off two bounds. -/
theorem ulpExponent_eq {q : ℚ} {e : ℤ} (low : 2 ^ e ≤ |q|) (high : |q| < 2 ^ (e + 1)) (normal : -1022 ≤ e) :
    ulpExponent q = e - 52 := by
  have pos : 0 < |q| := (zpow_pos two_pos e).trans_le low
  have above := (Int.zpow_le_iff_le_log one_lt_two pos).mp (by exact_mod_cast low)
  have below := (Int.lt_zpow_iff_log_lt one_lt_two pos).mp (by exact_mod_cast high)
  unfold ulpExponent
  omega

theorem roundHalfEven_eq_floor {q : ℚ} {n : ℤ} (floor : ⌊q⌋ = n) (below : q - n < 1 / 2) : roundHalfEven q = n := by
  simp only [roundHalfEven, floor, below, if_true]

namespace PyFloat

/-- A natural number as `float()` gives it: exact below `2 ^ 53`, rounded above. -/
def ofNat (n : ℕ) : PyFloat := if h : n < 2 ^ 53 then finite n (isDouble_natCast h) else roundDouble n

instance (n : ℕ) : OfNat PyFloat n := ⟨ofNat n⟩

theorem ofNat_eq {n : ℕ} (h : n < 2 ^ 53) : (no_index (OfNat.ofNat n) : PyFloat) = finite n (isDouble_natCast h) :=
  dif_pos h

theorem isDouble_zero : IsDouble 0 := by exact_mod_cast isDouble_natCast (n := 0) (by norm_num)

theorem zero_eq : (0 : PyFloat) = finite 0 isDouble_zero := by
  simp only [ofNat_eq (n := 0) (by norm_num), Nat.cast_zero]

/-- `-x`, which is exact. -/
def neg : PyFloat → PyFloat
  | finite a h => finite (-a) h.neg
  | inf negative => inf !negative
  | nan => nan

instance : Neg PyFloat := ⟨neg⟩

/-- `abs(x)` -/
def abs : PyFloat → PyFloat
  | finite a h => finite |a| h.abs
  | inf _ => inf false
  | nan => nan

/-- `x < y`, false whenever `nan` takes part. -/
def lessThan : PyFloat → PyFloat → Bool
  | finite a _, finite b _ => decide (a < b)
  | finite _ _, inf negative => !negative
  | inf negative, finite _ _ => negative
  | inf a, inf b => a && !b
  | _, _ => false

/-- `x <= y`, false whenever `nan` takes part. -/
def lessEq : PyFloat → PyFloat → Bool
  | finite a _, finite b _ => decide (a ≤ b)
  | finite _ _, inf negative => !negative
  | inf negative, finite _ _ => negative
  | inf a, inf b => a || !b
  | _, _ => false

instance : LT PyFloat := ⟨fun x y => lessThan x y = true⟩

instance : LE PyFloat := ⟨fun x y => lessEq x y = true⟩

instance (x y : PyFloat) : Decidable (x < y) := inferInstanceAs (Decidable (lessThan x y = true))

instance (x y : PyFloat) : Decidable (x ≤ y) := inferInstanceAs (Decidable (lessEq x y = true))

/-- `x - y` -/
def sub : PyFloat → PyFloat → PyFloat
  | finite a _, finite b _ => roundDouble (a - b)
  | finite _ _, inf negative => inf !negative
  | inf negative, finite _ _ => inf negative
  | inf a, inf b => if a = b then nan else inf a
  | _, _ => nan

/-- `x * y` -/
def mul : PyFloat → PyFloat → PyFloat
  | finite a _, finite b _ => roundDouble (a * b)
  | finite a _, inf negative => if a = 0 then nan else inf (decide (a < 0) != negative)
  | inf negative, finite b _ => if b = 0 then nan else inf (negative != decide (b < 0))
  | inf a, inf b => inf (a != b)
  | _, _ => nan

/-- `x / y`. Python raises `ZeroDivisionError` on a zero divisor, and every
division of the scripts tests its divisor first, so the IEEE value given to it
here is never used. -/
def div : PyFloat → PyFloat → PyFloat
  | finite a _, finite b _ => if b = 0 then (if a = 0 then nan else inf (decide (a < 0))) else roundDouble (a / b)
  | finite _ _, inf _ => 0
  | inf negative, finite b _ => inf (negative != decide (b < 0))
  | _, _ => nan

instance : Sub PyFloat := ⟨sub⟩

instance : Mul PyFloat := ⟨mul⟩

instance : Div PyFloat := ⟨div⟩

/-- `numpy.rint`: the nearest integer, a half going to the even one. -/
def rint : PyFloat → PyFloat
  | finite a _ => roundDouble (roundHalfEven a)
  | x => x

section Laws
variable {a b : ℚ} {ha : IsDouble a} {hb : IsDouble b}

@[simp] theorem finite_sub_finite : finite a ha - finite b hb = roundDouble (a - b) := rfl

@[simp] theorem finite_mul_finite : finite a ha * finite b hb = roundDouble (a * b) := rfl

theorem finite_div_finite (nonzero : b ≠ 0) : finite a ha / finite b hb = roundDouble (a / b) :=
  if_neg nonzero

@[simp] theorem abs_finite : (finite a ha).abs = finite |a| ha.abs := rfl

@[simp] theorem abs_of_zero : PyFloat.abs 0 = 0 := by
  rw [zero_eq, abs_finite]
  congr 1

@[simp] theorem finite_lt_finite : finite a ha < finite b hb ↔ a < b := decide_eq_true_iff

@[simp] theorem finite_le_finite : finite a ha ≤ finite b hb ↔ a ≤ b := decide_eq_true_iff

@[simp] theorem finite_lt_inf {negative : Bool} : finite a ha < inf negative ↔ negative = false := by
  cases negative <;> simp [LT.lt, LE.le, lessThan]

@[simp] theorem inf_lt_finite {negative : Bool} : inf negative < finite a ha ↔ negative = true := by
  cases negative <;> simp [LT.lt, LE.le, lessThan]

@[simp] theorem finite_le_inf {negative : Bool} : finite a ha ≤ inf negative ↔ negative = false := by
  cases negative <;> simp [LT.lt, LE.le, lessEq]

@[simp] theorem inf_le_finite {negative : Bool} : inf negative ≤ finite a ha ↔ negative = true := by
  cases negative <;> simp [LT.lt, LE.le, lessEq]

@[simp] theorem zero_lt_finite : (0 : PyFloat) < finite a ha ↔ 0 < a := by rw [zero_eq]; exact finite_lt_finite

@[simp] theorem finite_lt_zero : finite a ha < 0 ↔ a < 0 := by rw [zero_eq]; exact finite_lt_finite

@[simp] theorem zero_lt_inf {negative : Bool} : (0 : PyFloat) < inf negative ↔ negative = false := by
  rw [zero_eq]; exact finite_lt_inf

@[simp] theorem inf_lt_zero {negative : Bool} : inf negative < 0 ↔ negative = true := by
  rw [zero_eq]; exact inf_lt_finite

@[simp] theorem not_lt_self (x : PyFloat) : ¬x < x := by
  cases x with
  | finite a _ => exact finite_lt_finite.not.mpr (lt_irrefl a)
  | inf negative => cases negative <;> exact Bool.false_ne_true
  | nan => exact Bool.false_ne_true

@[simp] theorem not_lt_nan (x : PyFloat) : ¬x < nan := by cases x <;> exact Bool.false_ne_true

@[simp] theorem not_nan_lt (x : PyFloat) : ¬nan < x := by cases x <;> exact Bool.false_ne_true

@[simp] theorem not_le_nan (x : PyFloat) : ¬x ≤ nan := by cases x <;> exact Bool.false_ne_true

@[simp] theorem not_nan_le (x : PyFloat) : ¬nan ≤ x := by cases x <;> exact Bool.false_ne_true

end Laws

end PyFloat

end BenchmarkHistory
