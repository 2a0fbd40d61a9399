import BenchmarkHistory.Float
import Mathlib.Tactic.GCongr

/-! The sign of a percentage computed in doubles. Rounding never carries a
value across zero, and keeps a value at least `2 ^ j` in size at least that
size. Two distinct doubles differ by at least the last bit of the finer one,
and that bit is within `2 ^ 55` of the size of either when they are close, so
`(b - a) / a * 100` computed in doubles is never rounded to zero: it has the
sign of the exact ratio. -/

namespace BenchmarkHistory.Proofs.Rounding
open PyFloat

/-- `x` is what rounding gives for an exact value `q` at least `2 ^ j` in size:
a double of at least that size on `q`'s side of zero, or the infinity on that
side. -/
def Beyond (j : ℤ) (q : ℚ) : PyFloat → Prop
  | finite r _ => 2 ^ j ≤ |r| ∧ 0 < r * q
  | inf negative => negative = decide (q < 0) ∧ q ≠ 0
  | nan => False

theorem beyond_roundDouble {q : ℚ} {j : ℤ} (low : -1074 ≤ j) (big : 2 ^ j ≤ |q|) : Beyond j q (roundDouble q) := by
  have size := le_abs_roundToUlp low big
  have apart : q ≠ 0 := abs_pos.mp ((zpow_pos two_pos j).trans_le big)
  have moved : roundToUlp q ≠ 0 := abs_pos.mp ((zpow_pos two_pos j).trans_le size)
  unfold roundDouble
  split
  · refine ⟨size, ?_⟩
    rcases apart.lt_or_lt with neg | pos
    · exact mul_pos_of_neg_of_neg ((roundToUlp_nonpos neg.le).lt_of_ne moved) neg
    · exact mul_pos ((roundToUlp_nonneg pos.le).lt_of_ne' moved) pos
  · exact ⟨rfl, apart⟩

theorem Beyond.of_sign {j : ℤ} {q q' : ℚ} {x : PyFloat} (h : Beyond j q x) (same : 0 < q * q') : Beyond j q' x := by
  cases x with
  | finite r _ =>
    obtain ⟨size, sign⟩ := h
    exact ⟨size, by nlinarith [mul_pos sign same, mul_self_nonneg q]⟩
  | inf negative =>
    obtain ⟨rfl, apart⟩ := h
    have sides : q < 0 ↔ q' < 0 := (neg_iff_neg_of_mul_pos same)
    exact ⟨decide_eq_decide.mpr sides, fun zero => by simp [zero] at same⟩
  | nan => exact h.elim

theorem Beyond.sign {j : ℤ} {q : ℚ} {x : PyFloat} (h : Beyond j q x) : (0 < x ↔ 0 < q) ∧ (x < 0 ↔ q < 0) := by
  rw [zero_eq]
  cases x with
  | finite r _ =>
    simp only [finite_lt_finite]
    exact ⟨pos_iff_pos_of_mul_pos h.2, neg_iff_neg_of_mul_pos h.2⟩
  | inf negative =>
    obtain ⟨rfl, apart⟩ := h
    simp only [finite_lt_inf, inf_lt_finite, decide_eq_false_iff_not, not_lt, decide_eq_true_eq]
    exact ⟨⟨fun nonneg => lt_of_le_of_ne' nonneg apart, le_of_lt⟩, trivial⟩
  | nan => exact h.elim

theorem decide_div_neg {p a : ℚ} (hp : p ≠ 0) (ha : a ≠ 0) :
    decide (p / a < 0) = (decide (p < 0) != decide (a < 0)) := by
  rcases hp.lt_or_lt with hp | hp <;> rcases ha.lt_or_lt with ha | ha
  · simp [hp, ha, (div_pos_of_neg_of_neg hp ha).not_lt]
  · simp [hp, ha.not_lt, div_neg_of_neg_of_pos hp ha]
  · simp [hp.not_lt, ha, div_neg_of_pos_of_neg hp ha]
  · simp [hp.not_lt, ha.not_lt, (div_pos hp ha).not_lt]

theorem Beyond.div {j : ℤ} {p a : ℚ} {x : PyFloat} (h : Beyond j p x) (ha : IsDouble a) (nonzero : a ≠ 0)
    (close : |a| < 2 ^ (j + 55)) : Beyond (-55) (p / a) (x / finite a ha) := by
  cases x with
  | finite r _ =>
    obtain ⟨size, sign⟩ := h
    rw [finite_div_finite nonzero]
    have big : (2 : ℚ) ^ (-55 : ℤ) ≤ |r / a| := by
      rw [abs_div, le_div_iff₀ (abs_pos.mpr nonzero)]
      calc (2 : ℚ) ^ (-55 : ℤ) * |a| ≤ 2 ^ (-55 : ℤ) * 2 ^ (j + 55) := by gcongr
        _ = 2 ^ j := by rw [← zpow_add₀ two_ne_zero]; ring_nf
        _ ≤ |r| := size
    refine (beyond_roundDouble (by norm_num) big).of_sign ?_
    rw [div_mul_div_comm]
    exact div_pos sign (mul_self_pos.mpr nonzero)
  | inf negative =>
    obtain ⟨rfl, apart⟩ := h
    exact ⟨(decide_div_neg apart nonzero).symm, div_ne_zero apart nonzero⟩
  | nan => exact h.elim

theorem Beyond.mul_hundred {p : ℚ} {x : PyFloat} (h : Beyond (-55) p x) : Beyond (-55) (p * 100) (x * 100) := by
  rw [ofNat_eq (n := 100) (by norm_num)]
  cases x with
  | finite r _ =>
    obtain ⟨size, sign⟩ := h
    have big : (2 : ℚ) ^ (-55 : ℤ) ≤ |r * ((100 : ℕ) : ℚ)| := by
      rw [abs_mul, abs_of_pos (by norm_num : (0 : ℚ) < (100 : ℕ))]; push_cast; linarith [abs_nonneg r]
    exact (beyond_roundDouble (by norm_num) big).of_sign (by push_cast; nlinarith)
  | inf negative =>
    obtain ⟨rfl, apart⟩ := h
    refine ⟨?_, mul_ne_zero apart (by norm_num)⟩
    rw [show decide (((100 : ℕ) : ℚ) < 0) = false by norm_num, Bool.bne_false]
    exact decide_eq_decide.mpr ⟨fun neg => by linarith, fun neg => by linarith⟩
  | nan => exact h.elim

theorem ulpExponent_le_of_lt_two_mul {a b : ℚ} (nonzero : a ≠ 0) (near : |a| < 2 * |b|) :
    ulpExponent a ≤ ulpExponent b + 1 := by
  have lead : Int.log 2 |a| < Int.log 2 |b| + 2 := by
    refine (Int.lt_zpow_iff_log_lt one_lt_two (abs_pos.mpr nonzero)).mp ?_
    calc |a| < 2 * |b| := near
      _ < 2 * 2 ^ (Int.log 2 |b| + 1) := by gcongr; exact_mod_cast Int.lt_zpow_succ_log_self one_lt_two |b|
      _ = ((2 : ℕ) : ℚ) ^ (Int.log 2 |b| + 2) := by
        push_cast
        rw [show Int.log 2 |b| + 2 = Int.log 2 |b| + 1 + 1 by ring]
        simp only [zpow_add_one₀ (two_ne_zero : (2 : ℚ) ≠ 0)]
        ring
  unfold ulpExponent
  omega

/-- Two distinct doubles are at least the last bit of the finer one apart, and
when they are close that bit is within `2 ^ 55` of their size; when they are
far apart their difference is itself within `2 ^ 55` of it. -/
theorem exists_spacing {a b : ℚ} (ha : IsDouble a) (hb : IsDouble b) (nonzero : a ≠ 0) (moved : b ≠ a) :
    ∃ j : ℤ, -1074 ≤ j ∧ 2 ^ j ≤ |b - a| ∧ |a| < 2 ^ (j + 55) := by
  obtain ⟨k, hk⟩ := ha.eq_mul_ulp
  obtain ⟨l, hl⟩ := hb.eq_mul_ulp
  obtain ⟨da, hda⟩ : ∃ d : ℕ, ulpExponent a = min (ulpExponent a) (ulpExponent b) + d :=
    ⟨(ulpExponent a - min (ulpExponent a) (ulpExponent b)).toNat, by omega⟩
  obtain ⟨db, hdb⟩ : ∃ d : ℕ, ulpExponent b = min (ulpExponent a) (ulpExponent b) + d :=
    ⟨(ulpExponent b - min (ulpExponent a) (ulpExponent b)).toNat, by omega⟩
  set g := min (ulpExponent a) (ulpExponent b) with hg
  have grid : b - a = ((l * 2 ^ db - k * 2 ^ da : ℤ) : ℚ) * 2 ^ g := by
    conv_lhs => rw [hk, hl, hda, hdb]
    simp only [zpow_add₀ (two_ne_zero : (2 : ℚ) ≠ 0), zpow_natCast]
    push_cast
    ring
  have whole : l * 2 ^ db - k * 2 ^ da ≠ 0 := fun zero => moved (sub_eq_zero.mp (by rw [grid, zero]; simp))
  have apart : (2 : ℚ) ^ g ≤ |b - a| := by
    have one : (1 : ℚ) ≤ |((l * 2 ^ db - k * 2 ^ da : ℤ) : ℚ)| := by exact_mod_cast Int.one_le_abs whole
    rw [grid, abs_mul, abs_of_pos (zpow_pos (two_pos : (0 : ℚ) < 2) g)]
    exact le_mul_of_one_le_left (zpow_pos two_pos g).le one
  have low : -1074 ≤ g := le_min (le_max_right _ _) (le_max_right _ _)
  by_cases far : |a| ≤ 4 * |b - a|
  · have gap : 0 < |b - a| := (zpow_pos two_pos g).trans_le apart
    have lead := (Int.zpow_le_iff_le_log one_lt_two gap).mp (by exact_mod_cast apart)
    refine ⟨Int.log 2 |b - a|, by omega, by exact_mod_cast Int.zpow_log_le_self one_lt_two gap, ?_⟩
    calc |a| ≤ 4 * |b - a| := far
      _ < 4 * 2 ^ (Int.log 2 |b - a| + 1) := by
        gcongr; exact_mod_cast Int.lt_zpow_succ_log_self one_lt_two |b - a|
      _ = 2 ^ (Int.log 2 |b - a| + 3) := by
        rw [show Int.log 2 |b - a| + 3 = Int.log 2 |b - a| + 1 + 1 + 1 by ring]
        simp only [zpow_add_one₀ (two_ne_zero : (2 : ℚ) ≠ 0)]
        ring
      _ ≤ 2 ^ (Int.log 2 |b - a| + 55) := zpow_le_zpow_right₀ one_le_two (by omega)
  · have near : |a| < 2 * |b| := by
      have triangle := abs_sub_abs_le_abs_sub a b
      rw [abs_sub_comm] at triangle
      linarith [abs_pos.mpr nonzero]
    have step := ulpExponent_le_of_lt_two_mul nonzero near
    exact ⟨g, low, apart, (abs_lt_two_zpow_ulpExponent a).trans_le (zpow_le_zpow_right₀ one_le_two (by omega))⟩

/-- `(b - a) / a * 100` computed in doubles, for distinct doubles with `a`
nonzero, is a nonzero double or an infinity on the side of zero of the exact
ratio. -/
theorem beyond_percent {a b : ℚ} (ha : IsDouble a) (hb : IsDouble b) (nonzero : a ≠ 0) (moved : b ≠ a) :
    Beyond (-55) ((b - a) / a * 100) ((finite b hb - finite a ha) / finite a ha * 100) := by
  obtain ⟨j, low, apart, close⟩ := exists_spacing ha hb nonzero moved
  exact ((beyond_roundDouble low apart).div ha nonzero close).mul_hundred

end BenchmarkHistory.Proofs.Rounding
