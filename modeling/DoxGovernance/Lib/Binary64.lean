import DoxGovernance.Lib.Decimal
import Mathlib.Data.Int.Log

/-!
# Floats of double precision and whole numbers

The double nearest to a rational number, in the range of the normal numbers, and the whole
number that `int` makes of it. A number that lies within half a unit of the last place below
a whole number becomes that whole number, since the tie goes to it as well.
-/

set_option autoImplicit false

namespace Binary64
open Decimal (roundHalfEven le_roundHalfEven_iff)

/-- The distance between the doubles around a positive number, which have 53 binary digits. -/
def ulp (x : ℚ) : ℚ := 2 ^ (Int.log 2 x - 52)

/-- The double nearest to a number that is not negative. -/
def magnitude (x : ℚ) : ℚ := roundHalfEven (x / ulp x) * ulp x

def ofRat (x : ℚ) : ℚ := if 0 ≤ x then magnitude x else -magnitude (-x)

/-- `int(x)`. -/
def toInt (x : ℚ) : ℤ := if 0 ≤ x then ⌊x⌋ else ⌈x⌉

section Magnitude
variable {x : ℚ}

theorem ulp_pos (x : ℚ) : 0 < ulp x := zpow_pos (by norm_num) _

theorem log_lt {k : ℤ} (hk : 0 < k) (hx : 0 ≤ x) (hlt : x < 2 ^ k) : Int.log 2 x < k := by
  rcases hx.eq_or_lt with rfl | hpos
  · rw [Int.log_zero_right]
    exact hk
  · exact (Int.lt_zpow_iff_log_lt (by decide) hpos).mp (by exact_mod_cast hlt)

theorem ulp_le {k : ℤ} (hk : 0 < k) (hx : 0 ≤ x) (hlt : x < 2 ^ k) : ulp x ≤ 2 ^ (k - 53) := by
  have hlog := log_lt hk hx hlt
  exact zpow_le_zpow_right₀ (by norm_num) (by omega)

/-- Below 2 ^ 51 the unit of the last place divides a half. -/
theorem exists_mul_ulp (hx : 0 ≤ x) (hlt : x < 2 ^ (51 : ℤ)) :
    ∃ m : ℤ, m % 2 = 0 ∧ 0 < m ∧ (m : ℚ) * ulp x = 1 := by
  have hlog := log_lt (by decide) hx hlt
  obtain ⟨j, hj⟩ : ∃ j : ℕ, 52 - Int.log 2 x = j + 1 := ⟨(51 - Int.log 2 x).toNat, by omega⟩
  refine ⟨2 ^ (j + 1), ?_, by positivity, ?_⟩
  · rw [pow_succ]
    exact Int.mul_emod_left _ _
  · have hexp : Int.log 2 x - 52 = -((j + 1 : ℕ) : ℤ) := by
      push_cast
      omega
    rw [ulp, hexp, zpow_neg, zpow_natCast]
    push_cast
    exact mul_inv_cancel₀ (by positivity)

/-- A whole number is reached from half a unit of the last place below it on. -/
theorem le_floor_magnitude_iff (hx : 0 ≤ x) (hlt : x < 2 ^ (51 : ℤ)) {n : ℤ} :
    n ≤ ⌊magnitude x⌋ ↔ (n : ℚ) - ulp x / 2 ≤ x := by
  obtain ⟨m, heven, hpos, hm⟩ := exists_mul_ulp hx hlt
  have hulp := ulp_pos x
  have hnm : n * m % 2 = 0 := by
    rw [Int.mul_emod, heven, mul_zero, Int.zero_emod]
  have hscale : (n : ℚ) = (n * m : ℤ) * ulp x := by
    push_cast
    rw [mul_assoc, hm, mul_one]
  rw [Int.le_floor, magnitude, hscale, mul_le_mul_iff_left₀ hulp, Int.cast_le,
    le_roundHalfEven_iff hnm, le_div_iff₀ hulp, sub_mul, one_div_mul_eq_div]

theorem magnitude_nonneg (hx : 0 ≤ x) : 0 ≤ magnitude x := by
  have hulp := ulp_pos x
  refine mul_nonneg (Int.cast_nonneg ?_) hulp.le
  rw [le_roundHalfEven_iff (by decide)]
  have hratio : 0 ≤ x / ulp x := div_nonneg hx hulp.le
  push_cast
  linarith

end Magnitude

section ToInt
variable {x : ℚ} {n : ℤ}

theorem toInt_neg {m : ℚ} (hm : 0 ≤ m) : toInt (-m) = -⌊m⌋ := by
  rcases hm.eq_or_lt with rfl | hpos
  · simp [toInt]
  · rw [toInt, if_neg (by linarith), Int.ceil_neg]

theorem le_toInt_of_nonneg (hx : 0 ≤ x) (hlt : x < 2 ^ (51 : ℤ)) :
    n ≤ toInt (ofRat x) ↔ (n : ℚ) - ulp x / 2 ≤ x := by
  rw [ofRat, if_pos hx, toInt, if_pos (magnitude_nonneg hx), le_floor_magnitude_iff hx hlt]

theorem le_toInt_of_neg (hx : x < 0) (hlt : -2 ^ (51 : ℤ) < x) :
    n ≤ toInt (ofRat x) ↔ (n : ℚ) - 1 + ulp (-x) / 2 < x := by
  have hpos : 0 ≤ -x := by linarith
  have hfloor := le_floor_magnitude_iff hpos (by linarith) (n := -n + 1)
  push_cast at hfloor
  rw [ofRat, if_neg (not_le.mpr hx), toInt_neg (magnitude_nonneg hpos)]
  have hle : n ≤ -⌊magnitude (-x)⌋ ↔ ¬-n + 1 ≤ ⌊magnitude (-x)⌋ := by omega
  rw [hle, hfloor, not_le]
  constructor <;> intro h <;> linarith

/-- The number lies just below a whole number that its double is truncated to: less than a half
unit of the last place below it, or less than one below it and negative. -/
def TruncatesUpTo (x : ℚ) (n : ℤ) : Prop :=
  x < n ∧ (0 ≤ x ∧ (n : ℚ) - ulp x / 2 ≤ x ∨ x < 0 ∧ (n : ℚ) - 1 + ulp (-x) / 2 < x)

theorem le_toInt_iff (hlow : -2 ^ (51 : ℤ) < x) (hhigh : x < 2 ^ (51 : ℤ)) :
    n ≤ toInt (ofRat x) ↔ (n : ℚ) ≤ x ∨ TruncatesUpTo x n := by
  unfold TruncatesUpTo
  rcases le_or_gt 0 x with hx | hx
  · have hulp := ulp_pos x
    rw [le_toInt_of_nonneg hx hhigh, and_iff_right hx,
      or_iff_left (b := x < 0 ∧ _) fun h => absurd h.1 (not_lt.mpr hx)]
    constructor
    · intro h
      exact (le_or_gt (n : ℚ) x).imp_right fun hlt => ⟨hlt, h⟩
    · rintro (h | ⟨-, h⟩)
      · linarith
      · exact h
  · have hulp : ulp (-x) ≤ 2 ^ (51 - 53 : ℤ) := ulp_le (by decide) (by linarith) (by linarith)
    norm_num at hulp
    rw [le_toInt_of_neg hx hlow, and_iff_right hx,
      or_iff_right (a := 0 ≤ x ∧ _) fun h => absurd h.1 (not_le.mpr hx)]
    constructor
    · intro h
      exact (le_or_gt (n : ℚ) x).imp_right fun hlt => ⟨hlt, h⟩
    · rintro (h | ⟨-, h⟩)
      · linarith
      · exact h

end ToInt

end Binary64
