import DoxGovernance.Lib.Text
import Mathlib.Data.Rat.Floor
import Mathlib.Tactic.Linarith
import Mathlib.Tactic.FieldSimp
import Mathlib.Tactic.Positivity

/-!
# Rounded decimals

Rounding of a rational number to a number of decimal places, where a number halfway
between two decimals goes to the one with an even last digit, and the text of such a
decimal.
-/

set_option autoImplicit false

namespace Decimal

/-- The nearest integer, and the even one of two that are equally near. -/
def roundHalfEven (x : ℚ) : ℤ :=
  let n := ⌊x⌋
  if x - n < 1 / 2 then n
  else if 1 / 2 < x - n then n + 1
  else n + n % 2

/-- The number of units of the last place in a rounded number. -/
def units (places : ℕ) (x : ℚ) : ℤ := roundHalfEven (x * (10 ^ places : ℕ))

/-- `round(x, places)`. -/
def round (places : ℕ) (x : ℚ) : ℚ := units places x / (10 ^ places : ℕ)

/-- `f"{x:.{places}f}"` of a number that is not negative. -/
def fixed (places : ℕ) (x : ℚ) : String :=
  let n := (units places x).toNat
  toString (n / 10 ^ places) ++ "." ++ Text.padded places (n % 10 ^ places)

example : (round 4 (5 / 100000), round 4 (15 / 100000)) = (0, 2 / 10000) := by decide +kernel

example : fixed 3 (2 / 3) = "0.667" := by decide +kernel

/-! ### How far rounding moves a number -/

theorem abs_roundHalfEven_sub_le (x : ℚ) : |(roundHalfEven x : ℚ) - x| ≤ 1 / 2 := by
  have hlow := Int.floor_le x
  have hhigh := Int.lt_floor_add_one x
  have hparity : (⌊x⌋ % 2 : ℤ) = 0 ∨ (⌊x⌋ % 2 : ℤ) = 1 := Int.emod_two_eq_zero_or_one _
  rw [roundHalfEven, abs_le]
  split_ifs with hless hmore
  · constructor <;> linarith
  · push_cast
    constructor <;> linarith
  · rcases hparity with h | h
    · rw [h, add_zero]
      constructor <;> linarith
    · rw [h]
      push_cast
      constructor <;> linarith

/-- An even integer is reached from half a unit below it on, since its tie goes up. -/
theorem le_roundHalfEven_iff {m : ℤ} (hm : m % 2 = 0) {x : ℚ} :
    m ≤ roundHalfEven x ↔ (m : ℚ) - 1 / 2 ≤ x := by
  have hlow := Int.floor_le x
  have hhigh := Int.lt_floor_add_one x
  unfold roundHalfEven
  dsimp only
  split_ifs with hless hmore
  · constructor
    · intro h
      have hcast : (m : ℚ) ≤ ⌊x⌋ := Int.cast_le.mpr h
      linarith
    · intro h
      have hcast : (m : ℚ) < (⌊x⌋ + 1 : ℤ) := by
        push_cast
        linarith
      exact Int.lt_add_one_iff.mp (Int.cast_lt.mp hcast)
  · constructor
    · intro h
      have hcast : (m : ℚ) ≤ (⌊x⌋ + 1 : ℤ) := Int.cast_le.mpr h
      push_cast at hcast
      linarith
    · intro h
      have hcast : (m : ℚ) < (⌊x⌋ + 1 + 1 : ℤ) := by
        push_cast
        linarith
      exact Int.lt_add_one_iff.mp (Int.cast_lt.mp hcast)
  · have htie : x = ⌊x⌋ + 1 / 2 := by linarith
    have hbound : (m : ℚ) - 1 / 2 ≤ x ↔ m ≤ ⌊x⌋ + 1 := by
      rw [← Int.cast_le (R := ℚ)]
      push_cast
      constructor <;> intro h <;> linarith
    rw [hbound]
    omega

section Places
variable (places : ℕ)

theorem scale_pos : (0 : ℚ) < (10 ^ places : ℕ) := Nat.cast_pos.mpr (Nat.pow_pos (by decide))

theorem round_mul (x : ℚ) : round places x * (10 ^ places : ℕ) = units places x :=
  div_mul_cancel₀ _ (scale_pos places).ne'

/-- Rounding moves a number by at most half a unit of the last place. -/
theorem abs_round_mul_sub_le (x : ℚ) :
    |round places x * (10 ^ places : ℕ) - x * (10 ^ places : ℕ)| ≤ 1 / 2 := by
  rw [round_mul]
  exact abs_roundHalfEven_sub_le _

theorem le_round_iff {m : ℤ} (hm : m % 2 = 0) {x : ℚ} :
    (m : ℚ) / (10 ^ places : ℕ) ≤ round places x ↔ ((m : ℚ) - 1 / 2) / (10 ^ places : ℕ) ≤ x := by
  rw [round, div_le_div_iff_of_pos_right (scale_pos places), Int.cast_le, units,
    le_roundHalfEven_iff hm, div_le_iff₀ (scale_pos places)]

/-- Integers that are off by at most a half each are together off by a whole number. -/
theorem abs_sub_abs_sub_le_one {x y : ℚ} {u v d : ℤ} (hu : |(u : ℚ) - x| ≤ 1 / 2)
    (hv : |(v : ℚ) - y| ≤ 1 / 2) (hd : |(d : ℚ) - (|x - y|)| ≤ 1 / 2) :
    |d - (|u - v|)| ≤ 1 := by
  rw [abs_le] at hu hv hd
  have hdiff : |x - y - ((u : ℚ) - v)| ≤ 1 := by
    rw [abs_le]
    constructor <;> linarith
  have hdistance := abs_le.mp ((abs_abs_sub_abs_le (x - y) ((u : ℚ) - v)).trans hdiff)
  have hlt : |(d : ℚ) - (|(u : ℚ) - v|)| < 2 := by
    rw [abs_lt]
    constructor <;> linarith
  have hcast : |d - (|u - v|)| < 2 := by
    rw [← Int.cast_lt (R := ℚ)]
    push_cast
    exact hlt
  exact Int.lt_add_one_iff.mp hcast

/-- Three roundings, of two numbers and of their distance, agree up to one unit. -/
theorem abs_round_abs_sub_le (a b : ℚ) :
    |round places (|a - b|) - (|round places a - round places b|)| ≤ 1 / (10 ^ places : ℕ) := by
  have hpos := scale_pos places
  have ha := abs_round_mul_sub_le places a
  have hb := abs_round_mul_sub_le places b
  have hd := abs_round_mul_sub_le places (|a - b|)
  have hscale : |a - b| * (10 ^ places : ℕ) =
      |a * (10 ^ places : ℕ) - b * (10 ^ places : ℕ)| := by
    rw [← sub_mul, abs_mul, abs_of_pos hpos]
  rw [round_mul] at ha hb hd
  rw [hscale] at hd
  have hunits := abs_sub_abs_sub_le_one ha hb hd
  rw [← Int.cast_le (R := ℚ)] at hunits
  push_cast at hunits
  rw [← round_mul, ← round_mul, ← round_mul, ← sub_mul, abs_mul, abs_of_pos hpos, ← sub_mul,
    abs_mul, abs_of_pos hpos] at hunits
  exact (le_div_iff₀ hpos).mpr hunits

end Places

end Decimal
