import FireflyToolkit.Shared.Rounding
import Mathlib.Algebra.Order.Field.Power
import Mathlib.Data.Int.Log

set_option autoImplicit false

/-- A number of the binary64 format; the sign of a zero is left out. -/
inductive Double
  | finite (value : ℚ)
  | infinity (negative : Bool)
  | nan
  deriving DecidableEq

namespace Double

open Rounding

def isFinite : Double → Bool
  | finite _ => true
  | infinity _ | nan => false

def isPositive : Double → Bool
  | finite value => decide (0 < value)
  | infinity negative => !negative
  | nan => false

/-- The exponent of the last place: 53 binary digits, less below the normal numbers. -/
def lastPlace (size : ℚ) : Int := max (Int.log 2 size - 52) (-1074)

def nearestSize (size : ℚ) : ℚ := halfEven (size / 2 ^ lastPlace size) * 2 ^ lastPlace size

/-- Rounding to nearest, ties to even; from the middle of the last binade on to infinity. -/
def nearest (value : ℚ) : Double :=
  let size := nearestSize |value|
  if 2 ^ 1024 ≤ size then infinity (decide (value < 0))
  else finite (if value < 0 then -size else size)

theorem nearestSize_nonneg {size : ℚ} (nonneg : 0 ≤ size) : 0 ≤ nearestSize size := by
  have place : (0 : ℚ) < 2 ^ lastPlace size := by positivity
  have whole : halfEven (0 : ℚ) ≤ halfEven (size / 2 ^ lastPlace size) :=
    halfEven_mono (div_nonneg nonneg place.le)
  have zero : halfEven (0 : ℚ) = 0 := by simpa using halfEven_intCast 0
  rw [zero] at whole
  exact mul_nonneg (Int.cast_nonneg whole) place.le

theorem nearestSize_pos {size : ℚ} (least : 2 ^ (-1074 : Int) ≤ size) : 0 < nearestSize size := by
  have positive : 0 < size := lt_of_lt_of_le (by positivity) least
  have place : (0 : ℚ) < 2 ^ lastPlace size := by positivity
  have fits : (2 : ℚ) ^ lastPlace size ≤ size := by
    rcases max_choice (Int.log 2 size - 52) (-1074) with normal | small
    · have leading : ((2 : ℕ) : ℚ) ^ Int.log 2 size ≤ size := Int.zpow_log_le_self (by decide) positive
      refine le_trans (zpow_le_zpow_right₀ (by norm_num) ?_) leading
      rw [lastPlace, normal]
      omega
    · rw [lastPlace, small]
      exact least
  have whole : halfEven ((1 : Int) : ℚ) ≤ halfEven (size / 2 ^ lastPlace size) := by
    refine halfEven_mono ?_
    rw [Int.cast_one]
    exact (one_le_div₀ place).mpr fits
  rw [halfEven_intCast] at whole
  exact mul_pos (Int.cast_pos.mpr (by omega)) place

theorem isPositive_nearest_of_nonpos {value : ℚ} (nonpos : value ≤ 0) :
    (nearest value).isPositive = false := by
  have size := nearestSize_nonneg (abs_nonneg value)
  unfold nearest
  dsimp only
  rcases lt_or_eq_of_le nonpos with negative | rfl
  · split_ifs
    · simp [isPositive, negative]
    · simpa [isPositive] using size
  · have zero : nearestSize |(0 : ℚ)| = 0 := by
      have whole : halfEven (0 : ℚ) = 0 := by simpa using halfEven_intCast 0
      simp [nearestSize, whole]
    rw [zero, if_neg (not_le.mpr (by positivity))]
    simp [isPositive]

theorem isPositive_nearest {value : ℚ} (least : 2 ^ (-1074 : Int) ≤ value) :
    (nearest value).isPositive = true := by
  have positive : 0 < value := lt_of_lt_of_le (by positivity) least
  have size := nearestSize_pos (le_of_le_of_eq least (abs_of_pos positive).symm)
  unfold nearest
  dsimp only
  split_ifs with overflow negative
  · simp [isPositive, positive.le]
  · linarith
  · simpa [isPositive] using size

end Double
