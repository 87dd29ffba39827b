import Mathlib.Algebra.Order.Field.Rat
import Mathlib.Data.Rat.Floor
import Mathlib.Tactic.Linarith

set_option autoImplicit false

namespace Rounding

/-- The nearest integer; halfway between two of them the even one. -/
def halfEven (value : ℚ) : ℤ :=
  let below := ⌊value⌋
  let rest := value - below
  if rest < 1 / 2 ∨ (rest = 1 / 2 ∧ below % 2 = 0) then below else below + 1

def toPlaces (value : ℚ) (places : ℕ) : ℚ := halfEven (value * 10 ^ places) / 10 ^ places

theorem floor_le_halfEven (value : ℚ) : ⌊value⌋ ≤ halfEven value := by
  unfold halfEven
  dsimp only
  split_ifs <;> omega

theorem halfEven_le_floor (value : ℚ) : halfEven value ≤ ⌊value⌋ + 1 := by
  unfold halfEven
  dsimp only
  split_ifs <;> omega

@[simp] theorem halfEven_intCast (value : ℤ) : halfEven value = value := by
  simp [halfEven]

theorem halfEven_mono {left right : ℚ} (below : left ≤ right) : halfEven left ≤ halfEven right := by
  have floors : ⌊left⌋ ≤ ⌊right⌋ := Int.floor_mono below
  rcases lt_or_eq_of_le floors with apart | same
  · have upper := halfEven_le_floor left
    have lower := floor_le_halfEven right
    omega
  · -- Between two integers the value that rounds up is the larger one.
    unfold halfEven
    rw [same]
    dsimp only
    split_ifs with leftDown rightDown rightDown
    · exact le_refl _
    · omega
    · rcases not_or.mp leftDown with ⟨leftHalf, leftTie⟩
      exfalso
      rcases rightDown with rightHalf | ⟨rightTie, even⟩
      · linarith
      · have tie : left - ⌊right⌋ = 1 / 2 := by linarith
        exact leftTie ⟨tie, even⟩
    · exact le_refl _

theorem toPlaces_mono (places : ℕ) : Monotone fun value => toPlaces value places := by
  intro left right below
  have scale : (0 : ℚ) < 10 ^ places := by positivity
  have scaled : left * 10 ^ places ≤ right * 10 ^ places :=
    mul_le_mul_of_nonneg_right below scale.le
  have rounded : (halfEven (left * 10 ^ places) : ℚ) ≤ halfEven (right * 10 ^ places) :=
    Int.cast_le.mpr (halfEven_mono scaled)
  exact div_le_div_of_nonneg_right rounded scale.le

@[simp] theorem toPlaces_intCast (value : ℤ) (places : ℕ) : toPlaces value places = value := by
  have scale : (10 : ℚ) ^ places ≠ 0 := by positivity
  have whole : (value : ℚ) * 10 ^ places = ((value * 10 ^ places : ℤ) : ℚ) := by push_cast; rfl
  rw [toPlaces, whole, halfEven_intCast]
  push_cast
  exact mul_div_cancel_right₀ _ scale

theorem toPlaces_bounds {value : ℚ} (places : ℕ) (lower : 0 ≤ value) (upper : value ≤ 1) :
    0 ≤ toPlaces value places ∧ toPlaces value places ≤ 1 := by
  have least := toPlaces_mono places lower
  have most := toPlaces_mono places upper
  have zero := toPlaces_intCast 0 places
  have one := toPlaces_intCast 1 places
  simp only [Int.cast_zero, Int.cast_one] at zero one
  simp only [zero] at least
  simp only [one] at most
  exact ⟨least, most⟩

example : toPlaces (12345 / 100000) 4 = 1234 / 10000 := by decide +kernel

end Rounding
