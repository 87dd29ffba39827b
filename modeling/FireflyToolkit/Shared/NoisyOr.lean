import Mathlib.Algebra.BigOperators.Group.List.Basic
import Mathlib.Algebra.Order.Ring.Defs
import Mathlib.Tactic.Linarith
import Mathlib.Tactic.Ring

set_option autoImplicit false

namespace NoisyOr

variable {R : Type} [CommRing R]

def noisyOr (chances : List R) : R := 1 - (chances.map fun chance => 1 - chance).prod

@[simp] theorem noisyOr_nil : noisyOr ([] : List R) = 0 := by simp [noisyOr]

theorem noisyOr_cons (chance : R) (rest : List R) :
    noisyOr (chance :: rest) = 1 - (1 - chance) * (1 - noisyOr rest) := by
  simp [noisyOr]

theorem noisyOr_snoc (rest : List R) (chance : R) :
    noisyOr (rest ++ [chance]) = 1 - (1 - noisyOr rest) * (1 - chance) := by
  simp [noisyOr]

theorem noisyOr_perm {left right : List R} (permuted : left.Perm right) :
    noisyOr left = noisyOr right := by
  rw [noisyOr, noisyOr, (permuted.map _).prod_eq]

variable [LinearOrder R] [IsStrictOrderedRing R]

def IsChance (value : R) : Prop := 0 ≤ value ∧ value ≤ 1

theorem noisyOr_chance {chances : List R} (valid : ∀ chance ∈ chances, IsChance chance) :
    IsChance (noisyOr chances) := by
  induction chances with
  | nil => simp [IsChance]
  | cons chance rest ih =>
    obtain ⟨lower, upper⟩ := valid chance (by simp)
    obtain ⟨least, most⟩ := ih fun other member => valid other (by simp [member])
    rw [IsChance, noisyOr_cons]
    constructor <;> nlinarith

theorem noisyOr_le_cons {chance : R} {rest : List R} (added : IsChance chance)
    (valid : ∀ chance ∈ rest, IsChance chance) : noisyOr rest ≤ noisyOr (chance :: rest) := by
  have most := (noisyOr_chance valid).2
  rw [noisyOr_cons]
  nlinarith [added.1]

theorem noisyOr_cons_mono {chance : R} {left right : List R} (first : chance ≤ 1)
    (below : noisyOr left ≤ noisyOr right) :
    noisyOr (chance :: left) ≤ noisyOr (chance :: right) := by
  rw [noisyOr_cons, noisyOr_cons]
  nlinarith

theorem noisyOr_replace {chance larger : R} {rest : List R} (below : chance ≤ larger)
    (valid : ∀ chance ∈ rest, IsChance chance) :
    noisyOr (chance :: rest) ≤ noisyOr (larger :: rest) := by
  have most := (noisyOr_chance valid).2
  rw [noisyOr_cons, noisyOr_cons]
  nlinarith

theorem noisyOr_sublist {left right : List R} (part : left.Sublist right)
    (valid : ∀ chance ∈ right, IsChance chance) : noisyOr left ≤ noisyOr right := by
  induction part with
  | slnil => exact le_refl _
  | cons chance part ih =>
    have rest := fun other member => valid other (List.mem_cons_of_mem chance member)
    exact (ih rest).trans (noisyOr_le_cons (valid chance (by simp)) rest)
  | cons_cons chance part ih =>
    have rest := fun other member => valid other (List.mem_cons_of_mem chance member)
    exact noisyOr_cons_mono (valid chance (by simp)).2 (ih rest)

theorem le_noisyOr {chances : List R} {chance : R} (member : chance ∈ chances)
    (valid : ∀ chance ∈ chances, IsChance chance) : chance ≤ noisyOr chances := by
  have alone : noisyOr [chance] = chance := by simp [noisyOr]
  rw [← alone]
  exact noisyOr_sublist (List.singleton_sublist.mpr member) valid

end NoisyOr
