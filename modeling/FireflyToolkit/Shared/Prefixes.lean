import Mathlib.Algebra.Ring.Nat
import Mathlib.Data.List.Infix
import Mathlib.Tactic.SplitIfs

set_option autoImplicit false

namespace Prefixes

section Longest

variable {α : Type} {fits : List α → Prop} {kept rest : List α} {next : α}

def Closed (fits : List α → Prop) : Prop := ∀ front whole, front <+: whole → fits whole → fits front

/-- A prefix that fits, and that each other one which fits is a prefix of. -/
structure Longest (fits : List α → Prop) (best whole : List α) : Prop where
  initial : best <+: whole
  fitting : fits best
  longest : ∀ other, other <+: whole → fits other → other <+: best

theorem longest_whole (fitting : fits kept) : Longest fits kept kept :=
  ⟨List.prefix_rfl, fitting, fun _ initial _ => initial⟩

-- Where one more does not fit, none of the longer prefixes does.
theorem longest_stop (closed : Closed fits) (fitting : fits kept) (full : ¬ fits (kept ++ [next])) :
    Longest fits kept (kept ++ next :: rest) := by
  refine ⟨List.prefix_append _ _, fitting, fun other initial otherFits => ?_⟩
  have nextInitial : kept ++ [next] <+: kept ++ next :: rest := ⟨rest, by simp⟩
  rcases List.prefix_or_prefix_of_prefix initial nextInitial with shorter | longer
  · rcases List.prefix_concat_iff.mp shorter with rfl | inside
    · exact absurd otherFits full
    · exact inside
  · exact absurd (closed _ _ longer otherFits) full

end Longest

section Joined

variable {α : Type} {separator : α} {front parts left right : List (List α)}

theorem intercalate_append (leftSome : left ≠ []) (rightSome : right ≠ []) :
    [separator].intercalate (left ++ right) =
      [separator].intercalate left ++ separator :: [separator].intercalate right := by
  induction left with
  | nil => exact absurd rfl leftSome
  | cons first rest ih =>
    by_cases none : rest = []
    · rw [none, List.singleton_append, List.intercalate_cons_of_ne_nil rightSome]
      simp
    · rw [List.cons_append, List.intercalate_cons_of_ne_nil (by simp [none]), ih none,
        List.intercalate_cons_of_ne_nil none]
      simp

theorem length_intercalate (separator : α) (parts : List (List α)) :
    ([separator].intercalate parts).length = (parts.map List.length).sum + (parts.length - 1) := by
  induction parts with
  | nil => rfl
  | cons part rest ih =>
    cases rest with
    | nil => simp
    | cons next later =>
      rw [List.intercalate_cons_cons, List.length_append, List.length_append, ih]
      simp only [List.map_cons, List.sum_cons, List.length_cons, List.length_nil]
      omega

theorem length_intercalate_append (separator : α) (part : List α) :
    ([separator].intercalate (parts ++ [part])).length =
      ([separator].intercalate parts).length + (part.length + if parts = [] then 0 else 1) := by
  simp only [length_intercalate, List.map_append, List.sum_append, List.length_append, List.map_cons,
    List.map_nil, List.sum_cons, List.sum_nil, List.length_cons, List.length_nil]
  split_ifs with none
  · simp [none]
  · have some := List.length_pos_iff.mpr none
    omega

theorem length_intercalate_initial (separator : α) (initial : front <+: parts) :
    ([separator].intercalate front).length ≤ ([separator].intercalate parts).length := by
  obtain ⟨later, rfl⟩ := initial
  simp only [length_intercalate, List.map_append, List.sum_append, List.length_append]
  omega

end Joined

end Prefixes
