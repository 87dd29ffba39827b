import FireflyToolkit.Shared.OrderedDict
import Mathlib.Data.List.Forall2

set_option autoImplicit false

namespace OrderedDict

variable {K V W : Type} [DecidableEq K]

def RelatedEntries (related : V → W → Prop) : List (K × V) → List (K × W) → Prop :=
  List.Forall₂ fun left right => left.1 = right.1 ∧ related left.2 right.2

namespace Dict

def Related (related : V → W → Prop) (left : Dict K V) (right : Dict K W) : Prop :=
  RelatedEntries related left.entries right.entries

section Related

variable {related : V → W → Prop} {left : Dict K V} {right : Dict K W}

omit [DecidableEq K] in
theorem related_empty : Related related (empty : Dict K V) (empty : Dict K W) := .nil

theorem Related.find (both : Related related left right) {key : K} {other : W}
    (found : right.get? key = some other) : ∃ value, left.get? key = some value ∧ related value other := by
  obtain ⟨entries, distinct⟩ := left
  obtain ⟨others, distinct'⟩ := right
  simp only [Related, Dict.get?] at both found ⊢
  clear distinct distinct'
  induction both with
  | nil => cases found
  | cons head rest ih =>
    rw [lookup_pair, ← head.1] at found
    rw [lookup_pair]
    split_ifs at found ⊢
    · exact ⟨_, rfl, Option.some.inj found ▸ head.2⟩
    · exact ih found

theorem Related.absent (both : Related related left right) {key : K} (absent : right.get? key = none) :
    left.get? key = none := by
  obtain ⟨entries, distinct⟩ := left
  obtain ⟨others, distinct'⟩ := right
  simp only [Related, Dict.get?] at both absent ⊢
  clear distinct distinct'
  induction both with
  | nil => rfl
  | cons head rest ih =>
    rw [lookup_pair, ← head.1] at absent
    rw [lookup_pair]
    split_ifs at absent ⊢
    exact ih absent

theorem Related.set (both : Related related left right) {key : K} {value : V} {other : W}
    (values : related value other) : Related related (left.set key value) (right.set key other) := by
  obtain ⟨entries, distinct⟩ := left
  obtain ⟨others, distinct'⟩ := right
  simp only [Related, Dict.set] at both ⊢
  clear distinct distinct'
  induction both with
  | nil => exact .cons ⟨rfl, values⟩ .nil
  | cons first rest ih =>
    rw [setEntry, setEntry, ← first.1]
    split_ifs
    · exact .cons ⟨rfl, values⟩ rest
    · exact .cons ⟨rfl, first.2⟩ ih

theorem Related.erase (both : Related related left right) (key : K) :
    Related related (left.erase key) (right.erase key) := by
  obtain ⟨entries, distinct⟩ := left
  obtain ⟨others, distinct'⟩ := right
  simp only [Related, Dict.erase] at both ⊢
  clear distinct distinct'
  induction both with
  | nil => exact .nil
  | cons first rest ih =>
    rw [List.filter_cons, List.filter_cons, first.1]
    split_ifs
    · exact .cons first ih
    · exact ih

omit [DecidableEq K] in
theorem Related.imp {weaker : V → W → Prop} (both : Related related left right)
    (weaken : ∀ value other, related value other → weaker value other) : Related weaker left right :=
  List.Forall₂.imp (fun _ _ entry => ⟨entry.1, weaken _ _ entry.2⟩) both

omit [DecidableEq K] in
theorem Related.shown {α : Type} (both : Related related left right) {chosen : V → Bool}
    {chosen' : W → Bool} {view : V → α} {view' : W → α}
    (alike : ∀ value other, related value other → chosen value = chosen' other ∧ view value = view' other) :
    (left.values.filter chosen).map view = (right.values.filter chosen').map view' := by
  obtain ⟨entries, distinct⟩ := left
  obtain ⟨others, distinct'⟩ := right
  simp only [Related, values] at both ⊢
  clear distinct distinct'
  induction both with
  | nil => rfl
  | cons first rest ih =>
    obtain ⟨picked, shown⟩ := alike _ _ first.2
    rw [List.map_cons, List.map_cons, List.filter_cons, List.filter_cons, picked]
    split_ifs
    · rw [List.map_cons, List.map_cons, shown, ih]
    · exact ih

end Related

end Dict

end OrderedDict
