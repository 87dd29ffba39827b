import FireflyToolkit.Shared.PyBuiltins
import Mathlib.Data.List.Perm.Basic
import Mathlib.Data.List.Sort
import Mathlib.Data.Prod.Lex

set_option autoImplicit false

namespace Sorting

open PyBuiltins

variable {α κ : Type} [LinearOrder κ]

/-- A stable sort by a key, as `list.sort(key=...)` does it. -/
def sortBy (key : α → κ) (items : List α) : List α :=
  items.insertionSort fun left right => key left ≤ key right

theorem sortBy_perm (key : α → κ) (items : List α) : (sortBy key items).Perm items :=
  List.perm_insertionSort _ items

@[simp] theorem mem_sortBy {key : α → κ} {items : List α} {item : α} :
    item ∈ sortBy key items ↔ item ∈ items :=
  (sortBy_perm key items).mem_iff

theorem sortBy_pairwise (key : α → κ) (items : List α) :
    (sortBy key items).Pairwise fun left right => key left ≤ key right := by
  have total : Std.Total fun left right : α => key left ≤ key right :=
    ⟨fun left right => le_total (key left) (key right)⟩
  have trans : IsTrans α fun left right => key left ≤ key right := ⟨fun _ _ _ => le_trans⟩
  exact List.pairwise_insertionSort _ items

theorem sortBy_head {items rest : List α} {key : α → κ} {first : α} (sorted : sortBy key items = first :: rest) :
    first ∈ items ∧ ∀ item ∈ items, key first ≤ key item := by
  have ordered := sortBy_pairwise key items
  rw [sorted, List.pairwise_cons] at ordered
  have member : ∀ item, item ∈ items ↔ item = first ∨ item ∈ rest := by
    intro item
    rw [← @mem_sortBy _ _ _ key, sorted, List.mem_cons]
  refine ⟨(member first).mpr (.inl rfl), fun item listed => ?_⟩
  rcases (member item).mp listed with rfl | later
  · exact le_refl _
  · exact ordered.1 item later

theorem sortBy_eq_of_perm {key : α → κ} {left right : List α} (permuted : left.Perm right)
    (apart : ∀ first ∈ left, ∀ second ∈ left, key first = key second → first = second) :
    sortBy key left = sortBy key right := by
  have sorted : (sortBy key left).Perm (sortBy key right) :=
    ((sortBy_perm key left).trans permuted).trans (sortBy_perm key right).symm
  refine List.Perm.eq_of_pairwise ?_ (sortBy_pairwise key left) (sortBy_pairwise key right) sorted
  intro first second firstMember secondMember below above
  have inLeft : second ∈ left := permuted.mem_iff.mpr (mem_sortBy.mp secondMember)
  exact apart first (mem_sortBy.mp firstMember) second inLeft (le_antisymm below above)

theorem orderedInsert_added {key : α → κ} {added : α} (item : α) {front back : List α}
    (behind : ∀ other ∈ back, key added ≤ key other) :
    ∃ front' back',
      (front ++ back).orderedInsert (fun left right => key left ≤ key right) item =
        front' ++ back' ∧
      (front ++ added :: back).orderedInsert (fun left right => key left ≤ key right) item =
        front' ++ added :: back' ∧
      ∀ other ∈ back', key added ≤ key other := by
  induction front with
  | nil =>
    by_cases before : key item ≤ key added
    · refine ⟨[item], back, ?_, by simp [before], behind⟩
      cases back with
      | nil => rfl
      | cons first rest => simp [before.trans (behind first (by simp))]
    · refine ⟨[], back.orderedInsert (fun left right => key left ≤ key right) item, rfl,
        by simp [before], fun other member => ?_⟩
      rcases List.mem_cons.mp (List.perm_orderedInsert _ item back |>.mem_iff.mp member) with
        rfl | old
      · exact (not_le.mp before).le
      · exact behind other old
  | cons first rest ih =>
    by_cases before : key item ≤ key first
    · exact ⟨item :: first :: rest, back, by simp [before], by simp [before], behind⟩
    · obtain ⟨front', back', old, new, later⟩ := ih
      exact ⟨first :: front', back', by simp [before, old], by simp [before, new], later⟩

theorem orderedInsert_split (key : α → κ) (added : α) {sorted : List α}
    (ordered : sorted.Pairwise fun left right => key left ≤ key right) :
    ∃ front back, sorted = front ++ back ∧
      sorted.orderedInsert (fun left right => key left ≤ key right) added = front ++ added :: back ∧
      ∀ other ∈ back, key added ≤ key other := by
  induction sorted with
  | nil => exact ⟨[], [], rfl, rfl, by simp⟩
  | cons first rest ih =>
    obtain ⟨least, later⟩ := List.pairwise_cons.mp ordered
    by_cases before : key added ≤ key first
    · refine ⟨[], first :: rest, rfl, by simp [before], fun other member => ?_⟩
      rcases List.mem_cons.mp member with rfl | inRest
      · exact before
      · exact before.trans (least other inRest)
    · obtain ⟨front, back, split, inserted, behind⟩ := ih later
      exact ⟨first :: front, back, by rw [split]; rfl, by simp [before, inserted], behind⟩

theorem sortBy_added (key : α → κ) (before after : List α) (added : α) :
    ∃ front back, sortBy key (before ++ after) = front ++ back ∧
      sortBy key (before ++ added :: after) = front ++ added :: back ∧
      ∀ other ∈ back, key added ≤ key other := by
  induction before with
  | nil =>
    exact orderedInsert_split key added (sortBy_pairwise key after)
  | cons item rest ih =>
    obtain ⟨front, back, old, new, behind⟩ := ih
    obtain ⟨front', back', inserted, inserted', behind'⟩ := orderedInsert_added item behind
    refine ⟨front', back', ?_, ?_, behind'⟩
    · exact (congrArg _ old).trans inserted
    · exact (congrArg _ new).trans inserted'

-- The first items of a sorted list after an addition: as before, or with the added item and
-- without at most one, which is not ahead of it.
theorem take_sortBy_added (key : α → κ) (before after : List α) (added : α) (count : Nat) :
    (sortBy key (before ++ added :: after)).take count = (sortBy key (before ++ after)).take count ∨
      ∃ front kept lost, (sortBy key (before ++ after)).take count = front ++ kept ++ lost ∧
        (sortBy key (before ++ added :: after)).take count = front ++ added :: kept ∧
        lost.length ≤ 1 ∧ ∀ other ∈ lost, key added ≤ key other := by
  obtain ⟨front, back, old, new, behind⟩ := sortBy_added key before after added
  rw [old, new]
  rcases Nat.lt_or_ge front.length count with inside | outside
  · obtain ⟨room, rfl⟩ : ∃ room, count = front.length + (room + 1) :=
      ⟨count - front.length - 1, by omega⟩
    refine .inr ⟨front, back.take room, (back.drop room).take 1, ?_, ?_, by simp, ?_⟩
    · rw [List.take_append, List.take_of_length_le (by omega), List.append_assoc,
        ← List.take_add]
      congr 2
      omega
    · rw [List.take_append, List.take_of_length_le (by omega)]
      congr 1
      rw [show front.length + (room + 1) - front.length = room + 1 by omega, List.take_succ_cons]
    · exact fun other member => behind other (List.mem_of_mem_drop (List.mem_of_mem_take member))
  · refine .inl ?_
    rw [List.take_append_of_le_length outside, List.take_append_of_le_length outside]

theorem find?_eq_of_perm {test : α → Bool} {left right : List α} (permuted : left.Perm right)
    (only : ∀ first ∈ left, ∀ second ∈ left, test first = true → test second = true → first = second) :
    left.find? test = right.find? test := by
  have kept : left.filter test = right.filter test := by
    refine List.Perm.eq_of_pairwise (fun first second firstMember secondMember _ _ => ?_)
      (List.pairwise_of_forall fun _ _ => trivial) (List.pairwise_of_forall fun _ _ => trivial)
      (permuted.filter test)
    obtain ⟨inLeft, passes⟩ := List.mem_filter.mp firstMember
    obtain ⟨inRight, passesToo⟩ := List.mem_filter.mp secondMember
    exact only first inLeft second (permuted.mem_iff.mpr inRight) passes passesToo
  rw [← List.head?_filter, ← List.head?_filter, kept]

section Loops

variable {ε β γ : Type} {function : β → Except ε γ}

theorem mapM_error {inputs : List β} {failure : ε} (raised : inputs.mapM function = .error failure) :
    ∃ input ∈ inputs, function input = .error failure := by
  induction inputs with
  | nil => cases raised
  | cons input rest ih =>
    rw [List.mapM_cons] at raised
    rcases bind_eq_error.mp raised with first | ⟨output, -, remaining⟩
    · exact ⟨input, by simp, first⟩
    · rcases bind_eq_error.mp remaining with later | ⟨others, -, returned⟩
      · obtain ⟨other, member, failed⟩ := ih later
        exact ⟨other, by simp [member], failed⟩
      · cases returned

theorem mapM_perm {left right : List β} (permuted : left.Perm right) :
    (∃ outputs others, left.mapM function = .ok outputs ∧ right.mapM function = .ok others ∧
        outputs.Perm others) ∨
      ∃ failure failure', left.mapM function = .error failure ∧ right.mapM function = .error failure' := by
  have together : (∃ outputs, left.mapM function = .ok outputs) ↔
      ∃ outputs, right.mapM function = .ok outputs := by
    simp only [mapM_ok_iff, permuted.mem_iff]
  have collected : ∀ {inputs : List β} {outputs : List γ}, inputs.mapM function = .ok outputs →
      outputs.map some = inputs.map fun input => (function input).toOption :=
    mapM_ok_map fun input _ output returned => by rw [returned]; rfl
  cases mapped : left.mapM function with
  | ok outputs =>
    obtain ⟨others, mapped'⟩ := together.mp ⟨outputs, mapped⟩
    have same : (outputs.map some).Perm (others.map some) := by
      rw [collected mapped, collected mapped']
      exact permuted.map _
    exact .inl ⟨outputs, others, rfl, mapped',
      (List.map_perm_map_iff (Option.some_injective γ)).mp same⟩
  | error failure =>
    cases mapped' : right.mapM function with
    | ok others =>
      obtain ⟨outputs, returned⟩ := together.mpr ⟨others, mapped'⟩
      cases mapped.symm.trans returned
    | error failure' => exact .inr ⟨failure, failure', rfl, rfl⟩

end Loops

end Sorting
