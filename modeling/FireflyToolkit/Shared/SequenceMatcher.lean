import Mathlib.Algebra.Ring.Nat
import Mathlib.Data.List.Basic
import Mathlib.Order.Basic

set_option autoImplicit false

namespace SequenceMatcher

structure Match where
  a : Nat
  b : Nat
  size : Nat
  deriving DecidableEq

section Matcher

variable {α : Type} [DecidableEq α]

/-- Without a test for junk only the elements that fill more than a hundredth of a long list are
passed over when a block is looked for; a block that is found may be extended by them. -/
def isPopular (b : List α) (element : α) : Bool :=
  decide (200 ≤ b.length) && decide (b.length / 100 + 1 < b.count element)

def b2j (b : List α) (element : α) : List Nat :=
  if isPopular b element then [] else (List.range b.length).filter fun j => b[j]? = some element

-- `j2len.get(j - 1, 0)`
def lengthBefore (j2len : Nat → Nat) : Nat → Nat
  | 0 => 0
  | j + 1 => j2len j

-- `j2len` of the next row: a pair of equal elements adds one to the pair before it.
def nextLengths (j2len : Nat → Nat) (indices : List Nat) (j : Nat) : Nat :=
  if j ∈ indices then lengthBefore j2len j + 1 else 0

def improve (i : Nat) (lengths : Nat → Nat) (best : Match) (j : Nat) : Match :=
  if best.size < lengths j then ⟨i + 1 - lengths j, j + 1 - lengths j, lengths j⟩ else best

/-- The indices ascend: those before `blo` are skipped and the loop ends at `bhi`. -/
def indicesWithin (b : List α) (blo bhi : Nat) (element : α) : List Nat :=
  (b2j b element).filter fun j => decide (blo ≤ j ∧ j < bhi)

def longestRun (b : List α) (blo bhi : Nat) : Nat → List α → Match → (Nat → Nat) → Match
  | _, [], best, _ => best
  | i, element :: rest, best, j2len =>
      let indices := indicesWithin b blo bhi element
      let lengths := nextLengths j2len indices
      longestRun b blo bhi (i + 1) rest (indices.foldl (improve i lengths) best) lengths

def slice (list : List α) (start stop : Nat) : List α := (list.take stop).drop start

def extendLeft (a b : List α) (alo blo : Nat) : Nat → Nat → Nat → Match
  | i + 1, j + 1, size =>
      if alo ≤ i ∧ blo ≤ j ∧ a[i]? = b[j]? then extendLeft a b alo blo i j (size + 1)
      else ⟨i + 1, j + 1, size⟩
  | i, j, size => ⟨i, j, size⟩

def extendRight (a b : List α) (i j bhi size : Nat) : Nat → Nat
  | 0 => size
  | room + 1 =>
      if j + size < bhi ∧ a[i + size]? = b[j + size]? then extendRight a b i j bhi (size + 1) room
      else size

def findLongestMatch (a b : List α) (alo ahi blo bhi : Nat) : Match :=
  let best := longestRun b blo bhi alo (slice a alo ahi) ⟨alo, blo, 0⟩ fun _ => 0
  let best := extendLeft a b alo blo best.a best.b best.size
  { best with size := extendRight a b best.a best.b bhi best.size (ahi - (best.a + best.size)) }

/-- The blocks in ascending order; `depth` is at least the number of elements before `ahi`. -/
def matchesWithin (a b : List α) : Nat → Nat → Nat → Nat → Nat → List Match
  | 0, _, _, _, _ => []
  | depth + 1, alo, ahi, blo, bhi =>
      let found := findLongestMatch a b alo ahi blo bhi
      if found.size = 0 then []
      else
        (if alo < found.a ∧ blo < found.b then matchesWithin a b depth alo found.a blo found.b else []) ++
          found :: (if found.a + found.size < ahi ∧ found.b + found.size < bhi then
            matchesWithin a b depth (found.a + found.size) ahi (found.b + found.size) bhi else [])

def collapse (last : Match) : List Match → List Match
  | [] => if last.size = 0 then [] else [last]
  | block :: rest =>
      if last.a + last.size = block.a ∧ last.b + last.size = block.b then
        collapse ⟨last.a, last.b, last.size + block.size⟩ rest
      else if last.size = 0 then collapse block rest
      else last :: collapse block rest

def getMatchingBlocks (a b : List α) : List Match :=
  collapse ⟨0, 0, 0⟩ (matchesWithin a b a.length 0 a.length 0 b.length) ++ [⟨a.length, b.length, 0⟩]

def matched (a b : List α) : Nat := ((getMatchingBlocks a b).map Match.size).sum

end Matcher

example : getMatchingBlocks "abxcd".toList "abcd".toList = [⟨0, 0, 2⟩, ⟨3, 2, 2⟩, ⟨5, 4, 0⟩] := by decide

section Slices

variable {α : Type} {list : List α} {start middle stop : Nat}

@[simp] theorem slice_self (list : List α) (start : Nat) : slice list start start = [] := by
  simp [slice]

theorem length_slice (stop_le : stop ≤ list.length) : (slice list start stop).length = stop - start := by
  rw [slice, List.length_drop, List.length_take, Nat.min_eq_left stop_le]

theorem slice_append (first : start ≤ middle) (second : middle ≤ stop) (stop_le : stop ≤ list.length) :
    slice list start middle ++ slice list middle stop = slice list start stop := by
  have taken : list.take stop = list.take middle ++ (list.take stop).drop middle := by
    have cut := List.take_append_drop middle (list.take stop)
    rw [List.take_take, Nat.min_eq_left second] at cut
    exact cut.symm
  have room : start ≤ (list.take middle).length := by
    rw [List.length_take]
    omega
  rw [slice, slice, slice, taken, List.drop_append_of_le_length room, ← taken]

theorem slice_succ (first : start ≤ stop) {element : α} (found : list[stop]? = some element) :
    slice list start (stop + 1) = slice list start stop ++ [element] := by
  obtain ⟨inside, -⟩ := List.getElem?_eq_some_iff.mp found
  have last : slice list stop (stop + 1) = [element] := by
    rw [slice, List.take_add_one, found, Option.toList_some,
      List.drop_append_of_le_length (by rw [List.length_take]; omega), List.drop_take_self]
    rfl
  rw [← slice_append first (Nat.le_succ stop) inside, last]

theorem slice_cons (first : start < stop) (stop_le : stop ≤ list.length) {element : α}
    (found : list[start]? = some element) :
    slice list start stop = element :: slice list (start + 1) stop := by
  have head : slice list start (start + 1) = [element] := by
    simpa using slice_succ (Nat.le_refl start) found
  rw [← slice_append (Nat.le_succ start) first stop_le, head, List.singleton_append]

@[simp] theorem slice_all (list : List α) : slice list 0 list.length = list := by
  simp [slice]

theorem take_reverse_slice {size : Nat} (fits : start + size ≤ stop) (stop_le : stop ≤ list.length) :
    (slice list start stop).reverse.take size = (slice list (stop - size) stop).reverse := by
  have cut := @slice_append _ list start (stop - size) stop (by omega) (by omega) stop_le
  have length : (slice list (stop - size) stop).reverse.length = size := by
    rw [List.length_reverse, length_slice stop_le]
    omega
  rw [← cut, List.reverse_append, List.take_append_of_le_length (Nat.le_of_eq length.symm),
    List.take_of_length_le (Nat.le_of_eq length)]

theorem slice_of_append {before rest : List α} (start_le : start ≤ stop) (stop_le : stop ≤ list.length)
    (whole : before ++ rest = slice list start stop) :
    start + before.length ≤ stop ∧ before = slice list start (start + before.length) := by
  have lengths := congrArg List.length whole
  rw [List.length_append, length_slice stop_le] at lengths
  have inside : start + before.length ≤ stop := by omega
  refine ⟨inside, ?_⟩
  have cut := slice_append (Nat.le_add_right start before.length) inside stop_le
  rw [← cut] at whole
  refine (List.append_inj whole ?_).1
  rw [length_slice (Nat.le_trans inside stop_le), Nat.add_sub_cancel_left]

end Slices

section Runs

variable {α : Type} [DecidableEq α] {looked : α → Bool} {xs ys : List α}

def commonPrefix (looked : α → Bool) : List α → List α → Nat
  | x :: xs, y :: ys => if x = y ∧ looked x then commonPrefix looked xs ys + 1 else 0
  | _, _ => 0

theorem commonPrefix_comm (looked : α → Bool) (xs ys : List α) :
    commonPrefix looked xs ys = commonPrefix looked ys xs := by
  induction xs generalizing ys with
  | nil => cases ys <;> rfl
  | cons x xs ih =>
    cases ys with
    | nil => rfl
    | cons y ys =>
      rw [commonPrefix, commonPrefix, ih]
      by_cases same : x = y
      · rw [same]
      · rw [if_neg (fun both => same both.1), if_neg (fun both => same both.1.symm)]

theorem commonPrefix_le_self (looked : α → Bool) (xs ys : List α) :
    commonPrefix looked xs ys ≤ commonPrefix looked xs xs := by
  induction xs generalizing ys with
  | nil => cases ys <;> exact Nat.le_refl 0
  | cons x xs ih =>
    cases ys with
    | nil => exact Nat.zero_le _
    | cons y ys =>
      rw [commonPrefix, commonPrefix]
      by_cases both : x = y ∧ looked x = true
      · rw [if_pos both, if_pos ⟨rfl, both.2⟩]
        exact Nat.succ_le_succ (ih ys)
      · rw [if_neg both]
        exact Nat.zero_le _

theorem commonPrefix_le_length (looked : α → Bool) (xs ys : List α) :
    commonPrefix looked xs ys ≤ xs.length := by
  induction xs generalizing ys with
  | nil => cases ys <;> exact Nat.le_refl 0
  | cons x xs ih =>
    cases ys with
    | nil => exact Nat.zero_le _
    | cons y ys =>
      rw [commonPrefix, List.length_cons]
      split_ifs
      · exact Nat.succ_le_succ (ih ys)
      · exact Nat.zero_le _

theorem take_commonPrefix (looked : α → Bool) (xs ys : List α) :
    xs.take (commonPrefix looked xs ys) = ys.take (commonPrefix looked xs ys) := by
  induction xs generalizing ys with
  | nil => cases ys <;> rfl
  | cons x xs ih =>
    cases ys with
    | nil => rfl
    | cons y ys =>
      rw [commonPrefix]
      split_ifs with both
      · rw [List.take_succ_cons, List.take_succ_cons, ih, both.1]
      · rfl

end Runs

section Rows

variable {α : Type} [DecidableEq α] {b : List α} {blo bhi : Nat}

def looked (b : List α) (element : α) : Bool := !isPopular b element

theorem mem_indicesWithin {element : α} {j : Nat} : j ∈ indicesWithin b blo bhi element ↔
    looked b element = true ∧ b[j]? = some element ∧ blo ≤ j ∧ j < bhi := by
  unfold indicesWithin b2j looked
  by_cases popular : isPopular b element = true
  · simp [popular]
  · have inside : b[j]? = some element → j < b.length := fun found =>
      (List.getElem?_eq_some_iff.mp found).1
    simp only [popular, Bool.false_eq_true, if_false, List.mem_filter, List.mem_range, decide_eq_true_eq,
      Bool.not_false, true_and]
    tauto

theorem indicesWithin_ascend (b : List α) (blo bhi : Nat) (element : α) :
    (indicesWithin b blo bhi element).Pairwise (· < ·) := by
  unfold indicesWithin b2j
  split_ifs
  · exact List.Pairwise.nil
  · exact (List.pairwise_lt_range.filter _).filter _

def cells (b : List α) (blo bhi : Nat) (before : List α) (j : Nat) : Nat :=
  if blo ≤ j ∧ j < bhi then commonPrefix (looked b) before.reverse (slice b blo (j + 1)).reverse else 0

theorem cells_nil (b : List α) (blo bhi : Nat) : cells b blo bhi [] = fun _ => 0 := by
  funext j
  rw [cells, List.reverse_nil]
  split_ifs
  · cases (slice b blo (j + 1)).reverse <;> rfl
  · rfl

theorem nextLengths_cells (bhi_le : bhi ≤ b.length) (before : List α) (element : α) :
    nextLengths (cells b blo bhi before) (indicesWithin b blo bhi element) =
      cells b blo bhi (before ++ [element]) := by
  funext j
  by_cases within : blo ≤ j ∧ j < bhi
  · obtain ⟨other, found⟩ : ∃ other, b[j]? = some other :=
      ⟨_, List.getElem?_eq_getElem (Nat.lt_of_lt_of_le within.2 bhi_le)⟩
    have earlier : lengthBefore (cells b blo bhi before) j =
        commonPrefix (looked b) before.reverse (slice b blo j).reverse := by
      cases j with
      | zero =>
        obtain rfl := Nat.le_zero.mp within.1
        rw [slice_self, List.reverse_nil, commonPrefix_comm]
        cases before.reverse <;> rfl
      | succ last =>
        by_cases first : blo ≤ last
        · rw [lengthBefore, cells, if_pos ⟨first, Nat.lt_of_succ_lt within.2⟩]
        · obtain rfl : blo = last + 1 := by omega
          rw [lengthBefore, cells, if_neg (fun both => first both.1), slice_self, List.reverse_nil,
            commonPrefix_comm]
          cases before.reverse <;> rfl
    have listed : j ∈ indicesWithin b blo bhi element ↔ element = other ∧ looked b element = true := by
      rw [mem_indicesWithin, found, Option.some_inj]
      constructor
      · rintro ⟨wanted, rfl, -⟩
        exact ⟨rfl, wanted⟩
      · rintro ⟨rfl, wanted⟩
        exact ⟨wanted, rfl, within⟩
    rw [nextLengths, earlier, cells, if_pos within, slice_succ within.1 found, List.reverse_append,
      List.reverse_append, List.reverse_singleton, List.reverse_singleton, List.singleton_append,
      List.singleton_append, commonPrefix]
    simp only [listed]
  · have outside : j ∉ indicesWithin b blo bhi element := fun member =>
      within (mem_indicesWithin.mp member).2.2
    rw [nextLengths, if_neg outside, cells, if_neg within]

theorem longestRun_rule {invariant : List α → Match → Prop} {whole : List α} {alo : Nat}
    (bhi_le : bhi ≤ b.length)
    (row : ∀ before element rest best, before ++ element :: rest = whole → invariant before best →
      invariant (before ++ [element]) ((indicesWithin b blo bhi element).foldl
        (improve (alo + before.length) (cells b blo bhi (before ++ [element]))) best))
    {before rest : List α} {best : Match} (whole_eq : before ++ rest = whole)
    (initially : invariant before best) :
    invariant whole (longestRun b blo bhi (alo + before.length) rest best (cells b blo bhi before)) := by
  induction rest generalizing before best with
  | nil =>
    rw [List.append_nil] at whole_eq
    rw [← whole_eq]
    exact initially
  | cons element rest ih =>
    have later := ih (by rw [List.append_assoc]; exact whole_eq) (row before element rest best whole_eq initially)
    rw [List.length_append, List.length_singleton, ← Nat.add_assoc] at later
    rw [longestRun, nextLengths_cells bhi_le]
    exact later

end Rows

structure Block {α : Type} (a b : List α) (alo ahi blo bhi : Nat) (found : Match) : Prop where
  first : alo ≤ found.a
  firstEnd : found.a + found.size ≤ ahi
  second : blo ≤ found.b
  secondEnd : found.b + found.size ≤ bhi
  same : slice a found.a (found.a + found.size) = slice b found.b (found.b + found.size)

section Blocks

variable {α : Type} [DecidableEq α] {a b : List α} {alo ahi blo bhi : Nat}

theorem block_of_cell {stop j : Nat} (begin_le : alo ≤ stop) (stop_le : stop ≤ a.length)
    (bhi_le : bhi ≤ b.length) (some : 0 < cells b blo bhi (slice a alo stop) j) :
    let size := cells b blo bhi (slice a alo stop) j
    Block a b alo stop blo bhi ⟨stop - size, j + 1 - size, size⟩ := by
  intro size
  have within : blo ≤ j ∧ j < bhi := by
    by_contra outside
    rw [cells, if_neg outside] at some
    exact Nat.lt_irrefl 0 some
  have size_eq : size = commonPrefix (looked b) (slice a alo stop).reverse (slice b blo (j + 1)).reverse :=
    if_pos within
  have j_le : j + 1 ≤ b.length := Nat.le_trans within.2 bhi_le
  have left := commonPrefix_le_length (looked b) (slice a alo stop).reverse (slice b blo (j + 1)).reverse
  have right := commonPrefix_le_length (looked b) (slice b blo (j + 1)).reverse (slice a alo stop).reverse
  rw [commonPrefix_comm, ← size_eq, List.length_reverse, length_slice j_le] at right
  rw [← size_eq, List.length_reverse, length_slice stop_le] at left
  have taken := take_commonPrefix (looked b) (slice a alo stop).reverse (slice b blo (j + 1)).reverse
  rw [← size_eq, take_reverse_slice (by omega) stop_le, take_reverse_slice (by omega) j_le,
    List.reverse_inj] at taken
  constructor
  · dsimp only
    omega
  · dsimp only
    omega
  · dsimp only
    omega
  · dsimp only
    omega
  · dsimp only
    rw [Nat.sub_add_cancel (by omega), Nat.sub_add_cancel (by omega)]
    exact taken

omit [DecidableEq α] in
theorem Block.widen {found : Match} {stop : Nat} (block : Block a b alo ahi blo bhi found) (later : ahi ≤ stop) :
    Block a b alo stop blo bhi found :=
  { block with firstEnd := Nat.le_trans block.firstEnd later }

theorem foldl_improve {invariant : Match → Prop} {i : Nat} {lengths : Nat → Nat}
    (improved : ∀ best j, invariant best → best.size < lengths j →
      invariant ⟨i + 1 - lengths j, j + 1 - lengths j, lengths j⟩)
    (indices : List Nat) {best : Match} (initially : invariant best) :
    invariant (indices.foldl (improve i lengths) best) := by
  induction indices generalizing best with
  | nil => exact initially
  | cons j rest ih =>
    rw [List.foldl_cons]
    apply ih
    rw [improve]
    split_ifs with longer
    · exact improved best j initially longer
    · exact initially

theorem longestRun_block (alo_le : alo ≤ ahi) (ahi_le : ahi ≤ a.length) (blo_le : blo ≤ bhi)
    (bhi_le : bhi ≤ b.length) :
    Block a b alo ahi blo bhi (longestRun b blo bhi alo (slice a alo ahi) ⟨alo, blo, 0⟩ fun _ => 0) := by
  have row : ∀ before element rest best, before ++ element :: rest = slice a alo ahi →
      Block a b alo (alo + before.length) blo bhi best →
      Block a b alo (alo + (before ++ [element]).length) blo bhi
        ((indicesWithin b blo bhi element).foldl
          (improve (alo + before.length) (cells b blo bhi (before ++ [element]))) best) := by
    intro before element rest best whole block
    rw [List.append_cons] at whole
    obtain ⟨inside, read⟩ := slice_of_append alo_le ahi_le whole
    rw [List.length_append, List.length_singleton, ← Nat.add_assoc] at inside read ⊢
    refine foldl_improve ?_ _ (block.widen (Nat.le_succ _))
    intro best j _ longer
    rw [read] at longer ⊢
    exact block_of_cell (by omega) (Nat.le_trans inside ahi_le) bhi_le (Nat.zero_lt_of_lt longer)
  have run := @longestRun_rule _ _ b blo bhi _ _ alo bhi_le row [] (slice a alo ahi) ⟨alo, blo, 0⟩ rfl
    ⟨Nat.le_refl _, Nat.le_refl _, Nat.le_refl _, blo_le, by simp⟩
  rw [cells_nil, List.length_nil, Nat.add_zero, length_slice ahi_le, Nat.add_sub_cancel' alo_le] at run
  exact run

theorem extendLeft_block (ahi_le : ahi ≤ a.length) (bhi_le : bhi ≤ b.length) {i j size : Nat}
    (block : Block a b alo ahi blo bhi ⟨i, j, size⟩) :
    Block a b alo ahi blo bhi (extendLeft a b alo blo i j size) := by
  induction i generalizing j size with
  | zero => exact block
  | succ i ih =>
    cases j with
    | zero => exact block
    | succ j =>
      rw [extendLeft]
      split_ifs with longer
      · obtain ⟨first, second, equal⟩ := longer
        obtain ⟨-, firstEnd, -, secondEnd, same⟩ := block
        dsimp only at firstEnd secondEnd same
        have inside : a[i]? = some a[i] := List.getElem?_eq_getElem (by omega)
        refine ih ⟨first, by dsimp only; omega, second, by dsimp only; omega, ?_⟩
        dsimp only
        have left := @slice_cons _ a i (i + size + 1) (by omega) (by omega) _ inside
        have right := @slice_cons _ b j (j + size + 1) (by omega) (by omega) _ (equal ▸ inside)
        rw [← Nat.add_assoc, ← Nat.add_assoc, left, right, Nat.add_right_comm i, Nat.add_right_comm j,
          same]
      · exact block

theorem extendRight_block (ahi_le : ahi ≤ a.length) {i j size room : Nat}
    (within : i + size + room ≤ ahi) (block : Block a b alo ahi blo bhi ⟨i, j, size⟩) :
    Block a b alo ahi blo bhi ⟨i, j, extendRight a b i j bhi size room⟩ := by
  induction room generalizing size with
  | zero => exact block
  | succ room ih =>
    rw [extendRight]
    split_ifs with longer
    · obtain ⟨second, equal⟩ := longer
      have inside : a[i + size]? = some a[i + size] := List.getElem?_eq_getElem (by omega)
      refine ih (by omega) ⟨block.first, by dsimp only; omega, block.second, second, ?_⟩
      dsimp only
      have same := block.same
      dsimp only at same
      rw [← Nat.add_assoc, ← Nat.add_assoc, slice_succ (Nat.le_add_right i size) inside,
        slice_succ (Nat.le_add_right j size) (equal ▸ inside), same]
    · exact block

theorem findLongestMatch_block (alo_le : alo ≤ ahi) (ahi_le : ahi ≤ a.length) (blo_le : blo ≤ bhi)
    (bhi_le : bhi ≤ b.length) : Block a b alo ahi blo bhi (findLongestMatch a b alo ahi blo bhi) := by
  have left := extendLeft_block ahi_le bhi_le (longestRun_block alo_le ahi_le blo_le bhi_le)
  have firstEnd := left.firstEnd
  exact extendRight_block ahi_le (by omega) left

end Blocks

section Common

variable {α : Type} [DecidableEq α] {a b : List α}

theorem matchesWithin_common (depth : Nat) {alo ahi blo bhi : Nat} (alo_le : alo ≤ ahi)
    (ahi_le : ahi ≤ a.length) (blo_le : blo ≤ bhi) (bhi_le : bhi ≤ b.length) :
    ∃ common : List α, common.length = ((matchesWithin a b depth alo ahi blo bhi).map Match.size).sum ∧
      common.Sublist (slice a alo ahi) ∧ common.Sublist (slice b blo bhi) := by
  induction depth generalizing alo ahi blo bhi with
  | zero => exact ⟨[], rfl, List.nil_sublist _, List.nil_sublist _⟩
  | succ depth ih =>
    rw [matchesWithin]
    have block := findLongestMatch_block alo_le ahi_le blo_le bhi_le
    generalize findLongestMatch a b alo ahi blo bhi = found at block ⊢
    obtain ⟨first, firstEnd, second, secondEnd, same⟩ := block
    by_cases nothing : found.size = 0
    · rw [if_pos nothing]
      exact ⟨[], rfl, List.nil_sublist _, List.nil_sublist _⟩
    rw [if_neg nothing]
    have left : ∃ common : List α, common.length = ((if alo < found.a ∧ blo < found.b then
        matchesWithin a b depth alo found.a blo found.b else []).map Match.size).sum ∧
        common.Sublist (slice a alo found.a) ∧ common.Sublist (slice b blo found.b) := by
      split_ifs
      · exact ih first (by omega) second (by omega)
      · exact ⟨[], rfl, List.nil_sublist _, List.nil_sublist _⟩
    have right : ∃ common : List α, common.length =
        ((if found.a + found.size < ahi ∧ found.b + found.size < bhi then
          matchesWithin a b depth (found.a + found.size) ahi (found.b + found.size) bhi else []).map
            Match.size).sum ∧
        common.Sublist (slice a (found.a + found.size) ahi) ∧
        common.Sublist (slice b (found.b + found.size) bhi) := by
      split_ifs
      · exact ih firstEnd ahi_le secondEnd bhi_le
      · exact ⟨[], rfl, List.nil_sublist _, List.nil_sublist _⟩
    obtain ⟨before, beforeLength, beforeFirst, beforeSecond⟩ := left
    obtain ⟨after, afterLength, afterFirst, afterSecond⟩ := right
    refine ⟨before ++ (slice a found.a (found.a + found.size) ++ after), ?_, ?_, ?_⟩
    · rw [List.map_append, List.map_cons, List.sum_append, List.sum_cons, List.length_append,
        List.length_append, length_slice (by omega), beforeLength, afterLength, Nat.add_sub_cancel_left]
    · rw [← slice_append first (Nat.le_trans (Nat.le_add_right _ _) firstEnd) ahi_le,
        ← slice_append (Nat.le_add_right _ _) firstEnd ahi_le]
      exact beforeFirst.append ((List.Sublist.refl _).append afterFirst)
    · rw [same, ← slice_append second (Nat.le_trans (Nat.le_add_right _ _) secondEnd) bhi_le,
        ← slice_append (Nat.le_add_right _ _) secondEnd bhi_le]
      exact beforeSecond.append ((List.Sublist.refl _).append afterSecond)

theorem collapse_sizes (last : Match) (blocks : List Match) :
    ((collapse last blocks).map Match.size).sum = last.size + (blocks.map Match.size).sum := by
  induction blocks generalizing last with
  | nil =>
    rw [collapse]
    split_ifs with empty <;> simp [empty]
  | cons block rest ih =>
    rw [collapse]
    split_ifs with adjacent empty
    · rw [ih, List.map_cons, List.sum_cons, Nat.add_assoc]
    · rw [ih, List.map_cons, List.sum_cons, empty, Nat.zero_add]
    · rw [List.map_cons, List.sum_cons, ih, List.map_cons, List.sum_cons]

theorem matched_eq (a b : List α) : matched a b =
    ((matchesWithin a b a.length 0 a.length 0 b.length).map Match.size).sum := by
  rw [matched, getMatchingBlocks, List.map_append, List.sum_append, collapse_sizes]
  exact Nat.zero_add _

theorem matched_common (a b : List α) :
    ∃ common : List α, common.length = matched a b ∧ common.Sublist a ∧ common.Sublist b := by
  rw [matched_eq]
  have common := @matchesWithin_common α _ a b a.length 0 a.length 0 b.length (Nat.zero_le _)
    (Nat.le_refl _) (Nat.zero_le _) (Nat.le_refl _)
  rwa [slice_all, slice_all] at common

theorem matched_le (a b : List α) : matched a b ≤ a.length ∧ matched a b ≤ b.length := by
  obtain ⟨common, length, first, second⟩ := matched_common a b
  exact ⟨length ▸ first.length_le, length ▸ second.length_le⟩

end Common

section Same

variable {α : Type} [DecidableEq α]

theorem foldl_improve_of_le {i : Nat} {lengths : Nat → Nat} {indices : List Nat} {best : Match}
    (short : ∀ j ∈ indices, lengths j ≤ best.size) : indices.foldl (improve i lengths) best = best := by
  induction indices with
  | nil => rfl
  | cons j rest ih =>
    have same : improve i lengths best j = best := if_neg (Nat.not_lt.mpr (short j (by simp)))
    rw [List.foldl_cons, same]
    exact ih fun other member => short other (List.mem_cons_of_mem j member)

structure Diagonal (list before : List α) (best : Match) : Prop where
  equal : best.a = best.b
  most : ∀ shorter, shorter <+: before → ∀ j, cells list 0 list.length shorter j ≤ best.size

theorem le_improve (i : Nat) (lengths : Nat → Nat) (best : Match) (j : Nat) :
    lengths j ≤ (improve i lengths best j).size ∧ best.size ≤ (improve i lengths best j).size := by
  rw [improve]
  split_ifs with longer
  · exact ⟨Nat.le_refl _, Nat.le_of_lt longer⟩
  · exact ⟨Nat.not_lt.mp longer, Nat.le_refl _⟩

theorem diagonal_row {list before rest : List α} {element : α} {best : Match}
    (whole : before ++ element :: rest = list) (diagonal : Diagonal list before best) :
    Diagonal list (before ++ [element]) ((indicesWithin list 0 list.length element).foldl
      (improve before.length (cells list 0 list.length (before ++ [element]))) best) := by
  let lengths := cells list 0 list.length (before ++ [element])
  have inside : before.length < list.length := by rw [← whole, List.length_append, List.length_cons]; omega
  have found : list[before.length]? = some element := by rw [← whole]; simp
  have own : slice list 0 (before.length + 1) = before ++ [element] := by
    rw [slice_succ (Nat.zero_le _) found, slice, List.drop_zero, ← whole, List.take_left]
  have read : ∀ j < list.length, ∀ shorter, cells list 0 list.length shorter j =
      commonPrefix (looked list) shorter.reverse (slice list 0 (j + 1)).reverse :=
    fun j within shorter => if_pos ⟨Nat.zero_le j, within⟩
  have most : ∀ j, lengths j ≤ lengths before.length := by
    intro j
    dsimp only [lengths]
    rw [read _ inside, own, cells]
    split_ifs
    · exact commonPrefix_le_self _ _ _
    · exact Nat.zero_le _
  -- A run that ends left of the diagonal is mirrored by one in an earlier row.
  have mirrored : ∀ j < before.length, lengths j ≤ best.size := by
    intro j left
    have earlier : slice list 0 (j + 1) <+: before := by
      have cut := @slice_append _ list 0 (j + 1) before.length (Nat.zero_le _) left (Nat.le_of_lt inside)
      have all : slice list 0 before.length = before := by
        rw [slice, List.drop_zero, ← whole, List.take_left]
      exact ⟨_, cut.trans all⟩
    have bound := diagonal.most _ earlier before.length
    rw [read _ inside, own, commonPrefix_comm] at bound
    dsimp only [lengths]
    rw [read j (Nat.lt_trans left inside)]
    exact bound
  by_cases listed : before.length ∈ indicesWithin list 0 list.length element
  · obtain ⟨front, back, split⟩ := List.append_of_mem listed
    have ascend := indicesWithin_ascend list 0 list.length element
    rw [split, List.pairwise_append] at ascend
    have frontSame : front.foldl (improve before.length lengths) best = best :=
      foldl_improve_of_le fun j member => mirrored j (ascend.2.2 j member _ (by simp))
    obtain ⟨ownLe, bestLe⟩ := le_improve before.length lengths best before.length
    have backSame : back.foldl (improve before.length lengths)
        (improve before.length lengths best before.length) =
          improve before.length lengths best before.length :=
      foldl_improve_of_le fun j _ => Nat.le_trans (most j) ownLe
    rw [split, List.foldl_append, List.foldl_cons, frontSame, backSame]
    constructor
    · rw [improve]
      split_ifs
      · rfl
      · exact diagonal.equal
    · intro shorter isPart j
      rcases List.prefix_concat_iff.mp isPart with rfl | part
      · exact Nat.le_trans (most j) ownLe
      · exact Nat.le_trans (diagonal.most shorter part j) bestLe
  · have passedOver : looked list element = false := by
      by_contra wanted
      exact listed (mem_indicesWithin.mpr ⟨by simpa using wanted, found, Nat.zero_le _, inside⟩)
    have none : indicesWithin list 0 list.length element = [] := by
      refine List.eq_nil_iff_forall_not_mem.mpr fun j member => ?_
      rw [(mem_indicesWithin.mp member).1] at passedOver
      cases passedOver
    have ownZero : lengths before.length = 0 := by
      dsimp only [lengths]
      rw [read _ inside, own, List.reverse_append, List.reverse_singleton, List.singleton_append,
        commonPrefix, if_neg (by simp [passedOver])]
    rw [none, List.foldl_nil]
    refine ⟨diagonal.equal, fun shorter isPart j => ?_⟩
    rcases List.prefix_concat_iff.mp isPart with rfl | part
    · exact Nat.le_trans (most j) (ownZero ▸ Nat.zero_le _)
    · exact diagonal.most shorter part j

theorem extendLeft_same (list : List α) (i size : Nat) :
    extendLeft list list 0 0 i i size = ⟨0, 0, i + size⟩ := by
  induction i generalizing size with
  | zero => rw [Nat.zero_add]; rfl
  | succ i ih => rw [extendLeft, if_pos ⟨Nat.zero_le _, Nat.zero_le _, rfl⟩, ih, Nat.succ_add_eq_add_succ]

theorem extendRight_same {list : List α} {size room : Nat} (fits : size + room ≤ list.length) :
    extendRight list list 0 0 list.length size room = size + room := by
  induction room generalizing size with
  | zero => rfl
  | succ room ih =>
    rw [extendRight, if_pos ⟨by omega, rfl⟩, ih (by omega)]
    omega

theorem findLongestMatch_same (list : List α) :
    findLongestMatch list list 0 list.length 0 list.length = ⟨0, 0, list.length⟩ := by
  have block := @longestRun_block _ _ list list 0 list.length 0 list.length (Nat.zero_le _)
    (Nat.le_refl _) (Nat.zero_le _) (Nat.le_refl _)
  have diagonal := @longestRun_rule _ _ list 0 list.length (Diagonal list) list 0 (Nat.le_refl _)
    (fun before element rest best whole held => by
      rw [Nat.zero_add]
      exact diagonal_row whole held) [] list ⟨0, 0, 0⟩ rfl
    ⟨rfl, fun shorter part j => Nat.le_of_eq (by rw [List.prefix_nil.mp part, cells_nil])⟩
  rw [cells_nil, List.length_nil, Nat.zero_add] at diagonal
  rw [slice_all] at block
  have firstEnd := block.firstEnd
  dsimp only [findLongestMatch]
  rw [slice_all, ← diagonal.equal, extendLeft_same]
  dsimp only
  rw [extendRight_same (by omega)]
  congr 1
  omega

theorem matched_same (list : List α) : matched list list = list.length := by
  rw [matched_eq]
  cases length : list.length with
  | zero => rfl
  | succ depth =>
    have found := findLongestMatch_same list
    rw [length] at found
    simp [matchesWithin, found]

theorem matched_whole_iff (a b : List α) : 2 * matched a b = a.length + b.length ↔ a = b := by
  constructor
  · intro whole
    obtain ⟨common, length, first, second⟩ := matched_common a b
    obtain ⟨firstLe, secondLe⟩ := matched_le a b
    rw [← first.eq_of_length (by omega), ← second.eq_of_length (by omega)]
  · rintro rfl
    rw [matched_same]
    omega

end Same

end SequenceMatcher
