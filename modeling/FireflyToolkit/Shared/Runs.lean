import FireflyToolkit.Shared.Prefixes
import Mathlib.Data.List.Infix
import Mathlib.Data.String.Basic

set_option autoImplicit false

namespace Runs

open Prefixes (intercalate_append)

section Below

variable {α : Type} {limit : Nat} {test : α → Bool} {text left right : List α} {mark : α}

/-- No elements that follow each other and pass the test are as many as the limit. -/
def Below (limit : Nat) (test : α → Bool) (text : List α) : Prop :=
  ∀ run, run <:+: text → run.all test = true → run.length < limit

theorem Below.part (below : Below limit test text) (inside : left <:+: text) : Below limit test left :=
  fun run own passed => below run (own.trans inside) passed

theorem below_short (short : text.length < limit) : Below limit test text :=
  fun _ own _ => own.length_le.trans_lt short

theorem below_cut (fails : test mark = false) :
    Below limit test (left ++ mark :: right) ↔ Below limit test left ∧ Below limit test right := by
  constructor
  · intro below
    exact ⟨below.part List.infix_append_left,
      below.part ((List.infix_cons List.infix_rfl).trans List.infix_append_right)⟩
  · rintro ⟨front, back⟩ run inside passed
    rcases List.infix_append_iff.mp inside with own | own | ⟨before, after, rfl, ends, begins⟩
    · exact front run own passed
    · rcases List.infix_cons_iff.mp own with first | later
      · cases run with
        | nil => exact back [] List.nil_infix rfl
        | cons head rest =>
          obtain ⟨rfl, -⟩ := List.cons_prefix_cons.mp first
          simp [fails] at passed
      · exact back run later passed
    · cases after with
      | nil =>
        rw [List.append_nil] at passed ⊢
        exact front before ends.isInfix passed
      | cons head rest =>
        obtain ⟨rfl, -⟩ := List.cons_prefix_cons.mp begins
        simp [fails] at passed

theorem below_cons (fails : test mark = false) :
    Below limit test (mark :: right) ↔ Below limit test [] ∧ Below limit test right :=
  @below_cut α limit test [] right mark fails

theorem Below.map {function : α → α} (below : Below limit test text)
    (same : ∀ element ∈ text, test (function element) = test element) :
    Below limit test (text.map function) := by
  rintro run ⟨front, back, split⟩ passed
  obtain ⟨before, others, rfl, halves, -⟩ := List.append_eq_map_iff.mp split
  obtain ⟨first, own, rfl, -, rfl⟩ := List.map_eq_append_iff.mp halves
  rw [List.length_map]
  refine below own ⟨first, others, rfl⟩ (List.all_eq_true.mpr fun element member => ?_)
  rw [← same element (by simp [member])]
  exact List.all_eq_true.mp passed _ (List.mem_map_of_mem member)

end Below

section Split

variable {α : Type} [DecidableEq α] {separator : α} {text : List α}

theorem nil_not_mem_splitOn (some : text ≠ []) (first : separator ∉ text.head?)
    (last : separator ∉ text.getLast?) (apart : ¬ [separator, separator] <:+: text) :
    [] ∉ text.splitOn separator := by
  intro member
  obtain ⟨left, right, split⟩ := List.append_of_mem member
  have joined : text = [separator].intercalate (left ++ [] :: right) := by
    rw [← split, List.intercalate_splitOn]
  by_cases leftNone : left = [] <;> by_cases rightNone : right = []
  · simp [leftNone, rightNone] at joined
    exact some joined
  · rw [leftNone, List.nil_append, List.intercalate_cons_of_ne_nil rightNone] at joined
    exact first (by simp [joined])
  · rw [rightNone, intercalate_append leftNone (by simp)] at joined
    exact last (by simp [joined])
  · rw [intercalate_append leftNone (by simp), List.intercalate_cons_of_ne_nil rightNone] at joined
    exact apart ⟨[separator].intercalate left, [separator].intercalate right, by simp [joined]⟩

end Split

section Blanks

open String (atEnd_of_valid extract_of_valid get_of_valid next_of_valid ofList utf8Len utf8Len_append)

theorem splitOnAux_blank (front word rest : List Char) (found : List String) :
    String.splitOnAux (ofList (front ++ word ++ rest)) " " ⟨utf8Len front⟩
      ⟨utf8Len front + utf8Len word⟩ 0 found =
        found.reverse ++ (List.splitOnPPrepend (· == ' ') rest word.reverse).map ofList := by
  induction rest generalizing front word found with
  | nil =>
    have ended := (atEnd_of_valid (front ++ word) []).mpr rfl
    rw [utf8Len_append] at ended
    rw [String.splitOnAux, if_pos ended, extract_of_valid]
    simp
  | cons character rest ih =>
    have more := mt (atEnd_of_valid (front ++ word) (character :: rest)).mp (List.cons_ne_nil _ _)
    have read := get_of_valid (front ++ word) (character :: rest)
    have next := next_of_valid (front ++ word) character rest
    have blank : String.Pos.Raw.get " " 0 = ' ' := by decide
    have last : String.Pos.Raw.next " " 0 = ⟨1⟩ := by decide
    have ended : String.Pos.Raw.atEnd " " ⟨1⟩ = true := by decide
    have size : ' '.utf8Size = 1 := by decide
    rw [utf8Len_append] at more read next
    rw [String.splitOnAux, if_neg more, read, next, blank, last, List.headD_cons]
    simp only [ended, if_true]
    by_cases same : character = ' '
    · subst same
      rw [if_pos (by decide)]
      have back : (⟨utf8Len front + utf8Len word + ' '.utf8Size⟩ : String.Pos.Raw).unoffsetBy ⟨1⟩ =
          ⟨utf8Len front + utf8Len word⟩ := by
        rw [size]
        rfl
      have later := ih (front ++ word ++ [' ']) [] (ofList word :: found)
      have whole : front ++ word ++ [' '] ++ [] ++ rest = front ++ word ++ ' ' :: rest := by simp
      simp only [utf8Len_append, whole] at later
      simp only [String.utf8Len_cons, String.utf8Len_nil, Nat.zero_add, Nat.add_zero] at later
      rw [back, extract_of_valid, later]
      simp [List.splitOnPPrepend_cons_eq_if]
    · have back : (⟨utf8Len front + utf8Len word⟩ : String.Pos.Raw).unoffsetBy 0 =
          ⟨utf8Len front + utf8Len word⟩ := rfl
      have later := ih front (word ++ [character]) found
      rw [if_neg (by simpa using same), back, next]
      have whole : front ++ (word ++ [character]) ++ rest = front ++ word ++ character :: rest := by simp
      simp only [utf8Len_append, whole] at later
      simp only [String.utf8Len_cons, String.utf8Len_nil, Nat.zero_add, ← Nat.add_assoc] at later
      rw [later]
      simp [List.splitOnPPrepend_cons_eq_if, same]

theorem splitOn_blank (text : List Char) :
    (ofList text).splitOn " " = (text.splitOn ' ').map ofList := by
  have whole := splitOnAux_blank [] [] text []
  rw [String.splitOn, if_neg (by decide)]
  exact whole

end Blanks

end Runs
