import FireflyToolkit.Shared.PyBuiltins
import Mathlib.Data.List.DropRight

set_option autoImplicit false

namespace PyText

open PyBuiltins (isSpace)

-- `str.strip`, for the characters that pass the test.
def stripOf (removed : Char → Bool) (text : List Char) : List Char :=
  (text.dropWhile removed).rdropWhile removed

def strip (text : List Char) : List Char := stripOf isSpace text

section Strip

variable {removed smaller : Char → Bool} {text : List Char}

@[simp] theorem stripOf_nil : stripOf removed [] = [] := rfl

theorem dropWhile_kept (kept : ∀ character ∈ text, removed character = false) :
    text.dropWhile removed = text := by
  cases text with
  | nil => rfl
  | cons character rest => rw [List.dropWhile_cons_of_neg (by simp [kept character])]

theorem stripOf_kept (kept : ∀ character ∈ text, removed character = false) :
    stripOf removed text = text := by
  rw [stripOf, dropWhile_kept kept, List.rdropWhile, dropWhile_kept (by simpa using kept),
    List.reverse_reverse]

theorem stripOf_ends {left middle right : List Char} (leftSome : left ≠ []) (rightSome : right ≠ [])
    (leftKept : ∀ character ∈ left, removed character = false)
    (rightKept : ∀ character ∈ right, removed character = false) :
    stripOf removed (left ++ (middle ++ right)) = left ++ (middle ++ right) := by
  obtain ⟨first, later, rfl⟩ := List.exists_cons_of_ne_nil leftSome
  obtain ⟨before, last, split⟩ := (List.eq_nil_or_concat right).resolve_left rightSome
  obtain rfl : right = before ++ [last] := split.trans List.concat_eq_append
  have firstKept := leftKept first (by simp)
  have lastKept := rightKept last (by simp)
  rw [stripOf, List.cons_append, List.dropWhile_cons_of_neg (by simp [firstKept]), ← List.append_assoc,
    ← List.append_assoc, ← List.cons_append, List.rdropWhile_concat_neg _ _ _ (by simp [lastKept])]

theorem stripOf_map {function : Char → Char} (text : List Char) :
    stripOf removed (text.map function) = (stripOf (removed ∘ function) text).map function := by
  simp [stripOf, List.rdropWhile, List.dropWhile_map, ← List.map_reverse]

theorem stripOf_stripOf (part : ∀ character, smaller character = true → removed character = true)
    (text : List Char) : stripOf removed (stripOf smaller text) = stripOf removed text := by
  have front : ∀ text : List Char, (text.dropWhile smaller).dropWhile removed =
      text.dropWhile removed := by
    intro text
    induction text with
    | nil => rfl
    | cons character rest ih =>
      cases first : smaller character with
      | true => simp [first, part character first, ih]
      | false => rw [List.dropWhile_cons_of_neg (by simp [first])]
  have back : ∀ text : List Char, ((text.rdropWhile smaller).dropWhile removed).rdropWhile removed =
      (text.dropWhile removed).rdropWhile removed := by
    intro text
    induction text using List.reverseRecOn with
    | nil => rfl
    | append_singleton rest character ih =>
      cases last : smaller character with
      | false => rw [List.rdropWhile_concat_neg _ _ _ (by simp [last])]
      | true =>
        rw [List.rdropWhile_concat_pos _ _ _ last, ih, List.dropWhile_append]
        split_ifs with none
        · simp [List.isEmpty_iff.mp none, part character last]
        · rw [List.rdropWhile_concat_pos _ _ _ (part character last)]
  rw [stripOf, stripOf, back, front, stripOf]

theorem stripOf_infix (text : List Char) : stripOf removed text <:+: text :=
  (List.rdropWhile_prefix _ _).isInfix.trans (List.dropWhile_suffix _).isInfix

theorem mem_stripOf {character : Char} (member : character ∈ text)
    (kept : removed character = false) : character ∈ stripOf removed text := by
  have front : character ∈ text.dropWhile removed := by
    rw [← List.takeWhile_append_dropWhile (p := removed) (l := text)] at member
    rcases List.mem_append.mp member with dropped | rest
    · have passes := List.mem_takeWhile_imp dropped
      rw [kept] at passes
      simp at passes
    · exact rest
  rw [stripOf, List.rdropWhile, List.mem_reverse]
  have back := List.mem_reverse.mpr front
  rw [← List.takeWhile_append_dropWhile (p := removed) (l := (text.dropWhile removed).reverse)] at back
  rcases List.mem_append.mp back with dropped | rest
  · have passes := List.mem_takeWhile_imp dropped
    rw [kept] at passes
    simp at passes
  · exact rest

theorem stripOf_append_left {front : List Char} (dropped : ∀ character ∈ front, removed character = true)
    (text : List Char) : stripOf removed (front ++ text) = stripOf removed text := by
  rw [stripOf, List.dropWhile_append_of_pos dropped, stripOf]

theorem head_stripOf {first : Char} (kept : removed first = false) (rest : List Char) :
    (stripOf removed (first :: rest)).head? = some first := by
  have some' : (first :: rest).rdropWhile removed ≠ [] := by
    intro none
    have all := List.rdropWhile_eq_nil_iff.mp none first (by simp)
    simp [kept] at all
  obtain ⟨head, tail, split⟩ := List.exists_cons_of_ne_nil some'
  have initial : head :: tail <+: first :: rest := split ▸ List.rdropWhile_prefix _ _
  rw [stripOf, List.dropWhile_cons_of_neg (by simp [kept]), split]
  exact congrArg some (List.cons_prefix_cons.mp initial).1

def Trimmed (removed : Char → Bool) (text : List Char) : Prop :=
  (∀ character ∈ text.head?, removed character = false) ∧
    ∀ character ∈ text.getLast?, removed character = false

theorem trimmed_iff {first last : Char} (head : text.head? = some first)
    (final : text.getLast? = some last) :
    Trimmed removed text ↔ removed first = false ∧ removed last = false := by
  simp [Trimmed, head, final]

theorem stripOf_trimmed (text : List Char) : Trimmed removed (stripOf removed text) := by
  refine ⟨fun character first => ?_, fun character last => ?_⟩
  · obtain ⟨rest, split⟩ := List.head?_eq_some_iff.mp first
    obtain ⟨after, whole⟩ := @List.rdropWhile_prefix Char removed (text.dropWhile removed)
    have head := List.head?_dropWhile_not removed text
    rw [← whole, ← stripOf, split] at head
    simpa using head
  · have some : stripOf removed text ≠ [] := by
      rintro none
      simp [none] at last
    have kept := List.rdropWhile_last_not removed (text.dropWhile removed) some
    obtain rfl := Option.some.inj ((List.getLast?_eq_some_getLast some).symm.trans last)
    exact eq_false_of_ne_true kept

theorem Trimmed.stripOf (trimmed : Trimmed removed text) : stripOf removed text = text := by
  have front : text.dropWhile removed = text := by
    cases text with
    | nil => rfl
    | cons first rest => rw [List.dropWhile_cons_of_neg (by simp [trimmed.1 first rfl])]
  rw [PyText.stripOf, front]
  refine List.rdropWhile_eq_self_iff.mpr fun some => ?_
  simp [trimmed.2 _ (List.getLast?_eq_some_getLast some)]

end Strip

-- `str.split()`: the current word, and what is left of the text.
def wordsFrom (current : List Char) : List Char → List (List Char)
  | [] => if current = [] then [] else [current]
  | character :: rest =>
      if isSpace character then
        if current = [] then wordsFrom [] rest else current :: wordsFrom [] rest
      else wordsFrom (current ++ [character]) rest

def words (text : List Char) : List (List Char) := wordsFrom [] text

def isLineBreak (character : Char) : Bool :=
  let code := character.toNat
  decide ((10 ≤ code ∧ code ≤ 13) ∨ (28 ≤ code ∧ code ≤ 30) ∨ code = 0x85 ∨ code = 0x2028 ∨
    code = 0x2029)

-- `str.splitlines()`; the line feed after a carriage return belongs to the same break.
def linesFrom (current : List Char) (afterReturn : Bool) : List Char → List (List Char)
  | [] => if current = [] then [] else [current]
  | character :: rest =>
      if afterReturn && character == '\n' then linesFrom current false rest
      else if isLineBreak character then current :: linesFrom [] (character == '\r') rest
      else linesFrom (current ++ [character]) false rest

def splitLines (text : List Char) : List (List Char) := linesFrom [] false text

theorem wordsFrom_word {word : List Char} (solid : ∀ character ∈ word, isSpace character = false)
    (current rest : List Char) : wordsFrom current (word ++ rest) = wordsFrom (current ++ word) rest := by
  induction word generalizing current with
  | nil => simp
  | cons character word ih =>
    have first := solid character (by simp)
    rw [List.cons_append, wordsFrom, first, if_neg (by simp),
      ih fun other member => solid other (by simp [member])]
    simp

theorem words_blank {word : List Char} (solid : ∀ character ∈ word, isSpace character = false)
    (some : word ≠ []) (rest : List Char) : words (word ++ ' ' :: rest) = word :: words rest := by
  have blank : isSpace ' ' = true := by decide
  rw [words, wordsFrom_word solid, List.nil_append, wordsFrom, if_pos blank, if_neg some, words]

theorem words_last {word : List Char} (solid : ∀ character ∈ word, isSpace character = false)
    (some : word ≠ []) : words word = [word] := by
  have whole := wordsFrom_word solid [] []
  rw [List.append_nil, List.nil_append] at whole
  rw [words, whole, wordsFrom, if_neg some]

-- `str.removesuffix`
def removeSuffix (suffix text : List Char) : List Char :=
  if suffix <:+ text then text.take (text.length - suffix.length) else text

@[simp] theorem removeSuffix_append (text suffix : List Char) :
    removeSuffix suffix (text ++ suffix) = text := by
  rw [removeSuffix, if_pos (List.suffix_append text suffix)]
  simp

theorem removeSuffix_other {text suffix : List Char} (some : suffix ≠ [])
    (other : ∀ character ∈ suffix, character ∉ text.getLast?) : removeSuffix suffix text = text := by
  refine if_neg ?_
  rintro ⟨front, rfl⟩
  have last := List.getLast?_eq_some_getLast some
  refine other _ (List.getLast_mem some) ?_
  rw [List.getLast?_append_of_ne_nil _ some, last]
  rfl

/-- ASCII and the only letter beyond it that is looked for. -/
def IsPlain (character : Char) : Prop := character.toNat < 128 ∨ character = 'ź'

instance (character : Char) : Decidable (IsPlain character) :=
  inferInstanceAs (Decidable (_ ∨ _))

def plainDigit (character : Char) : Option Nat :=
  if character.isDigit then some (character.toNat - 48) else none

def plainAlpha (character : Char) : Bool := character.isAlpha || character == 'ź'

def plainUpper (text : List Char) : List Char :=
  text.map fun character => if character = 'ź' then 'Ź' else character.toUpper

def plainLower (text : List Char) : List Char := text.map Char.toLower

/-- What Python's Unicode tables say of decimal digits, letters and their cases. Plain texts are
fixed. -/
structure UnicodeTables where
  decimal : Char → Option Nat
  isAlpha : Char → Bool
  upper : List Char → List Char
  lower : List Char → List Char
  decimal_lt : ∀ character digit, decimal character = some digit → digit < 10
  decimal_plain : ∀ character, IsPlain character → decimal character = plainDigit character
  isAlpha_plain : ∀ character, IsPlain character → isAlpha character = plainAlpha character
  upper_plain : ∀ text, (∀ character ∈ text, IsPlain character) → upper text = plainUpper text
  lower_plain : ∀ text, (∀ character ∈ text, IsPlain character) → lower text = plainLower text

def plainTables : UnicodeTables where
  decimal := plainDigit
  isAlpha := plainAlpha
  upper := plainUpper
  lower := plainLower
  decimal_lt := by
    intro character digit found
    unfold plainDigit at found
    split_ifs at found with isDigit
    have bounds : 48 ≤ character.toNat ∧ character.toNat ≤ 57 := by
      simpa [Char.isDigit, Char.le_def, UInt32.le_iff_toNat_le] using isDigit
    have value := Option.some.inj found
    omega
  decimal_plain _ _ := rfl
  isAlpha_plain _ _ := rfl
  upper_plain _ _ := rfl
  lower_plain _ _ := rfl

end PyText
