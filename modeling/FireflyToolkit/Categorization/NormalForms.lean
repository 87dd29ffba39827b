import FireflyToolkit.Categorization.Similarity
import FireflyToolkit.Domain.Numerals
import FireflyToolkit.Shared.PyText
import FireflyToolkit.Shared.Runs

set_option autoImplicit false

namespace FireflyToolkit.Categorization

open PyBuiltins PyText Runs

structure IsNormal (text : List Char) : Prop where
  ascii : ∀ character ∈ text, character.toNat < 128
  lower : ∀ character ∈ text, character.isUpper = false
  trimmed : Trimmed isSpace text
  blank : ∀ character ∈ text, isSpace character = true → character = ' '
  apart : Below 2 isSpace text
  shortNumbers : Below 6 Char.isDigit text

theorem isNormal_nil : IsNormal [] where
  ascii := by simp
  lower := by simp
  trimmed := ⟨by simp, by simp⟩
  blank := by simp
  apart := below_short (Nat.succ_pos 1)
  shortNumbers := below_short (Nat.succ_pos 5)

def finished (ascii : List Char) : List Char :=
  strip (TextPreprocessor.collapseSpaces false ((TextPreprocessor.dropLongNumbers [] ascii).map Char.toLower))

section Characters

variable {character : Char}

theorem toLower_ascii (ascii : character.toNat < 128) :
    character.toLower.toNat < 128 ∧ character.toLower.isUpper = false ∧
      character.toLower.isDigit = character.isDigit := by
  have every : ∀ code < 128, (Char.ofNat code).toLower.toNat < 128 ∧
      (Char.ofNat code).toLower.isUpper = false ∧
      (Char.ofNat code).toLower.isDigit = (Char.ofNat code).isDigit := by decide
  simpa [Char.ofNat_toNat] using every character.toNat ascii

theorem toLower_fixed (ascii : character.toNat < 128) (lower : character.isUpper = false) :
    character.toLower = character := by
  have every : ∀ code < 128, (Char.ofNat code).isUpper = false →
      (Char.ofNat code).toLower = Char.ofNat code := by decide
  have own := every character.toNat ascii
  rw [Char.ofNat_toNat] at own
  exact own lower

theorem space_not_digit (space : isSpace character = true) : character.isDigit = false := by
  cases digit : character.isDigit with
  | false => rfl
  | true =>
    rw [Numerals.isSpace_digit digit] at space
    cases space

theorem translate_ascii (ascii : character.toNat < 128) :
    TextPreprocessor.translate character = character := by
  have beyond : ∀ pair ∈ TextPreprocessor.diacritics, 128 ≤ pair.1.toNat := by decide
  have missing : TextPreprocessor.diacritics.lookup character = none := by
    refine List.lookup_eq_none_iff.mpr fun pair member => ?_
    have large := beyond pair member
    rw [bne_iff_ne]
    rintro rfl
    omega
  rw [TextPreprocessor.translate, missing]
  rfl

end Characters

section Numbers

open TextPreprocessor (dropLongNumbers)

variable {digits text : List Char}

theorem dropLongNumbers_all {own : Char → Prop} (blank : own ' ')
    (read : ∀ character ∈ digits, own character) (every : ∀ character ∈ text, own character) :
    ∀ character ∈ dropLongNumbers digits text, own character := by
  induction text generalizing digits with
  | nil =>
    rw [dropLongNumbers]
    split_ifs
    · simpa using blank
    · exact read
  | cons character rest ih =>
    obtain ⟨first, later⟩ := List.forall_mem_cons.mp every
    have clean := ih (List.forall_mem_nil own) later
    rw [dropLongNumbers]
    split_ifs
    · exact ih (List.forall_mem_append.mpr ⟨read, by simpa using first⟩) later
    · exact List.forall_mem_cons.mpr ⟨blank, List.forall_mem_cons.mpr ⟨first, clean⟩⟩
    · exact List.forall_mem_append.mpr ⟨read, List.forall_mem_cons.mpr ⟨first, clean⟩⟩

theorem dropLongNumbers_below (digits text : List Char) :
    Below 6 Char.isDigit (dropLongNumbers digits text) := by
  have blank : Char.isDigit ' ' = false := by decide
  induction text generalizing digits with
  | nil =>
    rw [dropLongNumbers]
    split_ifs with long
    · exact below_short (by decide)
    · exact below_short (by omega)
  | cons character rest ih =>
    rw [dropLongNumbers]
    split_ifs with digit long
    · exact ih (digits ++ [character])
    · have other := eq_false_of_ne_true digit
      exact (below_cons blank).mpr ⟨below_short (by decide),
        (below_cons other).mpr ⟨below_short (by decide), ih []⟩⟩
    · have other := eq_false_of_ne_true digit
      exact (below_cut other).mpr ⟨below_short (by omega), ih []⟩

theorem dropLongNumbers_short (all : digits.all Char.isDigit = true)
    (below : Below 6 Char.isDigit (digits ++ text)) : dropLongNumbers digits text = digits ++ text := by
  have short : digits.length < 6 := below digits List.infix_append_left all
  induction text generalizing digits with
  | nil => rw [dropLongNumbers, if_neg (by omega), List.append_nil]
  | cons character rest ih =>
    rw [dropLongNumbers]
    split_ifs with digit long
    · have more : (digits ++ [character]).all Char.isDigit = true := by simp [all, digit]
      have same : digits ++ [character] ++ rest = digits ++ character :: rest := by simp
      rw [← same] at below ⊢
      exact ih more below (below _ List.infix_append_left more)
    · omega
    · have later := ((below_cut (eq_false_of_ne_true digit)).mp below).2
      have same := @ih [] rfl later (by decide)
      rw [same, List.nil_append]

end Numbers

section Spaces

open TextPreprocessor (collapseSpaces)

variable {afterSpace : Bool} {text : List Char} {character : Char}

theorem collapseSpaces_all {own : Char → Prop} (blank : own ' ')
    (every : ∀ character ∈ text, isSpace character = false → own character) :
    ∀ character ∈ collapseSpaces afterSpace text, own character := by
  induction text generalizing afterSpace with
  | nil => exact List.forall_mem_nil own
  | cons next rest ih =>
    obtain ⟨first, later⟩ := List.forall_mem_cons.mp every
    rw [collapseSpaces]
    split_ifs with space after
    · exact ih later
    · exact List.forall_mem_cons.mpr ⟨blank, ih later⟩
    · exact List.forall_mem_cons.mpr ⟨first (eq_false_of_ne_true space), ih later⟩

theorem collapseSpaces_head (first : character ∈ (collapseSpaces true text).head?) :
    isSpace character = false := by
  induction text with
  | nil => simp [collapseSpaces] at first
  | cons next rest ih =>
    cases space : isSpace next with
    | true =>
      rw [collapseSpaces, if_pos space, if_pos rfl] at first
      exact ih first
    | false =>
      rw [collapseSpaces, if_neg (by simp [space])] at first
      rwa [← Option.some.inj first]

theorem collapseSpaces_apart (afterSpace : Bool) (text : List Char) :
    Below 2 isSpace (collapseSpaces afterSpace text) := by
  induction text generalizing afterSpace with
  | nil => exact below_short (Nat.succ_pos 1)
  | cons next rest ih =>
    rw [collapseSpaces]
    split_ifs with space after
    · exact ih true
    · cases collapsed : collapseSpaces true rest with
      | nil => exact below_short (by decide)
      | cons head tail =>
        have solid : isSpace head = false := collapseSpaces_head (by rw [collapsed]; rfl)
        have later := ih true
        rw [collapsed] at later
        exact (@below_cut Char 2 isSpace [' '] tail head solid).mpr
          ⟨below_short (by decide), later.part (List.infix_cons List.infix_rfl)⟩
    · exact (below_cons (eq_false_of_ne_true space)).mpr ⟨below_short (by decide), ih false⟩

-- No digits come together: where white space is dropped a blank stands before it.
theorem collapseSpaces_numbers (front : List Char) (blank : afterSpace = true → front = [])
    (below : Below 6 Char.isDigit (front ++ text)) :
    Below 6 Char.isDigit (front ++ collapseSpaces afterSpace text) := by
  have own : Char.isDigit ' ' = false := by decide
  induction text generalizing front afterSpace with
  | nil => exact below
  | cons next rest ih =>
    rw [collapseSpaces]
    split_ifs with space after
    · rw [blank after] at below ⊢
      exact ih [] (fun _ => rfl) (below.part (List.infix_cons List.infix_rfl))
    · obtain ⟨before, later⟩ := (below_cut (space_not_digit space)).mp below
      exact (below_cut own).mpr ⟨before, ih [] (fun _ => rfl) later⟩
    · have same : ∀ back, front ++ next :: back = front ++ [next] ++ back := by simp
      rw [same] at below ⊢
      exact ih (front ++ [next]) (by simp) below

theorem collapseSpaces_fixed (blanks : ∀ character ∈ text, isSpace character = true → character = ' ')
    (apart : Below 2 isSpace ((if afterSpace then [' '] else []) ++ text)) :
    collapseSpaces afterSpace text = text := by
  have own : isSpace ' ' = true := by decide
  induction text generalizing afterSpace with
  | nil => rfl
  | cons next rest ih =>
    obtain ⟨first, later⟩ := List.forall_mem_cons.mp blanks
    rw [collapseSpaces]
    split_ifs with space after
    · have two := apart [' ', next] ⟨[], rest, by simp [after]⟩ (by simp [own, space])
      simp at two
    · obtain rfl := first space
      rw [@ih true later (by simpa [after] using apart)]
    · have solid := (below_cut (eq_false_of_ne_true space)).mp apart
      rw [@ih false later solid.2]

end Spaces

section Finished

variable {text : List Char}

theorem finished_isNormal (ascii : ∀ character ∈ text, character.toNat < 128) :
    IsNormal (finished text) := by
  have inside : ∀ character ∈ TextPreprocessor.dropLongNumbers [] text, character.toNat < 128 :=
    dropLongNumbers_all (by decide) (by simp) ascii
  have lowered : ∀ character ∈ (TextPreprocessor.dropLongNumbers [] text).map Char.toLower,
      character.toNat < 128 ∧ character.isUpper = false := by
    refine List.forall_mem_map.mpr fun character member => ?_
    have own := toLower_ascii (inside character member)
    exact ⟨own.1, own.2.1⟩
  have numbers : Below 6 Char.isDigit ((TextPreprocessor.dropLongNumbers [] text).map Char.toLower) :=
    (dropLongNumbers_below [] text).map fun character member => (toLower_ascii (inside character member)).2.2
  have collapsed : ∀ character ∈ TextPreprocessor.collapseSpaces false
      ((TextPreprocessor.dropLongNumbers [] text).map Char.toLower),
      (character.toNat < 128 ∧ character.isUpper = false) ∧
        (isSpace character = true → character = ' ') := by
    refine collapseSpaces_all ⟨by decide, fun _ => rfl⟩ fun character member solid => ?_
    exact ⟨lowered character member, fun space => by simp [solid] at space⟩
  have part : finished text <:+: TextPreprocessor.collapseSpaces false
      ((TextPreprocessor.dropLongNumbers [] text).map Char.toLower) := stripOf_infix _
  exact {
    ascii := fun character member => (collapsed character (part.subset member)).1.1
    lower := fun character member => (collapsed character (part.subset member)).1.2
    trimmed := stripOf_trimmed _
    blank := fun character member => (collapsed character (part.subset member)).2
    apart := (collapseSpaces_apart false _).part part
    shortNumbers := (collapseSpaces_numbers [] (fun _ => rfl) numbers).part part }

theorem IsNormal.finished (normal : IsNormal text) : finished text = text := by
  have short := @dropLongNumbers_short [] text rfl normal.shortNumbers
  have lower : text.map Char.toLower = text := by
    refine (List.map_congr_left fun character member => ?_).trans (List.map_id text)
    exact toLower_fixed (normal.ascii character member) (normal.lower character member)
  rw [Categorization.finished, short, List.nil_append, lower,
    @collapseSpaces_fixed false text normal.blank normal.apart]
  exact normal.trimmed.stripOf

theorem IsNormal.nil_not_mem_splitOn (normal : IsNormal text) (some : text ≠ []) :
    [] ∉ text.splitOn ' ' := by
  have blank : isSpace ' ' = true := by decide
  refine Runs.nil_not_mem_splitOn some (fun first => ?_) (fun last => ?_) fun two => ?_
  · exact absurd (normal.trimmed.1 ' ' first) (by simp [blank])
  · exact absurd (normal.trimmed.2 ' ' last) (by simp [blank])
  · have few := normal.apart [' ', ' '] two (by decide)
    simp at few

end Finished

namespace TextPreprocessor

variable {F : Type} {texts : TextLibrary F}

-- Unicode's decomposition leaves ASCII as it is.
def NfkdKeepsAscii (texts : TextLibrary F) : Prop :=
  ∀ text : String, (∀ character ∈ text.toList, character.toNat < 128) → texts.nfkd text = text

theorem normalize_isNormal (value : Option String) : IsNormal (normalize texts value).toList := by
  cases value with
  | none => exact isNormal_nil
  | some value =>
    unfold normalize
    dsimp only
    split_ifs with none
    · exact isNormal_nil
    · rw [String.toList_ofList]
      refine finished_isNormal fun character member => ?_
      simpa using (List.mem_filter.mp member).2

theorem normalize_fixed (keeps : NfkdKeepsAscii texts) {value : String} (normal : IsNormal value.toList) :
    normalize texts (some value) = value := by
  have trimmed : stripped value.toList = value.toList := normal.trimmed.stripOf
  have translated : value.toList.map translate = value.toList := by
    refine (List.map_congr_left fun character member => ?_).trans (List.map_id value.toList)
    exact translate_ascii (normal.ascii character member)
  have ascii : value.toList.filter (fun character => decide (character.toNat < 128)) = value.toList :=
    List.filter_eq_self.mpr fun character member => decide_eq_true (normal.ascii character member)
  unfold normalize
  dsimp only
  rw [trimmed, String.ofList_toList, keeps value normal.ascii, translated, ascii]
  split_ifs with none
  · exact (String.toList_eq_nil_iff.mp none).symm
  · exact (congrArg String.ofList normal.finished).trans String.ofList_toList

-- What `normalize` returns is in normal form and stays as it is, so that its tokens are those of
-- the text, and none is empty.
theorem normalize_normal_form (texts : TextLibrary F) (keeps : NfkdKeepsAscii texts)
    (value : Option String) :
    IsNormal (normalize texts value).toList ∧
      normalize texts (some (normalize texts value)) = normalize texts value ∧
      "" ∉ tokens texts value ∧
      tokens texts (some (normalize texts value)) = tokens texts value := by
  have normal := @normalize_isNormal F texts value
  have fixed := normalize_fixed keeps normal
  refine ⟨normal, fixed, fun member => ?_, ?_⟩
  · unfold tokens at member
    dsimp only at member
    split_ifs at member with none
    · simp at member
    · have parts := List.mem_dedup.mp member
      rw [← @String.ofList_toList (normalize texts value), splitOn_blank] at parts
      obtain ⟨part, own, empty⟩ := List.mem_map.mp parts
      rw [String.ofList_eq_empty_iff] at empty
      have some : (normalize texts value).toList ≠ [] := mt String.toList_eq_nil_iff.mp none
      exact normal.nil_not_mem_splitOn some (empty ▸ own)
  · unfold tokens
    dsimp only
    rw [fixed]

theorem normalize_normal_form_title :
    NfkdKeepsAscii (⟨id, id, fun _ _ => 0⟩ : TextLibrary Nat) ∧
      normalize (⟨id, id, fun _ _ => 0⟩ : TextLibrary Nat) (some " Sok 1234567\t\tABC ") = "sok abc" ∧
      normalize (⟨id, id, fun _ _ => 0⟩ : TextLibrary Nat) (some "sok abc") = "sok abc" := by
  have keeps : NfkdKeepsAscii (⟨id, id, fun _ _ => 0⟩ : TextLibrary Nat) := fun _ _ => rfl
  have title : normalize (⟨id, id, fun _ _ => 0⟩ : TextLibrary Nat) (some " Sok 1234567\t\tABC ") =
      "sok abc" := by decide
  have whole := normalize_normal_form ⟨id, id, fun _ _ => 0⟩ keeps (some " Sok 1234567\t\tABC ")
  rw [title] at whole
  exact ⟨keeps, title, whole.2.1⟩

end TextPreprocessor

end FireflyToolkit.Categorization
