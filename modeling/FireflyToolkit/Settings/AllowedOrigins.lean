import FireflyToolkit.Domain.Transaction
import FireflyToolkit.Shared.Json
import FireflyToolkit.Shared.PyText

set_option autoImplicit false

namespace FireflyToolkit.Settings

open Json (StringArray stringOf)
open PyBuiltins (isSpace)
open PyText

-- What the origins are set to; of another object the text is shown that an f-string makes of it.
inductive OriginsValue
  | none
  | str (value : List Char)
  | list (items : List Json)
  | other (shown : String)

def parseAllowedOrigins : OriginsValue → Except PyError Json
  | .none => .ok (.array [stringOf ['*']])
  | .str value =>
      if strip value = ['*'] then .ok (.array [stringOf ['*']])
      else if ',' ∈ value then
        .ok (.array ((value.splitOn ',').map fun item => stringOf (strip item)))
      else if ['['] <+: strip value then
        match Json.loads value with
        | some origins => .ok origins
        | none => .error (.valueError "ALLOWED_ORIGINS must be valid JSON list")
      else .ok (.array [stringOf value])
  | .list items => .ok (.array items)
  | .other shown => .error (.valueError ("Invalid ALLOWED_ORIGINS format: " ++ shown))

structure IsOrigin (origin : List Char) : Prop where
  nonempty : origin ≠ []
  noComma : ',' ∉ origin
  noBracket : origin.head? ≠ some '['
  trimmed : Trimmed isSpace origin
  notStar : origin ≠ ['*']

def CommaList (origins : List (List Char)) (text : List Char) : Prop :=
  ∃ first later items, origins = first :: later ∧
    List.Forall₂ (fun origin item => ∃ blanks, blanks.all isSpace = true ∧ item = blanks ++ origin)
      later items ∧
    text = [','].intercalate (first :: items)

def Parses (text : List Char) (origins : List (List Char)) : Prop :=
  parseAllowedOrigins (.str text) = .ok (.array (origins.map stringOf))

section Notations

variable {origin text : List Char} {origins : List (List Char)}

theorem stringOf_injective : Function.Injective stringOf := by
  intro left right same
  have codes : left.map Char.toNat = right.map Char.toNat := Json.string.inj same
  exact List.map_injective_iff.mpr (Function.LeftInverse.injective Char.ofNat_toNat) codes

theorem comma_solid : isSpace ',' = false := by decide

-- A text with a comma is taken for a list with commas, whatever else it is.
theorem parseAllowedOrigins_comma (comma : ',' ∈ text) : parseAllowedOrigins (.str text) =
    .ok (.array ((text.splitOn ',').map fun item => stringOf (strip item))) := by
  have notStar : strip text ≠ ['*'] := by
    intro star
    have inside := mem_stripOf comma comma_solid
    rw [← strip, star] at inside
    simp at inside
  rw [parseAllowedOrigins, if_neg notStar, if_pos comma]

theorem IsOrigin.stripped (own : IsOrigin origin) : strip origin = origin := own.trimmed.stripOf

theorem IsOrigin.alone (own : IsOrigin origin) : Parses origin [origin] := by
  have noBracket : ¬ ['['] <+: origin := by
    rintro ⟨rest, rfl⟩
    exact own.noBracket rfl
  rw [Parses, parseAllowedOrigins, own.stripped, if_neg own.notStar, if_neg own.noComma, if_neg noBracket]
  rfl

theorem items_stripped {items : List (List Char)} (own : ∀ origin ∈ origins, IsOrigin origin)
    (blanked : List.Forall₂ (fun origin item => ∃ blanks, blanks.all isSpace = true ∧
      item = blanks ++ origin) origins items) :
    (∀ item ∈ items, ',' ∉ item) ∧ items.map strip = origins := by
  induction blanked with
  | nil => simp
  | @cons origin item later items head tail ih =>
    obtain ⟨firstOwn, laterOwn⟩ := List.forall_mem_cons.mp own
    obtain ⟨clean, stripped⟩ := ih laterOwn
    obtain ⟨blanks, spaces, rfl⟩ := head
    have noComma : ',' ∉ blanks ++ origin := by
      rintro member
      rcases List.mem_append.mp member with inside | inside
      · have space := List.all_eq_true.mp spaces ',' inside
        simp [comma_solid] at space
      · exact firstOwn.noComma inside
    have own' : strip (blanks ++ origin) = origin :=
      (stripOf_append_left (List.all_eq_true.mp spaces) origin).trans firstOwn.stripped
    exact ⟨List.forall_mem_cons.mpr ⟨noComma, clean⟩, by rw [List.map_cons, own', stripped]⟩

theorem parses_commaList (own : ∀ origin ∈ origins, IsOrigin origin) (written : CommaList origins text) :
    Parses text origins := by
  obtain ⟨first, later, items, rfl, blanked, rfl⟩ := written
  obtain ⟨firstOwn, laterOwn⟩ := List.forall_mem_cons.mp own
  obtain ⟨clean, stripped⟩ := items_stripped laterOwn blanked
  cases items with
  | nil =>
    cases blanked
    simpa using firstOwn.alone
  | cons item items =>
    have comma : ',' ∈ [','].intercalate (first :: item :: items) := by simp
    have noComma : ∀ part ∈ first :: item :: items, ',' ∉ part :=
      List.forall_mem_cons.mpr ⟨firstOwn.noComma, clean⟩
    have parts : (first :: item :: items).map (fun part => stringOf (strip part)) =
        (first :: later).map stringOf := by
      simp [← stripped, firstOwn.stripped]
    rw [Parses, parseAllowedOrigins_comma comma, List.splitOn_intercalate ',' noComma (by simp), parts]

theorem written_noComma {character : Char} {written : List Char} (own : Json.Written character written)
    (other : character ≠ ',') : ',' ∉ written := by
  have hex : ∀ {digits code}, Json.HexDigits digits code → ',' ∉ digits := by
    rintro digits code ⟨first, second, third, fourth, values, -⟩ member
    have value := List.mem_map_of_mem (f := Json.hexValue) member
    rw [values] at value
    simp [Json.hexValue] at value
  cases own with
  | plain => simpa using other.symm
  | short letter escape =>
    simp only [List.mem_cons, List.not_mem_nil, or_false, not_or]
    refine ⟨by decide, ?_⟩
    rintro rfl
    cases escape
  | unicode digits code => simpa using hex code
  | pair first second high low highCode lowCode => simpa using ⟨hex highCode, hex lowCode⟩

theorem blank_space {blanks : List Char} (own : blanks.all Json.isBlank = true) :
    ∀ character ∈ blanks, isSpace character = true := by
  intro character member
  have blank := List.all_eq_true.mp own character member
  simp only [Json.isBlank, Bool.or_eq_true, beq_iff_eq] at blank
  rcases blank with ((rfl | rfl) | rfl) | rfl <;> decide

theorem blanks_noComma {blanks : List Char} (own : blanks.all Json.isBlank = true) : ',' ∉ blanks := by
  intro member
  have space := blank_space own ',' member
  simp [comma_solid] at space

theorem strip_bracket {blanks : List Char} (own : blanks.all Json.isBlank = true) (rest : List Char) :
    (strip (blanks ++ '[' :: rest)).head? = some '[' := by
  rw [strip, stripOf_append_left (blank_space own)]
  exact head_stripOf (by decide) rest

theorem item_noComma {item : List Char} (own : IsOrigin origin) (written : Json.IsItem origin item) :
    ',' ∉ item := by
  obtain ⟨before, parts, after, blanks, blanks', parts', rfl⟩ := written
  have inside : ',' ∉ parts.flatten := by
    have noComma := own.noComma
    clear own
    induction parts' with
    | nil => simp
    | cons head tail ih =>
      simp only [List.mem_cons, not_or] at noComma
      simp only [List.flatten_cons, List.mem_append, not_or]
      exact ⟨written_noComma head (Ne.symm noComma.1), ih noComma.2⟩
  simp [blanks_noComma blanks, blanks_noComma blanks', inside]

theorem IsOrigin.parses_json (own : IsOrigin origin) (written : StringArray [origin] text) :
    Parses text [origin] := by
  have loaded := Json.loads_stringArray written (by simp)
  obtain ⟨left, items, right, blanks, blanks', listed, rfl⟩ := written
  cases listed with
  | @cons _ item _ _ head tail =>
    cases tail
    rw [List.intercalate_singleton] at loaded ⊢
    have noComma : ',' ∉ left ++ '[' :: (item ++ ']' :: right) := by
      simp [blanks_noComma blanks, blanks_noComma blanks', item_noComma own head]
    obtain ⟨rest, split⟩ := List.head?_eq_some_iff.mp (strip_bracket blanks (item ++ ']' :: right))
    rw [Parses, parseAllowedOrigins, split, if_neg (by simp), if_neg noComma, if_pos (by simp), loaded]

theorem not_parses_json {first second : List Char} {later : List (List Char)} (own : IsOrigin first)
    (written : StringArray (first :: second :: later) text) : ¬ Parses text (first :: second :: later) := by
  obtain ⟨left, items, right, blanks, blanks', listed, rfl⟩ := written
  have comma : ',' ∈ [','].intercalate items := by
    cases listed with
    | cons head tail =>
      cases tail with
      | cons next others => simp
  obtain ⟨front, back, split, clean⟩ := List.eq_append_cons_of_mem comma
  have noComma : ',' ∉ left ++ '[' :: front := by
    simp [blanks_noComma blanks, clean]
  have whole : left ++ '[' :: ([','].intercalate items ++ ']' :: right) =
      (left ++ '[' :: front) ++ ',' :: (back ++ ']' :: right) := by
    simp [split]
  have bracket := strip_bracket blanks front
  intro parses
  rw [Parses, parseAllowedOrigins_comma (by simp [split]), whole,
    List.splitOn_append_cons_self_of_not_mem noComma, List.map_cons, List.map_cons] at parses
  have same := (List.cons.inj (Json.array.inj (Except.ok.inj parses))).1
  rw [stringOf_injective same] at bracket
  exact own.noBracket bracket

theorem parseAllowedOrigins_notations_iff (origins : List (List Char)) (jsonText csvText : List Char)
    (nonempty : origins ≠ []) (own : ∀ origin ∈ origins, IsOrigin origin)
    (json : StringArray origins jsonText) (csv : CommaList origins csvText) :
    (Parses jsonText origins ∧ Parses csvText origins) ↔ origins.length = 1 := by
  obtain ⟨first, rest, rfl⟩ := List.exists_cons_of_ne_nil nonempty
  have firstOwn := own first (by simp)
  cases rest with
  | nil => simp [firstOwn.parses_json json, parses_commaList own csv]
  | cons second later => simp [not_parses_json firstOwn json]

end Notations

namespace Sample

def first : List Char := "https://a.com".toList

def second : List Char := "https://b.com".toList

def jsonText : List Char := "[\"https://a.com\", \"https://b.com\"]".toList

theorem isOrigin_first : IsOrigin first :=
  ⟨by decide, by decide, by decide, (trimmed_iff rfl rfl).mpr ⟨by decide, by decide⟩, by decide⟩

theorem isOrigin_second : IsOrigin second :=
  ⟨by decide, by decide, by decide, (trimmed_iff rfl rfl).mpr ⟨by decide, by decide⟩, by decide⟩

theorem stringArray_jsonText : StringArray [first, second] jsonText := by
  have item : Json.IsItem first "\"https://a.com\"".toList :=
    @Json.isItem_plain [] [] first rfl rfl (by decide)
  have item' : Json.IsItem second " \"https://b.com\"".toList :=
    @Json.isItem_plain [' '] [] second (by decide) rfl (by decide)
  exact ⟨[], _, [], rfl, rfl, .cons item (.cons item' .nil), by decide⟩

end Sample

theorem parseAllowedOrigins_notations_one :
    (Parses "[\"https://a.com\"]".toList [Sample.first] ∧ Parses "https://a.com".toList [Sample.first]) ↔
      [Sample.first].length = 1 := by
  have item : Json.IsItem Sample.first "\"https://a.com\"".toList :=
    @Json.isItem_plain [] [] Sample.first rfl rfl (by decide)
  have json : StringArray [Sample.first] "[\"https://a.com\"]".toList :=
    ⟨[], _, [], rfl, rfl, .cons item .nil, by decide⟩
  have csv : CommaList [Sample.first] "https://a.com".toList :=
    ⟨Sample.first, [], [], rfl, .nil, by decide⟩
  exact parseAllowedOrigins_notations_iff [Sample.first] _ _ (by simp)
    (by simpa using Sample.isOrigin_first) json csv

-- The JSON list of both origins is cut at its comma.
theorem parseAllowedOrigins_jsonText :
    (IsOrigin Sample.first ∧ IsOrigin Sample.second ∧
        StringArray [Sample.first, Sample.second] Sample.jsonText) ∧
      parseAllowedOrigins (.str Sample.jsonText) =
        .ok (.array (["[\"https://a.com\"", "\"https://b.com\"]"].map fun part => stringOf part.toList)) ∧
      ¬ Parses Sample.jsonText [Sample.first, Sample.second] := by
  have parts : (Sample.jsonText.splitOn ',').map strip =
      ["[\"https://a.com\"", "\"https://b.com\"]"].map String.toList := by decide
  have parsed : parseAllowedOrigins (.str Sample.jsonText) =
      .ok (.array (["[\"https://a.com\"", "\"https://b.com\"]"].map fun part => stringOf part.toList)) := by
    have strings := congrArg (List.map stringOf) parts
    rw [List.map_map, List.map_map] at strings
    rw [parseAllowedOrigins_comma (by decide)]
    exact congrArg (fun items => Except.ok (Json.array items)) strings
  exact ⟨⟨Sample.isOrigin_first, Sample.isOrigin_second, Sample.stringArray_jsonText⟩, parsed,
    not_parses_json Sample.isOrigin_first Sample.stringArray_jsonText⟩

end FireflyToolkit.Settings
