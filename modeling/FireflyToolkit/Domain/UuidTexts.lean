import FireflyToolkit.Domain.Identifiers
import FireflyToolkit.Domain.Numerals

set_option autoImplicit false

namespace FireflyToolkit

open Numerals PyText

section Reading

variable (tables : UnicodeTables)

def groupedHex (afterDigit : Bool) (value : Nat) : List Char → Option Nat
  | [] => if afterDigit then some value else none
  | character :: rest =>
      if character = '_' then (if afterDigit then groupedHex false value rest else none)
      else (hexDigit character).bind fun digit => groupedHex true (16 * value + digit) rest

-- An underscore may follow the prefix.
def withoutPrefix (body : List Char) : List Char :=
  if "0x".toList <+: body ∨ "0X".toList <+: body then
    let digits := body.drop 2
    if "_".toList <+: digits then digits.drop 1 else digits
  else body

-- `int(text, 16)` of a text without a minus.
def hexNumber (text : List Char) : Option Nat :=
  groupedHex false 0 (withoutPrefix (readSign (trimmed tables text)).2)

-- `UUID(text)`, with `none` for its `ValueError`; `UUID.parse` knows plain digits only.
def uuidOf (text : String) : Option UUID :=
  let bare := removeAll "uuid:".toList 0 (removeAll "urn:".toList 0 text.toList)
  let hex := (stripBraces bare).filter (· ≠ '-')
  if hex.length = 32 then (hexNumber tables hex).map UUID.mk else none

example : uuidOf plainTables "{0x111111-1111-1111-1111-111111111111}" =
    some ⟨0x111111111111111111111111111111⟩ := by decide
example : uuidOf plainTables "+1_1_1111-1111-1111-1111-1111111 1" = none := by decide

end Reading

section Written

variable {tables : UnicodeTables} {text : List Char} {value : Nat}

theorem groupedHex_readHex {number : Nat} (read : readHex value text = some number) (some : text ≠ [])
    (afterDigit : Bool) : groupedHex afterDigit value text = .some number := by
  induction text generalizing value afterDigit with
  | nil => exact absurd rfl some
  | cons character rest ih =>
    rw [readHex] at read
    obtain ⟨digit, isDigit, later⟩ := Option.bind_eq_some_iff.mp read
    have plain : character ≠ '_' := by
      rintro rfl
      cases isDigit
    rw [groupedHex, if_neg plain, isDigit, Option.bind_some]
    by_cases last : rest = []
    · subst last
      exact later
    · exact ih later last true

theorem readHex_mem {number : Nat} (read : readHex value text = some number) {character : Char}
    (member : character ∈ text) : ∃ digit, hexDigit character = some digit := by
  induction text generalizing value with
  | nil => cases member
  | cons first rest ih =>
    rw [readHex] at read
    obtain ⟨digit, isDigit, later⟩ := Option.bind_eq_some_iff.mp read
    rcases List.mem_cons.mp member with rfl | inRest
    · exact ⟨digit, isDigit⟩
    · exact ih later inRest

theorem hexDigit_solid {character : Char} {digit : Nat} (isDigit : hexDigit character = some digit) :
    character.toNat < 127 ∧ PyBuiltins.isSpace character = false := by
  unfold hexDigit at isDigit
  dsimp only at isDigit
  split_ifs at isDigit <;> simp only [PyBuiltins.isSpace] <;> refine ⟨by omega, ?_⟩ <;> simp <;> omega

theorem hexNumber_digits {number : Nat} (read : readHex 0 text = some number) (some : text ≠ []) :
    hexNumber tables text = .some number := by
  have digits := @readHex_mem _ _ _ read
  have solid : Solid text := fun character member => (hexDigit_solid (digits member).choose_spec).2
  have form : trimmed tables text = text := by
    rw [trimmed_solid solid, map_asciiForm fun character member =>
      (hexDigit_solid (digits member).choose_spec).1]
  have absent : ∀ other, hexDigit other = none → other ∉ text := by
    intro other none member
    obtain ⟨digit, isDigit⟩ := digits member
    rw [none] at isDigit
    cases isDigit
  have unsigned : readSign text = (false, text) := by
    cases text with
    | nil => rfl
    | cons first rest =>
      have minus : first ≠ '-' := fun same => absent '-' rfl (by simp [same])
      have plus : first ≠ '+' := fun same => absent '+' rfl (by simp [same])
      rw [readSign, if_neg minus, if_neg plus]
  have bare : withoutPrefix text = text := by
    refine if_neg ?_
    rintro (⟨rest, rfl⟩ | ⟨rest, rfl⟩)
    · exact absent 'x' rfl (by simp)
    · exact absent 'X' rfl (by simp)
  rw [hexNumber, form, unsigned, bare]
  exact groupedHex_readHex read some false

theorem uuidOf_parse {text : String} {id : UUID} (parsed : UUID.parse text = some id) :
    uuidOf tables text = some id := by
  unfold UUID.parse at parsed
  unfold uuidOf
  dsimp only at parsed ⊢
  split_ifs at parsed ⊢ with whole
  obtain ⟨number, read, same⟩ := Option.map_eq_some_iff.mp parsed
  have some := List.ne_nil_of_length_eq_add_one whole
  rw [hexNumber_digits read some, ← same]
  rfl

end Written

end FireflyToolkit
