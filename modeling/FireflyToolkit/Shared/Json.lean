import FireflyToolkit.Shared.Doubles
import FireflyToolkit.Shared.OrderedDict
import FireflyToolkit.Shared.Prefixes
import Mathlib.Data.List.Forall2
import Mathlib.Data.List.TakeWhile

set_option autoImplicit false

/-- What `json.loads` returns. A text is the list of its code points, for an escape may stand for
half of a surrogate pair. -/
inductive Json
  | null
  | bool (value : Bool)
  | int (value : Int)
  | float (value : Double)
  | string (codes : List Nat)
  | array (items : List Json)
  | object (members : List (List Nat × Json))

namespace Json

open OrderedDict (setEntry)

def isBlank (character : Char) : Bool :=
  character == ' ' || character == '\t' || character == '\n' || character == '\r'

def skip (text : List Char) : List Char := text.dropWhile isBlank

def escapeOf : Char → Option Nat
  | '"' => some 0x22
  | '\\' => some 0x5C
  | '/' => some 0x2F
  | 'b' => some 0x08
  | 'f' => some 0x0C
  | 'n' => some 0x0A
  | 'r' => some 0x0D
  | 't' => some 0x09
  | _ => none

def hexValue (character : Char) : Option Nat :=
  let code := character.toNat
  if 48 ≤ code ∧ code ≤ 57 then some (code - 48)
  else if 65 ≤ code ∧ code ≤ 70 then some (code - 55)
  else if 97 ≤ code ∧ code ≤ 102 then some (code - 87)
  else none

inductive Place
  | plain
  | escaped
  | hex (owed code : Nat)

/-- The code points up to the quote that closes the string, and what follows it. -/
def scanString : Place → List Char → Option (List Nat × List Char)
  | _, [] => none
  | .plain, character :: rest =>
      if character = '"' then some ([], rest)
      else if character = '\\' then scanString .escaped rest
      else if character.toNat < 0x20 then none
      else (scanString .plain rest).map fun (codes, later) => (character.toNat :: codes, later)
  | .escaped, character :: rest =>
      if character = 'u' then scanString (.hex 4 0) rest
      else
        match escapeOf character with
        | none => none
        | some code => (scanString .plain rest).map fun (codes, later) => (code :: codes, later)
  | .hex owed code, character :: rest =>
      match hexValue character with
      | none => none
      | some digit =>
          if owed ≤ 1 then
            (scanString .plain rest).map fun (codes, later) => ((code * 16 + digit) :: codes, later)
          else scanString (.hex (owed - 1) (code * 16 + digit)) rest

def joinSurrogates : List Nat → List Nat
  | high :: low :: rest =>
      if 0xD800 ≤ high ∧ high ≤ 0xDBFF ∧ 0xDC00 ≤ low ∧ low ≤ 0xDFFF then
        (0x10000 + ((high - 0xD800) * 0x400 + (low - 0xDC00))) :: joinSurrogates rest
      else high :: joinSurrogates (low :: rest)
  | codes => codes

def readString (text : List Char) : Option (List Nat × List Char) :=
  (scanString .plain text).map fun (codes, rest) => (joinSurrogates codes, rest)

def digitsOf (text : List Char) : List Char × List Char :=
  (text.takeWhile Char.isDigit, text.dropWhile Char.isDigit)

def integerPart : List Char → Option (List Char × List Char)
  | '0' :: rest => some (['0'], rest)
  | text => if (digitsOf text).1 = [] then none else some (digitsOf text)

def fractionPart : List Char → List Char × List Char
  | '.' :: rest => if (digitsOf rest).1 = [] then ([], '.' :: rest) else digitsOf rest
  | text => ([], text)

def readSign : List Char → Bool × List Char
  | '-' :: rest => (true, rest)
  | '+' :: rest => (false, rest)
  | text => (false, text)

def exponentPart (text : List Char) : Option Int × List Char :=
  if text.head? = some 'e' ∨ text.head? = some 'E' then
    let (negative, body) := readSign text.tail
    let (digits, rest) := digitsOf body
    let size : Int := Nat.ofDigitChars 10 digits 0
    if digits = [] then (none, text) else (some (if negative then -size else size), rest)
  else (none, text)

-- `int` refuses numerals of more digits than this.
def maxStrDigits : Nat := 4300

def number (text : List Char) : Option (Json × List Char) :=
  let negative := text.head? == some '-'
  match integerPart (if negative then text.tail else text) with
  | none => none
  | some (integer, afterInteger) =>
      let (fraction, afterFraction) := fractionPart afterInteger
      let (exponent, rest) := exponentPart afterFraction
      let size := Nat.ofDigitChars 10 (integer ++ fraction) 0
      if fraction = [] ∧ exponent = none then
        if maxStrDigits < integer.length then none
        else some (.int (if negative then -(size : Int) else size), rest)
      else
        let scaled : ℚ := size * 10 ^ (exponent.getD 0 - fraction.length)
        some (.float (.nearest (if negative then -scaled else scaled)), rest)

def constants : List (List Char × Json) :=
  [(['n', 'u', 'l', 'l'], .null), (['t', 'r', 'u', 'e'], .bool true),
    (['f', 'a', 'l', 's', 'e'], .bool false), (['N', 'a', 'N'], .float .nan),
    (['I', 'n', 'f', 'i', 'n', 'i', 't', 'y'], .float (.infinity false)),
    (['-', 'I', 'n', 'f', 'i', 'n', 'i', 't', 'y'], .float (.infinity true))]

def constant (text : List Char) : Option (Json × List Char) :=
  constants.findSome? fun (word, value) =>
    if word <+: text then some (value, text.drop word.length) else none

mutual

/-- The fuel bounds how deep the calls are nested. -/
def value : Nat → List Char → Option (Json × List Char)
  | 0, _ => none
  | fuel + 1, text =>
      if text.head? = some '"' then
        (readString text.tail).map fun (codes, rest) => (.string codes, rest)
      else if text.head? = some '[' then
        let inside := skip text.tail
        if inside.head? = some ']' then some (.array [], inside.tail)
        else (elements fuel inside).map fun (items, rest) => (.array items, rest)
      else if text.head? = some '{' then
        let inside := skip text.tail
        if inside.head? = some '}' then some (.object [], inside.tail)
        else (members fuel [] inside).map fun (found, rest) => (.object found, rest)
      else (constant text).or (number text)

def elements : Nat → List Char → Option (List Json × List Char)
  | 0, _ => none
  | fuel + 1, text =>
      match value fuel text with
      | none => none
      | some (item, rest) =>
          let after := skip rest
          if after.head? = some ']' then some ([item], after.tail)
          else if after.head? = some ',' then
            (elements fuel (skip after.tail)).map fun (items, rest) => (item :: items, rest)
          else none

/-- A key that comes again gets a new value. -/
def members : Nat → List (List Nat × Json) → List Char → Option (List (List Nat × Json) × List Char)
  | 0, _, _ => none
  | fuel + 1, found, text =>
      if text.head? = some '"' then
        match readString text.tail with
        | none => none
        | some (key, rest) =>
            let colon := skip rest
            if colon.head? = some ':' then
              match value fuel (skip colon.tail) with
              | none => none
              | some (item, rest) =>
                  let after := skip rest
                  if after.head? = some '}' then some (setEntry key item found, after.tail)
                  else if after.head? = some ',' then
                    members fuel (setEntry key item found) (skip after.tail)
                  else none
            else none
      else none

end

-- `json.loads`, with `none` for its exceptions.
def loads (text : List Char) : Option Json :=
  if text.head? = some '\uFEFF' then none
  else
    match value (2 * text.length + 1) (skip text) with
    | none => none
    | some (item, rest) => if skip rest = [] then some item else none

def HexDigits (digits : List Char) (code : Nat) : Prop :=
  ∃ first second third fourth,
    digits.map hexValue = [some first, some second, some third, some fourth] ∧
      code = ((first * 16 + second) * 16 + third) * 16 + fourth

inductive Written (character : Char) : List Char → Prop
  | plain (notQuote : character ≠ '"') (notBackslash : character ≠ '\\')
      (printable : 0x20 ≤ character.toNat) : Written character [character]
  | short (letter : Char) (escape : escapeOf letter = some character.toNat) :
      Written character ['\\', letter]
  | unicode (digits : List Char) (code : HexDigits digits character.toNat) :
      Written character ('\\' :: 'u' :: digits)
  | pair (first second : List Char) (high low : Nat) (highCode : HexDigits first high)
      (lowCode : HexDigits second low) (highRange : 0xD800 ≤ high ∧ high ≤ 0xDBFF)
      (lowRange : 0xDC00 ≤ low ∧ low ≤ 0xDFFF)
      (code : character.toNat = 0x10000 + ((high - 0xD800) * 0x400 + (low - 0xDC00))) :
      Written character ('\\' :: 'u' :: (first ++ '\\' :: 'u' :: second))

def IsItem (text item : List Char) : Prop :=
  ∃ before parts after, before.all isBlank = true ∧ after.all isBlank = true ∧
    List.Forall₂ Written text parts ∧ item = before ++ '"' :: (parts.flatten ++ '"' :: after)

def StringArray (texts : List (List Char)) (text : List Char) : Prop :=
  ∃ left items right, left.all isBlank = true ∧ right.all isBlank = true ∧
    List.Forall₂ IsItem texts items ∧ text = left ++ '[' :: ([','].intercalate items ++ ']' :: right)

section Strings

variable {character : Char} {written digits rest : List Char} {code : Nat}

theorem scanString_hex (hex : HexDigits digits code) (rest : List Char) :
    scanString (.hex 4 0) (digits ++ rest) =
      (scanString .plain rest).map fun (codes, later) => (code :: codes, later) := by
  obtain ⟨first, second, third, fourth, values, rfl⟩ := hex
  obtain ⟨one, others, rfl, ownOne, values⟩ := List.map_eq_cons_iff.mp values
  obtain ⟨two, others, rfl, ownTwo, values⟩ := List.map_eq_cons_iff.mp values
  obtain ⟨three, others, rfl, ownThree, values⟩ := List.map_eq_cons_iff.mp values
  obtain ⟨four, others, rfl, ownFour, values⟩ := List.map_eq_cons_iff.mp values
  obtain rfl := List.map_eq_nil_iff.mp values
  simp [scanString, ownOne, ownTwo, ownThree, ownFour]

theorem scanString_escape (rest : List Char) :
    scanString .plain ('\\' :: rest) = scanString .escaped rest := by
  rw [scanString, if_neg (by decide), if_pos rfl]

theorem scanString_unicode (hex : HexDigits digits code) (rest : List Char) :
    scanString .plain ('\\' :: 'u' :: (digits ++ rest)) =
      (scanString .plain rest).map fun (codes, later) => (code :: codes, later) := by
  rw [scanString_escape, scanString, if_pos rfl, scanString_hex hex]

theorem joinSurrogates_character (character : Char) (codes : List Nat) :
    joinSurrogates (character.toNat :: codes) = character.toNat :: joinSurrogates codes := by
  have range : ¬ (0xD800 ≤ character.toNat ∧ character.toNat ≤ 0xDBFF) := by
    rcases character.valid with below | above
    · exact fun high => absurd (Nat.lt_of_le_of_lt high.1 below) (by decide)
    · exact fun high => absurd (Nat.lt_of_lt_of_le above.1 high.2) (by decide)
  cases codes with
  | nil => rfl
  | cons next later => rw [joinSurrogates, if_neg fun pair => range ⟨pair.1, pair.2.1⟩]

theorem Written.scanned (own : Written character written) :
    ∃ units, (∀ rest, scanString .plain (written ++ rest) =
        (scanString .plain rest).map fun (codes, later) => (units ++ codes, later)) ∧
      ∀ codes, joinSurrogates (units ++ codes) = character.toNat :: joinSurrogates codes := by
  cases own with
  | plain notQuote notBackslash printable =>
    refine ⟨[character.toNat], fun rest => ?_, joinSurrogates_character character⟩
    rw [List.singleton_append, scanString, if_neg notQuote, if_neg notBackslash, if_neg (by omega)]
    rfl
  | short letter escape =>
    have notUnicode : letter ≠ 'u' := by
      rintro rfl
      cases escape
    refine ⟨[character.toNat], fun rest => ?_, joinSurrogates_character character⟩
    rw [List.cons_append, scanString_escape, List.singleton_append, scanString, if_neg notUnicode, escape]
    rfl
  | unicode digits hex =>
    exact ⟨[character.toNat], fun rest => scanString_unicode hex rest,
      joinSurrogates_character character⟩
  | pair first second high low highCode lowCode highRange lowRange code =>
    refine ⟨[high, low], fun rest => ?_, fun codes => ?_⟩
    · rw [List.cons_append, List.cons_append, List.append_assoc, scanString_unicode highCode,
        List.cons_append, List.cons_append, scanString_unicode lowCode, Option.map_map]
      rfl
    · rw [List.cons_append, List.singleton_append, joinSurrogates,
        if_pos ⟨highRange.1, highRange.2, lowRange⟩, code]

theorem readString_written {text : List Char} {parts : List (List Char)}
    (own : List.Forall₂ Written text parts) (rest : List Char) :
    readString (parts.flatten ++ '"' :: rest) = some (text.map Char.toNat, rest) := by
  have scanned : ∃ units, scanString .plain (parts.flatten ++ '"' :: rest) = some (units, rest) ∧
      joinSurrogates units = text.map Char.toNat := by
    induction own with
    | nil => exact ⟨[], by simp [scanString], rfl⟩
    | cons first others ih =>
      obtain ⟨units, later, joined⟩ := ih
      obtain ⟨front, scan, join⟩ := first.scanned
      refine ⟨front ++ units, ?_, ?_⟩
      · rw [List.flatten_cons, List.append_assoc, scan, later]
        rfl
      · rw [join, joined, List.map_cons]
  obtain ⟨units, scan, joined⟩ := scanned
  rw [readString, scan, ← joined]
  rfl

example : readString "a\\n\\u0142\\ud83d\\ude00\"]".toList = some ([97, 10, 322, 128512], [']']) := by
  decide

def isPlain (character : Char) : Bool :=
  character != '"' && character != '\\' && decide (0x20 ≤ character.toNat)

theorem isItem_plain {before after text : List Char} (blanks : before.all isBlank = true)
    (blanksAfter : after.all isBlank = true) (plain : text.all isPlain = true) :
    IsItem text (before ++ '"' :: (text ++ '"' :: after)) := by
  have parts : List.Forall₂ Written text (text.map fun character => [character]) := by
    refine List.forall₂_map_right_iff.mpr (List.forall₂_same.mpr fun character member => ?_)
    have own := List.all_eq_true.mp plain character member
    simp only [isPlain, Bool.and_eq_true, bne_iff_ne, decide_eq_true_eq] at own
    exact .plain own.1.1 own.1.2 own.2
  have flat : (text.map fun character => [character]).flatten = text := List.flatMap_singleton' text
  exact ⟨before, _, after, blanks, blanksAfter, parts, by rw [flat]⟩

end Strings

section Arrays

variable {before rest text item : List Char} {first : Char} {texts items : List (List Char)}

theorem skip_blanks (blanks : before.all isBlank = true) (solid : isBlank first = false) :
    skip (before ++ first :: rest) = first :: rest := by
  rw [skip, List.dropWhile_append_of_pos (List.all_eq_true.mp blanks),
    List.dropWhile_cons_of_neg (by simp [solid])]

theorem value_written {parts : List (List Char)} (own : List.Forall₂ Written text parts) (fuel : Nat)
    (rest : List Char) : value (fuel + 1) ('"' :: (parts.flatten ++ '"' :: rest)) =
      some (.string (text.map Char.toNat), rest) := by
  rw [value, if_pos List.head?_cons, List.tail_cons, readString_written own]
  rfl

def stringOf (text : List Char) : Json := .string (text.map Char.toNat)

theorem IsItem.last (own : IsItem text item) (fuel : Nat) (rest : List Char) :
    elements (fuel + 2) (skip (item ++ ']' :: rest)) = some ([stringOf text], rest) := by
  obtain ⟨before, parts, after, blanks, blanks', written, rfl⟩ := own
  simp only [List.append_assoc, List.cons_append]
  rw [skip_blanks blanks (by decide), elements, value_written written]
  simp only [skip_blanks blanks' (show isBlank ']' = false by decide)]
  rfl

theorem IsItem.more (own : IsItem text item) (fuel : Nat) (rest : List Char) :
    elements (fuel + 2) (skip (item ++ ',' :: rest)) =
      (elements (fuel + 1) (skip rest)).map fun (items, later) => (stringOf text :: items, later) := by
  obtain ⟨before, parts, after, blanks, blanks', written, rfl⟩ := own
  simp only [List.append_assoc, List.cons_append]
  rw [skip_blanks blanks (by decide), elements, value_written written]
  simp only [skip_blanks blanks' (show isBlank ',' = false by decide)]
  rfl

theorem elements_items (own : List.Forall₂ IsItem texts items) (nonempty : texts ≠ []) {fuel : Nat}
    (enough : texts.length < fuel) (rest : List Char) :
    elements fuel (skip ([','].intercalate items ++ ']' :: rest)) = some (texts.map stringOf, rest) := by
  induction own generalizing fuel with
  | nil => exact absurd rfl nonempty
  | @cons text item texts items first others ih =>
    obtain ⟨more, rfl⟩ : ∃ more, fuel = more + 2 :=
      Nat.exists_eq_add_of_le' (by rw [List.length_cons] at enough; omega)
    cases others with
    | nil =>
      rw [List.intercalate_singleton, first.last]
      rfl
    | cons next later =>
      rw [List.intercalate_cons_cons, List.append_assoc, List.append_assoc, List.singleton_append,
        first.more, ih (by simp) (by rw [List.length_cons] at enough; omega)]
      rfl

theorem items_head (own : List.Forall₂ IsItem texts items) (nonempty : texts ≠ []) (rest : List Char) :
    (skip ([','].intercalate items ++ rest)).head? = some '"' := by
  cases own with
  | nil => exact absurd rfl nonempty
  | @cons text item texts items first others =>
    obtain ⟨before, parts, after, blanks, -, -, rfl⟩ := first
    have split : ∃ more, [','].intercalate ((before ++ '"' :: (parts.flatten ++ '"' :: after)) :: items) ++
        rest = before ++ '"' :: more := by
      cases items with
      | nil => exact ⟨parts.flatten ++ '"' :: (after ++ rest), by simp⟩
      | cons next later =>
        exact ⟨parts.flatten ++ '"' :: (after ++ ',' :: ([','].intercalate (next :: later) ++ rest)), by simp⟩
    obtain ⟨more, same⟩ := split
    rw [same, skip_blanks blanks (by decide)]
    rfl

theorem length_items (own : List.Forall₂ IsItem texts items) :
    texts.length ≤ ([','].intercalate items).length + 1 := by
  rw [own.length_eq, Prefixes.length_intercalate]
  omega

theorem loads_stringArray (own : StringArray texts text) (nonempty : texts ≠ []) :
    loads text = some (.array (texts.map stringOf)) := by
  obtain ⟨left, items, right, blanks, blanks', written, rfl⟩ := own
  have noMark : (left ++ '[' :: ([','].intercalate items ++ ']' :: right)).head? ≠ some '\uFEFF' := by
    cases left with
    | nil => simp
    | cons first others =>
      rintro marked
      obtain rfl := Option.some.inj marked
      simp [isBlank] at blanks
  have head := items_head written nonempty (']' :: right)
  have count := length_items written
  have read := @elements_items texts items written nonempty
    (2 * (left ++ '[' :: ([','].intercalate items ++ ']' :: right)).length)
    (by
      simp only [List.length_append, List.length_cons]
      omega) right
  rw [loads, if_neg noMark, skip_blanks blanks (by decide), value, if_neg (by simp), if_pos (by simp)]
  dsimp only [List.tail_cons]
  rw [if_neg (by rw [head]; simp), read]
  have closed : skip right = [] := List.dropWhile_eq_nil_iff.mpr (List.all_eq_true.mp blanks')
  simp [closed]

end Arrays

end Json
