import FireflyToolkit.Domain.Transaction
import FireflyToolkit.Shared.Doubles
import FireflyToolkit.Shared.PyText

set_option autoImplicit false

namespace FireflyToolkit

namespace Decimal

def isPositive : Decimal → Bool
  | finite negative coefficient _ => !negative && coefficient != 0
  | infinity negative => !negative
  | nan _ _ _ => false

def rational (negative : Bool) (coefficient : Nat) (exponent : Int) : ℚ :=
  (if negative then -1 else 1) * coefficient * 10 ^ exponent

-- `float(value)` of what is no signaling NaN
def toDouble : Decimal → Double
  | finite negative coefficient exponent => Double.nearest (rational negative coefficient exponent)
  | infinity negative => .infinity negative
  | nan _ _ _ => .nan

theorem scaled_rational {negative : Bool} {coefficient : Nat} {exponent low : Int} (bound : low ≤ exponent) :
    (scaled negative coefficient exponent low : ℚ) = rational negative coefficient exponent * 10 ^ (-low) := by
  have size : ((10 ^ (exponent - low).toNat : Int) : ℚ) = 10 ^ exponent * 10 ^ (-low) := by
    push_cast
    rw [← zpow_natCast, Int.toNat_of_nonneg (by omega), sub_eq_add_neg, zpow_add₀ (by norm_num)]
  cases negative with
  | true =>
    simp only [scaled, rational, if_true, Int.cast_neg, Int.cast_mul, Int.cast_natCast, size]
    ring
  | false =>
    simp only [scaled, rational, Bool.false_eq_true, if_false, Int.cast_mul, Int.cast_natCast, size]
    ring

theorem numEq_iff_rational {negative negative' : Bool} {coefficient coefficient' : Nat}
    {exponent exponent' : Int} :
    (finite negative coefficient exponent).numEq (finite negative' coefficient' exponent') = true ↔
      rational negative coefficient exponent = rational negative' coefficient' exponent' := by
  have scale : (10 : ℚ) ^ (-min exponent exponent') ≠ 0 := by positivity
  have left := @scaled_rational negative coefficient exponent _ (min_le_left exponent exponent')
  have right := @scaled_rational negative' coefficient' exponent' _ (min_le_right exponent exponent')
  rw [numEq_finite (min_le_left _ _) (min_le_right _ _), ← @Int.cast_inj ℚ, left, right,
    mul_left_inj' scale]

theorem rational_nonpos {negative : Bool} {coefficient : Nat} {exponent : Int}
    (nonpos : (finite negative coefficient exponent).isPositive = false) :
    rational negative coefficient exponent ≤ 0 := by
  have scale : (0 : ℚ) ≤ 10 ^ exponent := by positivity
  cases negative with
  | true =>
    have size : (0 : ℚ) ≤ coefficient * 10 ^ exponent := mul_nonneg (Nat.cast_nonneg _) scale
    rw [rational, if_pos rfl]
    linarith
  | false =>
    have zero : coefficient = 0 := by simpa [isPositive] using nonpos
    simp [rational, zero]

-- Rounding does not turn a number of hundredths or more into a zero.
theorem isPositive_toDouble {negative : Bool} {coefficient : Nat} {exponent : Int}
    (coarse : -2 ≤ exponent) :
    (finite negative coefficient exponent).toDouble.isPositive =
      (finite negative coefficient exponent).isPositive := by
  cases sign : (finite negative coefficient exponent).isPositive with
  | false => exact Double.isPositive_nearest_of_nonpos (rational_nonpos sign)
  | true =>
    simp only [isPositive, Bool.and_eq_true, Bool.not_eq_true', bne_iff_ne] at sign
    have one : (1 : ℚ) ≤ coefficient := Nat.one_le_cast.mpr (Nat.pos_of_ne_zero sign.2)
    have scale : (10 : ℚ) ^ (-2 : Int) ≤ 10 ^ exponent := zpow_le_zpow_right₀ (by norm_num) coarse
    refine Double.isPositive_nearest ?_
    calc (2 : ℚ) ^ (-1074 : Int) ≤ 2 ^ (-7 : Int) := zpow_le_zpow_right₀ (by norm_num) (by norm_num)
      _ ≤ 10 ^ (-2 : Int) := by norm_num
      _ ≤ 10 ^ exponent := scale
      _ ≤ coefficient * 10 ^ exponent := le_mul_of_one_le_left (by positivity) one
      _ = rational negative coefficient exponent := by simp [rational, sign.1]

end Decimal

namespace Numerals

open PyBuiltins (isSpace)
open PyText

def digitsValue (digits : List Char) : Nat := Nat.ofDigitChars 10 digits 0

def readSign : List Char → Bool × List Char
  | [] => (false, [])
  | character :: rest =>
      if character = '-' then (true, rest)
      else if character = '+' then (false, rest)
      else (false, character :: rest)

-- Underscores may stand between digits only.
def ungroup (afterDigit : Bool) : List Char → Option (List Char)
  | [] => some []
  | character :: rest =>
      if character = '_' then
        if afterDigit && rest.head?.any Char.isDigit then ungroup false rest else none
      else (ungroup character.isDigit rest).map (character :: ·)

def readExponent : List Char → Option Int
  | [] => some 0
  | character :: rest =>
      if character = 'e' ∨ character = 'E' then
        let (negative, digits) := readSign rest
        if digits ≠ [] ∧ digits.all Char.isDigit then
          some (if negative then -(digitsValue digits : Int) else digitsValue digits)
        else none
      else none

def readFraction : List Char → List Char × List Char
  | [] => ([], [])
  | character :: rest =>
      if character = '.' then (rest.takeWhile Char.isDigit, rest.dropWhile Char.isDigit)
      else ([], character :: rest)

def readUnsigned (negative : Bool) (body : List Char) : Option Decimal :=
  let word := body.map Char.toLower
  if word = "inf".toList ∨ word = "infinity".toList then some (.infinity negative)
  else if word = "nan".toList then some (.nan negative false 0)
  else
    let whole := body.takeWhile Char.isDigit
    let (fraction, tail) := readFraction (body.dropWhile Char.isDigit)
    if whole ++ fraction = [] then none
    else (readExponent tail).map fun exponent =>
      .finite negative (digitsValue (whole ++ fraction)) (exponent - fraction.length)

def readNumeral (text : List Char) : Option Decimal :=
  let (negative, body) := readSign text
  readUnsigned negative body

-- A NaN of `Decimal` may be a signaling one and have digits.
def readNan (negative : Bool) (body : List Char) : Option Decimal :=
  let word := body.map Char.toLower
  if "nan".toList.isPrefixOf word ∧ (word.drop 3).all Char.isDigit then
    some (.nan negative false (digitsValue (word.drop 3)))
  else if "snan".toList.isPrefixOf word ∧ (word.drop 4).all Char.isDigit then
    some (.nan negative true (digitsValue (word.drop 4)))
  else none

def readDecimal (text : List Char) : Option Decimal :=
  match readNumeral text with
  | some number => some number
  | none => readNan (readSign text).1 (readSign text).2

section Tables

variable (tables : UnicodeTables)

-- Digits of any script count as those of ASCII; other characters beyond it fit nowhere.
def asciiForm (character : Char) : Char :=
  if character.toNat < 127 then character
  else if isSpace character then ' '
  else
    match tables.decimal character with
    | some digit => Nat.digitChar digit
    | none => '?'

def isNumericSpace (character : Char) : Bool :=
  decide ((9 ≤ character.toNat ∧ character.toNat ≤ 13) ∨ character.toNat = 32)

def trimmed (text : List Char) : List Char :=
  stripOf isNumericSpace (text.map (asciiForm tables))

def maxStrDigits : Nat := 4300

-- `int(text)`, with `none` for its `ValueError`.
def readInt (text : List Char) : Option Int :=
  let (negative, body) := readSign (trimmed tables text)
  (ungroup false body).bind fun digits =>
    if digits ≠ [] ∧ digits.all Char.isDigit ∧ digits.length ≤ maxStrDigits then
      some (if negative then -(digitsValue digits : Int) else digitsValue digits)
    else none

-- The number that `float(text)` rounds, with `none` for its `ValueError`.
def floatNumber (text : List Char) : Option Decimal :=
  (ungroup false (trimmed tables text)).bind readNumeral

def pyFloat (text : List Char) : Option Double := (floatNumber tables text).map Decimal.toDouble

def decimalNumber (text : List Char) : Option Decimal :=
  readDecimal (((strip text).map (asciiForm tables)).filter (· ≠ '_'))

end Tables

def maxPrec : Int := 999999999999999999
def maxEmax : Int := 999999999999999999
def minEtiny : Int := -1999999999999999997

-- A number that is kept as it is written: neither its size nor its last digit is out of range.
def Fits (coefficient : Nat) (exponent : Int) : Prop :=
  minEtiny ≤ exponent ∧
    if coefficient = 0 then exponent ≤ maxEmax
    else ((toString coefficient).length : Int) ≤ maxPrec ∧
      exponent + (toString coefficient).length - 1 ≤ maxEmax

instance (coefficient : Nat) (exponent : Int) : Decidable (Fits coefficient exponent) :=
  inferInstanceAs (Decidable (_ ∧ _))

-- `Decimal(text)`
def decimalOf (tables : UnicodeTables) (text : String) : Except PyError Decimal :=
  match decimalNumber tables text.toList with
  | some (.finite negative coefficient exponent) =>
      if Fits coefficient exponent then .ok (.finite negative coefficient exponent)
      else .error .invalidOperation
  | some number => .ok number
  | none => .error .invalidOperation

example : readInt plainTables " -1_0 ".toList = some (-10) := by decide
example : floatNumber plainTables "-1234.50".toList = some (.finite true 123450 (-2)) := by decide
example : decimalNumber plainTables "-sNaN07".toList = some (.nan true true 7) := by decide

section Solid

theorem digit_bounds {character : Char} :
    character.isDigit = true ↔ 48 ≤ character.toNat ∧ character.toNat ≤ 57 := by
  simp [Char.isDigit, UInt32.le_iff_toNat_le]

theorem isSpace_digit {character : Char} (digit : character.isDigit = true) :
    isSpace character = false := by
  have bounds := digit_bounds.mp digit
  simp only [isSpace, decide_eq_false_iff_not]
  omega

theorem toLower_space {character : Char} (space : isSpace character = true) :
    character.toLower = character := by
  unfold Char.toLower
  split_ifs with upper
  · have bounds : 65 ≤ character.toNat ∧ character.toNat ≤ 90 := by
      simpa [Char.le_def, UInt32.le_iff_toNat_le] using upper
    simp only [isSpace, decide_eq_true_eq] at space
    omega
  · rfl

def Solid (text : List Char) : Prop := ∀ character ∈ text, isSpace character = false

instance (text : List Char) : Decidable (Solid text) :=
  List.decidableBAll (fun character => isSpace character = false) text

theorem solid_digits {digits : List Char} (all : digits.all Char.isDigit = true) : Solid digits :=
  fun character member => isSpace_digit (List.all_eq_true.mp all character member)

theorem solid_cons {character : Char} {rest : List Char} (first : isSpace character = false)
    (later : Solid rest) : Solid (character :: rest) := by
  intro other member
  rcases List.mem_cons.mp member with rfl | inRest
  · exact first
  · exact later other inRest

theorem readSign_solid {text : List Char} (body : Solid (readSign text).2) : Solid text := by
  cases text with
  | nil => exact body
  | cons character rest =>
    rw [readSign] at body
    split_ifs at body with minus plus
    · exact solid_cons (by rw [minus]; decide) body
    · exact solid_cons (by rw [plus]; decide) body
    · exact body

theorem readExponent_solid {text : List Char} {exponent : Int}
    (read : readExponent text = some exponent) : Solid text := by
  cases text with
  | nil => simp [Solid]
  | cons character rest =>
    simp only [readExponent, Option.ite_none_right_eq_some] at read
    obtain ⟨mark, ⟨-, digits⟩, -⟩ := read
    refine solid_cons ?_ (readSign_solid (solid_digits digits))
    rcases mark with rfl | rfl <;> decide

theorem solid_of_word {body word : List Char} (same : body.map Char.toLower = word)
    (solid : Solid word) : Solid body := by
  intro character member
  by_contra space
  have lowered := toLower_space (Bool.eq_true_of_not_eq_false space)
  have inWord : character ∈ word := same ▸ lowered ▸ List.mem_map_of_mem member
  exact space (solid character inWord)

theorem readFraction_solid {text : List Char} (later : Solid (readFraction text).2) : Solid text := by
  cases text with
  | nil => exact later
  | cons character rest =>
    rw [readFraction] at later
    split_ifs at later with point
    · refine solid_cons (by rw [point]; decide) ?_
      rw [← List.takeWhile_append_dropWhile (p := Char.isDigit) (l := rest)]
      intro other member
      rcases List.mem_append.mp member with digit | tail
      · exact isSpace_digit (List.mem_takeWhile_imp digit)
      · exact later other tail
    · exact later

theorem readNumeral_solid {text : List Char} {number : Decimal}
    (read : readNumeral text = some number) : Solid text := by
  refine readSign_solid ?_
  unfold readNumeral readUnsigned at read
  dsimp only at read
  generalize (readSign text).2 = body at read ⊢
  split_ifs at read with infinite missing none
  · rcases infinite with word | word
    · exact solid_of_word word (by decide)
    · exact solid_of_word word (by decide)
  · exact solid_of_word missing (by decide)
  · obtain ⟨exponent, tail, -⟩ := Option.map_eq_some_iff.mp read
    have rest := readFraction_solid (readExponent_solid tail)
    intro character member
    rw [← List.takeWhile_append_dropWhile (p := Char.isDigit) (l := body)] at member
    rcases List.mem_append.mp member with digit | later
    · exact isSpace_digit (List.mem_takeWhile_imp digit)
    · exact rest character later

end Solid

theorem ungroup_filter {afterDigit : Bool} {text plain : List Char}
    (grouped : ungroup afterDigit text = some plain) : plain = text.filter (· ≠ '_') := by
  induction text generalizing afterDigit plain with
  | nil => simpa [ungroup] using grouped.symm
  | cons character rest ih =>
    rw [ungroup] at grouped
    split_ifs at grouped with mark between
    · rw [mark, ih grouped]
      simp
    · obtain ⟨later, read, rfl⟩ := Option.map_eq_some_iff.mp grouped
      rw [ih read]
      simp [mark]

section Accepted

variable {tables : UnicodeTables} {text : List Char}

theorem isSpace_asciiForm (character : Char) :
    isSpace (asciiForm tables character) = isSpace character := by
  unfold asciiForm
  split_ifs with ascii space
  · rfl
  · rw [space]
    decide
  · cases found : tables.decimal character with
    | none => simpa [show isSpace '?' = false from by decide] using space
    | some digit =>
      have small := tables.decimal_lt character digit found
      have solid : isSpace (Nat.digitChar digit) = false :=
        isSpace_digit (by simpa [Nat.isDigit_digitChar] using small)
      rw [Bool.eq_false_of_not_eq_true space]
      exact solid

theorem strip_asciiForm (text : List Char) :
    (strip text).map (asciiForm tables) = stripOf isSpace (text.map (asciiForm tables)) := by
  rw [stripOf_map, show isSpace ∘ asciiForm tables = isSpace from funext isSpace_asciiForm, strip]

theorem isSpace_of_numeric (character : Char) (space : isNumericSpace character = true) :
    isSpace character = true := by
  simp only [isNumericSpace, decide_eq_true_eq] at space
  simp only [isSpace, decide_eq_true_eq]
  omega

theorem decimalNumber_of_float {number : Decimal} (accepted : floatNumber tables text = some number) :
    decimalNumber tables text = some number := by
  obtain ⟨plain, grouped, read⟩ := Option.bind_eq_some_iff.mp accepted
  have filtered := ungroup_filter grouped
  have solid : Solid (trimmed tables text) := by
    intro character member
    by_cases mark : character = '_'
    · rw [mark]
      decide
    · refine readNumeral_solid read character ?_
      rw [filtered]
      exact List.mem_filter.mpr ⟨member, by simpa using mark⟩
  have stripped : (strip text).map (asciiForm tables) = trimmed tables text := by
    rw [strip_asciiForm, ← stripOf_stripOf isSpace_of_numeric]
    exact stripOf_kept solid
  rw [decimalNumber, stripped, ← filtered, readDecimal, read]

end Accepted

section Plain

variable {tables : UnicodeTables} {text digits : List Char}

theorem asciiForm_ascii {character : Char} (ascii : character.toNat < 127) :
    asciiForm tables character = character := if_pos ascii

theorem trimmed_solid (solid : Solid text) :
    trimmed tables text = text.map (asciiForm tables) := by
  refine stripOf_kept ?_
  intro form member
  obtain ⟨character, inText, rfl⟩ := List.mem_map.mp member
  by_contra space
  have blank := isSpace_of_numeric _ (Bool.eq_true_of_not_eq_false space)
  rw [isSpace_asciiForm, solid character inText] at blank
  simp at blank

theorem map_asciiForm (ascii : ∀ character ∈ text, character.toNat < 127) :
    text.map (asciiForm tables) = text := by
  conv_rhs => rw [← List.map_id text]
  exact List.map_congr_left fun character member => asciiForm_ascii (ascii character member)

theorem ungroup_clean (clean : '_' ∉ text) (afterDigit : Bool) :
    ungroup afterDigit text = some text := by
  induction text generalizing afterDigit with
  | nil => rfl
  | cons character rest ih =>
    simp only [List.mem_cons, not_or] at clean
    rw [ungroup, if_neg (Ne.symm clean.1), ih clean.2, Option.map_some]

theorem readSign_digit {character : Char} (digit : character.isDigit = true) (rest : List Char) :
    readSign (character :: rest) = (false, character :: rest) := by
  have notMinus : character ≠ '-' := by
    rintro rfl
    revert digit
    decide
  have notPlus : character ≠ '+' := by
    rintro rfl
    revert digit
    decide
  rw [readSign, if_neg notMinus, if_neg notPlus]

theorem ascii_digits (all : digits.all Char.isDigit = true) :
    ∀ character ∈ digits, character.toNat < 127 := by
  intro character member
  have bounds := digit_bounds.mp (List.all_eq_true.mp all character member)
  omega

theorem clean_digits (all : digits.all Char.isDigit = true) : '_' ∉ digits := by
  intro member
  have digit := List.all_eq_true.mp all '_' member
  revert digit
  decide

theorem readInt_digits (all : digits.all Char.isDigit = true) (some : digits ≠ [])
    (short : digits.length ≤ maxStrDigits) :
    readInt tables digits = .some (digitsValue digits : Int) := by
  obtain ⟨first, rest, rfl⟩ := List.exists_cons_of_ne_nil some
  have unsigned := readSign_digit (List.all_eq_true.mp all first (by simp)) rest
  rw [readInt, trimmed_solid (solid_digits all), map_asciiForm (ascii_digits all), unsigned]
  dsimp only
  rw [ungroup_clean (clean_digits all), Option.bind_some, if_pos ⟨some, all, short⟩]
  rfl

structure IsMark (character : Char) : Prop where
  ascii : character.toNat < 127
  solid : isSpace character = false
  notSign : character ≠ '-' ∧ character ≠ '+'
  notDigit : character ≠ '_' ∧ character.isDigit = false

theorem mem_readSign {character : Char} (member : character ∈ text)
    (notSign : character ≠ '-' ∧ character ≠ '+') : character ∈ (readSign text).2 := by
  cases text with
  | nil => simp at member
  | cons first rest =>
    rw [readSign]
    rcases List.mem_cons.mp member with rfl | later
    · rw [if_neg notSign.1, if_neg notSign.2]
      exact member
    · split_ifs
      · exact later
      · exact later
      · exact member

theorem readInt_mark {mark : Char} (shape : IsMark mark) (member : mark ∈ text) :
    readInt tables text = none := by
  have inForm : mark ∈ text.map (asciiForm tables) :=
    List.mem_map.mpr ⟨mark, member, asciiForm_ascii shape.ascii⟩
  have notNumeric : isNumericSpace mark = false := by
    by_contra space
    have blank := isSpace_of_numeric mark (Bool.eq_true_of_not_eq_false space)
    rw [shape.solid] at blank
    simp at blank
  have inBody := mem_readSign (mem_stripOf inForm notNumeric) shape.notSign
  unfold readInt trimmed
  dsimp only
  rw [Option.bind_eq_none_iff]
  intro plain grouped
  refine if_neg ?_
  rintro ⟨-, all, -⟩
  have inPlain : mark ∈ plain := by
    rw [ungroup_filter grouped]
    exact List.mem_filter.mpr ⟨inBody, by simpa using shape.notDigit.1⟩
  have digit := List.all_eq_true.mp all mark inPlain
  rw [shape.notDigit.2] at digit
  simp at digit

theorem toLower_digit {character : Char} (digit : character.isDigit = true) :
    character.toLower = character := by
  unfold Char.toLower
  split_ifs with upper
  · have upperBounds : 65 ≤ character.toNat ∧ character.toNat ≤ 90 := by
      simpa [UInt32.le_iff_toNat_le] using upper
    have bounds := digit_bounds.mp digit
    omega
  · rfl

theorem not_word {first letter : Char} {rest word : List Char} (digit : first.isDigit = true)
    (notDigit : letter.isDigit = false) :
    (first :: rest).map Char.toLower ≠ letter :: word := by
  intro same
  have head : first.toLower = letter := (List.cons.inj same).1
  rw [toLower_digit digit] at head
  rw [head, notDigit] at digit
  simp at digit

theorem takeWhile_digits (all : digits.all Char.isDigit = true) {next : Char}
    (other : next.isDigit = false) (rest : List Char) :
    (digits ++ next :: rest).takeWhile Char.isDigit = digits ∧
      (digits ++ next :: rest).dropWhile Char.isDigit = next :: rest := by
  have passes := List.all_eq_true.mp all
  constructor
  · rw [List.takeWhile_append_of_pos passes, List.takeWhile_cons_of_neg (by simp [other]), List.append_nil]
  · rw [List.dropWhile_append_of_pos passes, List.dropWhile_cons_of_neg (by simp [other])]

theorem readUnsigned_digits {negative : Bool} (all : digits.all Char.isDigit = true)
    (some : digits ≠ []) {next : Char} (other : next.isDigit = false) (rest : List Char) :
    readUnsigned negative (digits ++ next :: rest) =
      (readExponent (readFraction (next :: rest)).2).map fun exponent =>
        .finite negative (digitsValue (digits ++ (readFraction (next :: rest)).1))
          (exponent - (readFraction (next :: rest)).1.length) := by
  obtain ⟨first, later, rfl⟩ := List.exists_cons_of_ne_nil some
  have digit := List.all_eq_true.mp all first (by simp)
  obtain ⟨whole, tail⟩ := takeWhile_digits all other rest
  unfold readUnsigned
  dsimp only
  rw [whole, tail, if_neg, if_neg, if_neg (by simp)]
  · exact not_word digit (by decide)
  · rintro (inf | infinity)
    · exact not_word digit (by decide) inf
    · exact not_word digit (by decide) infinity

theorem readUnsigned_point {negative : Bool} {decimals : List Char}
    (all : digits.all Char.isDigit = true) (some : digits ≠ [])
    (fraction : decimals.all Char.isDigit = true) :
    readUnsigned negative (digits ++ '.' :: decimals) =
      .some (.finite negative (digitsValue (digits ++ decimals)) (-decimals.length)) := by
  have passes := List.all_eq_true.mp fraction
  have whole : readFraction ('.' :: decimals) = (decimals, []) := by
    rw [readFraction, if_pos rfl, List.takeWhile_eq_self_iff.mpr passes,
      List.dropWhile_eq_nil_iff.mpr passes]
  rw [readUnsigned_digits all some (by decide), whole]
  simp [readExponent]

theorem readUnsigned_letter {negative : Bool} {letter : Char} {rest : List Char}
    (all : digits.all Char.isDigit = true) (some : digits ≠ []) (other : letter.isDigit = false)
    (shape : letter ≠ '.' ∧ letter ≠ 'e' ∧ letter ≠ 'E') :
    readUnsigned negative (digits ++ letter :: rest) = none := by
  rw [readUnsigned_digits all some other, readFraction, if_neg shape.1, readExponent,
    if_neg (not_or.mpr shape.2), Option.map_none]

def signText (negative : Bool) : List Char := if negative then ['-'] else []

theorem readSign_signText {negative : Bool} (all : digits.all Char.isDigit = true)
    (some : digits ≠ []) (rest : List Char) :
    readSign (signText negative ++ (digits ++ rest)) = (negative, digits ++ rest) := by
  cases negative with
  | true => rfl
  | false =>
    obtain ⟨first, later, rfl⟩ := List.exists_cons_of_ne_nil some
    exact readSign_digit (List.all_eq_true.mp all first (by simp)) _

theorem floatNumber_point {negative : Bool} {decimals : List Char}
    (all : digits.all Char.isDigit = true) (some : digits ≠ [])
    (fraction : decimals.all Char.isDigit = true) :
    floatNumber tables (signText negative ++ (digits ++ '.' :: decimals)) =
      .some (.finite negative (digitsValue (digits ++ decimals)) (-decimals.length)) := by
  have parts : ∀ character ∈ signText negative ++ (digits ++ '.' :: decimals),
      character = '-' ∨ character = '.' ∨ character.isDigit = true := by
    intro character member
    have digit := List.all_eq_true.mp all character
    have decimal := List.all_eq_true.mp fraction character
    have minus : character ∈ signText negative → character = '-' := by
      cases negative <;> simp [signText]
    simp only [List.mem_append, List.mem_cons] at member
    tauto
  have solid : Solid (signText negative ++ (digits ++ '.' :: decimals)) := by
    intro character member
    rcases parts character member with rfl | rfl | digit
    · decide
    · decide
    · exact isSpace_digit digit
  have ascii : ∀ character ∈ signText negative ++ (digits ++ '.' :: decimals),
      character.toNat < 127 := by
    intro character member
    rcases parts character member with rfl | rfl | digit
    · decide
    · decide
    · have bounds := digit_bounds.mp digit
      omega
  have clean : '_' ∉ signText negative ++ (digits ++ '.' :: decimals) := by
    intro member
    rcases parts '_' member with minus | point | digit
    · revert minus
      decide
    · revert point
      decide
    · revert digit
      decide
  rw [floatNumber, trimmed_solid solid, map_asciiForm ascii, ungroup_clean clean, Option.bind_some,
    readNumeral, readSign_signText all some]
  exact readUnsigned_point all some fraction

theorem floatNumber_letter {letter : Char} {rest : List Char} (all : digits.all Char.isDigit = true)
    (some : digits ≠ []) (solid : Solid rest) (lower : 97 ≤ letter.toNat ∧ letter.toNat < 127)
    (notMark : letter ≠ 'e') : floatNumber tables (digits ++ letter :: rest) = none := by
  have notDigit : letter.isDigit = false := by
    by_contra digit
    have bounds := digit_bounds.mp (Bool.eq_true_of_not_eq_false digit)
    omega
  have notSpace : isSpace letter = false := by
    simp only [isSpace, decide_eq_false_iff_not]
    omega
  have other : ∀ character : Char, character.toNat < 97 → letter ≠ character := by
    rintro character small rfl
    omega
  have notPoint : letter ≠ '.' := other '.' (by decide)
  have notUpper : letter ≠ 'E' := other 'E' (by decide)
  have notGroup : letter ≠ '_' := other '_' (by decide)
  have wholeSolid : Solid (digits ++ letter :: rest) := by
    intro character member
    rcases List.mem_append.mp member with digit | later
    · exact solid_digits all character digit
    · exact solid_cons notSpace solid character later
  rw [floatNumber, trimmed_solid wholeSolid, List.map_append, map_asciiForm (ascii_digits all), List.map_cons,
    asciiForm_ascii lower.2, Option.bind_eq_none_iff]
  intro plain grouped
  have filtered := ungroup_filter grouped
  have kept : digits.filter (· ≠ '_') = digits := by
    refine List.filter_eq_self.mpr fun character member => ?_
    have clean := clean_digits all
    simp only [decide_eq_true_eq]
    rintro rfl
    exact clean member
  rw [List.filter_append, kept, List.filter_cons_of_pos (by simpa using notGroup)] at filtered
  have sign : ∀ tail, readSign (signText false ++ (digits ++ tail)) = (false, digits ++ tail) :=
    readSign_signText all some
  rw [filtered, readNumeral]
  rw [signText, if_neg (by simp)] at sign
  simp only [List.nil_append] at sign
  rw [sign]
  exact readUnsigned_letter all some notDigit ⟨notPoint, notMark, notUpper⟩

end Plain

end Numerals

end FireflyToolkit
