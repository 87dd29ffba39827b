import FireflyToolkit.Citi.Parser
import FireflyToolkit.Domain.Calendar

set_option autoImplicit false

namespace FireflyToolkit.Citi

open PyText Numerals
open PyBuiltins (isSpace)

theorem parsePolishDate_last {tables : UnicodeTables} {line last : List Char}
    {before : List (List Char)} (split : words (strip line) = before ++ [last])
    (noYear : readInt tables last = none) : parsePolishDate tables line = .ok none := by
  unfold parsePolishDate
  rw [split]
  cases before with
  | nil => rfl
  | cons day later =>
    cases later with
    | nil => rfl
    | cons month others =>
      cases others with
      | nil =>
        simp only [List.cons_append, List.nil_append, noYear]
        cases readInt tables day <;> rfl
      | cons next rest => cases rest <;> rfl

section Compact

variable {tables : UnicodeTables} {digits : List Char}

theorem compacted_append (left right : List Char) :
    compacted (left ++ right) = compacted left ++ compacted right := by
  simp [compacted]

theorem compacted_plain {text : List Char} (plain : ∀ character ∈ text, character ≠ ' ' ∧ character ≠ ',') :
    compacted text = text := by
  have kept : text.filter (· ≠ ' ') = text :=
    List.filter_eq_self.mpr fun character member => by simpa using (plain character member).1
  rw [compacted, kept]
  conv_rhs => rw [← List.map_id text]
  exact List.map_congr_left fun character member => if_neg (plain character member).2

theorem compacted_digits (all : digits.all Char.isDigit = true) : compacted digits = digits := by
  refine compacted_plain fun character member => ?_
  have bounds := digit_bounds.mp (List.all_eq_true.mp all character member)
  constructor <;> rintro rfl <;> revert bounds <;> decide

theorem upper_bounds {character : Char} (upper : character.isUpper = true) :
    65 ≤ character.toNat ∧ character.toNat ≤ 90 := by
  delta Char.isUpper at upper
  simpa [UInt32.le_iff_toNat_le] using upper

theorem lower_bounds {character : Char} (lower : character.isLower = true) :
    97 ≤ character.toNat ∧ character.toNat ≤ 122 := by
  delta Char.isLower at lower
  simpa [UInt32.le_iff_toNat_le] using lower

theorem letters_digits (all : digits.all Char.isDigit = true) : digits.filter tables.isAlpha = [] := by
  refine List.filter_eq_nil_iff.mpr fun character member => ?_
  have bounds := digit_bounds.mp (List.all_eq_true.mp all character member)
  have plain : plainAlpha character = false := by
    have notLetter : character ≠ 'ź' := by
      rintro rfl
      revert bounds
      decide
    have notAlpha : character.isAlpha = false := by
      by_contra alpha
      rcases (Bool.or_eq_true _ _).mp (Bool.eq_true_of_not_eq_false alpha) with upper | lower
      · have letter := upper_bounds upper
        omega
      · have letter := lower_bounds lower
        omega
    simp [plainAlpha, notAlpha, notLetter]
  rw [tables.isAlpha_plain character (.inl (by omega)), plain]
  simp

end Compact

structure IsMonthName (name : List Char) : Prop where
  some : name ≠ []
  solid : Solid name
  letters : ∀ character ∈ name, character ≠ ' ' ∧ character ≠ ',' ∧ IsPlain character ∧
    plainAlpha character = true
  begins : ∃ letter ∈ name.head?, 97 ≤ letter.toNat ∧ letter.toNat < 127 ∧ letter ≠ 'e'
  upperDigits : (plainUpper name).any Char.isDigit = false

structure DateLine where
  date : Date
  day : List Char
  month : String
  year : List Char
  dayDigits : day.all Char.isDigit = true
  yearDigits : year.all Char.isDigit = true
  dayLength : 1 ≤ day.length ∧ day.length ≤ 2
  yearLength : year.length = 4
  dayValue : digitsValue day = date.day
  monthValue : (month, date.month) ∈ monthsPl
  yearValue : digitsValue year = date.year

namespace DateLine

def text (line : DateLine) : List Char := line.day ++ ' ' :: (line.month.toList ++ ' ' :: line.year)

variable (tables : UnicodeTables)

theorem day_ne_nil (line : DateLine) : line.day ≠ [] :=
  List.ne_nil_of_length_pos line.dayLength.1

theorem year_ne_nil (line : DateLine) : line.year ≠ [] :=
  List.ne_nil_of_length_pos (by rw [line.yearLength]; decide)

theorem month_isMonthName (line : DateLine) : IsMonthName line.month.toList where
  some := by
    have every : ∀ entry ∈ monthsPl, entry.1.toList ≠ [] := by decide
    exact every _ line.monthValue
  solid := by
    have every : ∀ entry ∈ monthsPl, Solid entry.1.toList := by decide
    exact every _ line.monthValue
  letters character member := by
    have every : ∀ entry ∈ monthsPl, (entry.1.toList.all fun character =>
        character ≠ ' ' ∧ character ≠ ',' ∧ IsPlain character ∧ plainAlpha character) = true := by decide
    exact of_decide_eq_true (List.all_eq_true.mp (every _ line.monthValue) character member)
  begins := by
    have every : ∀ entry ∈ monthsPl, (entry.1.toList.head?.any fun letter =>
        97 ≤ letter.toNat ∧ letter.toNat < 127 ∧ letter ≠ 'e') = true := by decide
    obtain ⟨letter, first, bounds⟩ := (Option.any_eq_true _ _).mp (every _ line.monthValue)
    exact ⟨letter, first, of_decide_eq_true bounds⟩
  upperDigits := by
    have every : ∀ entry ∈ monthsPl, (plainUpper entry.1.toList).any Char.isDigit = false := by decide
    exact every _ line.monthValue

theorem words_text (line : DateLine) : words line.text = [line.day, line.month.toList, line.year] := by
  have month := line.month_isMonthName
  rw [text, words_blank (solid_digits line.dayDigits) line.day_ne_nil,
    words_blank month.solid month.some, words_last (solid_digits line.yearDigits) line.year_ne_nil]

theorem strip_text (line : DateLine) : strip line.text = line.text := by
  have shape : line.text = line.day ++ ((' ' :: (line.month.toList ++ [' '])) ++ line.year) := by
    simp [text]
  rw [shape]
  exact stripOf_ends line.day_ne_nil line.year_ne_nil (solid_digits line.dayDigits)
    (solid_digits line.yearDigits)

theorem monthOf_month (line : DateLine) : monthOf tables line.month.toList = some line.date.month := by
  have plain : ∀ character ∈ line.month.toList.take 3, IsPlain character := fun character member =>
    (line.month_isMonthName.letters character (List.mem_of_mem_take member)).2.2.1
  have found : ∀ entry ∈ monthsPl,
      monthsPl.lookup (String.ofList (plainLower (entry.1.toList.take 3))) = some entry.2 := by decide
  have known := found _ line.monthValue
  dsimp only at known
  rw [monthOf, tables.lower_plain _ plain, known]

theorem datetimeDate_date (date : Date) :
    datetimeDate date.year date.month date.day = .ok (some date) := by
  obtain ⟨-, years, -, -, -, -⟩ := date.valid
  have days := date.day_le
  have year : cInt date.year = .ok (date.year : Int) := by
    unfold cInt
    split_ifs <;> first | omega | rfl
  have day : cInt date.day = .ok (date.day : Int) := by
    unfold cInt
    split_ifs <;> first | omega | rfl
  have fields : Date.ofFields? date.year date.month date.day = some date :=
    Date.ofFields?_eq_some.mpr ⟨rfl, rfl, rfl⟩
  simp [datetimeDate, year, day, fields, bind, Except.bind, pure, Except.pure]

theorem parsePolishDate_text (line : DateLine) :
    parsePolishDate tables line.text = .ok (some line.date) := by
  have length := line.dayLength
  have day : readInt tables line.day = some (digitsValue line.day : Int) :=
    readInt_digits line.dayDigits line.day_ne_nil (by rw [maxStrDigits]; omega)
  have year : readInt tables line.year = some (digitsValue line.year : Int) :=
    readInt_digits line.yearDigits line.year_ne_nil (by rw [line.yearLength]; decide)
  unfold parsePolishDate
  rw [line.strip_text, line.words_text]
  simp only [day, year, line.monthOf_month, line.dayValue, line.yearValue]
  exact datetimeDate_date line.date

-- A date is no amount: a letter follows its first digits.
theorem parseAmount_text (line : DateLine) : parseAmount tables line.text = none := by
  have name := line.month_isMonthName
  obtain ⟨letter, first, lower, ascii, notMark⟩ := name.begins
  have unspaced : ∀ character ∈ line.month.toList, character ≠ ' ' ∧ character ≠ ',' :=
    fun character member => ⟨(name.letters character member).1, (name.letters character member).2.1⟩
  have plain : ∀ character ∈ line.month.toList, IsPlain character ∧ plainAlpha character = true :=
    fun character member => (name.letters character member).2.2
  have some : plainUpper line.month.toList ≠ [] := by
    rw [plainUpper]
    exact List.map_eq_nil_iff.not.mpr name.some
  have compact : compacted line.text = line.day ++ (line.month.toList ++ line.year) := by
    have blank : ∀ rest, compacted (' ' :: rest) = compacted rest := fun rest => by simp [compacted]
    rw [text, compacted_append, blank, compacted_append, blank, compacted_digits line.dayDigits,
      compacted_digits line.yearDigits, compacted_plain unspaced]
  have letters : currencyOf tables (compacted line.text) = plainUpper line.month.toList := by
    have month : line.month.toList.filter tables.isAlpha = line.month.toList :=
      List.filter_eq_self.mpr fun character member => by
        rw [tables.isAlpha_plain character (plain character member).1]
        exact (plain character member).2
    have upper := tables.upper_plain line.month.toList fun character member => (plain character member).1
    rw [currencyOf, compact, List.filter_append, List.filter_append, letters_digits line.dayDigits,
      letters_digits line.yearDigits, month, List.nil_append, List.append_nil, upper]
    exact if_neg some
  have number : removeSuffix (plainUpper line.month.toList) (compacted line.text) =
      compacted line.text := by
    refine removeSuffix_other some fun character member last => ?_
    rw [compact, ← List.append_assoc, List.getLast?_append_of_ne_nil _ line.year_ne_nil] at last
    have digit := List.all_eq_true.mp line.yearDigits character (List.mem_of_getLast? last)
    exact List.any_eq_false.mp name.upperDigits character member digit
  have split : compacted line.text = line.day ++ letter :: (line.month.toList.tail ++ line.year) := by
    rw [compact, ← List.cons_append, ← List.eq_cons_of_mem_head? first]
  have rest : Solid (line.month.toList.tail ++ line.year) := by
    intro character member
    rcases List.mem_append.mp member with month | year
    · exact name.solid character (List.mem_of_mem_tail month)
    · exact solid_digits line.yearDigits character year
  have rejected : pyFloat tables (compacted line.text) = none := by
    rw [pyFloat, split, floatNumber_letter line.dayDigits line.day_ne_nil rest ⟨lower, ascii⟩ notMark]
    rfl
  unfold parseAmount
  dsimp only
  rw [letters, number, rejected]
  simp

end DateLine

structure AmountLine where
  negative : Bool
  groups : List (List Char)
  mark : Char
  decimals : List Char
  currency : List Char
  groupsSome : groups ≠ []
  groupDigits : ∀ group ∈ groups, group ≠ [] ∧ group.all Char.isDigit = true
  pointMark : mark = ',' ∨ mark = '.'
  decimalDigits : decimals.all Char.isDigit = true
  decimalLength : decimals.length = 2
  currencyUpper : ∀ character ∈ currency, character.isUpper = true

def grouped : List (List Char) → List Char
  | [] => []
  | [group] => group
  | group :: rest => group ++ ' ' :: grouped rest

theorem compacted_grouped {groups : List (List Char)}
    (digits : ∀ group ∈ groups, group.all Char.isDigit = true) :
    compacted (grouped groups) = groups.flatten := by
  induction groups using grouped.induct with
  | case1 => rfl
  | case2 group => simpa [grouped] using compacted_digits (digits group (by simp))
  | case3 group rest some ih =>
    have blank : compacted (' ' :: grouped rest) = compacted (grouped rest) := by simp [compacted]
    rw [grouped, compacted_append, blank, compacted_digits (digits group (by simp)),
      ih fun other member => digits other (by simp [member]), List.flatten_cons]
    exact some

namespace AmountLine

def text (line : AmountLine) : List Char :=
  signText line.negative ++ (grouped line.groups ++ line.mark :: (line.decimals ++ line.currency))

def whole (line : AmountLine) : List Char := line.groups.flatten

def number (line : AmountLine) : Decimal :=
  .finite line.negative (digitsValue (line.whole ++ line.decimals)) (-2)

def code (line : AmountLine) : List Char := if line.currency = [] then "PLN".toList else line.currency

def valueText (line : AmountLine) : List Char :=
  signText line.negative ++ (line.whole ++ '.' :: line.decimals)

variable (tables : UnicodeTables)

theorem whole_digits (line : AmountLine) : line.whole.all Char.isDigit = true := by
  rw [whole, List.all_flatten, List.all_eq_true]
  intro group member
  exact (line.groupDigits group member).2

theorem whole_ne_nil (line : AmountLine) : line.whole ≠ [] := by
  obtain ⟨first, rest, split⟩ := List.exists_cons_of_ne_nil line.groupsSome
  have some := (line.groupDigits first (by simp [split])).1
  simp [whole, split, some]

theorem decimals_ne_nil (line : AmountLine) : line.decimals ≠ [] :=
  List.ne_nil_of_length_pos (by rw [line.decimalLength]; decide)

theorem compacted_text (line : AmountLine) : compacted line.text = line.valueText ++ line.currency := by
  have sign : compacted (signText line.negative) = signText line.negative := by
    cases line.negative <;> decide
  have point : ∀ rest, compacted (line.mark :: rest) = '.' :: compacted rest := by
    intro rest
    rcases line.pointMark with mark | mark <;> simp [compacted, mark]
  have currency : compacted line.currency = line.currency := by
    refine compacted_plain fun character member => ?_
    have bounds := upper_bounds (line.currencyUpper character member)
    constructor <;> rintro rfl <;> revert bounds <;> decide
  rw [text, compacted_append, compacted_append, sign, point, compacted_append, currency,
    compacted_digits line.decimalDigits,
    compacted_grouped fun group member => (line.groupDigits group member).2]
  simp [valueText, whole]

theorem currencyOf_text (line : AmountLine) : currencyOf tables (compacted line.text) = line.code := by
  have sign : (signText line.negative).filter tables.isAlpha = [] := by
    have minus := tables.isAlpha_plain '-' (by decide)
    cases line.negative
    · rfl
    · simp [signText, minus, show plainAlpha '-' = false from by decide]
  have point := tables.isAlpha_plain '.' (by decide)
  have plain : ∀ character ∈ line.currency, IsPlain character := by
    intro character member
    have bounds := upper_bounds (line.currencyUpper character member)
    exact .inl (by omega)
  have currency : line.currency.filter tables.isAlpha = line.currency := by
    refine List.filter_eq_self.mpr fun character member => ?_
    rw [tables.isAlpha_plain character (plain character member)]
    have alpha : character.isAlpha = true :=
      (Bool.or_eq_true _ _).mpr (.inl (line.currencyUpper character member))
    simp [plainAlpha, alpha]
  have upper : tables.upper line.currency = line.currency := by
    rw [tables.upper_plain line.currency plain, plainUpper]
    conv_rhs => rw [← List.map_id line.currency]
    refine List.map_congr_left fun character member => ?_
    have bounds := upper_bounds (line.currencyUpper character member)
    have other : character ≠ 'ź' := by
      rintro rfl
      revert bounds
      decide
    have upperCase : ¬ (97 ≤ character.toNat ∧ character.toNat ≤ 122) := by omega
    rw [if_neg other]
    delta Char.toUpper
    exact dif_neg (by simpa [UInt32.le_iff_toNat_le] using upperCase)
  have value : line.valueText.filter tables.isAlpha = [] := by
    rw [valueText, List.filter_append, List.filter_append, sign, letters_digits line.whole_digits,
      List.filter_cons_of_neg (by rw [point]; decide), letters_digits line.decimalDigits]
    rfl
  rw [currencyOf, compacted_text, List.filter_append, value, List.nil_append, currency, upper]
  rfl

theorem removeSuffix_code (line : AmountLine) :
    removeSuffix line.code (compacted line.text) = line.valueText := by
  rw [compacted_text, code]
  split_ifs with none
  · rw [none, List.append_nil]
    refine removeSuffix_other (by decide) fun character member last => ?_
    rw [valueText, ← List.append_assoc, List.getLast?_append_of_ne_nil _ (by simp),
      List.getLast?_cons_of_ne_nil line.decimals_ne_nil] at last
    have digit := List.all_eq_true.mp line.decimalDigits character (List.mem_of_getLast? last)
    have letters : "PLN".toList.any Char.isDigit = false := by decide
    exact List.any_eq_false.mp letters character member digit
  · exact removeSuffix_append _ _

def parsed (line : AmountLine) : ParsedAmount :=
  { normalizedValue := String.ofList line.valueText, currency := String.ofList line.code,
    value := line.number.toDouble }

theorem floatNumber_valueText (line : AmountLine) :
    floatNumber tables line.valueText = some line.number := by
  rw [valueText, floatNumber_point line.whole_digits line.whole_ne_nil line.decimalDigits,
    line.decimalLength]
  rfl

theorem parseAmount_text (line : AmountLine) : parseAmount tables line.text = some line.parsed := by
  have some : line.valueText ≠ [] := by simp [valueText]
  unfold parseAmount
  dsimp only
  rw [currencyOf_text, removeSuffix_code, if_neg some, pyFloat, floatNumber_valueText]
  rfl

theorem solid_end (line : AmountLine) : Solid (line.decimals ++ line.currency) := by
  intro character member
  rcases List.mem_append.mp member with decimal | letter
  · exact solid_digits line.decimalDigits character decimal
  · have bounds := upper_bounds (line.currencyUpper character letter)
    simp only [isSpace, decide_eq_false_iff_not]
    omega

theorem isMark_mark (line : AmountLine) : IsMark line.mark := by
  rcases line.pointMark with comma | point
  · rw [comma]
    exact ⟨by decide, by decide, by decide, by decide⟩
  · rw [point]
    exact ⟨by decide, by decide, by decide, by decide⟩

theorem solid_sign (negative : Bool) : Solid (signText negative) := by
  cases negative <;> decide

theorem strip_text (line : AmountLine) : strip line.text = line.text := by
  obtain ⟨first, rest, split⟩ := List.exists_cons_of_ne_nil line.groupsSome
  obtain ⟨some, digits⟩ := line.groupDigits first (by simp [split])
  have begins : ∃ middle, grouped line.groups = first ++ middle := by
    rw [split]
    cases rest with
    | nil => exact ⟨[], by simp [grouped]⟩
    | cons next later => exact ⟨' ' :: grouped (next :: later), rfl⟩
  obtain ⟨middle, start⟩ := begins
  have shape : line.text = (signText line.negative ++ first) ++
      ((middle ++ [line.mark]) ++ (line.decimals ++ line.currency)) := by
    simp [text, start]
  rw [shape]
  refine stripOf_ends (by simp [some]) (by simp [line.decimals_ne_nil]) ?_ line.solid_end
  intro character member
  rcases List.mem_append.mp member with sign | digit
  · exact solid_sign _ character sign
  · exact solid_digits digits character digit

-- The last word holds all that follows the groups.
theorem words_grouped {groups : List (List Char)} {tail : List Char} (some : groups ≠ [])
    (digits : ∀ group ∈ groups, group ≠ [] ∧ group.all Char.isDigit = true) (solid : Solid tail)
    {front : List Char} (first : Solid front) :
    ∃ before last, words (front ++ (grouped groups ++ tail)) = before ++ [last ++ tail] := by
  have join : ∀ {left right : List Char}, Solid left → Solid right → Solid (left ++ right) := by
    intro left right leftSolid rightSolid character member
    rcases List.mem_append.mp member with inLeft | inRight
    · exact leftSolid character inLeft
    · exact rightSolid character inRight
  induction groups using grouped.induct generalizing front with
  | case1 => exact absurd rfl some
  | case2 group =>
    obtain ⟨groupSome, all⟩ := digits group (by simp)
    refine ⟨[], front ++ group, ?_⟩
    rw [grouped, words_last (join first (join (solid_digits all) solid)) (by simp [groupSome])]
    simp
  | case3 group rest restSome ih =>
    obtain ⟨groupSome, all⟩ := digits group (by simp)
    obtain ⟨before, last, later⟩ := @ih (fun none => restSome none)
      (fun other member => digits other (by simp [member])) [] (by simp [Solid])
    refine ⟨(front ++ group) :: before, last, ?_⟩
    rw [grouped, List.append_assoc, List.cons_append, ← List.append_assoc,
      words_blank (join first (solid_digits all)) (by simp [groupSome])]
    · simpa using later
    · exact restSome

theorem parsePolishDate_text (line : AmountLine) : parsePolishDate tables line.text = .ok none := by
  have solid : Solid (line.mark :: (line.decimals ++ line.currency)) :=
    solid_cons line.isMark_mark.solid line.solid_end
  obtain ⟨before, last, split⟩ := words_grouped line.groupsSome line.groupDigits solid
    (solid_sign line.negative)
  have noYear : readInt tables (last ++ line.mark :: (line.decimals ++ line.currency)) = none :=
    readInt_mark line.isMark_mark (by simp)
  refine @parsePolishDate_last tables line.text _ before ?_ noYear
  rw [line.strip_text]
  exact split

end AmountLine

structure CitiBlock where
  dateLine : DateLine
  payee : List Char
  description : List Char
  amountLine : AmountLine
  payeeTrimmed : strip payee = payee
  payeeSome : payee ≠ []
  descriptionSome : strip description ≠ []

namespace CitiBlock

def rawLines (block : CitiBlock) : List (List Char) :=
  [block.dateLine.text, block.payee, block.description, block.amountLine.text]

def lines (block : CitiBlock) : List (List Char) :=
  [block.dateLine.text, block.payee, strip block.description, block.amountLine.text]

def transaction (block : CitiBlock) : ParsedCitiTransaction where
  date := block.dateLine.date
  payee := String.ofList block.payee
  amountText := String.ofList block.amountLine.text
  amountCurrency := String.ofList block.amountLine.code
  amountValue := String.ofList block.amountLine.valueText

def kept (includePositive : Bool) (block : CitiBlock) : Bool :=
  includePositive || !block.amountLine.number.isPositive

def record (includePositive : Bool) (block : CitiBlock) (later : CitiParseResult) : CitiParseResult :=
  if block.kept includePositive then later.recorded block.transaction else later

variable (tables : UnicodeTables)

theorem cleanLines_rawLines (block : CitiBlock) : cleanLines block.rawLines = block.lines := by
  have date : block.dateLine.text ≠ [] := by simp [DateLine.text]
  have amount : block.amountLine.text ≠ [] := by simp [AmountLine.text]
  simp [cleanLines, rawLines, lines, block.dateLine.strip_text, block.amountLine.strip_text,
    block.payeeTrimmed, block.payeeSome, block.descriptionSome, date, amount]

theorem kept_eq (includePositive : Bool) (block : CitiBlock) : block.kept includePositive =
    !(!includePositive && block.amountLine.parsed.value.isPositive) := by
  have positive : block.amountLine.parsed.value.isPositive = block.amountLine.number.isPositive :=
    Decimal.isPositive_toDouble (by decide)
  simp [kept, positive]

theorem parseLines_frame {dateLine : List Char} (block : CitiBlock)
    (sameDate : parsePolishDate tables dateLine = .ok (some block.dateLine.date)) (includePositive : Bool)
    (index : Nat) (description : List Char) (rest : List (List Char)) :
    parseLines tables includePositive index
        (dateLine :: block.payee :: description :: block.amountLine.text :: rest) =
      (parseLines tables includePositive (index + 4) rest).map (block.record includePositive) := by
  have recorded : block.record includePositive = if block.kept includePositive then
      CitiParseResult.recorded block.transaction else id := by
    funext later
    rw [record]
    split_ifs <;> rfl
  simp only [parseLines, sameDate, block.amountLine.parseAmount_text]
  rw [recorded, kept_eq]
  cases !includePositive && block.amountLine.parsed.value.isPositive with
  | true => simp
  | false => rfl

theorem parseLines_block (includePositive : Bool) (index : Nat) (block : CitiBlock)
    (rest : List (List Char)) :
    parseLines tables includePositive index (block.lines ++ rest) =
      (parseLines tables includePositive (index + 4) rest).map (block.record includePositive) :=
  block.parseLines_frame tables (block.dateLine.parsePolishDate_text tables) includePositive index _ rest

end CitiBlock

end FireflyToolkit.Citi
