import FireflyToolkit.Blik.BankCsv

set_option autoImplicit false

namespace FireflyToolkit.BankCSVReader

open Numerals PyText
open PyBuiltins (bind_eq_ok isSpace mapM_eq_ok padZeros)

-- `DD-MM-YYYY`
def plText (date : Date) : List Char :=
  (padZeros 2 date.day).toList ++ '-' :: ((padZeros 2 date.month).toList ++ '-' :: (padZeros 4 date.year).toList)

section Dates

variable {tables : UnicodeTables}

theorem decimal_digit {character : Char} (digit : character.isDigit = true) :
    tables.decimal character = some (character.toNat - 48) := by
  have bounds := digit_bounds.mp digit
  rw [tables.decimal_plain character (.inl (by omega)), plainDigit, if_pos digit]

theorem dayOf_padded {day : Nat} (least : 1 ≤ day) (greatest : day ≤ 31) :
    dayOf tables (padZeros 2 day).toList = some day := by
  have plain : ∀ ten unit : Char, unit.isDigit = true →
      dayOf tables [ten, unit] = dayOf plainTables [ten, unit] := by
    intro ten unit digit
    simp only [dayOf, @decimal_digit tables unit digit, @decimal_digit plainTables unit digit]
  have every : ∀ day ∈ List.range' 1 31, ∃ ten unit, (padZeros 2 day).toList = [ten, unit] ∧
      unit.isDigit = true ∧ dayOf plainTables [ten, unit] = some day := by
    intro day member
    have split : ∀ day ∈ List.range' 1 31, (padZeros 2 day).toList =
        [Nat.digitChar (day / 10), Nat.digitChar (day % 10)] := by decide
    have read : ∀ day ∈ List.range' 1 31, (Nat.digitChar (day % 10)).isDigit = true ∧
        dayOf plainTables [Nat.digitChar (day / 10), Nat.digitChar (day % 10)] = some day := by decide
    exact ⟨_, _, split day member, (read day member).1, (read day member).2⟩
  obtain ⟨ten, unit, split, digit, read⟩ := every day (List.mem_range'_1.mpr ⟨least, by omega⟩)
  rw [split, plain ten unit digit, read]

theorem monthOf_padded {month : Nat} (least : 1 ≤ month) (greatest : month ≤ 12) :
    monthOf (padZeros 2 month).toList = some month := by
  have every : ∀ month ∈ List.range' 1 12, monthOf (padZeros 2 month).toList = some month := by decide
  exact every month (List.mem_range'_1.mpr ⟨least, by omega⟩)

theorem yearOf_padded {year : Nat} (greatest : year ≤ 9999) :
    yearOf tables (padZeros 4 year).toList = some year := by
  have four : (padZeros 4 year).toList.length = 4 := PyBuiltins.padZeros_length (by decide) (by omega)
  have digits := PyBuiltins.padZeros_digits 4 year
  have value := PyBuiltins.padZeros_value 4 year
  obtain ⟨thousand, hundred, ten, unit, split⟩ := List.length_eq_four.mp four
  rw [split] at digits value ⊢
  simp only [List.all_cons, List.all_nil, Bool.and_true, Bool.and_eq_true] at digits
  obtain ⟨first, second, third, fourth⟩ := digits
  simp only [yearOf, decimal_digit first, decimal_digit second, decimal_digit third, decimal_digit fourth]
  simp only [Nat.ofDigitChars_cons, Nat.ofDigitChars_nil] at value
  refine congrArg some ?_
  have zero : '0'.toNat = 48 := rfl
  omega

theorem plDate_text (date : Date) : plDate tables (plText date) = some date := by
  obtain ⟨-, years, months, monthsEnd, days, -⟩ := date.valid
  have solid : ∀ width value, Solid (padZeros width value).toList :=
    fun width value => solid_digits (PyBuiltins.padZeros_digits width value)
  have dash : isSpace '-' = false := by decide
  have noSpace : ∀ character ∈ plText date, isSpace character = false := by
    intro character member
    simp only [plText, List.mem_append, List.mem_cons] at member
    rcases member with day | rfl | month | rfl | year
    · exact solid _ _ _ day
    · exact dash
    · exact solid _ _ _ month
    · exact dash
    · exact solid _ _ _ year
  have clean : ∀ width value, '-' ∉ (padZeros width value).toList := by
    intro width value member
    exact absurd (List.all_eq_true.mp (PyBuiltins.padZeros_digits width value) _ member) (by decide)
  have parts : (plText date).splitOn '-' =
      [(padZeros 2 date.day).toList, (padZeros 2 date.month).toList, (padZeros 4 date.year).toList] := by
    rw [plText, List.splitOn_append_cons_self_of_not_mem (clean _ _),
      List.splitOn_append_cons_self_of_not_mem (clean _ _), List.splitOn_eq_singleton (clean _ _)]
  rw [plDate, strip, stripOf_kept noSpace, parts]
  simp only [yearOf_padded years, monthOf_padded months monthsEnd, dayOf_padded days date.day_le]
  exact Date.ofFields?_eq_some.mpr ⟨rfl, rfl, rfl⟩

end Dates

structure AmountText where
  negative : Bool
  groups : List (List Char)
  decimals : List Char
  groupsSome : groups ≠ []
  groupDigits : ∀ group ∈ groups, group ≠ [] ∧ group.all Char.isDigit = true
  decimalDigits : decimals.all Char.isDigit = true

namespace AmountText

def text (amount : AmountText) : List Char :=
  signText amount.negative ++ ([' '].intercalate amount.groups ++ ',' :: amount.decimals)

def whole (amount : AmountText) : List Char := amount.groups.flatten

def value (amount : AmountText) : Decimal :=
  .finite amount.negative (digitsValue (amount.whole ++ amount.decimals)) (-amount.decimals.length)

end AmountText

section Amounts

variable {tables : UnicodeTables} {text digits : List Char}

theorem digitsValue_lt (all : digits.all Char.isDigit = true) : digitsValue digits < 10 ^ digits.length := by
  induction digits using List.reverseRecOn with
  | nil => simp [digitsValue]
  | append_singleton front last ih =>
    simp only [List.all_append, List.all_cons, List.all_nil, Bool.and_true, Bool.and_eq_true] at all
    have below := ih all.1
    have bounds := digit_bounds.mp all.2
    have zero : '0'.toNat = 48 := rfl
    rw [digitsValue] at below ⊢
    rw [Nat.ofDigitChars_append, Nat.ofDigitChars_cons, Nat.ofDigitChars_nil, List.length_append,
      List.length_singleton, pow_succ]
    omega

theorem fits_of_length {decimals : List Char} (all : (digits ++ decimals).all Char.isDigit = true)
    (short : (digits ++ decimals).length ≤ fieldSizeLimit) :
    Fits (digitsValue (digits ++ decimals)) (-decimals.length) := by
  have below := digitsValue_lt all
  have size : (toString (digitsValue (digits ++ decimals))).length ≤ fieldSizeLimit := by
    rw [← String.length_toList, Nat.toString_eq_repr, Nat.toList_repr]
    refine (Nat.length_toDigits_le_iff (by decide) (by decide)).mpr (below.trans_le ?_)
    exact Nat.pow_le_pow_right (by decide) short
  rw [List.length_append] at short
  rw [fieldSizeLimit] at size short
  rw [Fits, minEtiny, maxEmax, maxPrec]
  split_ifs <;> omega

theorem cleaned_digits (all : digits.all Char.isDigit = true) :
    digits.map commaToPoint = digits ∧ digits.filter (· ≠ ' ') = digits := by
  have other : ∀ character ∈ digits, character ≠ ',' ∧ character ≠ ' ' := by
    intro character member
    have digit := List.all_eq_true.mp all character member
    constructor <;>
    · rintro rfl
      revert digit
      decide
  constructor
  · refine (List.map_congr_left fun character member => ?_).trans (List.map_id digits)
    exact if_neg (other character member).1
  · exact List.filter_eq_self.mpr fun character member => decide_eq_true (other character member).2

theorem cleaned_groups {groups : List (List Char)}
    (digits : ∀ group ∈ groups, group.all Char.isDigit = true) :
    (([' '].intercalate groups).map commaToPoint).filter (· ≠ ' ') = groups.flatten := by
  induction groups with
  | nil => rfl
  | cons group rest ih =>
    obtain ⟨own, later⟩ := List.forall_mem_cons.mp digits
    obtain ⟨mapped, kept⟩ := cleaned_digits own
    cases rest with
    | nil => simpa [mapped] using kept
    | cons next others =>
      have blank : ([' '].map commaToPoint).filter (· ≠ ' ') = [] := rfl
      rw [List.intercalate_cons_cons, List.map_append, List.map_append, List.filter_append,
        List.filter_append, mapped, kept, blank, ih later]
      simp

variable {amount : AmountText}

theorem AmountText.whole_digits (amount : AmountText) : amount.whole.all Char.isDigit = true := by
  rw [whole, List.all_flatten, List.all_eq_true]
  exact fun group member => (amount.groupDigits group member).2

theorem AmountText.whole_ne_nil (amount : AmountText) : amount.whole ≠ [] := by
  obtain ⟨group, rest, split⟩ := List.exists_cons_of_ne_nil amount.groupsSome
  have some := (amount.groupDigits group (by simp [split])).1
  simp [whole, split, some]

theorem AmountText.cleaned (amount : AmountText) : (amount.text.map commaToPoint).filter (· ≠ ' ') =
    signText amount.negative ++ (amount.whole ++ '.' :: amount.decimals) := by
  have groups := cleaned_groups fun group member => (amount.groupDigits group member).2
  obtain ⟨mapped, kept⟩ := cleaned_digits amount.decimalDigits
  have sign : ((signText amount.negative).map commaToPoint).filter (· ≠ ' ') =
      signText amount.negative := by
    cases amount.negative <;> rfl
  have comma : ((',' :: amount.decimals).map commaToPoint).filter (· ≠ ' ') = '.' :: amount.decimals := by
    rw [List.map_cons, mapped, List.filter_cons_of_pos (by decide), kept]
    rfl
  rw [text, List.map_append, List.map_append, List.filter_append, List.filter_append, sign, groups, comma,
    whole]

theorem AmountText.solid (amount : AmountText) {character : Char}
    (member : character ∈ signText amount.negative ++ (amount.whole ++ '.' :: amount.decimals)) :
    character = '-' ∨ character = '.' ∨ character.isDigit = true := by
  have digit := List.all_eq_true.mp amount.whole_digits character
  have decimal := List.all_eq_true.mp amount.decimalDigits character
  have minus : character ∈ signText amount.negative → character = '-' := by
    cases amount.negative <;> simp [signText]
  simp only [List.mem_append, List.mem_cons] at member
  tauto

theorem AmountText.length_le (amount : AmountText) :
    (amount.whole ++ amount.decimals).length ≤ amount.text.length := by
  have short := List.length_filter_le (· ≠ ' ') (amount.text.map commaToPoint)
  rw [amount.cleaned] at short
  simp only [List.length_append, List.length_cons, List.length_map] at short ⊢
  omega

theorem parseAmount_text (short : amount.text.length ≤ fieldSizeLimit) :
    parseAmount tables ((amount.text.map commaToPoint).filter (· ≠ ' ')) = .ok amount.value := by
  have solid : ∀ character ∈ signText amount.negative ++ (amount.whole ++ '.' :: amount.decimals),
      isSpace character = false ∧ character ≠ ' ' ∧ commaToPoint character = character := by
    intro character member
    rcases amount.solid member with rfl | rfl | digit
    · decide
    · decide
    · refine ⟨isSpace_digit digit, ?_, if_neg ?_⟩ <;>
      · rintro rfl
        revert digit
        decide
  have stripped := stripOf_kept fun character member => (solid character member).1
  have kept := List.filter_eq_self.mpr fun character member =>
    (decide_eq_true (solid character member).2.1 : decide (character ≠ ' ') = true)
  have mapped := (List.map_congr_left fun character member => (solid character member).2.2).trans
    (List.map_id (signText amount.negative ++ (amount.whole ++ '.' :: amount.decimals)))
  have number : decimalNumber tables (signText amount.negative ++ (amount.whole ++ '.' :: amount.decimals)) =
      some amount.value :=
    decimalNumber_of_float (floatNumber_point amount.whole_digits amount.whole_ne_nil amount.decimalDigits)
  have fits := @fits_of_length amount.whole amount.decimals
    (by simp [amount.whole_digits, amount.decimalDigits]) (amount.length_le.trans short)
  rw [AmountText.value] at number
  rw [amount.cleaned, parseAmount, strip, stripped, kept, mapped, decimalOf, String.toList_ofList, number]
  dsimp only
  rw [if_pos fits]
  rfl

end Amounts

def requiredColumns : List String :=
  ["Data transakcji", "Kwota w walucie rachunku", "Kwota operacji", "Nazwa nadawcy", "Nazwa odbiorcy",
    "Szczegóły transakcji", "Waluta operacji", "Waluta rachunku", "Numer rachunku nadawcy",
    "Numer rachunku odbiorcy"]

structure StatementRow where
  date : Date
  amount : AmountText
  operationAmount : AmountText
  sender : String
  recipient : String
  details : String
  operationCurrency : String
  accountCurrency : String
  senderAccount : String
  recipientAccount : String
  other : String → List Char

namespace StatementRow

variable (row : StatementRow)

def cells : List (List Char) :=
  [plText row.date, row.amount.text, row.operationAmount.text, row.sender.toList, row.recipient.toList,
    row.details.toList, row.operationCurrency.toList, row.accountCurrency.toList,
    row.senderAccount.toList, row.recipientAccount.toList]

def cell (column : String) : List Char :=
  ((requiredColumns.zip row.cells).lookup column).getD (row.other column)

def record : BankRecord where
  date := row.date
  amount := row.amount.value
  details := some row.details
  recipient := some row.recipient
  operationAmount := row.operationAmount.value
  sender := some row.sender
  operationCurrency := some row.operationCurrency
  accountCurrency := some row.accountCurrency
  senderAccount := some row.senderAccount
  recipientAccount := some row.recipientAccount

end StatementRow

structure Statement where
  preamble : List Char
  columns : List String
  rows : List StatementRow
  oneLine : '\n' ∉ preamble ∧ '\r' ∉ preamble
  readable : requiredColumns ⊆ columns
  smallNames : ∀ column ∈ columns, column.length ≤ fieldSizeLimit
  smallCells : ∀ row ∈ rows, ∀ column ∈ columns, (row.cell column).length ≤ fieldSizeLimit

namespace Statement

def fieldnames (statement : Statement) : Csv.Row := statement.columns.map String.toList

def line (statement : Statement) (row : StatementRow) : Csv.Row := statement.columns.map row.cell

def text (statement : Statement) : List Char :=
  statement.preamble ++ '\r' :: '\n' ::
    Csv.write ';' (statement.fieldnames :: statement.rows.map statement.line)

variable {tables : UnicodeTables} {statement : Statement} {row : StatementRow}

theorem namedCell_line (statement : Statement) (row : StatementRow) {column : String}
    (member : column ∈ requiredColumns) :
    namedCell statement.fieldnames (statement.line row) column = some (some (row.cell column)) := by
  have names : statement.line row =
      statement.fieldnames.map fun name => row.cell (String.ofList name) := by
    simp [line, fieldnames, Function.comp_def]
  have inside : column.toList ∈ statement.fieldnames :=
    List.mem_map.mpr ⟨column, statement.readable member, rfl⟩
  rw [names, namedCell_written (fun name => row.cell (String.ofList name)) inside, String.ofList_toList]

theorem tells (member : row ∈ statement.rows) :
    Tells tables statement.fieldnames (statement.line row) row.record := by
  have small := statement.smallCells row member
  have texts : ∀ column ∈ requiredColumns, ∀ text : String, row.cell column = text.toList →
      cellText statement.fieldnames (statement.line row) column = .ok (some text) := by
    intro column own text same
    rw [cellText, statement.namedCell_line row own, same]
    exact congrArg (fun text => Except.ok (some text)) String.ofList_toList
  have amounts : ∀ column ∈ requiredColumns, ∀ amount : AmountText, row.cell column = amount.text →
      amountCell tables statement.fieldnames (statement.line row) column = .ok amount.value := by
    intro column own amount same
    have short := small column (statement.readable own)
    rw [same] at short
    exact bind_eq_ok.mpr ⟨_, filledCell_ok_iff.mpr (statement.namedCell_line row own), by
      rw [same]
      exact parseAmount_text short⟩
  exact {
    date := ⟨_, statement.namedCell_line row (by decide), plDate_text row.date⟩
    amount := amounts "Kwota w walucie rachunku" (by decide) row.amount rfl
    operationAmount := amounts "Kwota operacji" (by decide) row.operationAmount rfl
    sender := texts "Nazwa nadawcy" (by decide) row.sender rfl
    recipient := texts "Nazwa odbiorcy" (by decide) row.recipient rfl
    details := texts "Szczegóły transakcji" (by decide) row.details rfl
    operationCurrency := texts "Waluta operacji" (by decide) row.operationCurrency rfl
    accountCurrency := texts "Waluta rachunku" (by decide) row.accountCurrency rfl
    senderAccount := texts "Numer rachunku nadawcy" (by decide) row.senderAccount rfl
    recipientAccount := texts "Numer rachunku odbiorcy" (by decide) row.recipientAccount rfl }

theorem afterLine_preamble {preamble : List Char} (oneLine : '\n' ∉ preamble ∧ '\r' ∉ preamble)
    (rest : List Char) : afterLine (preamble ++ '\r' :: '\n' :: rest) = rest := by
  induction preamble with
  | nil => rfl
  | cons character later ih =>
    simp only [List.mem_cons, not_or] at oneLine
    have further := ih ⟨oneLine.1.2, oneLine.2.2⟩
    rw [List.cons_append, afterLine]
    · exact further
    · exact fun same => oneLine.1.1 same.symm
    · exact fun rest same => absurd same.symm oneLine.2.1
    · exact fun same => oneLine.2.1 same.symm

-- Reading gives back the records of a statement, in order, wherever the columns stand.
theorem parse_text (statement : Statement) : BankCSVReader.parse tables (Utf8.encode statement.text) =
    .ok (statement.rows.map StatementRow.record) := by
  have decoded := Utf8.decode_ok_iff.mpr (Eq.refl (Utf8.encode statement.text))
  have some : statement.text ≠ [] := by simp [text]
  have shape : Csv.IsDelimiter ';' := ⟨by decide, by decide, by decide⟩
  have names : checkFields statement.fieldnames = .ok () := by
    rw [checkFields_ok_iff, fieldnames, List.forall_mem_map]
    exact fun column member => String.length_toList.trans_le (statement.smallNames column member)
  have present : ∀ row ∈ statement.rows.map statement.line, row ≠ [] := by
    refine List.forall_mem_map.mpr fun row _ none => ?_
    have empty : statement.columns = [] := List.map_eq_nil_iff.mp none
    have first := statement.readable (show "Data transakcji" ∈ requiredColumns by decide)
    simp [empty] at first
  have kept : (statement.rows.map statement.line).filter (· ≠ []) = statement.rows.map statement.line :=
    List.filter_eq_self.mpr fun row member => decide_eq_true (present row member)
  have body : afterLine statement.text =
      Csv.write ';' (statement.fieldnames :: statement.rows.map statement.line) :=
    afterLine_preamble statement.oneLine _
  have read : readText tables statement.text = .ok (statement.rows.map StatementRow.record) := by
    rw [readText, if_neg some, body, Csv.read_write shape]
    dsimp only
    rw [names, kept]
    refine bind_eq_ok.mpr ⟨(), rfl, ?_⟩
    rw [mapM_eq_ok, List.forall₂_map_left_iff, List.forall₂_map_right_iff, List.forall₂_same]
    refine fun row member => bind_eq_ok.mpr ⟨(), ?_, readRow_ok_iff.mpr (tells member)⟩
    rw [checkFields_ok_iff, line, List.forall_mem_map]
    exact statement.smallCells row member
  rw [BankCSVReader.parse, decoded]
  exact read

end Statement

-- What a preview reads of a file; the exceptions that keep it from being read are not told apart.
def readFile (tables : UnicodeTables) (bytes : List Nat) : Except PyError (List BankRecord) :=
  (parse tables bytes).mapError fun _ => .valueError "The file cannot be read"

namespace Sample

def shopRow : StatementRow where
  date := ⟨2025, 3, 7, by decide⟩
  amount :=
    { negative := true, groups := ["2".toList, "118".toList], decimals := "35".toList
      groupsSome := by decide, groupDigits := by decide, decimalDigits := by decide }
  operationAmount :=
    { negative := true, groups := ["2118".toList], decimals := "35".toList
      groupsSome := by decide, groupDigits := by decide, decimalDigits := by decide }
  sender := "Jan"
  recipient := "Sklep; \"Łódź\""
  details := "BLIK"
  operationCurrency := "PLN"
  accountCurrency := "PLN"
  senderAccount := "1"
  recipientAccount := ""
  other _ := []

def shopStatement : Statement where
  preamble := "Historia operacji".toList
  columns := requiredColumns
  rows := [shopRow]
  oneLine := by decide
  readable := fun _ member => member
  smallNames := by decide
  smallCells := by decide

end Sample

end FireflyToolkit.BankCSVReader
