import FireflyToolkit.Domain.Calendar
import FireflyToolkit.Domain.Evidence
import FireflyToolkit.Domain.Numerals
import FireflyToolkit.Shared.Csv
import FireflyToolkit.Shared.Utf8
import Mathlib.Data.List.Basic

set_option autoImplicit false

namespace FireflyToolkit.BankCSVReader

open PyText
open PyBuiltins (bind_eq_ok mapM_eq_ok isSpace)

-- `csv.DictReader`: a row that is too short is filled up with `None`, and of two columns with one
-- name the later one counts.
def namedCell (fieldnames row : Csv.Row) (column : String) : Option (Option (List Char)) :=
  let cells := row.map some ++ List.replicate (fieldnames.length - row.length) none
  (fieldnames.zip cells).reverse.lookup column.toList

-- `csv.field_size_limit()`
def fieldSizeLimit : Nat := 131072

inductive ReadError
  | stopIteration
  | unicodeDecodeError (message : String)
  | fieldLarger
  | keyError (column : String)
  | attributeError
  | timeData (text : List Char)
  | invalidAmount (message : String)
  deriving DecidableEq

def checkFields (row : Csv.Row) : Except ReadError Unit :=
  if row.all fun field => field.length ≤ fieldSizeLimit then .ok () else .error .fieldLarger

section Reader

variable (tables : UnicodeTables)

def nonzeroDigit (character : Char) : Option Nat :=
  if '1' ≤ character ∧ character ≤ '9' then some (character.toNat - 48) else none

-- `3[0-1]|[1-2]\d|0[1-9]|[1-9]| [1-9]`
def dayOf : List Char → Option Nat
  | [unit] => nonzeroDigit unit
  | [ten, unit] =>
      if ten = '3' then (if unit = '0' then some 30 else if unit = '1' then some 31 else none)
      else if ten = '1' then (tables.decimal unit).map (10 + ·)
      else if ten = '2' then (tables.decimal unit).map (20 + ·)
      else if ten = '0' ∨ ten = ' ' then nonzeroDigit unit
      else none
  | _ => none

-- `1[0-2]|0[1-9]|[1-9]`
def monthOf : List Char → Option Nat
  | [unit] => nonzeroDigit unit
  | [ten, unit] =>
      if ten = '1' then
        if unit = '0' then some 10 else if unit = '1' then some 11 else if unit = '2' then some 12 else none
      else if ten = '0' then nonzeroDigit unit
      else none
  | _ => none

def yearOf : List Char → Option Nat
  | [thousand, hundred, ten, unit] => do
      let thousand ← tables.decimal thousand
      let hundred ← tables.decimal hundred
      let ten ← tables.decimal ten
      let unit ← tables.decimal unit
      return 1000 * thousand + 100 * hundred + 10 * ten + unit
  | _ => none

-- `datetime.strptime(s, "%d-%m-%Y").date()`; each of its exceptions is a `ValueError`.
def plDate (text : List Char) : Option Date :=
  match (strip text).splitOn '-' with
  | [day, month, year] => do Date.ofFields? (← yearOf tables year) (← monthOf month) (← dayOf tables day)
  | _ => none

def parsePlDate (text : List Char) : Except ReadError Date :=
  match plDate tables text with
  | some date => .ok date
  | none => .error (.timeData text)

def commaToPoint (character : Char) : Char := if character = ',' then '.' else character

def parseAmount (text : List Char) : Except ReadError Decimal :=
  let s := String.ofList (((strip text).filter (· ≠ ' ')).map commaToPoint)
  (Numerals.decimalOf tables s).mapError fun _ => .invalidAmount ("Invalid amount format: " ++ s)

variable (fieldnames row : Csv.Row)

def cellText (column : String) : Except ReadError (Option String) :=
  match namedCell fieldnames row column with
  | some text => .ok (text.map String.ofList)
  | none => .error (.keyError column)

-- A method of the cell is called, and `None` has none.
def filledCell (column : String) : Except ReadError (List Char) :=
  match namedCell fieldnames row column with
  | some (some text) => .ok text
  | some none => .error .attributeError
  | none => .error (.keyError column)

-- `row[column].replace(",", ".").replace(" ", "")`
def amountCell (column : String) : Except ReadError Decimal := do
  let text ← filledCell fieldnames row column
  parseAmount tables ((text.map commaToPoint).filter (· ≠ ' '))

def readRow : Except ReadError BankRecord := do
  let dateText ← filledCell fieldnames row "Data transakcji"
  let date ← parsePlDate tables dateText
  let amount ← amountCell tables fieldnames row "Kwota w walucie rachunku"
  let operationAmount ← amountCell tables fieldnames row "Kwota operacji"
  let sender ← cellText fieldnames row "Nazwa nadawcy"
  let recipient ← cellText fieldnames row "Nazwa odbiorcy"
  let details ← cellText fieldnames row "Szczegóły transakcji"
  let operationCurrency ← cellText fieldnames row "Waluta operacji"
  let accountCurrency ← cellText fieldnames row "Waluta rachunku"
  let senderAccount ← cellText fieldnames row "Numer rachunku nadawcy"
  let recipientAccount ← cellText fieldnames row "Numer rachunku odbiorcy"
  return {
    date := date
    amount, operationAmount, sender, recipient, details, operationCurrency, accountCurrency
    senderAccount, recipientAccount }

end Reader

-- What is left after `next(csvfile)`: a line may end in any of the three ways.
def afterLine : List Char → List Char
  | [] => []
  | '\n' :: rest => rest
  | '\r' :: '\n' :: rest => rest
  | '\r' :: rest => rest
  | _ :: rest => afterLine rest

def readText (tables : UnicodeTables) (text : List Char) : Except ReadError (List BankRecord) :=
  if text = [] then .error .stopIteration
  else
    match Csv.read ';' (afterLine text) with
    | [] => .ok []
    | fieldnames :: rows => do
        checkFields fieldnames
        (rows.filter (· ≠ [])).mapM fun row => do
          checkFields row
          readRow tables fieldnames row

def parse (tables : UnicodeTables) (bytes : List Nat) : Except ReadError (List BankRecord) := do
  let text ← (Utf8.decode bytes).mapError .unicodeDecodeError
  readText tables text

structure Tells (tables : UnicodeTables) (fieldnames row : Csv.Row) (record : BankRecord) : Prop where
  date : ∃ text, namedCell fieldnames row "Data transakcji" = some (some text) ∧
    plDate tables text = some record.date
  amount : amountCell tables fieldnames row "Kwota w walucie rachunku" = .ok record.amount
  operationAmount : amountCell tables fieldnames row "Kwota operacji" = .ok record.operationAmount
  sender : cellText fieldnames row "Nazwa nadawcy" = .ok record.sender
  recipient : cellText fieldnames row "Nazwa odbiorcy" = .ok record.recipient
  details : cellText fieldnames row "Szczegóły transakcji" = .ok record.details
  operationCurrency : cellText fieldnames row "Waluta operacji" = .ok record.operationCurrency
  accountCurrency : cellText fieldnames row "Waluta rachunku" = .ok record.accountCurrency
  senderAccount : cellText fieldnames row "Numer rachunku nadawcy" = .ok record.senderAccount
  recipientAccount : cellText fieldnames row "Numer rachunku odbiorcy" = .ok record.recipientAccount

section Reading

variable {tables : UnicodeTables} {fieldnames row : Csv.Row} {column : String}

theorem namedCell_written (cell : List Char → List Char) (member : column.toList ∈ fieldnames) :
    namedCell fieldnames (fieldnames.map cell) column = some (some (cell column.toList)) := by
  have pairs : fieldnames.zip ((fieldnames.map cell).map some) =
      fieldnames.map fun name => (name, some (cell name)) := by
    have both := @List.zip_map' (List Char) (List Char) (Option (List Char)) id (some ∘ cell) fieldnames
    rw [List.map_id] at both
    rw [List.map_map, both]
    rfl
  rw [namedCell, List.length_map, Nat.sub_self, List.replicate_zero, List.append_nil, pairs,
    ← List.map_reverse]
  exact List.lookup_graph (fun name => some (cell name)) (List.mem_reverse.mpr member)

theorem filledCell_ok_iff {text : List Char} :
    filledCell fieldnames row column = .ok text ↔ namedCell fieldnames row column = some (some text) := by
  unfold filledCell
  split <;> simp_all

theorem parsePlDate_ok_iff {text : List Char} {date : Date} :
    parsePlDate tables text = .ok date ↔ plDate tables text = some date := by
  unfold parsePlDate
  split <;> simp_all

theorem checkFields_ok_iff : checkFields row = .ok () ↔ ∀ field ∈ row, field.length ≤ fieldSizeLimit := by
  simp [checkFields]

theorem readRow_ok_iff {record : BankRecord} :
    readRow tables fieldnames row = .ok record ↔ Tells tables fieldnames row record := by
  simp only [readRow, bind_eq_ok, filledCell_ok_iff, parsePlDate_ok_iff]
  constructor
  · rintro ⟨text, named, date, read, amount, paid, operationAmount, booked, sender, first, recipient,
      second, details, third, operationCurrency, fourth, accountCurrency, fifth, senderAccount, sixth,
      recipientAccount, seventh, returned⟩
    obtain rfl := Except.ok.inj returned
    exact ⟨⟨text, named, read⟩, paid, booked, first, second, third, fourth, fifth, sixth, seventh⟩
  · rintro ⟨⟨text, named, read⟩, paid, booked, first, second, third, fourth, fifth, sixth, seventh⟩
    exact ⟨text, named, _, read, _, paid, _, booked, _, first, _, second, _, third, _, fourth, _, fifth,
      _, sixth, _, seventh, rfl⟩

end Reading

end FireflyToolkit.BankCSVReader
