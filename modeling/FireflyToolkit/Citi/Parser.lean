import FireflyToolkit.Domain.Numerals

set_option autoImplicit false

namespace FireflyToolkit.Citi

open PyText Numerals

structure ParsedCitiTransaction where
  date : Date
  payee : String
  amountText : String
  amountCurrency : String
  amountValue : String
  deriving DecidableEq

structure CitiParseResult where
  transactions : List ParsedCitiTransaction
  warnings : List String
  deriving DecidableEq

structure ParsedAmount where
  normalizedValue : String
  currency : String
  value : Double
  deriving DecidableEq

def monthsPl : List (String × Nat) :=
  [("sty", 1), ("lut", 2), ("mar", 3), ("kwi", 4), ("maj", 5), ("cze", 6), ("lip", 7), ("sie", 8),
    ("wrz", 9), ("paź", 10), ("paz", 10), ("lis", 11), ("gru", 12)]

-- `datetime` makes a C integer of each argument first; an `OverflowError` is no `ValueError`.
def cInt (value : Int) : Except PyError Int :=
  if value < -2 ^ 63 ∨ 2 ^ 63 ≤ value then
    .error (.overflowError "Python int too large to convert to C long")
  else if 2 ^ 31 ≤ value then .error (.overflowError "signed integer is greater than maximum")
  else if value < -2 ^ 31 then .error (.overflowError "signed integer is less than minimum")
  else .ok value

-- `datetime(year, month, day).date()`, with `none` for its `ValueError`.
def datetimeDate (year : Int) (month : Nat) (day : Int) : Except PyError (Option Date) := do
  let year ← cInt year
  let day ← cInt day
  return Date.ofFields? year.toNat month day.toNat

section Parser

variable (tables : UnicodeTables)

def monthOf (word : List Char) : Option Nat :=
  monthsPl.lookup (String.ofList (tables.lower (word.take 3)))

def parsePolishDate (value : List Char) : Except PyError (Option Date) :=
  match words (strip value) with
  | [dayText, monthText, yearText] =>
      match readInt tables dayText, readInt tables yearText with
      | some day, some year =>
          match monthOf tables monthText with
          | some month => datetimeDate year month day
          | none => .ok none
      | _, _ => .ok none
  | _ => .ok none

def compacted (value : List Char) : List Char :=
  (value.filter (· ≠ ' ')).map fun character => if character = ',' then '.' else character

def currencyOf (compact : List Char) : List Char :=
  let letters := tables.upper (compact.filter tables.isAlpha)
  if letters = [] then "PLN".toList else letters

def parseAmount (value : List Char) : Option ParsedAmount :=
  let compact := compacted value
  let currency := currencyOf tables compact
  let number := removeSuffix currency compact
  if number = [] then none
  else (pyFloat tables number).map fun value =>
    { normalizedValue := String.ofList number, currency := String.ofList currency, value }

def incompleteWarning (number : Nat) : String :=
  "Incomplete transaction block starting at line " ++ toString number

def invalidAmountWarning (number : Nat) (amountLine : List Char) : String :=
  "Skipped transaction at line " ++ toString number ++ ": invalid amount '" ++
    String.ofList amountLine ++ "'"

def CitiParseResult.warned (warning : String) (later : CitiParseResult) : CitiParseResult :=
  { later with warnings := warning :: later.warnings }

def CitiParseResult.recorded (transaction : ParsedCitiTransaction) (later : CitiParseResult) :
    CitiParseResult :=
  { later with transactions := transaction :: later.transactions }

-- The loop from the line at `index` on, which is the first one here.
def parseLines (includePositive : Bool) (index : Nat) : List (List Char) → Except PyError CitiParseResult
  | [] => .ok { transactions := [], warnings := [] }
  | dateLine :: rest =>
      match parsePolishDate tables dateLine with
      | .error failure => .error failure
      | .ok none => parseLines includePositive (index + 1) rest
      | .ok (some date) =>
          match rest with
          | payee :: _ :: amountLine :: later =>
              match parseAmount tables amountLine with
              | none =>
                  (parseLines includePositive (index + 4) later).map
                    (.warned (invalidAmountWarning (index + 1) amountLine))
              | some amount =>
                  if !includePositive && amount.value.isPositive then
                    parseLines includePositive (index + 4) later
                  else
                    (parseLines includePositive (index + 4) later).map <| .recorded
                      { date, payee := String.ofList payee, amountText := String.ofList amountLine,
                        amountCurrency := amount.currency, amountValue := amount.normalizedValue }
          | _ => .ok { transactions := [], warnings := [incompleteWarning (index + 1)] }

def cleanLines (lines : List (List Char)) : List (List Char) := (lines.map strip).filter (· ≠ [])

def parse (rawText : String) (includePositive : Bool) : Except PyError CitiParseResult :=
  parseLines tables includePositive 0 (cleanLines (splitLines rawText.toList))

end Parser

def InCRange (value : Int) : Prop := -2 ^ 31 ≤ value ∧ value < 2 ^ 31

instance (value : Int) : Decidable (InCRange value) := inferInstanceAs (Decidable (_ ∧ _))

def Overflows (tables : UnicodeTables) (line : List Char) : Prop :=
  ∃ dayText monthText yearText day year month, words (strip line) = [dayText, monthText, yearText] ∧
    readInt tables dayText = some day ∧ readInt tables yearText = some year ∧
    monthOf tables monthText = some month ∧ ¬ (InCRange year ∧ InCRange day)

theorem cInt_ok_iff {value : Int} : cInt value = .ok value ↔ InCRange value := by
  unfold cInt InCRange
  split_ifs <;> simp <;> omega

theorem cInt_cases (value : Int) : (∃ failure, cInt value = .error failure) ∨ cInt value = .ok value := by
  unfold cInt
  split_ifs <;> simp

theorem datetimeDate_error_iff {year day : Int} {month : Nat} :
    (∃ failure, datetimeDate year month day = .error failure) ↔ ¬ (InCRange year ∧ InCRange day) := by
  rw [← cInt_ok_iff, ← cInt_ok_iff]
  rcases cInt_cases year with ⟨failure, raised⟩ | whole
  · simp [datetimeDate, raised, bind, Except.bind]
  · rcases cInt_cases day with ⟨failure, raised⟩ | dayWhole
    · simp [datetimeDate, whole, raised, bind, Except.bind]
    · simp [datetimeDate, whole, dayWhole, bind, Except.bind, pure, Except.pure]

theorem parsePolishDate_error_iff {tables : UnicodeTables} {line : List Char} :
    (∃ failure, parsePolishDate tables line = .error failure) ↔ Overflows tables line := by
  constructor
  · rintro ⟨failure, raised⟩
    unfold parsePolishDate at raised
    split at raised
    next dayText monthText yearText split =>
      split at raised
      next day year dayRead yearRead =>
        split at raised
        next month found =>
          exact ⟨dayText, monthText, yearText, day, year, month, split, dayRead, yearRead, found,
            datetimeDate_error_iff.mp ⟨failure, raised⟩⟩
        next => simp at raised
      next => simp at raised
    next => simp at raised
  · rintro ⟨dayText, monthText, yearText, day, year, month, split, dayRead, yearRead, found, outside⟩
    simp only [parsePolishDate, split, dayRead, yearRead, found]
    exact datetimeDate_error_iff.mpr outside

end FireflyToolkit.Citi
