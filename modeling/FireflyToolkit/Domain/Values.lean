import FireflyToolkit.Shared.PyBuiltins

set_option autoImplicit false

namespace FireflyToolkit

open PyBuiltins

structure UUID where
  value : Nat
  deriving DecidableEq, Repr

-- `str`: the hexadecimal digits in groups of 8, 4, 4, 4 and 12.
def UUID.str (id : UUID) : String :=
  let digits := (Nat.toDigits 16 id.value).leftpad 32 '0'
  let group (start length : Nat) : String := String.ofList ((digits.drop start).take length)
  join "-" [group 0 8, group 8 4, group 12 4, group 16 4, group 20 12]

-- Instants are counted in microseconds, the resolution of `datetime`.
abbrev Time := Int

def seconds (count : Int) : Time := count * 1000000

inductive JobStatus
  | pending | running | done | failed
  deriving DecidableEq, Repr

inductive OutcomeStatus
  | success | failed
  deriving DecidableEq, Repr

inductive ApplicationError
  | invalidFileId | invalidFileFormat | fileNotFound | matchesNotComputed | invalidMatchSelection
  | transactionNotFound | invalidSecretId | secretNotAccessible | vaultNotConfigured
  | vaultAlreadyConfigured | vaultLocked | vaultSessionExpired | invalidVaultPassphrase
  | secretDecryptionFailed | externalServiceFailed
  deriving DecidableEq, Repr

inductive PyError
  | valueError (message : String)
  | overflowError (message : String)
  | typeError (message : String)
  | attributeError (message : String)
  | invalidOperation
  | decimalOverflow
  | validationError (fields : List String)
  | timeoutError
  | fireflyServiceError (message : String) (statusCode : Option Int)
  | application (kind : ApplicationError) (message : String)
  deriving DecidableEq, Repr

def PyError.message : PyError → String
  | valueError message | overflowError message | typeError message | attributeError message => message
  | invalidOperation => "[<class 'decimal.InvalidOperation'>]"
  | decimalOverflow => "[<class 'decimal.Overflow'>]"
  -- Nothing reads what pydantic says beside the fields.
  | validationError fields => join "\n" fields
  | timeoutError => ""
  | fireflyServiceError message _ | application _ message => message

-- How an asyncio task or a coroutine ends; a cancellation is not an exception of the program.
inductive TaskOutcome (α : Type)
  | returned (value : α)
  | raised (error : PyError)
  | cancelled
  deriving DecidableEq, Repr

-- The error the Firefly client raises; the services only read its status code.
structure FireflyAPIError where
  statusCode : Option Int
  deriving DecidableEq, Repr

def isLeapYear (year : Nat) : Bool :=
  decide (year % 4 = 0 ∧ (year % 100 ≠ 0 ∨ year % 400 = 0))

def daysInMonth (year month : Nat) : Nat :=
  if month = 2 then (if isLeapYear year then 29 else 28)
  else if month = 4 ∨ month = 6 ∨ month = 9 ∨ month = 11 then 30 else 31

def ValidDate (year month day : Nat) : Prop :=
  1 ≤ year ∧ year ≤ 9999 ∧ 1 ≤ month ∧ month ≤ 12 ∧ 1 ≤ day ∧ day ≤ daysInMonth year month

instance (year month day : Nat) : Decidable (ValidDate year month day) :=
  inferInstanceAs (Decidable (_ ∧ _ ∧ _ ∧ _ ∧ _ ∧ _))

structure Date where
  year : Nat
  month : Nat
  day : Nat
  valid : ValidDate year month day
  deriving DecidableEq

namespace Date

def ofFields? (year month day : Nat) : Option Date :=
  if valid : ValidDate year month day then some ⟨year, month, day, valid⟩ else none

def le (left right : Date) : Bool :=
  decide (left.year < right.year ∨ (left.year = right.year ∧
    (left.month < right.month ∨ (left.month = right.month ∧ left.day ≤ right.day))))

def nextDay (date : Date) : Option Date :=
  if date.day < daysInMonth date.year date.month then
    ofFields? date.year date.month (date.day + 1)
  else if date.month < 12 then ofFields? date.year (date.month + 1) 1
  else ofFields? (date.year + 1) 1 1

def previousDay (date : Date) : Option Date :=
  if 1 < date.day then ofFields? date.year date.month (date.day - 1)
  else if 1 < date.month then
    ofFields? date.year (date.month - 1) (daysInMonth date.year (date.month - 1))
  else ofFields? (date.year - 1) 12 31

def iterateDay (step : Date → Option Date) : Nat → Date → Option Date
  | 0, date => some date
  | count + 1, date => (step date).bind (iterateDay step count)

-- `date + timedelta(days=days)`; the calendar ends at both sides, where Python raises
-- `OverflowError`.
def addDays (date : Date) : Int → Option Date
  | .ofNat count => iterateDay nextDay count date
  | .negSucc count => iterateDay previousDay (count + 1) date

def isoformat (date : Date) : String :=
  padZeros 4 date.year ++ "-" ++ padZeros 2 date.month ++ "-" ++ padZeros 2 date.day

end Date

end FireflyToolkit
