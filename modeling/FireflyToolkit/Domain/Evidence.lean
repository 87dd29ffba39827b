import FireflyToolkit.Domain.Transaction

set_option autoImplicit false

namespace FireflyToolkit

open PyBuiltins

-- Evidence that can be written to a transaction. The first argument is `str.lower`. A payload
-- marks the tags of the transaction it was built from and leaves the category alone.
class Evidence (α : Type) where
  buildTxUpdate : (String → String) → α → Transaction → Except PyError TransactionUpdate
  tagDone : α → TxTag
  payload_tags : ∀ {lower evidence tx payload}, buildTxUpdate lower evidence tx = .ok payload →
    payload.tags = some (insert (tagDone evidence).value tx.tags)
  payload_categoryId : ∀ {lower evidence tx payload},
    buildTxUpdate lower evidence tx = .ok payload → payload.categoryId = none

def addLine (existing : Option String) (newLine : String) : String :=
  match existing with
  | none => newLine
  | some text => if text = "" then newLine else text ++ "\n" ++ newLine

-- The reader leaves the texts at `None` that a row is too short for.
structure BankRecord where
  date : Date
  amount : Decimal
  details : Option String
  recipient : Option String
  operationAmount : Decimal
  sender : Option String := some ""
  operationCurrency : Option String := some "PLN"
  accountCurrency : Option String := some "PLN"
  senderAccount : Option String := some ""
  recipientAccount : Option String := some ""
  deriving DecidableEq

namespace BankRecord

def missingFields (record : BankRecord) : List String :=
  [("details", record.details), ("recipient", record.recipient), ("sender", record.sender),
    ("operation_currency", record.operationCurrency), ("account_currency", record.accountCurrency),
    ("sender_account", record.senderAccount),
    ("recipient_account", record.recipientAccount)].filterMap fun field =>
      if field.2.isNone then some field.1 else none

inductive FieldValue
  | date (value : Date)
  | decimal (value : Decimal)
  | text (value : Option String)

def FieldValue.isMeaningful : FieldValue → Except PyError Bool
  | date _ => .ok true
  | decimal value => value.isNonzero
  | text none => .ok false
  | text (some value) => .ok (!isBlank value)

-- `str(value)`
def shown (text : Option String) : String := text.getD "None"

-- The dataclass fields in declaration order, with the text that `pretty_print` gives each.
def fields (record : BankRecord) : List (String × FieldValue × String) :=
  [("date", .date record.date, record.date.isoformat),
    ("amount", .decimal record.amount,
      record.amount.toText ++ " " ++ shown record.accountCurrency),
    ("details", .text record.details, shown record.details),
    ("recipient", .text record.recipient, shown record.recipient),
    ("operation_amount", .decimal record.operationAmount,
      record.operationAmount.toText ++ " " ++ shown record.operationCurrency),
    ("sender", .text record.sender, shown record.sender),
    ("operation_currency", .text record.operationCurrency, shown record.operationCurrency),
    ("account_currency", .text record.accountCurrency, shown record.accountCurrency),
    ("sender_account", .text record.senderAccount, shown record.senderAccount),
    ("recipient_account", .text record.recipientAccount, shown record.recipientAccount)]

def hiddenCurrencyFields : List String := ["account_currency", "operation_currency"]

def lineOf (onlyMeaningful : Bool) (field : String × FieldValue × String) :
    Except PyError (Option String) := do
  let wanted ← if onlyMeaningful then field.2.1.isMeaningful else .ok true
  .ok (if wanted then some (field.1 ++ ": " ++ field.2.2) else none)

-- An empty `included` list stands for the default, which shows every field not excluded.
def prettyPrint (record : BankRecord) (onlyMeaningful : Bool := false)
    (included excluded : List String := []) : Except PyError String := do
  let offered := record.fields.filter fun field =>
    decide (field.1 ∉ hiddenCurrencyFields) &&
      (if included = [] then decide (field.1 ∉ excluded) else decide (field.1 ∈ included))
  let lines ← offered.mapM (lineOf onlyMeaningful)
  .ok (join "\n" (lines.filterMap id))

def buildTxUpdate (lower : String → String) (record : BankRecord) (tx : Transaction) :
    Except PyError TransactionUpdate :=
  match record.details with
  | none => .error (.attributeError "'NoneType' object has no attribute 'lower'")
  | some details => do
      let printed ← record.prettyPrint true
      .ok
        { description :=
            if OccursIn (lower details) (lower tx.description) then none
            else some (tx.description ++ ";" ++ details)
          notes := some (addLine tx.notes printed)
          tags := some (insert TxTag.blik_done.value tx.tags) }

theorem buildTxUpdate_ok {lower : String → String} {record : BankRecord} {tx : Transaction}
    {payload : TransactionUpdate} :
    record.buildTxUpdate lower tx = .ok payload ↔
      ∃ details printed, record.details = some details ∧ record.prettyPrint true = .ok printed ∧
        payload =
          { description :=
              if OccursIn (lower details) (lower tx.description) then none
              else some (tx.description ++ ";" ++ details)
            notes := some (addLine tx.notes printed)
            tags := some (insert TxTag.blik_done.value tx.tags) } := by
  unfold buildTxUpdate
  cases record.details with
  | none => simp
  | some details =>
    cases record.prettyPrint true with
    | error failure => simp [bind, Except.bind]
    | ok printed => simp [bind, Except.bind, eq_comm]

theorem text_isMeaningful (text : Option String) :
    ∃ wanted, (FieldValue.text text).isMeaningful = .ok wanted := by
  cases text <;> exact ⟨_, rfl⟩

theorem isMeaningful_ok_iff {record : BankRecord} :
    (∀ field ∈ record.fields, ∃ wanted, field.2.1.isMeaningful = .ok wanted) ↔
      record.amount.isSignaling = false ∧ record.operationAmount.isSignaling = false := by
  rw [← Decimal.isNonzero_ok_iff, ← Decimal.isNonzero_ok_iff]
  simp only [fields, List.mem_cons, List.not_mem_nil, or_false]
  constructor
  · intro each
    exact ⟨each _ (.inr (.inl rfl)), each _ (.inr (.inr (.inr (.inr (.inl rfl)))))⟩
  · rintro ⟨amount, operation⟩ field (rfl | rfl | rfl | rfl | rfl | rfl | rfl | rfl | rfl | rfl)
    · exact ⟨_, rfl⟩
    · exact amount
    · exact text_isMeaningful record.details
    · exact text_isMeaningful record.recipient
    · exact operation
    · exact text_isMeaningful record.sender
    · exact text_isMeaningful record.operationCurrency
    · exact text_isMeaningful record.accountCurrency
    · exact text_isMeaningful record.senderAccount
    · exact text_isMeaningful record.recipientAccount

theorem prettyPrint_ok_iff {record : BankRecord} :
    (∃ printed, record.prettyPrint true = .ok printed) ↔
      record.amount.isSignaling = false ∧ record.operationAmount.isSignaling = false := by
  rw [← isMeaningful_ok_iff]
  have line : ∀ field, (∃ line, lineOf true field = .ok line) ↔
      ∃ wanted, field.2.1.isMeaningful = .ok wanted := by
    intro field
    cases meaningful : field.2.1.isMeaningful <;> simp [lineOf, meaningful, bind, Except.bind]
  have hidden : ∀ field ∈ record.fields, field.1 ∈ hiddenCurrencyFields →
      ∃ text, field.2.1 = .text text := by
    simp [fields, hiddenCurrencyFields]
  constructor
  · rintro ⟨printed, shows⟩ field member
    obtain ⟨lines, mapped, -⟩ := bind_eq_ok.mp shows
    by_cases offered : field.1 ∈ hiddenCurrencyFields
    next =>
      obtain ⟨text, shown⟩ := hidden field member offered
      exact shown ▸ text_isMeaningful text
    next =>
      exact (line field).mp (mapM_ok_each mapped field (List.mem_filter.mpr ⟨member, by simp [offered]⟩))
  · intro each
    obtain ⟨lines, mapped⟩ := mapM_ok_iff.mpr fun field member =>
      (line field).mpr (each field (List.mem_of_mem_filter member))
    exact ⟨_, bind_eq_ok.mpr ⟨lines, mapped, rfl⟩⟩

def isWritable (record : BankRecord) : Bool :=
  record.details.isSome && !record.amount.isSignaling && !record.operationAmount.isSignaling

theorem buildTxUpdate_ok_iff {lower : String → String} {record : BankRecord} {tx : Transaction} :
    (∃ payload, record.buildTxUpdate lower tx = .ok payload) ↔ record.isWritable = true := by
  simp only [isWritable, Bool.and_eq_true, Bool.not_eq_true', and_assoc, ← prettyPrint_ok_iff,
    buildTxUpdate_ok, Option.isSome_iff_exists]
  constructor
  · rintro ⟨payload, details, printed, present, shows, -⟩
    exact ⟨⟨details, present⟩, printed, shows⟩
  · rintro ⟨⟨details, present⟩, printed, shows⟩
    exact ⟨_, details, printed, present, shows, rfl⟩

instance : Evidence BankRecord where
  buildTxUpdate lower record tx := record.buildTxUpdate lower tx
  tagDone _ := .blik_done
  payload_tags built := by
    obtain ⟨details, printed, -, -, rfl⟩ := buildTxUpdate_ok.mp built
    rfl
  payload_categoryId built := by
    obtain ⟨details, printed, -, -, rfl⟩ := buildTxUpdate_ok.mp built
    rfl

end BankRecord

structure OrderPayment where
  date : Date
  amount : Decimal
  details : List String
  tagDone : TxTag
  deriving DecidableEq

namespace OrderPayment

def flattenDetails (payment : OrderPayment) : String := join "\n" payment.details

-- Notes are written only when they do not hold the details yet.
def newNotes (lower : String → String) (payment : OrderPayment) (tx : Transaction) : Option String :=
  let details := payment.flattenDetails
  match tx.notes with
  | none => some (addLine none details)
  | some text =>
      if text = "" then some (addLine (some text) details)
      else if OccursIn (lower details) (lower text) then none
      else some (addLine (some text) details)

def buildTxUpdate (lower : String → String) (payment : OrderPayment) (tx : Transaction) :
    Except PyError TransactionUpdate :=
  if payment.flattenDetails = "" then .error (.valueError "Details cannot be empty")
  else .ok
    { notes := payment.newNotes lower tx
      tags := some (insert payment.tagDone.value tx.tags) }

theorem buildTxUpdate_ok {lower : String → String} {payment : OrderPayment} {tx : Transaction}
    {payload : TransactionUpdate} :
    payment.buildTxUpdate lower tx = .ok payload ↔ payment.flattenDetails ≠ "" ∧
      payload = { notes := payment.newNotes lower tx
                  tags := some (insert payment.tagDone.value tx.tags) } := by
  unfold buildTxUpdate
  by_cases blank : payment.flattenDetails = "" <;> simp [blank, eq_comm]

end OrderPayment

structure AllegroOrderPayment extends OrderPayment where
  isBalanced : Bool
  allegroLogin : String
  externalShortId : String
  externalId : String
  deriving DecidableEq

instance : Evidence AllegroOrderPayment where
  buildTxUpdate lower payment tx := payment.toOrderPayment.buildTxUpdate lower tx
  tagDone payment := payment.tagDone
  payload_tags built := (OrderPayment.buildTxUpdate_ok.mp built).2 ▸ rfl
  payload_categoryId built := (OrderPayment.buildTxUpdate_ok.mp built).2 ▸ rfl

end FireflyToolkit
