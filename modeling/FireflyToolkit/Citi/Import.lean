import FireflyToolkit.Citi.Export
import FireflyToolkit.Citi.Runs
import FireflyToolkit.Shared.OrderedDict

set_option autoImplicit false

namespace FireflyToolkit.Citi

open OrderedDict PyText Numerals
open PyBuiltins (map_eq_ok bind_eq_ok mapM_eq_ok exists_forall₂ mem_of_forall₂)

def toBankRecord (tables : UnicodeTables) (transaction : ParsedCitiTransaction) :
    Except PyError BankRecord := do
  let amount ← decimalOf tables transaction.amountValue
  return {
    date := transaction.date
    amount
    details := some transaction.payee
    recipient := some transaction.payee
    operationAmount := amount
    operationCurrency := some transaction.amountCurrency
    accountCurrency := some transaction.amountCurrency }

def toBankRecords (tables : UnicodeTables) (transactions : List ParsedCitiTransaction) :
    Except PyError (List BankRecord) := transactions.mapM (toBankRecord tables)

structure CitiImportFile where
  fileId : String
  records : List BankRecord
  warnings : List String
  chunkSize : Int
  includePositive : Bool
  sourceName : Option String

structure CitiImportStore where
  files : Dict String CitiImportFile

def CitiImportStore.create (store : CitiImportStore) (entry : CitiImportFile) : CitiImportStore :=
  { files := store.files.set entry.fileId entry }

structure CitiParsePreview where
  fileId : String
  recordCount : Nat
  preview : List BankRecord
  warnings : List String

def buildPreview (fileId : String) (records : List BankRecord) (warnings : List String) :
    CitiParsePreview :=
  { fileId, recordCount := records.length, preview := records, warnings }

-- `uuid4` draws the identifier.
def parseText (tables : UnicodeTables) (store : CitiImportStore) (fresh : UUID) (rawText : String)
    (includePositive : Bool) (chunkSize : Int) (sourceName : Option String) :
    Except PyError (CitiImportStore × CitiParsePreview) := do
  let parsed ← parse tables rawText includePositive
  let records ← toBankRecords tables parsed.transactions
  let entry : CitiImportFile :=
    { fileId := fresh.str, records, warnings := parsed.warnings, chunkSize, includePositive, sourceName }
  return (store.create entry, buildPreview entry.fileId records parsed.warnings)

structure CitiImportRecord where
  date : Date
  amount : Double
  details : String
  recipient : String
  operationAmount : Double
  sender : String
  operationCurrency : String
  accountCurrency : String
  senderAccount : String
  recipientAccount : String

-- `float(value)`
def toFloat (value : Decimal) : Except PyError Double :=
  if value.isSignaling then .error (.valueError "cannot convert signaling NaN to float")
  else .ok value.toDouble

def mapBankRecordToApi (record : BankRecord) : Except PyError CitiImportRecord := do
  let amount ← toFloat record.amount
  let operationAmount ← toFloat record.operationAmount
  match record.details, record.recipient, record.sender, record.operationCurrency,
      record.accountCurrency, record.senderAccount, record.recipientAccount with
  | some details, some recipient, some sender, some operationCurrency, some accountCurrency,
      some senderAccount, some recipientAccount =>
      .ok
        { date := record.date, amount, details, recipient, operationAmount, sender
          operationCurrency, accountCurrency, senderAccount, recipientAccount }
  | _, _, _, _, _, _, _ => .error (.validationError record.missingFields)

structure CitiImportParseResponse where
  fileId : String
  recordCount : Nat
  preview : List CitiImportRecord
  warnings : List String

def mapPreviewToResponse (preview : CitiParsePreview) : Except PyError CitiImportParseResponse := do
  let records ← preview.preview.mapM mapBankRecordToApi
  return {
    fileId := preview.fileId
    recordCount := preview.recordCount
    preview := records
    warnings := preview.warnings }

section Sound

variable (tables : UnicodeTables) (includePositive : Bool)

-- The amount of the record is a number, of the sign that was asked for, the one that the filter
-- tested, and is shown as a number in the preview and in the export.
structure Sound (transaction : ParsedCitiTransaction) (record : BankRecord) : Prop where
  finite : ∃ negative coefficient exponent, record.amount = .finite negative coefficient exponent
  sign : includePositive = true ∨ record.amount.isPositive = false
  tested : ∃ amount, parseAmount tables transaction.amountText.toList = some amount ∧
    record.amount.toDouble = amount.value
  previewed : ∃ shown, mapBankRecordToApi record = .ok shown ∧ shown.amount.isFinite = true ∧
    shown.operationAmount.isFinite = true
  exported : ∃ negative coefficient, decimalNumber tables record.amount.twoPlaces.toList =
    some (.finite negative coefficient (-2))

def Imports (rawText : String) : Prop :=
  ∀ store fresh chunkSize sourceName, ∃ parsed next preview entry,
    parse tables rawText includePositive = .ok parsed ∧
    parseText tables store fresh rawText includePositive chunkSize sourceName = .ok (next, preview) ∧
    next.files.get? preview.fileId = some entry ∧
    List.Forall₂ (Sound tables includePositive) parsed.transactions entry.records

def numberText (amountLine : List Char) : List Char :=
  removeSuffix (currencyOf tables (compacted amountLine)) (compacted amountLine)

def IsMoney : Decimal → Prop
  | .finite negative coefficient exponent => Fits coefficient exponent ∧
      (Decimal.finite negative coefficient exponent).toDouble.isFinite = true ∧
      (includePositive = true ∨ (Decimal.finite negative coefficient exponent).isPositive = false)
  | .infinity _ | .nan .. => False

structure Importable (lines : List (List Char)) : Prop where
  quiet : Quiet tables lines
  money : ∀ date payee amountLine, .frame date payee amountLine ∈ stops tables lines →
    ∀ number, floatNumber tables (numberText tables amountLine) = some number →
      (includePositive = true ∨ number.toDouble.isPositive = false) → IsMoney includePositive number

end Sound

section Import

variable {tables : UnicodeTables} {includePositive : Bool}

theorem parseAmount_number (amountLine : List Char) : parseAmount tables amountLine =
    (floatNumber tables (numberText tables amountLine)).map fun number =>
      { normalizedValue := String.ofList (numberText tables amountLine)
        currency := String.ofList (currencyOf tables (compacted amountLine))
        value := number.toDouble } := by
  unfold parseAmount numberText
  dsimp only
  split_ifs with empty
  · rw [empty]
    rfl
  · rw [pyFloat, Option.map_map]
    rfl

theorem floatNumber_quiet {text : List Char} {number : Decimal} (read : floatNumber tables text = some number) :
    number.isSignaling = false := by
  obtain ⟨plain, -, numeral⟩ := Option.bind_eq_some_iff.mp read
  unfold readNumeral readUnsigned at numeral
  dsimp only at numeral
  split_ifs at numeral
  · rw [← Option.some.inj numeral]
    rfl
  · rw [← Option.some.inj numeral]
    rfl
  · obtain ⟨exponent, -, rfl⟩ := Option.map_eq_some_iff.mp numeral
    rfl

-- What `float` accepted can be shown again.
theorem toBankRecord_shown {transaction : ParsedCitiTransaction} {record : BankRecord}
    (made : toBankRecord tables transaction = .ok record)
    (accepted : ∃ number, floatNumber tables transaction.amountValue.toList = some number) :
    ∃ shown, mapBankRecordToApi record = .ok shown ∧ shown.amount = record.amount.toDouble ∧
      shown.operationAmount = record.amount.toDouble := by
  obtain ⟨number, read⟩ := accepted
  obtain ⟨amount, stored, returned⟩ := bind_eq_ok.mp made
  obtain rfl := Except.ok.inj returned
  have same : amount = number := by
    unfold decimalOf at stored
    rw [decimalNumber_of_float read] at stored
    cases number with
    | finite =>
      dsimp only at stored
      split_ifs at stored
      exact (Except.ok.inj stored).symm
    | infinity => exact (Except.ok.inj stored).symm
    | nan => exact (Except.ok.inj stored).symm
  refine ⟨{ date := transaction.date, amount := amount.toDouble, details := transaction.payee
            recipient := transaction.payee, operationAmount := amount.toDouble, sender := ""
            operationCurrency := transaction.amountCurrency, accountCurrency := transaction.amountCurrency
            senderAccount := "", recipientAccount := "" }, ?_, rfl, rfl⟩
  have quiet : amount.isSignaling = false := same ▸ floatNumber_quiet read
  simp [mapBankRecordToApi, toFloat, quiet, bind, Except.bind]

theorem sound_iff {transaction : ParsedCitiTransaction} {amountLine : List Char} {number : Decimal}
    (text : transaction.amountText = String.ofList amountLine)
    (value : transaction.amountValue = String.ofList (numberText tables amountLine))
    (read : floatNumber tables (numberText tables amountLine) = some number) :
    (∃ record, toBankRecord tables transaction = .ok record ∧
      Sound tables includePositive transaction record) ↔ IsMoney includePositive number := by
  have decimal : decimalNumber tables transaction.amountValue.toList = some number := by
    rw [value, String.toList_ofList]
    exact decimalNumber_of_float read
  have parsed : parseAmount tables transaction.amountText.toList = some
      { normalizedValue := String.ofList (numberText tables amountLine)
        currency := String.ofList (currencyOf tables (compacted amountLine))
        value := number.toDouble } := by
    rw [text, String.toList_ofList, parseAmount_number, read]
    rfl
  unfold toBankRecord decimalOf
  rw [decimal]
  cases number with
  | infinity | nan =>
    constructor
    · rintro ⟨record, made, sound⟩
      obtain ⟨negative', coefficient, exponent, finite⟩ := sound.finite
      obtain rfl := Except.ok.inj made
      simp at finite
    · exact fun impossible => absurd impossible id
  | finite negative coefficient exponent =>
    dsimp only
    split_ifs with fits
    · constructor
      · rintro ⟨record, made, sound⟩
        obtain ⟨shown, mapped, finite, -⟩ := sound.previewed
        obtain rfl := Except.ok.inj made
        obtain rfl := Except.ok.inj mapped
        exact ⟨fits, finite, sound.sign⟩
      · rintro ⟨-, finite, sign⟩
        exact ⟨_, rfl, ⟨⟨_, _, _, rfl⟩, sign, ⟨_, parsed, rfl⟩, ⟨_, rfl, finite, finite⟩,
          _, _, Decimal.twoPlaces_finite tables negative coefficient exponent⟩⟩
    · constructor
      · rintro ⟨record, made, -⟩
        simp [bind, Except.bind] at made
      · exact fun money => absurd money.1 fits

theorem transactionAt_eq_some {stop : Stop} {transaction : ParsedCitiTransaction} :
    transactionAt tables includePositive stop = some transaction ↔
      ∃ date payee amountLine number, stop = .frame date payee amountLine ∧
        floatNumber tables (numberText tables amountLine) = some number ∧
        (includePositive = true ∨ number.toDouble.isPositive = false) ∧
        transaction = frameTransaction date payee amountLine
          { normalizedValue := String.ofList (numberText tables amountLine)
            currency := String.ofList (currencyOf tables (compacted amountLine))
            value := number.toDouble } := by
  cases stop with
  | passed line => simp [transactionAt]
  | cut date => simp [transactionAt]
  | frame date payee amountLine =>
    rw [transactionAt, parseAmount_number]
    constructor
    · intro read
      obtain ⟨amount, parsed, taken⟩ := Option.bind_eq_some_iff.mp read
      obtain ⟨number, value, rfl⟩ := Option.map_eq_some_iff.mp parsed
      split_ifs at taken with skipped
      refine ⟨date, payee, amountLine, number, rfl, value, ?_, (Option.some.inj taken).symm⟩
      revert skipped
      cases includePositive <;> simp
    · rintro ⟨date', payee', amountLine', number, same, value, taken, rfl⟩
      obtain ⟨rfl, rfl, rfl⟩ := Stop.frame.inj same
      rw [value, Option.map_some, Option.bind_some, if_neg]
      rcases taken with all | negative
      · simp [all]
      · simp [negative]

theorem parse_accepted {rawText : String} {parsed : CitiParseResult}
    (read : parse tables rawText includePositive = .ok parsed) {transaction : ParsedCitiTransaction}
    (member : transaction ∈ parsed.transactions) :
    ∃ number, floatNumber tables transaction.amountValue.toList = some number := by
  have transactions : transactionsOf tables includePositive (cleanLines (splitLines rawText.toList)) =
      .ok parsed.transactions := map_eq_ok.mpr ⟨parsed, read, rfl⟩
  rcases transactionsOf_stops (cleanLines (splitLines rawText.toList)) with
    ⟨-, failure, raised⟩ | ⟨-, returned⟩
  · cases raised.symm.trans transactions
  · rw [Except.ok.inj (transactions.symm.trans returned)] at member
    obtain ⟨stop, -, made⟩ := List.mem_filterMap.mp member
    obtain ⟨date, payee, amountLine, number, -, value, -, rfl⟩ := transactionAt_eq_some.mp made
    refine ⟨number, ?_⟩
    rw [frameTransaction, String.toList_ofList]
    exact value

theorem forall₂_and {α β : Type} {left right : α → β → Prop} {items : List α} {results : List β}
    (first : List.Forall₂ left items results) (second : List.Forall₂ right items results) :
    List.Forall₂ (fun item result => left item result ∧ right item result) items results := by
  induction first with
  | nil => exact .nil
  | cons own _ ih =>
    obtain ⟨other, later⟩ := List.forall₂_cons.mp second
    exact .cons ⟨own, other⟩ (ih later)

section Stored

variable {store next : CitiImportStore} {fresh : UUID} {rawText : String} {chunkSize : Int}
  {sourceName : Option String} {preview : CitiParsePreview}

theorem get?_create (store : CitiImportStore) (entry : CitiImportFile) :
    (store.create entry).files.get? entry.fileId = some entry := by
  simp [CitiImportStore.create]

theorem parseText_eq_ok :
    parseText tables store fresh rawText includePositive chunkSize sourceName = .ok (next, preview) ↔
      ∃ parsed records, parse tables rawText includePositive = .ok parsed ∧
        toBankRecords tables parsed.transactions = .ok records ∧
        next = store.create
          { fileId := fresh.str, records, warnings := parsed.warnings
            chunkSize, includePositive, sourceName } ∧
        preview = buildPreview fresh.str records parsed.warnings := by
  unfold parseText
  simp only [bind_eq_ok]
  constructor
  · rintro ⟨parsed, read, records, made, finished⟩
    obtain ⟨rfl, rfl⟩ := Prod.mk.inj (Except.ok.inj finished)
    exact ⟨parsed, records, read, made, rfl, rfl⟩
  · rintro ⟨parsed, records, read, made, rfl, rfl⟩
    exact ⟨parsed, read, records, made, rfl⟩

theorem mapPreviewToResponse_stored {parsed : CitiParseResult} {records : List BankRecord}
    (read : parse tables rawText includePositive = .ok parsed)
    (made : toBankRecords tables parsed.transactions = .ok records) (fileId : String) :
    ∃ response, mapPreviewToResponse (buildPreview fileId records parsed.warnings) = .ok response := by
  have each : ∀ record ∈ records, ∃ shown, mapBankRecordToApi record = .ok shown := by
    intro record member
    obtain ⟨transaction, parsedToo, stored⟩ := PyBuiltins.mem_of_mapM made member
    obtain ⟨shown, mapped, -⟩ := toBankRecord_shown stored (parse_accepted read parsedToo)
    exact ⟨shown, mapped⟩
  obtain ⟨shown, mapped⟩ := PyBuiltins.mapM_ok_iff.mpr each
  exact ⟨_, by rw [mapPreviewToResponse, buildPreview, mapped]; rfl⟩

end Stored

theorem parseText_sound_iff {rawText : String} {parsed : CitiParseResult}
    (read : parse tables rawText includePositive = .ok parsed) (store : CitiImportStore) (fresh : UUID)
    (chunkSize : Int) (sourceName : Option String) :
    (∃ next preview entry,
        parseText tables store fresh rawText includePositive chunkSize sourceName = .ok (next, preview) ∧
        next.files.get? preview.fileId = some entry ∧
        List.Forall₂ (Sound tables includePositive) parsed.transactions entry.records) ↔
      ∀ transaction ∈ parsed.transactions, ∃ record,
        toBankRecord tables transaction = .ok record ∧ Sound tables includePositive transaction record := by
  constructor
  · rintro ⟨next, preview, entry, returned, found, sound⟩ transaction member
    obtain ⟨result, records, again, made, rfl, rfl⟩ := parseText_eq_ok.mp returned
    obtain rfl := Except.ok.inj (read.symm.trans again)
    obtain rfl := Option.some.inj ((get?_create store _).symm.trans found)
    exact mem_of_forall₂ (forall₂_and (mapM_eq_ok.mp made) sound) member
  · intro each
    obtain ⟨records, related⟩ := exists_forall₂ each
    have made : toBankRecords tables parsed.transactions = .ok records :=
      mapM_eq_ok.mpr (related.imp fun _ _ both => both.1)
    exact ⟨_, _, _, parseText_eq_ok.mpr ⟨parsed, records, read, made, rfl, rfl⟩, get?_create store _,
      related.imp fun _ _ both => both.2⟩

theorem imports_iff (rawText : String) : Imports tables includePositive rawText ↔
    Importable tables includePositive (cleanLines (splitLines rawText.toList)) := by
  constructor
  · intro imports
    obtain ⟨parsed, next, preview, entry, read, stored⟩ :=
      imports ⟨Dict.empty⟩ ⟨0⟩ 1 none
    have each := (parseText_sound_iff read ⟨Dict.empty⟩ ⟨0⟩ 1 none).mp ⟨next, preview, entry, stored⟩
    have transactions : transactionsOf tables includePositive (cleanLines (splitLines rawText.toList)) =
        .ok parsed.transactions := map_eq_ok.mpr ⟨parsed, read, rfl⟩
    rcases transactionsOf_stops (cleanLines (splitLines rawText.toList)) with
      ⟨-, failure, raised⟩ | ⟨quiet, returned⟩
    · rw [raised] at transactions
      simp at transactions
    · have same := Except.ok.inj (transactions.symm.trans returned)
      refine ⟨quiet, fun date payee amountLine member number value taken => ?_⟩
      have present := List.mem_filterMap.mpr
        ⟨_, member, transactionAt_eq_some.mpr ⟨date, payee, amountLine, number, rfl, value, taken, rfl⟩⟩
      rw [← same] at present
      exact (sound_iff rfl rfl value).mp (each _ present)
  · intro importable store fresh chunkSize sourceName
    rcases transactionsOf_stops (cleanLines (splitLines rawText.toList)) with
      ⟨loud, -⟩ | ⟨-, returned⟩
    · exact absurd importable.quiet loud
    · obtain ⟨parsed, read, same⟩ := map_eq_ok.mp returned
      obtain ⟨next, preview, entry, stored⟩ :=
        (parseText_sound_iff read store fresh chunkSize sourceName).mpr fun transaction member => by
          rw [same] at member
          obtain ⟨stop, inStops, made⟩ := List.mem_filterMap.mp member
          obtain ⟨date, payee, amountLine, number, rfl, value, taken, rfl⟩ := transactionAt_eq_some.mp made
          exact (sound_iff rfl rfl value).mpr
            (importable.money date payee amountLine inStops number value taken)
      exact ⟨parsed, next, preview, entry, read, stored⟩

end Import

-- `float` takes `nan` for a number, and nothing compares with it.
theorem imports_nan : ¬ Imports plainTables false "16 sty 2025\nShop\nShop\nnan" := by
  intro imports
  let transaction : ParsedCitiTransaction :=
    { date := ⟨2025, 1, 16, by decide⟩, payee := "Shop", amountText := "nan", amountCurrency := "NAN"
      amountValue := "nan" }
  obtain ⟨parsed, next, preview, entry, read, stored⟩ := imports ⟨Dict.empty⟩ ⟨0⟩ 60 none
  have concrete : parse plainTables "16 sty 2025\nShop\nShop\nnan" false =
      .ok { transactions := [transaction], warnings := [] } := by decide
  obtain rfl := Except.ok.inj (concrete.symm.trans read)
  have sound := (parseText_sound_iff read ⟨Dict.empty⟩ ⟨0⟩ 60 none).mp ⟨next, preview, entry, stored⟩
  obtain ⟨record, made, kept⟩ := sound transaction (by simp)
  have amount : decimalOf plainTables transaction.amountValue = .ok (.nan false false 0) := by decide
  rw [toBankRecord, amount] at made
  obtain rfl := Except.ok.inj made
  obtain ⟨negative, coefficient, exponent, finite⟩ := kept.finite
  simp at finite

end FireflyToolkit.Citi
