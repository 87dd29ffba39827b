import FireflyToolkit.Domain.Matcher
import FireflyToolkit.Firefly.Responses

set_option autoImplicit false

namespace FireflyToolkit.Blik

open PyBuiltins

-- `separator.join(items)`, which takes no `None`
def joinTexts (separator : String) (items : List (Option String)) : Except PyError String :=
  match items.findIdx? Option.isNone with
  | some place =>
      .error (.typeError ("sequence item " ++ toString place ++ ": expected str instance, NoneType found"))
  | none => .ok (join separator (items.filterMap id))

theorem none_notMem_iff {items : List (Option String)} :
    none ∉ items ↔ ∃ texts : List String, items = texts.map some := by
  constructor
  · intro present
    refine ⟨items.filterMap id, ?_⟩
    induction items with
    | nil => rfl
    | cons item rest ih =>
      simp only [List.mem_cons, not_or] at present
      obtain ⟨text, rfl⟩ := Option.ne_none_iff_exists'.mp (Ne.symm present.1)
      simpa using ih present.2
  · rintro ⟨texts, rfl⟩
    simp

theorem joinTexts_ok {separator joined : String} {items : List (Option String)} :
    joinTexts separator items = .ok joined ↔
      ∃ texts : List String, items = texts.map some ∧ joined = join separator texts := by
  unfold joinTexts
  cases missing : items.findIdx? Option.isNone with
  | some place =>
    obtain ⟨inside, absent, -⟩ := List.findIdx?_eq_some_iff_getElem.mp missing
    simp only [reduceCtorEq, false_iff]
    rintro ⟨texts, rfl, -⟩
    simp at absent
  | none =>
    have present : none ∉ items := fun member => by
      simpa using List.findIdx?_eq_none_iff.mp missing none member
    obtain ⟨texts, rfl⟩ := none_notMem_iff.mp present
    have whole : (texts.map some).filterMap id = texts := by simp
    rw [whole]
    constructor
    · intro returned
      exact ⟨texts, rfl, (Except.ok.inj returned).symm⟩
    · rintro ⟨others, same, rfl⟩
      rw [List.map_injective_iff.mpr (Option.some_injective String) same]

def textFields (record : BankRecord) : List (Option String) :=
  [record.recipient, record.details, record.sender, record.operationCurrency,
    record.accountCurrency, record.senderAccount, record.recipientAccount]

def matchIdPayload (transactionId : Int) (record : BankRecord) : Except PyError String :=
  joinTexts "|" (some (toString transactionId) :: some record.date.isoformat ::
    some record.amount.toText :: some record.operationAmount.toText :: textFields record)

structure SimplifiedRecord where
  matchId : Option String
  date : Date
  amount : Decimal
  details : String
  recipient : String
  operationAmount : Decimal
  sender : String
  operationCurrency : String
  accountCurrency : String
  senderAccount : String
  recipientAccount : String

-- The model demands a text in every text field.
def simplified (matchId : Option String) (record : BankRecord) : Except PyError SimplifiedRecord := do
  let amount ← toFloat record.amount
  let operationAmount ← toFloat record.operationAmount
  match record.details, record.recipient, record.sender, record.operationCurrency,
      record.accountCurrency, record.senderAccount, record.recipientAccount with
  | some details, some recipient, some sender, some operationCurrency, some accountCurrency,
      some senderAccount, some recipientAccount =>
      .ok
        { matchId := matchId, date := record.date, amount := amount, details := details
          recipient := recipient, operationAmount := operationAmount, sender := sender
          operationCurrency := operationCurrency, accountCurrency := accountCurrency
          senderAccount := senderAccount, recipientAccount := recipientAccount }
  | _, _, _, _, _, _, _ => .error (.validationError record.missingFields)

def mapBankRecordsToSimplified (records : List BankRecord) : Except PyError (List SimplifiedRecord) :=
  records.mapM (simplified none)

structure ApiMatchResult where
  tx : SimplifiedTx
  txMatches : List SimplifiedRecord
  status : MatchProcessingStatus

section Mapping

-- The first sixteen hexadecimal digits of the SHA-256 hash of a text.
variable (digest : String → String)

def buildBlikMatchId (transactionId : Int) (record : BankRecord) : Except PyError String := do
  let payload ← matchIdPayload transactionId record
  .ok (digest payload)

def simplifiedMatch (txId : Int) (record : BankRecord) : Except PyError SimplifiedRecord := do
  let matchId ← buildBlikMatchId digest txId record
  simplified (some matchId) record

def mapMatchResultToApi (result : MatchResult BankRecord) : Except PyError ApiMatchResult := do
  let simplifiedTx ← mapTxToApi result.tx
  let simplifiedMatches ← result.txMatches.mapM (simplifiedMatch digest result.tx.id)
  .ok { tx := simplifiedTx, txMatches := simplifiedMatches, status := result.status }

def mapMatchResultsToApi (results : List (MatchResult BankRecord)) :
    Except PyError (List ApiMatchResult) :=
  results.mapM (mapMatchResultToApi digest)

end Mapping

structure Shows (record : BankRecord) : Prop where
  texts : none ∉ textFields record
  amount : record.amount.isSignaling = false
  operationAmount : record.operationAmount.isSignaling = false

section Shown

variable {digest : String → String} {record : BankRecord} {result : MatchResult BankRecord}

theorem matchIdPayload_ok {transactionId : Int} {payload : String} :
    matchIdPayload transactionId record = .ok payload ↔
      ∃ texts : List String, textFields record = texts.map some ∧
        payload = join "|" (toString transactionId :: record.date.isoformat :: record.amount.toText ::
          record.operationAmount.toText :: texts) := by
  rw [matchIdPayload, joinTexts_ok]
  constructor
  · rintro ⟨texts, same, rfl⟩
    obtain ⟨first, rest, rfl, sameId, same⟩ := List.map_eq_cons_iff.mp same.symm
    obtain ⟨second, rest, rfl, sameDate, same⟩ := List.map_eq_cons_iff.mp same
    obtain ⟨third, rest, rfl, sameAmount, same⟩ := List.map_eq_cons_iff.mp same
    obtain ⟨fourth, rest, rfl, sameOperation, same⟩ := List.map_eq_cons_iff.mp same
    rw [Option.some.inj sameId, Option.some.inj sameDate, Option.some.inj sameAmount,
      Option.some.inj sameOperation]
    exact ⟨rest, same.symm, rfl⟩
  · rintro ⟨texts, same, rfl⟩
    exact ⟨_, by rw [same]; rfl, rfl⟩

theorem buildBlikMatchId_ok_iff {transactionId : Int} :
    (∃ matchId, buildBlikMatchId digest transactionId record = .ok matchId) ↔
      none ∉ textFields record := by
  rw [none_notMem_iff]
  constructor
  · rintro ⟨matchId, built⟩
    obtain ⟨payload, joined, -⟩ := bind_eq_ok.mp built
    obtain ⟨texts, same, -⟩ := matchIdPayload_ok.mp joined
    exact ⟨texts, same⟩
  · rintro ⟨texts, same⟩
    exact ⟨_, bind_eq_ok.mpr ⟨_, matchIdPayload_ok.mpr ⟨texts, same, rfl⟩, rfl⟩⟩

theorem simplified_ok_iff {matchId : Option String} :
    (∃ answer, simplified matchId record = .ok answer) ↔ Shows record := by
  constructor
  · rintro ⟨answer, shown⟩
    obtain ⟨amount, converted, later⟩ := bind_eq_ok.mp shown
    obtain ⟨operationAmount, converted', later⟩ := bind_eq_ok.mp later
    refine ⟨?_, (toFloat_ok_iff.mp converted).1, (toFloat_ok_iff.mp converted').1⟩
    split at later
    next details recipient sender operationCurrency accountCurrency senderAccount recipientAccount =>
      simp [textFields, *]
    · cases later
  · rintro ⟨texts, amount, operationAmount⟩
    simp only [textFields, List.mem_cons, List.not_mem_nil, or_false, not_or] at texts
    obtain ⟨recipient, details, sender, operationCurrency, accountCurrency, senderAccount,
      recipientAccount⟩ := texts
    obtain ⟨_, someRecipient⟩ := Option.ne_none_iff_exists'.mp (Ne.symm recipient)
    obtain ⟨_, someDetails⟩ := Option.ne_none_iff_exists'.mp (Ne.symm details)
    obtain ⟨_, someSender⟩ := Option.ne_none_iff_exists'.mp (Ne.symm sender)
    obtain ⟨_, someOperation⟩ := Option.ne_none_iff_exists'.mp (Ne.symm operationCurrency)
    obtain ⟨_, someAccount⟩ := Option.ne_none_iff_exists'.mp (Ne.symm accountCurrency)
    obtain ⟨_, someSenderAccount⟩ := Option.ne_none_iff_exists'.mp (Ne.symm senderAccount)
    obtain ⟨_, someRecipientAccount⟩ := Option.ne_none_iff_exists'.mp (Ne.symm recipientAccount)
    rw [simplified, toFloat, toFloat, amount, operationAmount, someRecipient, someDetails,
      someSender, someOperation, someAccount, someSenderAccount, someRecipientAccount]
    exact ⟨_, rfl⟩

theorem simplified_matchId {matchId : Option String} {answer : SimplifiedRecord}
    (shown : simplified matchId record = .ok answer) : answer.matchId = matchId := by
  obtain ⟨amount, -, later⟩ := bind_eq_ok.mp shown
  obtain ⟨operationAmount, -, later⟩ := bind_eq_ok.mp later
  split at later
  · rw [← Except.ok.inj later]
  · cases later

theorem simplifiedMatch_ok_iff {txId : Int} :
    (∃ answer, simplifiedMatch digest txId record = .ok answer) ↔ Shows record := by
  constructor
  · rintro ⟨answer, shown⟩
    obtain ⟨matchId, -, later⟩ := bind_eq_ok.mp shown
    exact simplified_ok_iff.mp ⟨answer, later⟩
  · intro shows
    obtain ⟨matchId, built⟩ := (@buildBlikMatchId_ok_iff digest record txId).mpr shows.texts
    obtain ⟨answer, shown⟩ := (@simplified_ok_iff record (some matchId)).mpr shows
    exact ⟨answer, bind_eq_ok.mpr ⟨matchId, built, shown⟩⟩

theorem simplifiedMatch_matchId {txId : Int} {matchId : String} {answer : SimplifiedRecord}
    (shown : simplifiedMatch digest txId record = .ok answer)
    (built : buildBlikMatchId digest txId record = .ok matchId) : answer.matchId = some matchId := by
  obtain ⟨other, hashed, later⟩ := bind_eq_ok.mp shown
  rw [simplified_matchId later, ← Except.ok.inj (hashed.symm.trans built)]

theorem mapMatchResultToApi_ok_iff :
    (∃ answer, mapMatchResultToApi digest result = .ok answer) ↔
      result.tx.Renders ∧ ∀ record ∈ result.txMatches, Shows record := by
  rw [← mapTxToApi_ok_iff]
  constructor
  · rintro ⟨answer, mapped⟩
    obtain ⟨simplifiedTx, rendered, later⟩ := bind_eq_ok.mp mapped
    obtain ⟨simplifiedMatches, shown, -⟩ := bind_eq_ok.mp later
    exact ⟨⟨_, rendered⟩, fun record member => simplifiedMatch_ok_iff.mp (mapM_ok_each shown record member)⟩
  · rintro ⟨⟨simplifiedTx, rendered⟩, shows⟩
    obtain ⟨simplifiedMatches, shown⟩ := mapM_ok_iff.mpr fun record member =>
      (@simplifiedMatch_ok_iff digest record result.tx.id).mpr (shows record member)
    exact ⟨_, bind_eq_ok.mpr ⟨_, rendered, bind_eq_ok.mpr ⟨_, shown, rfl⟩⟩⟩

theorem mapMatchResultToApi_ok {answer : ApiMatchResult}
    (mapped : mapMatchResultToApi digest result = .ok answer) :
    List.Forall₂ (fun record shown => simplifiedMatch digest result.tx.id record = .ok shown)
      result.txMatches answer.txMatches := by
  obtain ⟨simplifiedTx, -, later⟩ := bind_eq_ok.mp mapped
  obtain ⟨simplifiedMatches, shown, returned⟩ := bind_eq_ok.mp later
  rw [← Except.ok.inj returned]
  exact mapM_eq_ok.mp shown

end Shown

end FireflyToolkit.Blik
