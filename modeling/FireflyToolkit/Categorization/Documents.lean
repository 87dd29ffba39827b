import FireflyToolkit.Shared.Sorting
import FireflyToolkit.Snapshot.Service

set_option autoImplicit false

namespace FireflyToolkit

open PyBuiltins Snapshot

-- `left <= right`; a NaN cannot be ordered.
def Decimal.le : Decimal → Decimal → Except PyError Bool
  | finite negative coefficient exponent, finite negative' coefficient' exponent' =>
      let low := min exponent exponent'
      .ok (decide (scaled negative coefficient exponent low ≤ scaled negative' coefficient' exponent' low))
  | infinity negative, infinity negative' => .ok (negative || !negative')
  | infinity negative, finite .. => .ok negative
  | finite .., infinity negative => .ok (!negative)
  | _, _ => .error .invalidOperation

theorem Decimal.le_error {left right : Decimal} {failure : PyError}
    (raised : left.le right = .error failure) : failure = .invalidOperation := by
  cases left <;> cases right <;> simp_all [Decimal.le]

theorem Decimal.le_ok_iff {left right : Decimal} (bound : right.isNan = false) :
    (∃ within, left.le right = .ok within) ↔ left.isNan = false := by
  cases left <;> cases right <;> simp_all [Decimal.le, Decimal.isNan]

namespace Categorization

namespace AmountBucketizer

def buckets : List (Decimal × String) :=
  [(.finite false 10 0, "0-10"), (.finite false 25 0, "10-25"), (.finite false 50 0, "25-50"),
    (.finite false 100 0, "50-100"), (.finite false 250 0, "100-250"),
    (.finite false 500 0, "250-500"), (.infinity false, "500+")]

def labels : List String := buckets.map Prod.snd

def firstBucket (absoluteAmount : Decimal) : List (Decimal × String) → Except PyError String
  | [] => .ok "500+"
  | (upperBound, label) :: rest => do
      let within ← absoluteAmount.le upperBound
      if within then .ok label else firstBucket absoluteAmount rest

def bucketForAmount (amount : Decimal) : Except PyError String := do
  let absoluteAmount ← amount.abs
  firstBucket absoluteAmount buckets

-- A text that is no label counts as the last one.
def bucketIndex (bucket : String) : Nat :=
  if bucket ∈ labels then labels.idxOf bucket else labels.length - 1

theorem firstBucket_error {absoluteAmount : Decimal} {bounds : List (Decimal × String)}
    {failure : PyError} (raised : firstBucket absoluteAmount bounds = .error failure) :
    failure = .invalidOperation := by
  induction bounds with
  | nil => cases raised
  | cons bound rest ih =>
    rw [firstBucket] at raised
    rcases bind_eq_error.mp raised with compared | ⟨within, -, later⟩
    · exact Decimal.le_error compared
    · split_ifs at later
      exact ih later

theorem firstBucket_ok {absoluteAmount : Decimal} (number : absoluteAmount.isNan = false)
    {bounds : List (Decimal × String)} (numbers : ∀ bound ∈ bounds, bound.1.isNan = false) :
    ∃ bucket, firstBucket absoluteAmount bounds = .ok bucket := by
  induction bounds with
  | nil => exact ⟨_, rfl⟩
  | cons bound rest ih =>
    obtain ⟨within, compared⟩ := (Decimal.le_ok_iff (numbers bound (by simp))).mpr number
    obtain ⟨bucket, later⟩ := ih fun other member => numbers other (by simp [member])
    rw [firstBucket]
    simp only [compared, bind, Except.bind]
    split_ifs
    · exact ⟨_, rfl⟩
    · exact ⟨bucket, later⟩

theorem bucketForAmount_error {amount : Decimal} {failure : PyError}
    (raised : bucketForAmount amount = .error failure) : Decimal.IsCondition failure := by
  rcases bind_eq_error.mp raised with unsized | ⟨absoluteAmount, -, unordered⟩
  · exact Decimal.abs_error unsized
  · exact .inl (firstBucket_error unordered)

-- A NaN belongs to no bucket, and a number beyond the decimals' range has no absolute value.
def hasBucket (amount : Decimal) : Bool := !amount.isNan && amount.abs.isOk

theorem bucketForAmount_ok_iff {amount : Decimal} :
    (∃ bucket, bucketForAmount amount = .ok bucket) ↔ hasBucket amount = true := by
  unfold bucketForAmount hasBucket
  cases sized : amount.abs with
  | error failure => simp [bind, Except.bind, Except.isOk, Except.toBool]
  | ok absoluteAmount =>
    rw [← Decimal.isNan_of_abs sized]
    simp only [bind, Except.bind, Except.isOk, Except.toBool, Bool.and_true, Bool.not_eq_true']
    constructor
    · rintro ⟨bucket, found⟩
      rw [buckets, firstBucket] at found
      obtain ⟨within, compared, -⟩ := bind_eq_ok.mp found
      exact (Decimal.le_ok_iff rfl).mp ⟨within, compared⟩
    · exact fun number => firstBucket_ok number (by decide)

example : bucketForAmount (.finite true 2550 (-2)) = .ok "25-50" := by decide

end AmountBucketizer

structure Document where
  transactionId : String
  userId : String
  categoryId : String
  categoryName : String
  title : String
  merchant : Option String
  notes : Option String
  amount : Decimal
  amountBucket : String
  sourceType : String
  deriving DecidableEq

structure Query where
  transactionId : Option String
  title : String
  merchant : Option String
  notes : Option String
  amount : Decimal
  amountBucket : String
  sourceType : String
  deriving DecidableEq

namespace SnapshotProvider

-- `getattr(tx, "merchant", None)`: a transaction has no such field.
def merchantOf (_tx : Transaction) : Option String := none

def isPresent : Option String → Bool
  | none => false
  | some text => decide (text ≠ "")

def inferSourceType (tx : Transaction) (merchant : Option String) : String :=
  if tx.hasTag .blik_done && isPresent merchant then "blik"
  else if tx.hasTag .allegro_done && isPresent tx.notes then "allegro"
  else "bank"

def isInternalAccount (account : Option AccountRef) : Bool :=
  account.any fun account => decide (account.type = .initialBalance ∨ account.type = .reconciliation)

def isInternalOperation (tx : Transaction) : Bool :=
  decide (tx.type = .transfer) || isInternalAccount tx.sourceAccount ||
    isInternalAccount tx.destinationAccount

def toDocument (userId : String) (tx : Transaction) : Except PyError (Option Document) :=
  match tx.category with
  | none => .ok none
  | some category =>
      if isInternalOperation tx then .ok none
      else do
        let amountBucket ← AmountBucketizer.bucketForAmount tx.amount
        .ok (some
          { transactionId := toString tx.id
            userId := userId
            categoryId := toString category.id
            categoryName := category.name
            title := tx.description
            merchant := merchantOf tx
            notes := tx.notes
            amount := tx.amount
            amountBucket := amountBucket
            sourceType := inferSourceType tx (merchantOf tx) })

def getCandidateDocumentsForUser (snapshot : TransactionSnapshot) (userId : String) :
    Except PyError (List Document) := do
  let documents ← snapshot.transactions.mapM (toDocument userId)
  .ok (documents.filterMap id)

def findTransaction (transactions : List Transaction) (transactionId : String) : Option Transaction :=
  transactions.find? fun tx => decide (toString tx.id = transactionId)

def getQueryForTransactionId (snapshot : TransactionSnapshot) (transactionId : String) :
    Except PyError Query :=
  match findTransaction snapshot.transactions transactionId with
  | none =>
      .error (.application .transactionNotFound ("Transaction id " ++ transactionId ++ " not found"))
  | some tx => do
      let amountBucket ← AmountBucketizer.bucketForAmount tx.amount
      .ok
        { transactionId := some (toString tx.id)
          title := tx.description
          merchant := merchantOf tx
          notes := tx.notes
          amount := tx.amount
          amountBucket := amountBucket
          sourceType := inferSourceType tx (merchantOf tx) }

theorem toDocument_error {userId : String} {tx : Transaction} {failure : PyError}
    (raised : toDocument userId tx = .error failure) : Decimal.IsCondition failure := by
  unfold toDocument at raised
  cases category : tx.category with
  | none => simp [category] at raised
  | some category' =>
    simp only [category] at raised
    split_ifs at raised
    rcases bind_eq_error.mp raised with bucketed | ⟨amountBucket, -, returned⟩
    · exact AmountBucketizer.bucketForAmount_error bucketed
    · cases returned

theorem toDocument_transactionId {userId : String} {tx : Transaction} {document : Document}
    (made : toDocument userId tx = .ok (some document)) : document.transactionId = toString tx.id := by
  unfold toDocument at made
  cases category : tx.category with
  | none => simp [category] at made
  | some category' =>
    simp only [category] at made
    split_ifs at made
    · simp at made
    · obtain ⟨amountBucket, -, returned⟩ := bind_eq_ok.mp made
      rw [← Option.some.inj (Except.ok.inj returned)]

theorem documents_transactionIds {userId : String} {transactions : List Transaction}
    {documents : List (Option Document)}
    (made : transactions.mapM (toDocument userId) = .ok documents) :
    ((documents.filterMap id).map Document.transactionId).Sublist
      (transactions.map fun tx => toString tx.id) := by
  have related := mapM_eq_ok.mp made
  clear made
  induction related with
  | nil => exact .slnil
  | @cons tx document _ _ first _ ih =>
    cases document with
    | none => simpa using ih.cons _
    | some document =>
      have same := toDocument_transactionId first
      have together := ih.cons_cons (toString tx.id)
      simpa [same] using together

theorem toString_injective {first second : Int} (same : toString first = toString second) :
    first = second := by
  have natural : ∀ {left right : Nat}, (toString left).toList = (toString right).toList →
      left = right := by
    intro left right texts
    simp only [Nat.toString_eq_repr, Nat.toList_repr] at texts
    rw [← @Nat.ofDigitChars_ten_toDigits left, texts, Nat.ofDigitChars_ten_toDigits]
  have dash : ∀ size : Nat, '-' ∉ (toString size).toList :=
    fun size member => absurd (Decimal.digit_of_mem_toString member) (by decide)
  have texts := congrArg String.toList same
  cases first with
  | ofNat left =>
    cases second with
    | ofNat right => exact congrArg Int.ofNat (natural texts)
    | negSucc right =>
      have starts : '-' ∈ (toString left).toList := by
        have same : (toString left).toList = _ := texts.trans (Decimal.toString_negSucc right)
        exact same ▸ List.mem_cons_self
      exact absurd starts (dash left)
  | negSucc left =>
    cases second with
    | ofNat right =>
      have starts : '-' ∈ (toString right).toList := by
        have same : (toString right).toList = _ := texts.symm.trans (Decimal.toString_negSucc left)
        exact same ▸ List.mem_cons_self
      exact absurd starts (dash right)
    | negSucc right =>
      rw [Decimal.toString_negSucc, Decimal.toString_negSucc] at texts
      have sizes := natural (List.cons.inj texts).2
      rw [Nat.succ.inj sizes]

variable {left right : TransactionSnapshot}

theorem getQueryForTransactionId_perm (distinct : (left.transactions.map Transaction.id).Nodup)
    (permuted : left.transactions.Perm right.transactions) (transactionId : String) :
    getQueryForTransactionId left transactionId = getQueryForTransactionId right transactionId := by
  have found : findTransaction left.transactions transactionId =
      findTransaction right.transactions transactionId := by
    refine Sorting.find?_eq_of_perm permuted fun first firstMember second secondMember named named' => ?_
    have sameText := (of_decide_eq_true named).trans (of_decide_eq_true named').symm
    exact List.inj_on_of_nodup_map distinct firstMember secondMember (toString_injective sameText)
  rw [getQueryForTransactionId, found, getQueryForTransactionId]

theorem getCandidateDocuments_error {snapshot : TransactionSnapshot} {userId : String} {failure : PyError}
    (raised : snapshot.transactions.mapM (toDocument userId) = .error failure) :
    getCandidateDocumentsForUser snapshot userId = .error failure ∧ Decimal.IsCondition failure := by
  obtain ⟨tx, -, failed⟩ := Sorting.mapM_error raised
  exact ⟨by simp only [getCandidateDocumentsForUser, raised, bind, Except.bind], toDocument_error failed⟩

theorem getCandidateDocuments_perm (distinct : (left.transactions.map Transaction.id).Nodup)
    (permuted : left.transactions.Perm right.transactions) (userId : String) :
    (∃ documents others, getCandidateDocumentsForUser left userId = .ok documents ∧
        getCandidateDocumentsForUser right userId = .ok others ∧ documents.Perm others ∧
        (documents.map Document.transactionId).Nodup) ∨
      (∃ failure failure', getCandidateDocumentsForUser left userId = .error failure ∧
        getCandidateDocumentsForUser right userId = .error failure' ∧
        Decimal.IsCondition failure ∧ Decimal.IsCondition failure') := by
  rcases @Sorting.mapM_perm _ _ _ (toDocument userId) _ _ permuted with
    ⟨documents, others, made, made', same⟩ | ⟨failure, failure', raised, raised'⟩
  · unfold getCandidateDocumentsForUser
    refine .inl ⟨_, _, by simp only [made, bind, Except.bind], by simp only [made', bind, Except.bind],
      same.filterMap id, ?_⟩
    have texts : (left.transactions.map fun tx => toString tx.id).Nodup := by
      have ids := distinct.map fun _ _ => toString_injective
      simpa [Function.comp_def] using ids
    exact texts.sublist (documents_transactionIds made)
  · obtain ⟨stopped, condition⟩ := getCandidateDocuments_error raised
    obtain ⟨stopped', condition'⟩ := getCandidateDocuments_error raised'
    exact .inr ⟨failure, failure', stopped, stopped', condition, condition'⟩

end SnapshotProvider

end Categorization

end FireflyToolkit
