import FireflyToolkit.Categorization.Suggestions

set_option autoImplicit false

namespace FireflyToolkit.Categorization

open SimilarityEngine Snapshot SnapshotProvider

-- Transfers, and bookings on an account of an opening balance or of a reconciliation.
def InternalOperation (tx : Transaction) : Prop :=
  tx.type = .transfer ∨ ∃ account, (tx.sourceAccount = some account ∨
    tx.destinationAccount = some account) ∧
      (account.type = .initialBalance ∨ account.type = .reconciliation)

def Irrelevant (transactionId : String) (tx : Transaction) : Prop :=
  toString tx.id ≠ transactionId ∧ (tx.category = none ∨ InternalOperation tx)

-- The transactions of two snapshots, seen by someone who asks for a transaction id: the categories
-- under that id may differ, and either snapshot may hold irrelevant transactions of its own.
inductive AgreeFor (transactionId : String) : List Transaction → List Transaction → Prop
  | empty : AgreeFor transactionId [] []
  | shared (tx : Transaction) {left right : List Transaction}
      (later : AgreeFor transactionId left right) :
      AgreeFor transactionId (tx :: left) (tx :: right)
  | recategorized (tx : Transaction) (category : Option Category) {left right : List Transaction}
      (named : toString tx.id = transactionId) (later : AgreeFor transactionId left right) :
      AgreeFor transactionId (tx :: left) ({ tx with category := category } :: right)
  | onlyLeft (tx : Transaction) {left right : List Transaction}
      (irrelevant : Irrelevant transactionId tx) (later : AgreeFor transactionId left right) :
      AgreeFor transactionId (tx :: left) right
  | onlyRight (tx : Transaction) {left right : List Transaction}
      (irrelevant : Irrelevant transactionId tx) (later : AgreeFor transactionId left right) :
      AgreeFor transactionId left (tx :: right)

theorem isInternalOperation_iff {tx : Transaction} :
    isInternalOperation tx = true ↔ InternalOperation tx := by
  unfold isInternalOperation isInternalAccount InternalOperation
  simp only [Bool.or_eq_true, decide_eq_true_eq, Option.any_eq_true, or_assoc, or_and_right, exists_or]

section Documents

variable {userId transactionId : String} {tx : Transaction} {left right : List Transaction}

theorem toDocument_irrelevant (irrelevant : Irrelevant transactionId tx) :
    toDocument userId tx = .ok none := by
  unfold toDocument
  cases category : tx.category with
  | none => rfl
  | some category' =>
    have internal := irrelevant.2.resolve_left (by simp [category])
    simp [isInternalOperation_iff.mpr internal]

theorem toDocument_ok (sized : AmountBucketizer.hasBucket tx.amount = true) :
    ∃ document, toDocument userId tx = .ok document := by
  obtain ⟨bucket, found⟩ := AmountBucketizer.bucketForAmount_ok_iff.mpr sized
  unfold toDocument
  cases tx.category with
  | none => exact ⟨_, rfl⟩
  | some category =>
    simp only [found, bind, Except.bind]
    split_ifs <;> exact ⟨_, rfl⟩

def othersOf (transactionId : String) (documents : List Document) : List Document :=
  documents.filter fun document => decide (document.transactionId ≠ transactionId)

inductive SameOthers (transactionId : String) :
    Except PyError (List (Option Document)) → Except PyError (List (Option Document)) → Prop
  | offered (documents others : List (Option Document))
      (same : othersOf transactionId (documents.filterMap id) =
        othersOf transactionId (others.filterMap id)) :
      SameOthers transactionId (.ok documents) (.ok others)
  | refused (failure : PyError) : SameOthers transactionId (.error failure) (.error failure)

namespace SameOthers

theorem symm {first second : Except PyError (List (Option Document))}
    (same : SameOthers transactionId first second) : SameOthers transactionId second first := by
  cases same with
  | offered documents others same => exact .offered others documents same.symm
  | refused failure => exact .refused failure

theorem hidden {offer : Except PyError (List (Option Document))} {document : Option Document}
    (made : toDocument userId tx = .ok document)
    (own : ∀ found, document = some found → found.transactionId = transactionId)
    (later : SameOthers transactionId (left.mapM (toDocument userId)) offer) :
    SameOthers transactionId ((tx :: left).mapM (toDocument userId)) offer := by
  rw [List.mapM_cons, made]
  cases rest : left.mapM (toDocument userId) with
  | error failure =>
    rw [rest] at later
    cases later
    exact .refused failure
  | ok documents =>
    rw [rest] at later
    cases later with
    | offered _ others same =>
      refine .offered _ others ?_
      rw [← same]
      cases document with
      | none => rfl
      | some found => simp [othersOf, own found rfl]

theorem shared (later : SameOthers transactionId (left.mapM (toDocument userId))
    (right.mapM (toDocument userId))) :
    SameOthers transactionId ((tx :: left).mapM (toDocument userId))
      ((tx :: right).mapM (toDocument userId)) := by
  rw [List.mapM_cons, List.mapM_cons]
  cases made : toDocument userId tx with
  | error failure => exact .refused failure
  | ok document =>
    generalize left.mapM (toDocument userId) = offer at later
    generalize right.mapM (toDocument userId) = offer' at later
    cases later with
    | refused failure => exact .refused failure
    | offered documents others same =>
      refine .offered (document :: documents) (document :: others) ?_
      cases document with
      | none => exact same
      | some found =>
        have extended : ∀ offer : List (Option Document), (some found :: offer).filterMap id =
            found :: offer.filterMap id := fun offer => rfl
        unfold othersOf at same ⊢
        rw [extended, extended, List.filter_cons, List.filter_cons, same]

end SameOthers

theorem others_agree (agree : AgreeFor transactionId left right)
    (sized : ∀ tx ∈ left, toString tx.id = transactionId → AmountBucketizer.hasBucket tx.amount = true) :
    SameOthers transactionId (left.mapM (toDocument userId)) (right.mapM (toDocument userId)) := by
  induction agree with
  | empty => exact .offered [] [] rfl
  | shared tx later ih => exact (ih fun other member => sized other (.tail _ member)).shared
  | recategorized tx category named later ih =>
    have own := sized tx (by simp) named
    obtain ⟨document, made⟩ := toDocument_ok own
    obtain ⟨document', made'⟩ : ∃ document',
        toDocument userId { tx with category := category } = .ok document' := toDocument_ok own
    have rest := ih fun other member => sized other (.tail _ member)
    have unseen := rest.hidden made fun found same =>
      (toDocument_transactionId (same ▸ made)).trans named
    refine (unseen.symm.hidden made' fun found same => ?_).symm
    rw [same] at made'
    exact (toDocument_transactionId made').trans named
  | onlyLeft tx irrelevant later ih =>
    have rest := ih fun other member => sized other (.tail _ member)
    exact rest.hidden (toDocument_irrelevant irrelevant) (by simp)
  | onlyRight tx irrelevant later ih =>
    exact ((ih sized).symm.hidden (toDocument_irrelevant irrelevant) (by simp)).symm

end Documents

section Suggestions

variable {transactionId : String} {left right : TransactionSnapshot}

theorem findTransaction_cons (tx : Transaction) (rest : List Transaction) :
    findTransaction (tx :: rest) transactionId =
      if toString tx.id = transactionId then some tx else findTransaction rest transactionId := by
  unfold findTransaction
  split_ifs with named
  · rw [List.find?_cons_of_pos (by simpa using named)]
  · rw [List.find?_cons_of_neg (by simpa using named)]

theorem find_agree {left right : List Transaction} (agree : AgreeFor transactionId left right) :
    (findTransaction left transactionId = none ∧ findTransaction right transactionId = none) ∨
      ∃ tx category, findTransaction left transactionId = some tx ∧
        findTransaction right transactionId = some { tx with category := category } := by
  induction agree with
  | empty => exact .inl ⟨rfl, rfl⟩
  | shared tx later ih =>
    rw [findTransaction_cons, findTransaction_cons]
    split_ifs
    · exact .inr ⟨tx, tx.category, rfl, rfl⟩
    · exact ih
  | recategorized tx category named later ih =>
    rw [findTransaction_cons, findTransaction_cons, if_pos named, if_pos named]
    exact .inr ⟨tx, category, rfl, rfl⟩
  | onlyLeft tx irrelevant later ih =>
    rw [findTransaction_cons, if_neg irrelevant.1]
    exact ih
  | onlyRight tx irrelevant later ih =>
    rw [findTransaction_cons, if_neg irrelevant.1]
    exact ih

theorem query_agree (agree : AgreeFor transactionId left.transactions right.transactions) :
    getQueryForTransactionId left transactionId = getQueryForTransactionId right transactionId := by
  unfold getQueryForTransactionId
  rcases find_agree agree with ⟨missing, missing'⟩ | ⟨tx, category, found, found'⟩
  · rw [missing, missing']
  · rw [found, found']
    rfl

theorem query_ok {snapshot : TransactionSnapshot} {query : Query}
    (asked : getQueryForTransactionId snapshot transactionId = .ok query) :
    query.transactionId = some transactionId ∧ ∃ tx,
      findTransaction snapshot.transactions transactionId = some tx ∧
        AmountBucketizer.hasBucket tx.amount = true := by
  unfold getQueryForTransactionId at asked
  cases found : findTransaction snapshot.transactions transactionId with
  | none => simp [found] at asked
  | some tx =>
    have named : toString tx.id = transactionId := by simpa using List.find?_some found
    simp only [found] at asked
    obtain ⟨bucket, bucketed, returned⟩ := PyBuiltins.bind_eq_ok.mp asked
    exact ⟨by rw [← Except.ok.inj returned, named], tx, rfl,
      AmountBucketizer.bucketForAmount_ok_iff.mp ⟨bucket, bucketed⟩⟩

variable {F : Type} [LinearOrder F] {floats : PyFloat F} {texts : TextLibrary F}
  {minSimilarityScore : F}

theorem findSimilar_others {query : Query} (named : query.transactionId = some transactionId)
    (documents : List Document) (limit : Int) :
    findSimilar floats texts minSimilarityScore query (othersOf transactionId documents) limit =
      findSimilar floats texts minSimilarityScore query documents limit := by
  have skipped : (othersOf transactionId documents).filterMap
        (matchOf floats texts minSimilarityScore query) =
      documents.filterMap (matchOf floats texts minSimilarityScore query) := by
    induction documents with
    | nil => rfl
    | cons document rest ih =>
      by_cases own : document.transactionId = transactionId
      next =>
        have unmatched : matchOf floats texts minSimilarityScore query document = none := by
          simp [matchOf, named, own]
        simpa [othersOf, own, unmatched] using ih
      next =>
        have kept : othersOf transactionId (document :: rest) =
            document :: othersOf transactionId rest := by simp [othersOf, own]
        rw [kept, List.filterMap_cons, List.filterMap_cons, ih]
  simp only [findSimilar, skipped]

end Suggestions

-- A snapshot in which the other transactions of an id, if any, have amounts with a bucket whenever
-- the first one has.
def Comparable (snapshot : TransactionSnapshot) (transactionId : String) : Prop :=
  ∀ first tx, findTransaction snapshot.transactions transactionId = some first →
    AmountBucketizer.hasBucket first.amount = true → tx ∈ snapshot.transactions →
    toString tx.id = transactionId → AmountBucketizer.hasBucket tx.amount = true

theorem suggestForTransactionId_agree {F : Type} [LinearOrder F] (floats : PyFloat F)
    (texts : TextLibrary F) (minSimilarityScore : F) {left right : TransactionSnapshot}
    {transactionId : String}
    (agree : AgreeFor transactionId left.transactions right.transactions)
    (comparable : Comparable left transactionId) (userId : String) (limit : Int) :
    SuggestionService.suggestForTransactionId floats texts minSimilarityScore left userId
        transactionId limit =
      SuggestionService.suggestForTransactionId floats texts minSimilarityScore right userId
        transactionId limit := by
  unfold SuggestionService.suggestForTransactionId
  rw [← query_agree agree]
  cases asked : getQueryForTransactionId left transactionId with
  | error failure => rfl
  | ok query =>
    obtain ⟨named, first, found, sized⟩ := query_ok asked
    have same : SameOthers transactionId (left.transactions.mapM (toDocument userId))
        (right.transactions.mapM (toDocument userId)) :=
      others_agree agree fun tx member own => comparable first tx found sized member own
    simp only [getCandidateDocumentsForUser, bind, Except.bind]
    generalize left.transactions.mapM (toDocument userId) = offer at same
    generalize right.transactions.mapM (toDocument userId) = offer' at same
    cases same with
    | refused failure => rfl
    | offered documents others same =>
      simp only
      rw [← findSimilar_others named (documents.filterMap id), same, findSimilar_others named]

namespace Sample

open FireflyToolkit.Sample

def boughtLater : List Transaction :=
  [groceries 1 (some ⟨5, "Food"⟩), groceries 2 (some ⟨6, "Bread"⟩), groceries 4 none,
    groceries 3 (some ⟨6, "Bread"⟩)]

-- Two transactions under one id, the second of which has no number as its amount.
def twins (category : Option Category) : List Transaction :=
  [groceries 2 none, { groceries 2 category with amount := .nan false false 0 }]

end Sample

theorem suggestForTransactionId_agree_later :
    SuggestionService.suggestForTransactionId Sample.percents Sample.plainTexts 35
        (Sample.snapshotOf Sample.bought) "user" "2" 1 =
      SuggestionService.suggestForTransactionId Sample.percents Sample.plainTexts 35
        (Sample.snapshotOf Sample.boughtLater) "user" "2" 1 := by
  have sized : ∀ tx ∈ Sample.bought, AmountBucketizer.hasBucket tx.amount = true := by decide
  refine suggestForTransactionId_agree Sample.percents Sample.plainTexts 35 ?_
    (fun _ tx _ _ member _ => sized tx member) "user" 1
  exact .shared _ (.recategorized _ (some ⟨6, "Bread"⟩) (by decide) (.onlyRight _ ⟨by decide, .inl rfl⟩
    (.shared _ .empty)))

theorem suggestForTransactionId_twins :
    AgreeFor "2" (Sample.twins none) (Sample.twins (some ⟨5, "Food"⟩)) ∧
      SuggestionService.suggestForTransactionId Sample.percents Sample.plainTexts 35
        (Sample.snapshotOf (Sample.twins none)) "user" "2" 1 ≠
      SuggestionService.suggestForTransactionId Sample.percents Sample.plainTexts 35
        (Sample.snapshotOf (Sample.twins (some ⟨5, "Food"⟩))) "user" "2" 1 := by
  refine ⟨.shared _ (.recategorized _ _ (by decide) .empty), ?_⟩
  have answers : SuggestionService.suggestForTransactionId Sample.percents Sample.plainTexts 35
      (Sample.snapshotOf (Sample.twins none)) "user" "2" 1 = .ok [] := by decide
  have refuses : SuggestionService.suggestForTransactionId Sample.percents Sample.plainTexts 35
      (Sample.snapshotOf (Sample.twins (some ⟨5, "Food"⟩))) "user" "2" 1 =
        .error .invalidOperation := by decide
  rw [answers, refuses]
  simp

end FireflyToolkit.Categorization
