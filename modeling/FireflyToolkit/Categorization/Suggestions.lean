import FireflyToolkit.Categorization.Similarity
import FireflyToolkit.Firefly.Services

set_option autoImplicit false

namespace FireflyToolkit.Categorization

open OrderedDict PyBuiltins SimilarityEngine Snapshot

structure CategorySuggestion (F : Type) where
  categoryId : String
  categoryName : String
  score : F
  reason : String
  deriving DecidableEq

structure Aggregate (F : Type) where
  categoryName : String
  score : F
  bestMatch : SimilarTransactionMatch F

namespace SuggestionService

variable {F : Type} [LinearOrder F] (floats : PyFloat F) (texts : TextLibrary F)

def reasonFromMatch (found : SimilarTransactionMatch F) : String :=
  if found.matchedBy = "merchant" then "similar merchant in previous transactions"
  else if found.matchedBy = "notes" then "similar notes in previous transactions"
  else if found.matchedBy = "title" then "similar title pattern in previous transactions"
  else "similar previous transactions"

-- `1.0 - ((1.0 - score) * (1.0 - added))`
def combine (score added : F) : F :=
  let one := floats.literal 1 1
  floats.sub one (floats.mul (floats.sub one score) (floats.sub one added))

-- One round of the loop: a better match replaces the best one only when its score is higher.
def addMatch (aggregated : Dict String (Aggregate F)) (found : SimilarTransactionMatch F) :
    Dict String (Aggregate F) :=
  let bucket := (aggregated.get? found.categoryId).getD ⟨found.categoryName, floats.literal 0 1, found⟩
  aggregated.set found.categoryId
    { bucket with
      score := combine floats bucket.score found.similarityScore
      bestMatch :=
        if bucket.bestMatch.similarityScore < found.similarityScore then found else bucket.bestMatch }

def suggestionOf (entry : String × Aggregate F) : CategorySuggestion F :=
  { categoryId := entry.1
    categoryName := entry.2.categoryName
    score := floats.round entry.2.score 4
    reason := reasonFromMatch entry.2.bestMatch }

def suggestionKey (suggestion : CategorySuggestion F) : F ×ₗ String ×ₗ String :=
  toLex (floats.neg suggestion.score,
    toLex (texts.lower suggestion.categoryName, suggestion.categoryId))

def aggregate (found : List (SimilarTransactionMatch F)) (limit : Int) : List (CategorySuggestion F) :=
  let aggregated := found.foldl (addMatch floats) Dict.empty
  let suggestions := aggregated.entries.map (suggestionOf floats)
  sliceTo limit (Sorting.sortBy (suggestionKey floats texts) suggestions)

def suggestForTransactionId (minSimilarityScore : F) (snapshot : TransactionSnapshot)
    (userId transactionId : String) (limit : Int := 3) : Except PyError (List (CategorySuggestion F)) := do
  let query ← SnapshotProvider.getQueryForTransactionId snapshot transactionId
  let candidates ← SnapshotProvider.getCandidateDocumentsForUser snapshot userId
  .ok (aggregate floats texts (findSimilar floats texts minSimilarityScore query candidates) limit)

-- The same answer twice; where the decimals stop both calls, each names a condition of its own.
inductive SameAnswer {α : Type} : Except PyError α → Except PyError α → Prop
  | equal (answer : Except PyError α) : SameAnswer answer answer
  | stopped {failure failure' : PyError} (left : Decimal.IsCondition failure)
      (right : Decimal.IsCondition failure') : SameAnswer (.error failure) (.error failure')

theorem suggestForTransactionId_perm (minSimilarityScore : F) {left right : TransactionSnapshot}
    (distinct : (left.transactions.map Transaction.id).Nodup)
    (permuted : left.transactions.Perm right.transactions) (userId transactionId : String)
    (limit : Int) :
    SameAnswer (suggestForTransactionId floats texts minSimilarityScore left userId transactionId limit)
      (suggestForTransactionId floats texts minSimilarityScore right userId transactionId limit) := by
  unfold suggestForTransactionId
  rw [SnapshotProvider.getQueryForTransactionId_perm distinct permuted]
  cases SnapshotProvider.getQueryForTransactionId right transactionId with
  | error failure => exact .equal _
  | ok query =>
    rcases SnapshotProvider.getCandidateDocuments_perm distinct permuted userId with
      ⟨documents, others, collected, collected', same, ids⟩ |
      ⟨failure, failure', raised, raised', condition, condition'⟩
    · have matched : findSimilar floats texts minSimilarityScore query documents =
          findSimilar floats texts minSimilarityScore query others := findSimilar_perm same ids 20
      simp only [collected, collected', bind, Except.bind, matched]
      exact .equal _
    · simp only [raised, raised', bind, Except.bind]
      exact .stopped condition condition'

end SuggestionService

namespace Sample

open FireflyToolkit.Sample

def percents : PyFloat Int :=
  { literal := fun part whole => (100 * part / whole : Nat)
    trueDivision := fun part whole => (100 * part / whole : Nat)
    neg := fun value => -value
    sub := fun left right => left - right
    mul := fun left right => left * right / 100
    sum := fun values => values.sum
    round := fun value _ => value }

def plainTexts : TextLibrary Int :=
  ⟨id, asciiLower, fun left right => if left = right then 100 else 0⟩

def groceries (id : Int) (category : Option Category) : Transaction :=
  { purchase id tenth (cents 1000) with description := "Bakery", category := category }

def bought : List Transaction :=
  [groceries 1 (some ⟨5, "Food"⟩), groceries 2 none, groceries 3 (some ⟨6, "Bread"⟩)]

def snapshotOf (txs : List Transaction) : TransactionSnapshot :=
  { transactions := txs, metrics := ⟨0, 0, 0, 0⟩, fetchedAt := 0 }

end Sample

open SuggestionService

theorem suggestForTransactionId_reversed :
    SameAnswer
      (suggestForTransactionId Sample.percents Sample.plainTexts 35 (Sample.snapshotOf Sample.bought)
        "user" "2" 1)
      (suggestForTransactionId Sample.percents Sample.plainTexts 35
        (Sample.snapshotOf Sample.bought.reverse) "user" "2" 1) :=
  suggestForTransactionId_perm Sample.percents Sample.plainTexts 35 (by decide)
    (List.reverse_perm _).symm "user" "2" 1

end FireflyToolkit.Categorization
