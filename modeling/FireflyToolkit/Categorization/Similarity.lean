import FireflyToolkit.Categorization.Documents
import FireflyToolkit.Shared.OrderedDict
import Mathlib.Data.String.Basic

set_option autoImplicit false

namespace FireflyToolkit.Categorization

open OrderedDict PyBuiltins

-- Python's floating point numbers, with the operations that the scores are made of. No score is a
-- NaN, so they are linearly ordered; how each operation rounds stays a parameter.
structure PyFloat (F : Type) where
  literal : Nat → Nat → F
  trueDivision : Nat → Nat → F
  neg : F → F
  sub : F → F → F
  mul : F → F → F
  sum : List F → F
  round : F → Nat → F

-- What the standard library computes about texts: the NFKD form of `unicodedata`, `str.lower`, and
-- the ratio of a `SequenceMatcher`.
structure TextLibrary (F : Type) where
  nfkd : String → String
  lower : String → String
  ratio : String → String → F

namespace TextPreprocessor

def stripped (text : List Char) : List Char :=
  (text.dropWhile isSpace).reverse.dropWhile isSpace |>.reverse

def diacritics : List (Char × Char) :=
  [('ą', 'a'), ('ć', 'c'), ('ę', 'e'), ('ł', 'l'), ('ń', 'n'), ('ó', 'o'), ('ś', 's'), ('ż', 'z'),
    ('ź', 'z'), ('Ą', 'A'), ('Ć', 'C'), ('Ę', 'E'), ('Ł', 'L'), ('Ń', 'N'), ('Ó', 'O'), ('Ś', 'S'),
    ('Ż', 'Z'), ('Ź', 'Z')]

def translate (character : Char) : Char := (diacritics.lookup character).getD character

-- `\d{6,}` replaced by a blank; `digits` is the run of digits that was read last.
def dropLongNumbers (digits : List Char) : List Char → List Char
  | [] => if 6 ≤ digits.length then [' '] else digits
  | character :: rest =>
      if character.isDigit then dropLongNumbers (digits ++ [character]) rest
      else if 6 ≤ digits.length then ' ' :: character :: dropLongNumbers [] rest
      else digits ++ character :: dropLongNumbers [] rest

-- `\s+` replaced by a blank.
def collapseSpaces (afterSpace : Bool) : List Char → List Char
  | [] => []
  | character :: rest =>
      if isSpace character then
        if afterSpace then collapseSpaces true rest else ' ' :: collapseSpaces true rest
      else character :: collapseSpaces false rest

variable {F : Type} (texts : TextLibrary F)

def normalize (value : Option String) : String :=
  match value with
  | none => ""
  | some value =>
      let text := stripped value.toList
      if text = [] then ""
      else
        let decomposed := (texts.nfkd (String.ofList text)).toList.map translate
        let ascii := decomposed.filter fun character => decide (character.toNat < 128)
        let lowered := (dropLongNumbers [] ascii).map Char.toLower
        String.ofList (stripped (collapseSpaces false lowered))

def tokens (value : Option String) : List String :=
  let normalized := normalize texts value
  if normalized = "" then [] else ((normalized.splitOn " ").dedup)

end TextPreprocessor

namespace SimilarityEngine

structure Weights (F : Type) where
  title : F
  merchant : F
  notes : F
  amount : F

structure SimilarTransactionMatch (F : Type) where
  transactionId : String
  categoryId : String
  categoryName : String
  similarityScore : F
  matchedBy : String
  deriving DecidableEq

variable {F : Type} [LinearOrder F] (floats : PyFloat F) (texts : TextLibrary F)

def percent (value : Nat) : F := floats.literal value 100

def weightsOf (title merchant notes amount : Nat) : Weights F :=
  ⟨percent floats title, percent floats merchant, percent floats notes, percent floats amount⟩

def selectWeights (query : Query) : Weights F :=
  let sourceType := texts.lower (String.ofList (TextPreprocessor.stripped query.sourceType.toList))
  let merchantPresent := decide (TextPreprocessor.normalize texts query.merchant ≠ "")
  let notesPresent := decide (TextPreprocessor.normalize texts query.notes ≠ "")
  if sourceType = "blik" ∧ merchantPresent then weightsOf floats 25 50 15 10
  else if sourceType = "allegro" ∧ notesPresent then weightsOf floats 20 10 55 15
  else if merchantPresent then weightsOf floats 35 40 15 10
  else if notesPresent then weightsOf floats 45 0 40 15
  else weightsOf floats 75 0 10 15

def textSimilarity (left right : Option String) : F :=
  let leftNormalized := TextPreprocessor.normalize texts left
  let rightNormalized := TextPreprocessor.normalize texts right
  if leftNormalized = "" ∨ rightNormalized = "" then floats.literal 0 1
  else
    let ratio := texts.ratio leftNormalized rightNormalized
    let leftTokens := TextPreprocessor.tokens texts left
    let rightTokens := TextPreprocessor.tokens texts right
    if leftTokens = [] ∨ rightTokens = [] then ratio
    else
      let common := leftTokens.filter (· ∈ rightTokens)
      let overlap := floats.trueDivision common.length (leftTokens ∪ rightTokens).length
      max ratio overlap

def amountSimilarity (queryBucket candidateBucket : String) : F :=
  if queryBucket = "" ∨ candidateBucket = "" then floats.literal 0 1
  else
    let leftIndex := AmountBucketizer.bucketIndex queryBucket
    let rightIndex := AmountBucketizer.bucketIndex candidateBucket
    let distance := (leftIndex - rightIndex) + (rightIndex - leftIndex)
    if distance = 0 then floats.literal 1 1
    else if distance = 1 then percent floats 65
    else if distance = 2 then percent floats 35
    else floats.literal 0 1

-- `max` over the contributions: the largest value, and of equal ones the field of higher priority.
def matchedBy (title merchant notes amount : F) : String :=
  if title ≤ merchant ∧ notes ≤ merchant ∧ amount ≤ merchant then "merchant"
  else if title ≤ notes ∧ merchant ≤ notes ∧ amount ≤ notes then "notes"
  else if merchant ≤ title ∧ notes ≤ title ∧ amount ≤ title then "title"
  else "amount"

def scorePair (query : Query) (candidate : Document) : F × String :=
  let weights := selectWeights floats texts query
  let title := floats.mul weights.title
    (textSimilarity floats texts (some query.title) (some candidate.title))
  let merchant := floats.mul weights.merchant
    (textSimilarity floats texts query.merchant candidate.merchant)
  let notes := floats.mul weights.notes (textSimilarity floats texts query.notes candidate.notes)
  let amount := floats.mul weights.amount
    (amountSimilarity floats query.amountBucket candidate.amountBucket)
  (floats.sum [title, merchant, notes, amount], matchedBy title merchant notes amount)

variable (minSimilarityScore : F)

def matchOf (query : Query) (candidate : Document) : Option (SimilarTransactionMatch F) :=
  if query.transactionId = some candidate.transactionId then none
  else
    let (weightedScore, field) := scorePair floats texts query candidate
    if weightedScore < minSimilarityScore then none
    else some
      { transactionId := candidate.transactionId
        categoryId := candidate.categoryId
        categoryName := candidate.categoryName
        similarityScore := floats.round weightedScore 4
        matchedBy := field }

def sortKey (item : SimilarTransactionMatch F) : F ×ₗ String ×ₗ String :=
  toLex (floats.neg item.similarityScore, toLex (texts.lower item.categoryName, item.transactionId))

def findSimilar (query : Query) (candidates : List Document) (limit : Int := 20) :
    List (SimilarTransactionMatch F) :=
  let found := candidates.filterMap (matchOf floats texts minSimilarityScore query)
  sliceTo limit (Sorting.sortBy (sortKey floats texts) found)

variable {floats texts minSimilarityScore}

theorem matchOf_transactionId {query : Query} {candidate : Document}
    {found : SimilarTransactionMatch F}
    (scored : matchOf floats texts minSimilarityScore query candidate = some found) :
    found.transactionId = candidate.transactionId := by
  unfold matchOf at scored
  dsimp only at scored
  split_ifs at scored
  rw [← Option.some.inj scored]

theorem matches_transactionIds (query : Query) (candidates : List Document) :
    ((candidates.filterMap (matchOf floats texts minSimilarityScore query)).map
      SimilarTransactionMatch.transactionId).Sublist (candidates.map Document.transactionId) := by
  induction candidates with
  | nil => simp
  | cons candidate rest ih =>
    cases scored : matchOf floats texts minSimilarityScore query candidate with
    | none => simpa [scored] using ih.cons candidate.transactionId
    | some found =>
      have same := matchOf_transactionId scored
      simpa [scored, same] using ih.cons_cons candidate.transactionId

-- The transaction id in the key tells any two matches apart, so ties cannot depend on the order.
theorem findSimilar_perm {query : Query} {left right : List Document} (permuted : left.Perm right)
    (distinct : (left.map Document.transactionId).Nodup) (limit : Int) :
    findSimilar floats texts minSimilarityScore query left limit =
      findSimilar floats texts minSimilarityScore query right limit := by
  have ids := distinct.sublist
    (@matches_transactionIds _ _ floats texts minSimilarityScore query left)
  unfold findSimilar
  dsimp only
  rw [Sorting.sortBy_eq_of_perm (permuted.filterMap _)]
  intro first firstMember second secondMember same
  have sameId : first.transactionId = second.transactionId := by
    have keys := congrArg ofLex same
    simp only [sortKey, ofLex_toLex, Prod.mk.injEq, EmbeddingLike.apply_eq_iff_eq] at keys
    exact keys.2.2
  exact List.inj_on_of_nodup_map ids firstMember secondMember sameId

end SimilarityEngine

end FireflyToolkit.Categorization
