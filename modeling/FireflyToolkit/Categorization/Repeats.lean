import FireflyToolkit.Allegro.Router
import FireflyToolkit.Categorization.AddedDocument
import FireflyToolkit.Categorization.Relevance
import FireflyToolkit.Categorization.TextScores

set_option autoImplicit false

namespace FireflyToolkit.Categorization

open NoisyOr OrderedDict PyBuiltins SimilarityEngine Snapshot SnapshotProvider SuggestionService
open TextPreprocessor
open Allegro (HTTPException User internalServerError requireActiveUser)

-- `GET /api/tx/{tx_id}/category-suggestions`, once the snapshot is there.
def suggestCategory {F : Type} [LinearOrder F] (floats : PyFloat F) (texts : TextLibrary F)
    (users : Dict UUID User) (userId : UUID) (snapshot : TransactionSnapshot) (txId : Int) :
    Except HTTPException (List (CategorySuggestion F)) :=
  match requireActiveUser users userId with
  | .error exception => .error exception
  | .ok () =>
      match suggestForTransactionId floats texts (floats.literal 35 100) snapshot userId.str
          (toString txId) 3 with
      | .ok suggestions => .ok suggestions
      | .error (.application .transactionNotFound message) => .error ⟨404, message⟩
      | .error _ => .error internalServerError

section Ranking

variable {texts : TextLibrary ℚ}

theorem sliceTo_cons {α : Type} {limit : Int} (some : 1 ≤ limit) (first : α) (rest : List α) :
    sliceTo limit (first :: rest) = first :: rest.take (limit.toNat - 1) := by
  have natural : limit.toNat = limit.toNat - 1 + 1 := by omega
  rw [sliceTo, if_pos (by omega), natural, List.take_succ_cons]
  rfl

theorem exists_sortBy_cons {α κ : Type} [LinearOrder κ] (key : α → κ) {items : List α} {item : α}
    (listed : item ∈ items) : ∃ first rest, Sorting.sortBy key items = first :: rest :=
  List.exists_cons_of_ne_nil (List.ne_nil_of_mem (Sorting.mem_sortBy.mpr listed))

theorem findSimilar_best {minSimilarityScore : ℚ} {query : Query} {candidates : List Document}
    {candidate : Document} {found : SimilarTransactionMatch ℚ} {limit : Int} (offered : candidate ∈ candidates)
    (matched : matchOf exact texts minSimilarityScore query candidate = some found) (some : 1 ≤ limit) :
    ∃ best rest, findSimilar exact texts minSimilarityScore query candidates limit = best :: rest ∧
      found.similarityScore ≤ best.similarityScore := by
  have listed : found ∈ candidates.filterMap (matchOf exact texts minSimilarityScore query) :=
    List.mem_filterMap.mpr ⟨candidate, offered, matched⟩
  obtain ⟨best, rest, sorted⟩ := exists_sortBy_cons (sortKey exact texts) listed
  have least := (Sorting.sortBy_head sorted).2 found listed
  refine ⟨best, _, by rw [findSimilar, sorted, sliceTo_cons some], ?_⟩
  rw [sortKey, sortKey, Prod.Lex.toLex_le_toLex] at least
  have negated : -best.similarityScore ≤ -found.similarityScore := by
    rcases least with lower | ⟨same, -⟩
    · exact le_of_lt lower
    · exact le_of_eq same
  exact neg_le_neg_iff.mp negated

theorem aggregate_best {found : List (SimilarTransactionMatch ℚ)}
    (chances : ∀ item ∈ found, IsChance item.similarityScore) {item : SimilarTransactionMatch ℚ}
    (listed : item ∈ found) {limit : Int} (some : 1 ≤ limit) :
    ∃ best rest, aggregate exact texts found limit = best :: rest ∧
      Rounding.toPlaces item.similarityScore 4 ≤ best.score ∧ best.score ≤ 1 := by
  obtain ⟨bucket, held⟩ := Option.isSome_iff_exists.mp (aggregated_isSome.mpr ⟨item, listed, rfl⟩)
  have combined := combined_of_chances chances held
  obtain ⟨before, after, entries, -⟩ := List.lookup_eq_some_iff.mp held
  have entry : suggestionOf exact (item.categoryId, bucket) ∈
      (aggregated found).entries.map (suggestionOf exact) := by
    rw [entries]
    exact List.mem_map_of_mem (by simp)
  obtain ⟨best, rest, sorted⟩ := exists_sortBy_cons (suggestionKey exact texts) entry
  obtain ⟨bestListed, least⟩ := Sorting.sortBy_head sorted
  have ranked : aggregate exact texts found limit = best :: rest.take (limit.toNat - 1) := by
    change sliceTo limit (Sorting.sortBy (suggestionKey exact texts)
      ((aggregated found).entries.map (suggestionOf exact))) = _
    rw [sorted, sliceTo_cons some]
  refine ⟨best, _, ranked, ?_, ?_⟩
  · have own := least _ entry
    rw [suggestionKey, suggestionKey, Prod.Lex.toLex_le_toLex] at own
    have negated : -best.score ≤ -Rounding.toPlaces bucket.score 4 := by
      rcases own with lower | ⟨same, -⟩
      · exact le_of_lt lower
      · exact le_of_eq same
    exact (Rounding.toPlaces_mono 4 (combined.largest item listed rfl)).trans (neg_le_neg_iff.mp negated)
  · have suggested : best ∈ aggregate exact texts found limit := by simp [ranked]
    have score := aggregate_score suggested
    rw [score]
    have chance := noisyOr_chance (@categoryScores_chance _ best.categoryId chances)
    exact (Rounding.toPlaces_bounds 4 chance.1 chance.2).2

end Ranking

structure Repeats (texts : TextLibrary ℚ) (tx other : Transaction) : Prop where
  title : SameWords texts (some tx.description) (some other.description)
  notes : normalize texts tx.notes = "" ∨ SameWords texts tx.notes other.notes
  amount : AmountBucketizer.bucketForAmount tx.amount = AmountBucketizer.bucketForAmount other.amount

section Repeats

variable {nfkd lower : String → String} {userId : String} {snapshot : TransactionSnapshot}
  {tx other : Transaction}

theorem firstBucket_label {absoluteAmount : Decimal} {bounds : List (Decimal × String)} {label : String}
    (found : AmountBucketizer.firstBucket absoluteAmount bounds = .ok label) :
    label = "500+" ∨ label ∈ bounds.map Prod.snd := by
  induction bounds with
  | nil => exact .inl (Except.ok.inj found).symm
  | cons bound rest ih =>
    obtain ⟨upperBound, text⟩ := bound
    rw [AmountBucketizer.firstBucket] at found
    obtain ⟨within, -, chosen⟩ := bind_eq_ok.mp found
    split_ifs at chosen
    · exact .inr (by simp [Except.ok.inj chosen])
    · exact (ih chosen).imp id fun later => by simp [later]

theorem bucket_named {amount : Decimal} {label : String}
    (found : AmountBucketizer.bucketForAmount amount = .ok label) : label ≠ "" := by
  rintro rfl
  obtain ⟨absoluteAmount, -, placed⟩ := bind_eq_ok.mp found
  have labels := firstBucket_label placed
  revert labels
  decide

theorem findTransaction_own (distinct : (snapshot.transactions.map Transaction.id).Nodup)
    (listed : tx ∈ snapshot.transactions) :
    findTransaction snapshot.transactions (toString tx.id) = some tx := by
  have present : (findTransaction snapshot.transactions (toString tx.id)).isSome :=
    List.find?_isSome.mpr ⟨tx, listed, by simp⟩
  obtain ⟨found, read⟩ := Option.isSome_iff_exists.mp present
  have named : toString found.id = toString tx.id := by simpa using List.find?_some read
  rw [read, List.inj_on_of_nodup_map distinct (List.mem_of_find?_eq_some read) listed
    (toString_injective named)]

theorem score_of_repeat (repeats : Repeats (sequenceTexts nfkd lower) tx other) {query : Query}
    {document : Document} {bucket : String} (bucketed : AmountBucketizer.bucketForAmount tx.amount = .ok bucket)
    (asked : query.title = tx.description ∧ query.merchant = none ∧ query.notes = tx.notes ∧
      query.amountBucket = bucket)
    (told : document.title = other.description ∧ document.notes = other.notes ∧
      document.amountBucket = bucket) :
    9 / 10 ≤ (scorePair exact (sequenceTexts nfkd lower) query document).1 := by
  obtain ⟨sameTitle, sameNotes, sameAmount⟩ := repeats
  obtain ⟨title, merchant, notes, amount⟩ := asked
  obtain ⟨title', notes', amount'⟩ := told
  have ratio : ∀ left right, IsChance ((sequenceTexts nfkd lower).ratio left right) := sequenceRatio_chance
  have titles := (@textSimilarity_one nfkd lower _ _).mpr sameTitle
  have unnamed : normalize (sequenceTexts nfkd lower) none = "" := rfl
  have merchants : textSimilarity exact (sequenceTexts nfkd lower) none document.merchant = 0 := by
    rw [textSimilarity, if_pos (.inl unnamed)]
    norm_num [exact]
  have noteses := textSimilarity_chance ratio tx.notes other.notes
  have amounts : amountSimilarity exact bucket bucket = 1 :=
    (amountSimilarity_one bucket bucket).mpr ⟨bucket_named bucketed, bucket_named bucketed, rfl⟩
  unfold scorePair
  dsimp only
  rw [title, title', merchant, notes, notes', amount, amount', titles, merchants, amounts]
  unfold selectWeights
  simp only [merchant, notes, unnamed, ne_eq, not_true_eq_false, decide_false, Bool.false_eq_true, and_false,
    if_false]
  by_cases blank : normalize (sequenceTexts nfkd lower) tx.notes = ""
  · have least := noteses.1
    simp only [blank, not_true_eq_false, decide_false, Bool.false_eq_true, and_false, if_false]
    norm_num [exact, weightsOf, percent] at least ⊢
    linarith
  · have whole := (@textSimilarity_one nfkd lower _ _).mpr (sameNotes.resolve_left blank)
    simp only [blank, whole, not_false_eq_true, decide_true, and_true, if_true]
    split_ifs <;> norm_num [exact, weightsOf, percent]

theorem toPlaces_nineTenths : Rounding.toPlaces (9 / 10) 4 = 9 / 10 := by
  rw [Rounding.toPlaces]
  norm_num [Rounding.halfEven]

theorem matchOf_nineTenths {texts : TextLibrary ℚ} {query : Query} {document : Document}
    (notOwn : query.transactionId ≠ some document.transactionId)
    (score : 9 / 10 ≤ (scorePair exact texts query document).1) :
    ∃ found, matchOf exact texts (exact.literal 35 100) query document = some found ∧
      9 / 10 ≤ found.similarityScore := by
  have notLow : ¬ (scorePair exact texts query document).1 < exact.literal 35 100 := by
    norm_num [exact] at score ⊢
    linarith
  obtain ⟨found, matched⟩ : ∃ found, matchOf exact texts (exact.literal 35 100) query document = some found := by
    unfold matchOf
    dsimp only
    rw [if_neg notOwn, if_neg notLow]
    exact ⟨_, rfl⟩
  refine ⟨found, matched, ?_⟩
  rw [(matchOf_score matched).2.2, ← toPlaces_nineTenths]
  exact Rounding.toPlaces_mono 4 score

def documentOf (userId : String) (tx : Transaction) : Option Document := (toDocument userId tx).toOption.join

theorem candidates_ok
    (sized : ∀ record ∈ snapshot.transactions, AmountBucketizer.hasBucket record.amount = true) :
    getCandidateDocumentsForUser snapshot userId = .ok (snapshot.transactions.filterMap (documentOf userId)) := by
  have each : ∀ record ∈ snapshot.transactions,
      toDocument userId record = .ok (documentOf userId record) := by
    intro record member
    obtain ⟨document, made⟩ := @toDocument_ok userId record (sized record member)
    rw [documentOf, made]
    rfl
  rw [getCandidateDocumentsForUser, mapM_ok each]
  exact congrArg Except.ok (List.filterMap_map ..)

theorem documentOf_some {document : Document} (made : documentOf userId tx = some document) :
    document.transactionId = toString tx.id ∧
      ∃ category, tx.category = some category ∧ document.categoryId = toString category.id := by
  unfold documentOf toDocument at made
  cases category : tx.category with
  | none => simp [category, Except.toOption] at made
  | some category' =>
    simp only [category] at made
    split_ifs at made
    · simp [Except.toOption] at made
    · cases bucketed : AmountBucketizer.bucketForAmount tx.amount with
      | error failure => simp [bucketed, bind, Except.bind, Except.toOption] at made
      | ok bucket =>
        simp only [bucketed, bind, Except.bind, Except.toOption, Option.join_some, Option.some.injEq] at made
        rw [← made]
        exact ⟨rfl, category', rfl, rfl⟩

theorem suggested_category {texts : TextLibrary ℚ} {minSimilarityScore : ℚ} {limit : Int} {query : Query}
    (named : query.transactionId = some (toString tx.id)) {suggestion : CategorySuggestion ℚ}
    (suggested : suggestion ∈ aggregate exact texts (findSimilar exact texts minSimilarityScore query
      (snapshot.transactions.filterMap (documentOf userId))) limit) :
    ∃ record ∈ snapshot.transactions, record.id ≠ tx.id ∧
      ∃ category, record.category = some category ∧ suggestion.categoryId = toString category.id := by
  have kept := Sorting.mem_sortBy.mp ((sliceTo_sublist limit _).subset suggested)
  obtain ⟨entry, stored, rfl⟩ := List.mem_map.mp kept
  have held := Dict.get?_of_mem (show (entry.1, entry.2) ∈ (aggregated _).entries from stored)
  obtain ⟨⟨item, listed, itemCategory⟩, -⟩ := aggregated_some held
  have found := Sorting.mem_sortBy.mp ((sliceTo_sublist 20 _).subset listed)
  obtain ⟨document, offered, matched⟩ := List.mem_filterMap.mp found
  obtain ⟨record, member, made⟩ := List.mem_filterMap.mp offered
  obtain ⟨own, category, categorized, categoryId⟩ := documentOf_some made
  refine ⟨record, member, fun same => ?_, category, categorized, ?_⟩
  · unfold matchOf at matched
    rw [if_pos (by rw [named, own, same])] at matched
    cases matched
  · rw [← categoryId, ← (matchOf_score matched).1]
    exact itemCategory.symm

end Repeats

-- Whoever asks about a transaction that repeats one with a category is answered with suggestions, the
-- first of them nearly certain, and every one of them the category of another transaction.
theorem repeat_suggested (nfkd lower : String → String) {users : Dict UUID User} {userId : UUID}
    {snapshot : TransactionSnapshot} {tx other : Transaction}
    (active : requireActiveUser users userId = .ok ())
    (distinct : (snapshot.transactions.map Transaction.id).Nodup)
    (sized : ∀ record ∈ snapshot.transactions, AmountBucketizer.hasBucket record.amount = true)
    (listed : tx ∈ snapshot.transactions) (otherListed : other ∈ snapshot.transactions)
    (apart : tx.id ≠ other.id) (categorized : other.category ≠ none)
    (external : isInternalOperation other = false)
    (repeats : Repeats (sequenceTexts nfkd lower) tx other) :
    ∃ best rest, suggestCategory exact (sequenceTexts nfkd lower) users userId snapshot tx.id =
        .ok (best :: rest) ∧
      9 / 10 ≤ best.score ∧ best.score ≤ 1 ∧
      ∀ suggestion ∈ best :: rest, ∃ record ∈ snapshot.transactions, record.id ≠ tx.id ∧
        ∃ category, record.category = some category ∧ suggestion.categoryId = toString category.id := by
  let texts := sequenceTexts nfkd lower
  obtain ⟨category, given⟩ := Option.ne_none_iff_exists'.mp categorized
  obtain ⟨bucket, bucketed⟩ := AmountBucketizer.bucketForAmount_ok_iff.mpr (sized tx listed)
  let query : Query :=
    { transactionId := some (toString tx.id), title := tx.description, merchant := merchantOf tx
      notes := tx.notes, amount := tx.amount, amountBucket := bucket
      sourceType := inferSourceType tx (merchantOf tx) }
  let document : Document :=
    { transactionId := toString other.id, userId := userId.str, categoryId := toString category.id
      categoryName := category.name, title := other.description, merchant := merchantOf other
      notes := other.notes, amount := other.amount, amountBucket := bucket
      sourceType := inferSourceType other (merchantOf other) }
  have asked : getQueryForTransactionId snapshot (toString tx.id) = .ok query := by
    simp only [getQueryForTransactionId, findTransaction_own distinct listed, bucketed, bind, Except.bind, query]
  have told : documentOf userId.str other = some document := by
    have sameBucket := repeats.amount
    rw [bucketed] at sameBucket
    simp only [documentOf, toDocument, given, external, ← sameBucket, bind, Except.bind, Except.toOption,
      Bool.false_eq_true, if_false, Option.join_some, document]
  let candidates := snapshot.transactions.filterMap (documentOf userId.str)
  have offered : document ∈ candidates := List.mem_filterMap.mpr ⟨other, otherListed, told⟩
  have score : 9 / 10 ≤ (scorePair exact texts query document).1 :=
    score_of_repeat repeats bucketed ⟨rfl, rfl, rfl, rfl⟩ ⟨rfl, rfl, rfl⟩
  have ratio : ∀ left right, IsChance (texts.ratio left right) := sequenceRatio_chance
  have notOwn : query.transactionId ≠ some document.transactionId := fun same =>
    apart (toString_injective (Option.some.inj same))
  obtain ⟨found, matched, foundScore⟩ := matchOf_nineTenths notOwn score
  obtain ⟨top, others, similar, topScore⟩ := findSimilar_best offered matched (by decide : (1 : Int) ≤ 20)
  have chances : ∀ item ∈ findSimilar exact texts (exact.literal 35 100) query candidates,
      IsChance item.similarityScore := by
    intro item member
    obtain ⟨candidate, read⟩ := mem_findSimilar member
    exact matchOf_chance ratio read
  have topListed : top ∈ findSimilar exact texts (exact.literal 35 100) query candidates := by
    rw [similar]
    exact List.mem_cons_self
  obtain ⟨best, rest, ranked, least, most⟩ :=
    @aggregate_best texts _ chances top topListed 3 (by decide)
  refine ⟨best, rest, ?_, ?_, most, fun suggestion member => ?_⟩
  · simp only [suggestCategory, active, suggestForTransactionId, asked, candidates_ok sized, bind, Except.bind]
    exact congrArg Except.ok ranked
  · have rounded := Rounding.toPlaces_mono 4 (foundScore.trans topScore)
    dsimp only at rounded
    rw [toPlaces_nineTenths] at rounded
    exact rounded.trans least
  · rw [← ranked] at member
    exact suggested_category rfl member

namespace Sample

def asker : UUID := ⟨33⟩

def askers : Dict UUID User := Dict.empty.set asker ⟨true⟩

end Sample

theorem repeat_suggested_groceries :
    ∃ best rest, suggestCategory exact (sequenceTexts id asciiLower) Sample.askers Sample.asker
        (Sample.snapshotOf Sample.bought) 2 = .ok (best :: rest) ∧ 9 / 10 ≤ best.score := by
  have words : normalize (sequenceTexts id asciiLower) (some "Bakery") ≠ "" := by decide
  obtain ⟨best, rest, answered, least, -⟩ := @repeat_suggested id asciiLower Sample.askers Sample.asker
    (Sample.snapshotOf Sample.bought) (Sample.groceries 2 none) (Sample.groceries 1 (some ⟨5, "Food"⟩))
    rfl (by decide) (by decide) (by decide) (by decide) (by decide) (by decide) rfl
    ⟨⟨words, words, fun _ => Iff.rfl⟩, .inl rfl, rfl⟩
  exact ⟨best, rest, answered, least⟩

end FireflyToolkit.Categorization
