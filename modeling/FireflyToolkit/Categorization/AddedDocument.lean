import FireflyToolkit.Categorization.ExactScores

set_option autoImplicit false

namespace FireflyToolkit.Categorization

open NoisyOr SimilarityEngine SuggestionService

variable {texts : TextLibrary ℚ} {found : List (SimilarTransactionMatch ℚ)} {limit : Int}

def scoreIn (suggestions : List (CategorySuggestion ℚ)) (category : String) : ℚ :=
  ((suggestions.find? fun suggestion => decide (suggestion.categoryId = category)).map
    CategorySuggestion.score).getD 0

theorem scoreIn_aggregate (fits : ((categoriesOf found).length : Int) ≤ limit) (category : String) :
    scoreIn (aggregate exact texts found limit) category =
      Rounding.toPlaces (noisyOr (categoryScores found category)) 4 := by
  unfold scoreIn
  cases listed : (aggregate exact texts found limit).find? fun suggestion =>
      decide (suggestion.categoryId = category) with
  | some suggestion =>
    have named : suggestion.categoryId = category := by simpa using List.find?_some listed
    rw [← named]
    exact aggregate_score (List.mem_of_find?_eq_some listed)
  | none =>
    have absent : category ∉ categoriesOf found := by
      intro member
      obtain ⟨suggestion, suggested, named⟩ :=
        List.mem_map.mp ((@aggregate_categories texts found limit fits).mem_iff.mpr member)
      have unlisted := List.find?_eq_none.mp listed suggestion suggested
      simp [named] at unlisted
    have nothing : categoryScores found category = [] := by
      by_contra some
      obtain ⟨score, member⟩ := List.exists_mem_of_ne_nil _ some
      obtain ⟨item, itemListed, named, -⟩ := mem_categoryScores.mp member
      exact absent (List.mem_dedup.mpr (List.mem_map.mpr ⟨item, itemListed, named⟩))
    have zero := Rounding.toPlaces_intCast 0 4
    simpa [nothing] using zero.symm

inductive Improves (added : SimilarTransactionMatch ℚ) :
    List (SimilarTransactionMatch ℚ) → List (SimilarTransactionMatch ℚ) → Prop
  | unchanged (best : List (SimilarTransactionMatch ℚ)) : Improves added best best
  | extended (front kept : List (SimilarTransactionMatch ℚ)) :
      Improves added (front ++ kept) (front ++ added :: kept)
  | replaced (front kept : List (SimilarTransactionMatch ℚ)) (lost : SimilarTransactionMatch ℚ)
      (worse : lost.similarityScore ≤ added.similarityScore) :
      Improves added (front ++ kept ++ [lost]) (front ++ added :: kept)

theorem sortKey_le {added other : SimilarTransactionMatch ℚ}
    (ahead : sortKey exact texts added ≤ sortKey exact texts other) :
    other.similarityScore ≤ added.similarityScore := by
  have scores : -added.similarityScore ≤ -other.similarityScore := by
    rcases Prod.Lex.le_iff.mp ahead with less | ⟨same, -⟩
    · exact le_of_lt less
    · exact le_of_eq same
  linarith

theorem findSimilar_added {minSimilarityScore : ℚ} {query : Query} {before after : List Document}
    {document : Document} {added : SimilarTransactionMatch ℚ}
    (matched : matchOf exact texts minSimilarityScore query document = some added) :
    Improves added (findSimilar exact texts minSimilarityScore query (before ++ after))
      (findSimilar exact texts minSimilarityScore query (before ++ document :: after)) := by
  have one : ∀ candidates, findSimilar exact texts minSimilarityScore query candidates =
      (Sorting.sortBy (sortKey exact texts)
        (candidates.filterMap (matchOf exact texts minSimilarityScore query))).take 20 :=
    fun candidates => rfl
  rw [one, one, List.filterMap_append, List.filterMap_append, List.filterMap_cons_some matched]
  rcases Sorting.take_sortBy_added (sortKey exact texts)
      (before.filterMap (matchOf exact texts minSimilarityScore query))
      (after.filterMap (matchOf exact texts minSimilarityScore query)) added 20 with
    same | ⟨front, kept, lost, old, new, few, behind⟩
  · rw [same]
    exact .unchanged _
  · rw [old, new]
    cases lost with
    | nil => simpa using Improves.extended front kept
    | cons dropped rest =>
      obtain rfl : rest = [] := List.length_eq_zero_iff.mp (by simpa using few)
      exact .replaced front kept dropped (sortKey_le (behind dropped (by simp)))

section Improves

variable {added : SimilarTransactionMatch ℚ} {old new : List (SimilarTransactionMatch ℚ)}
  {category : String}

theorem categoryScores_chance (chances : ∀ item ∈ found, IsChance item.similarityScore) :
    ∀ score ∈ categoryScores found category, IsChance score := by
  intro score member
  obtain ⟨item, listed, -, rfl⟩ := mem_categoryScores.mp member
  exact chances item listed

theorem Improves.own (improves : Improves added old new)
    (chances : ∀ item ∈ old, IsChance item.similarityScore)
    (addedChance : IsChance added.similarityScore) (own : added.categoryId = category) :
    noisyOr (categoryScores old category) ≤ noisyOr (categoryScores new category) := by
  have grown : ∀ front kept, noisyOr (categoryScores (front ++ added :: kept) category) =
      noisyOr (added.similarityScore :: categoryScores (front ++ kept) category) := by
    intro front kept
    rw [categoryScores_append, categoryScores_append, categoryScores_cons, if_pos own]
    exact noisyOr_perm List.perm_middle
  cases improves with
  | unchanged => exact le_refl _
  | extended front kept =>
    rw [grown]
    exact noisyOr_le_cons addedChance (categoryScores_chance chances)
  | replaced front kept lost worse =>
    have valid : ∀ score ∈ categoryScores (front ++ kept) category, IsChance score :=
      categoryScores_chance fun item member => chances item (List.mem_append_left _ member)
    have alone : categoryScores ([] : List (SimilarTransactionMatch ℚ)) category = [] := rfl
    rw [grown, categoryScores_append, categoryScores_cons, alone]
    split_ifs
    · rw [noisyOr_perm (List.perm_append_singleton _ _)]
      exact noisyOr_replace worse valid
    · simpa [categoryScores] using noisyOr_le_cons addedChance valid

theorem Improves.others (improves : Improves added old new)
    (chances : ∀ item ∈ old, IsChance item.similarityScore) (other : added.categoryId ≠ category) :
    noisyOr (categoryScores new category) ≤ noisyOr (categoryScores old category) := by
  have valid := @categoryScores_chance _ category chances
  refine noisyOr_sublist ?_ valid
  cases improves with
  | unchanged => exact .refl _
  | extended front kept =>
    rw [categoryScores_append, categoryScores_append, categoryScores_cons, if_neg other]
  | replaced front kept lost worse =>
    rw [categoryScores_append, categoryScores_append, categoryScores_append front,
      categoryScores_cons, if_neg other]
    exact List.sublist_append_left _ _

end Improves

def similarMatches (texts : TextLibrary ℚ) (minSimilarityScore : ℚ) (query : Query)
    (candidates : List Document) : List (SimilarTransactionMatch ℚ) :=
  findSimilar exact texts minSimilarityScore query candidates

theorem categoriesOf_length_le (minSimilarityScore : ℚ) (query : Query) (candidates : List Document) :
    (categoriesOf (similarMatches texts minSimilarityScore query candidates)).length ≤
      (candidates.map Document.categoryId).dedup.length := by
  refine (List.subperm_of_subset (List.nodup_dedup _) fun category member => ?_).length_le
  obtain ⟨item, listed, rfl⟩ := List.mem_map.mp (List.mem_dedup.mp member)
  have kept := Sorting.mem_sortBy.mp ((PyBuiltins.sliceTo_sublist 20 _).subset listed)
  obtain ⟨candidate, offered, matched⟩ := List.mem_filterMap.mp kept
  rw [(matchOf_score matched).1]
  exact List.mem_dedup.mpr (List.mem_map_of_mem offered)

-- One more document helps its own category and no other.
theorem added_document_scores (ratio : ∀ left right, IsChance (texts.ratio left right))
    (minSimilarityScore : ℚ) (query : Query) (before after : List Document) (document : Document)
    (fits : ((categoriesOf
      (similarMatches texts minSimilarityScore query (before ++ after))).length : Int) ≤ limit)
    (fitsAdded : ((categoriesOf
      (similarMatches texts minSimilarityScore query (before ++ document :: after))).length : Int) ≤
        limit) :
    scoreIn (aggregate exact texts
          (similarMatches texts minSimilarityScore query (before ++ after)) limit)
        document.categoryId ≤
      scoreIn (aggregate exact texts
          (similarMatches texts minSimilarityScore query (before ++ document :: after)) limit)
        document.categoryId ∧
    ∀ category, category ≠ document.categoryId →
      scoreIn (aggregate exact texts
          (similarMatches texts minSimilarityScore query (before ++ document :: after)) limit)
        category ≤
      scoreIn (aggregate exact texts
          (similarMatches texts minSimilarityScore query (before ++ after)) limit) category := by
  simp only [scoreIn_aggregate fits, scoreIn_aggregate fitsAdded]
  have chances : ∀ item ∈ similarMatches texts minSimilarityScore query (before ++ after),
      IsChance item.similarityScore := by
    intro item member
    obtain ⟨candidate, matched⟩ := mem_findSimilar member
    exact matchOf_chance ratio matched
  cases matched : matchOf exact texts minSimilarityScore query document with
  | none =>
    have same : similarMatches texts minSimilarityScore query (before ++ document :: after) =
        similarMatches texts minSimilarityScore query (before ++ after) := by
      simp only [similarMatches, findSimilar, List.filterMap_append, List.filterMap_cons_none matched]
    rw [same]
    exact ⟨le_refl _, fun _ _ => le_refl _⟩
  | some added =>
    have improves : Improves added
        (similarMatches texts minSimilarityScore query (before ++ after))
        (similarMatches texts minSimilarityScore query (before ++ document :: after)) :=
      findSimilar_added matched
    have named := (matchOf_score matched).1
    exact ⟨Rounding.toPlaces_mono 4 (improves.own chances (matchOf_chance ratio matched) named),
      fun category other => Rounding.toPlaces_mono 4
        (improves.others chances (named ▸ other.symm))⟩

namespace Sample

def question : Query := ⟨some "1", "Bakery", none, none, .finite false 10 0, "0-10", "bank"⟩

def bakery (transactionId categoryId : String) : Document :=
  ⟨transactionId, "user", categoryId, "Name", "Bakery", none, none, .finite false 10 0, "0-10", "bank"⟩

end Sample

theorem added_document_scores_bakery :
    scoreIn (aggregate exact Sample.exactTexts (similarMatches Sample.exactTexts (35 / 100)
        Sample.question [Sample.bakery "2" "5"]) 2) "6" ≤
      scoreIn (aggregate exact Sample.exactTexts (similarMatches Sample.exactTexts (35 / 100)
        Sample.question [Sample.bakery "2" "5", Sample.bakery "3" "6"]) 2) "6" := by
  have one := @categoriesOf_length_le Sample.exactTexts (35 / 100) Sample.question
    [Sample.bakery "2" "5"]
  have two := @categoriesOf_length_le Sample.exactTexts (35 / 100) Sample.question
    [Sample.bakery "2" "5", Sample.bakery "3" "6"]
  have lengths : ([Sample.bakery "2" "5"].map Document.categoryId).dedup.length = 1 ∧
      ([Sample.bakery "2" "5", Sample.bakery "3" "6"].map Document.categoryId).dedup.length = 2 := by
    decide
  rw [lengths.1] at one
  rw [lengths.2] at two
  exact (added_document_scores Sample.exactTexts_ratio (35 / 100) Sample.question
    [Sample.bakery "2" "5"] [] (Sample.bakery "3" "6") (by exact_mod_cast one.trans (by decide))
    (by exact_mod_cast two)).1

end FireflyToolkit.Categorization
