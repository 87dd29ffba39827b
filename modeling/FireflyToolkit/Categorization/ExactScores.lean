import FireflyToolkit.Categorization.Suggestions
import FireflyToolkit.Shared.NoisyOr
import FireflyToolkit.Shared.Rounding
import Mathlib.Tactic.NormNum

set_option autoImplicit false

namespace FireflyToolkit.Categorization

open NoisyOr OrderedDict PyBuiltins SimilarityEngine

-- Rational numbers in place of floating point ones.
def exact : PyFloat ℚ where
  literal part whole := part / whole
  trueDivision left right := left / right
  neg value := -value
  sub left right := left - right
  mul left right := left * right
  sum values := values.sum
  round := Rounding.toPlaces

structure Balanced (weights : Weights ℚ) : Prop where
  title : 0 ≤ weights.title
  merchant : 0 ≤ weights.merchant
  notes : 0 ≤ weights.notes
  amount : 0 ≤ weights.amount
  total : weights.title + weights.merchant + weights.notes + weights.amount = 1

theorem weightsOf_balanced {title merchant notes amount : Nat}
    (total : title + merchant + notes + amount = 100) :
    Balanced (weightsOf exact title merchant notes amount) := by
  have sum : (title : ℚ) + merchant + notes + amount = 100 := by exact_mod_cast total
  constructor <;> simp only [weightsOf, percent, exact]
  · positivity
  · positivity
  · positivity
  · positivity
  · push_cast
    linarith

variable {texts : TextLibrary ℚ}

theorem selectWeights_balanced (query : Query) : Balanced (selectWeights exact texts query) := by
  unfold selectWeights
  dsimp only
  split_ifs <;> exact weightsOf_balanced (by decide)

theorem amountSimilarity_chance (queryBucket candidateBucket : String) :
    IsChance (amountSimilarity exact queryBucket candidateBucket) := by
  unfold amountSimilarity
  dsimp only
  split_ifs <;> norm_num [IsChance, percent, exact]

theorem overlap_chance {left : List String} (distinct : left.Nodup) (some : left ≠ [])
    (right : List String) :
    0 < (left ∪ right).length ∧
      IsChance (((left.filter (· ∈ right)).length : ℚ) / (left ∪ right).length) := by
  have part : left.filter (· ∈ right) ⊆ left ∪ right := fun token member =>
    List.mem_union_iff.mpr (.inl (List.mem_of_mem_filter member))
  have fewer : (left.filter (· ∈ right)).length ≤ (left ∪ right).length :=
    (List.subperm_of_subset (distinct.filter _) part).length_le
  have positive : 0 < (left ∪ right).length := by
    obtain ⟨token, member⟩ := List.exists_mem_of_ne_nil left some
    exact List.length_pos_of_mem (List.mem_union_iff.mpr (.inl member))
  have whole : (0 : ℚ) < (left ∪ right).length := by exact_mod_cast positive
  refine ⟨positive, by positivity, ?_⟩
  rw [div_le_one whole]
  exact_mod_cast fewer

theorem tokens_nodup (value : Option String) : (TextPreprocessor.tokens texts value).Nodup := by
  unfold TextPreprocessor.tokens
  dsimp only
  split_ifs
  · exact List.nodup_nil
  · exact List.nodup_dedup _

theorem textSimilarity_chance (ratio : ∀ left right, IsChance (texts.ratio left right))
    (left right : Option String) : IsChance (textSimilarity exact texts left right) := by
  unfold textSimilarity
  dsimp only
  split_ifs with blank missing
  · norm_num [IsChance, exact]
  · exact ratio _ _
  · obtain ⟨lower, upper⟩ := ratio (TextPreprocessor.normalize texts left)
      (TextPreprocessor.normalize texts right)
    obtain ⟨-, least, most⟩ := overlap_chance (tokens_nodup left) (not_or.mp missing).1
      (TextPreprocessor.tokens texts right)
    exact ⟨lower.trans (le_max_left _ _), max_le upper most⟩

theorem Balanced.chance {weights : Weights ℚ} (balanced : Balanced weights)
    {title merchant notes amount : ℚ} (titles : IsChance title) (merchants : IsChance merchant)
    (noteses : IsChance notes) (amounts : IsChance amount) :
    IsChance (weights.title * title + (weights.merchant * merchant + (weights.notes * notes +
      (weights.amount * amount + 0)))) := by
  obtain ⟨first, second, third, fourth, total⟩ := balanced
  have titleMost := mul_le_of_le_one_right first titles.2
  have merchantMost := mul_le_of_le_one_right second merchants.2
  have notesMost := mul_le_of_le_one_right third noteses.2
  have amountMost := mul_le_of_le_one_right fourth amounts.2
  have titleLeast := mul_nonneg first titles.1
  have merchantLeast := mul_nonneg second merchants.1
  have notesLeast := mul_nonneg third noteses.1
  have amountLeast := mul_nonneg fourth amounts.1
  constructor <;> linarith

theorem scorePair_chance (ratio : ∀ left right, IsChance (texts.ratio left right)) (query : Query)
    (candidate : Document) : IsChance (scorePair exact texts query candidate).1 :=
  (selectWeights_balanced query).chance (textSimilarity_chance ratio _ _)
    (textSimilarity_chance ratio _ _) (textSimilarity_chance ratio _ _)
    (amountSimilarity_chance _ _)

theorem matchOf_score {minSimilarityScore : ℚ} {query : Query} {candidate : Document}
    {found : SimilarTransactionMatch ℚ}
    (matched : matchOf exact texts minSimilarityScore query candidate = some found) :
    found.categoryId = candidate.categoryId ∧
      minSimilarityScore ≤ (scorePair exact texts query candidate).1 ∧
      found.similarityScore = Rounding.toPlaces (scorePair exact texts query candidate).1 4 := by
  unfold matchOf at matched
  dsimp only at matched
  split_ifs at matched with own low
  rw [← Option.some.inj matched]
  exact ⟨rfl, not_lt.mp low, rfl⟩

theorem matchOf_chance (ratio : ∀ left right, IsChance (texts.ratio left right))
    {minSimilarityScore : ℚ} {query : Query} {candidate : Document}
    {found : SimilarTransactionMatch ℚ}
    (matched : matchOf exact texts minSimilarityScore query candidate = some found) :
    IsChance found.similarityScore := by
  obtain ⟨lower, upper⟩ := scorePair_chance ratio query candidate
  rw [(matchOf_score matched).2.2]
  exact Rounding.toPlaces_bounds 4 lower upper

theorem mem_findSimilar {minSimilarityScore : ℚ} {query : Query} {candidates : List Document}
    {limit : Int} {found : SimilarTransactionMatch ℚ}
    (member : found ∈ findSimilar exact texts minSimilarityScore query candidates limit) :
    ∃ candidate, matchOf exact texts minSimilarityScore query candidate = some found := by
  have kept := Sorting.mem_sortBy.mp ((sliceTo_sublist limit _).subset member)
  obtain ⟨candidate, -, matched⟩ := List.mem_filterMap.mp kept
  exact ⟨candidate, matched⟩

namespace SuggestionService

variable {found other : List (SimilarTransactionMatch ℚ)} {category : String}

def aggregated (found : List (SimilarTransactionMatch ℚ)) : Dict String (Aggregate ℚ) :=
  found.foldl (addMatch exact) Dict.empty

def categoryScores (found : List (SimilarTransactionMatch ℚ)) (category : String) : List ℚ :=
  (found.filter fun item => decide (item.categoryId = category)).map
    SimilarTransactionMatch.similarityScore

theorem mem_categoryScores {score : ℚ} :
    score ∈ categoryScores found category ↔
      ∃ item ∈ found, item.categoryId = category ∧ item.similarityScore = score := by
  simp [categoryScores, and_assoc]

theorem categoryScores_append (found other : List (SimilarTransactionMatch ℚ)) (category : String) :
    categoryScores (found ++ other) category =
      categoryScores found category ++ categoryScores other category := by
  simp [categoryScores]

theorem categoryScores_cons (item : SimilarTransactionMatch ℚ)
    (rest : List (SimilarTransactionMatch ℚ)) (category : String) :
    categoryScores (item :: rest) category =
      if item.categoryId = category then item.similarityScore :: categoryScores rest category
      else categoryScores rest category := by
  by_cases same : item.categoryId = category <;> simp [categoryScores, same]

theorem aggregated_score (found : List (SimilarTransactionMatch ℚ)) (category : String) :
    ((aggregated found).get? category).map Aggregate.score =
      if categoryScores found category = [] then none
      else some (noisyOr (categoryScores found category)) := by
  induction found using List.reverseRecOn with
  | nil => rfl
  | append_singleton rest item ih =>
    have step : aggregated (rest ++ [item]) = addMatch exact (aggregated rest) item :=
      List.foldl_append
    rw [step, addMatch, Dict.get?_set, categoryScores_append, categoryScores_cons]
    by_cases same : item.categoryId = category
    next =>
      subst same
      -- A bucket starts at the combined score of no match.
      have started : (((aggregated rest).get? item.categoryId).getD
          ⟨item.categoryName, exact.literal 0 1, item⟩).score =
            noisyOr (categoryScores rest item.categoryId) := by
        cases held : (aggregated rest).get? item.categoryId with
        | none =>
          have unseen : categoryScores rest item.categoryId = [] := by simpa [held] using ih
          simp [unseen, exact]
        | some bucket =>
          rw [held] at ih
          by_cases unseen : categoryScores rest item.categoryId = [] <;> simp_all
      have combined : combine exact (noisyOr (categoryScores rest item.categoryId))
          item.similarityScore =
            noisyOr (categoryScores rest item.categoryId ++ [item.similarityScore]) := by
        simp [combine, exact, noisyOr_snoc]
      have alone : categoryScores ([] : List (SimilarTransactionMatch ℚ)) item.categoryId = [] := rfl
      simp [started, combined, alone]
    next =>
      have other : ¬ category = item.categoryId := fun equal => same equal.symm
      simpa [same, other, categoryScores] using ih

theorem aggregated_some {bucket : Aggregate ℚ}
    (held : (aggregated found).get? category = some bucket) :
    (∃ item ∈ found, item.categoryId = category) ∧
      bucket.score = noisyOr (categoryScores found category) := by
  have score := aggregated_score found category
  rw [held] at score
  by_cases unseen : categoryScores found category = []
  next => simp [unseen] at score
  next =>
    obtain ⟨value, member⟩ := List.exists_mem_of_ne_nil _ unseen
    obtain ⟨item, listed, named, -⟩ := mem_categoryScores.mp member
    exact ⟨⟨item, listed, named⟩, by simpa [unseen] using score⟩

theorem aggregated_isSome :
    ((aggregated found).get? category).isSome = true ↔ ∃ item ∈ found, item.categoryId = category := by
  constructor
  · intro present
    obtain ⟨bucket, held⟩ := Option.isSome_iff_exists.mp present
    exact (aggregated_some held).1
  · rintro ⟨item, listed, named⟩
    have seen : categoryScores found category ≠ [] :=
      List.ne_nil_of_mem (mem_categoryScores.mpr ⟨item, listed, named, rfl⟩)
    have score := aggregated_score found category
    rw [if_neg seen] at score
    cases held : (aggregated found).get? category with
    | none => simp [held] at score
    | some bucket => rfl

def categoriesOf (found : List (SimilarTransactionMatch ℚ)) : List String :=
  (found.map SimilarTransactionMatch.categoryId).dedup

theorem aggregated_keys (found : List (SimilarTransactionMatch ℚ)) :
    ((aggregated found).entries.map Prod.fst).Perm (categoriesOf found) := by
  refine (List.perm_ext_iff_of_nodup (aggregated found).distinct (List.nodup_dedup _)).mpr ?_
  intro category
  rw [Dict.mem_keys, aggregated_isSome, List.mem_dedup, List.mem_map]

theorem aggregate_perm {limit : Int} (fits : ((categoriesOf found).length : Int) ≤ limit) :
    (aggregate exact texts found limit).Perm
      ((aggregated found).entries.map (suggestionOf exact)) := by
  have sorted := Sorting.sortBy_perm (suggestionKey exact texts)
    ((aggregated found).entries.map (suggestionOf exact))
  have count : (Sorting.sortBy (suggestionKey exact texts)
      ((aggregated found).entries.map (suggestionOf exact))).length = (categoriesOf found).length := by
    rw [sorted.length_eq, List.length_map, ← (aggregated_keys found).length_eq, List.length_map]
  have all : aggregate exact texts found limit = Sorting.sortBy (suggestionKey exact texts)
      ((aggregated found).entries.map (suggestionOf exact)) :=
    sliceTo_of_length_le (count.symm ▸ fits)
  rw [all]
  exact sorted

theorem aggregate_categories {limit : Int} (fits : ((categoriesOf found).length : Int) ≤ limit) :
    ((aggregate exact texts found limit).map CategorySuggestion.categoryId).Perm
      (categoriesOf found) := by
  have ids := (@aggregate_perm texts found limit fits).map CategorySuggestion.categoryId
  rw [List.map_map] at ids
  exact ids.trans (aggregated_keys found)

theorem aggregate_score {limit : Int} {suggestion : CategorySuggestion ℚ}
    (suggested : suggestion ∈ aggregate exact texts found limit) :
    suggestion.score = Rounding.toPlaces (noisyOr (categoryScores found suggestion.categoryId)) 4 := by
  have kept := Sorting.mem_sortBy.mp ((sliceTo_sublist limit _).subset suggested)
  obtain ⟨entry, stored, rfl⟩ := List.mem_map.mp kept
  have held := Dict.get?_of_mem (show (entry.1, entry.2) ∈ (aggregated found).entries from stored)
  exact congrArg (Rounding.toPlaces · 4) (aggregated_some held).2

end SuggestionService

open SuggestionService

-- The matches of one category, combined: before rounding the bucket holds the chance that one of
-- them is right.
structure Combined (found : List (SimilarTransactionMatch ℚ)) (bucket : Aggregate ℚ)
    (category : String) : Prop where
  product : bucket.score =
    1 - ((categoryScores found category).map fun score => 1 - score).prod
  largest : ∀ item ∈ found, item.categoryId = category → item.similarityScore ≤ bucket.score
  bounded : bucket.score ≤ 1
  orderless : ∀ other, found.Perm other →
    ((aggregated other).get? category).map Aggregate.score = some bucket.score

structure ScoresKept (texts : TextLibrary ℚ) : Prop where
  similarities : ∀ minSimilarityScore query candidates limit,
    ∀ found ∈ findSimilar exact texts minSimilarityScore query candidates limit,
      exact.round minSimilarityScore 4 ≤ found.similarityScore ∧ found.similarityScore ≤ 1
  combined : ∀ found, (∀ item ∈ found, IsChance item.similarityScore) → ∀ category,
    (∃ item ∈ found, item.categoryId = category) →
      ∃ bucket, (aggregated found).get? category = some bucket ∧ Combined found bucket category
  once : ∀ found limit, ((categoriesOf found).length : Int) ≤ limit →
    ((aggregate exact texts found limit).map CategorySuggestion.categoryId).Perm (categoriesOf found)
  rounded : ∀ found limit, ∀ suggestion ∈ aggregate exact texts found limit,
    ∃ bucket, (aggregated found).get? suggestion.categoryId = some bucket ∧
      suggestion.score = exact.round bucket.score 4

theorem combined_of_chances {found : List (SimilarTransactionMatch ℚ)}
    (valid : ∀ item ∈ found, IsChance item.similarityScore) {category : String}
    {bucket : Aggregate ℚ} (held : (aggregated found).get? category = some bucket) :
    Combined found bucket category := by
  obtain ⟨⟨present, listed, named⟩, score⟩ := aggregated_some held
  have chances : ∀ score ∈ categoryScores found category, IsChance score := by
    intro score member
    obtain ⟨item, itemListed, -, rfl⟩ := mem_categoryScores.mp member
    exact valid item itemListed
  refine ⟨score, fun item itemListed itemNamed => ?_, ?_, fun other permuted => ?_⟩
  · rw [score]
    exact le_noisyOr (mem_categoryScores.mpr ⟨item, itemListed, itemNamed, rfl⟩) chances
  · rw [score]
    exact (noisyOr_chance chances).2
  · have same : (categoryScores found category).Perm (categoryScores other category) :=
      (permuted.filter _).map _
    have seen : categoryScores other category ≠ [] := by
      obtain ⟨value, member⟩ := List.exists_mem_of_ne_nil _
        (List.ne_nil_of_mem (mem_categoryScores.mpr ⟨present, listed, named, rfl⟩))
      exact List.ne_nil_of_mem (same.mem_iff.mp member)
    rw [aggregated_score, if_neg seen, score, noisyOr_perm same]

theorem scores_kept {texts : TextLibrary ℚ}
    (ratio : ∀ left right, IsChance (texts.ratio left right)) : ScoresKept texts where
  similarities := by
    intro minSimilarityScore query candidates limit found member
    obtain ⟨candidate, matched⟩ := mem_findSimilar member
    obtain ⟨-, reached, score⟩ := matchOf_score matched
    refine ⟨?_, (matchOf_chance ratio matched).2⟩
    rw [score]
    exact Rounding.toPlaces_mono 4 reached
  combined := by
    intro found valid category present
    obtain ⟨bucket, held⟩ := Option.isSome_iff_exists.mp (aggregated_isSome.mpr present)
    exact ⟨bucket, held, combined_of_chances valid held⟩
  once := fun found limit fits => aggregate_categories fits
  rounded := by
    intro found limit suggestion suggested
    have kept := Sorting.mem_sortBy.mp ((sliceTo_sublist limit _).subset suggested)
    obtain ⟨entry, stored, rfl⟩ := List.mem_map.mp kept
    exact ⟨entry.2, Dict.get?_of_mem (show (entry.1, entry.2) ∈ (aggregated found).entries from stored),
      rfl⟩

namespace Sample

def exactTexts : TextLibrary ℚ :=
  ⟨id, asciiLower, fun left right => if left = right then 1 else 0⟩

theorem exactTexts_ratio (left right : String) : IsChance (exactTexts.ratio left right) := by
  by_cases same : left = right <;> norm_num [exactTexts, IsChance, same]

end Sample

theorem scores_kept_exactTexts : ScoresKept Sample.exactTexts := scores_kept Sample.exactTexts_ratio

end FireflyToolkit.Categorization
