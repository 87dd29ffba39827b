import FireflyToolkit.Categorization.ExactScores
import FireflyToolkit.Categorization.NormalForms
import FireflyToolkit.Shared.SequenceMatcher

set_option autoImplicit false

namespace FireflyToolkit.Categorization

open NoisyOr SequenceMatcher SimilarityEngine TextPreprocessor

-- `SequenceMatcher(None, left, right).ratio()` in exact arithmetic.
def sequenceRatio (left right : String) : ℚ :=
  let length := left.toList.length + right.toList.length
  if length = 0 then 1 else 2 * matched left.toList right.toList / length

def sequenceTexts (nfkd lower : String → String) : TextLibrary ℚ := ⟨nfkd, lower, sequenceRatio⟩

theorem sequenceRatio_chance (left right : String) : IsChance (sequenceRatio left right) := by
  unfold sequenceRatio
  dsimp only
  split_ifs with empty
  · norm_num [IsChance]
  · obtain ⟨first, second⟩ := matched_le left.toList right.toList
    have positive : (0 : ℚ) < (left.toList.length + right.toList.length : ℕ) := by
      exact_mod_cast Nat.pos_of_ne_zero empty
    have most : ((2 * matched left.toList right.toList : ℕ) : ℚ) ≤
        (left.toList.length + right.toList.length : ℕ) := by
      exact_mod_cast (by omega : 2 * matched left.toList right.toList ≤ _)
    rw [Nat.cast_mul, Nat.cast_ofNat] at most
    exact ⟨by positivity, (div_le_one positive).mpr most⟩

theorem sequenceRatio_one (left right : String) : sequenceRatio left right = 1 ↔ left = right := by
  rw [← String.toList_inj, ← matched_whole_iff]
  unfold sequenceRatio
  dsimp only
  split_ifs with empty
  · obtain ⟨first, -⟩ := matched_le left.toList right.toList
    refine iff_of_true rfl ?_
    omega
  · have nonzero : ((left.toList.length + right.toList.length : ℕ) : ℚ) ≠ 0 := by exact_mod_cast empty
    rw [div_eq_one_iff_eq nonzero]
    exact_mod_cast Iff.rfl

variable {nfkd lower : String → String}

def SameWords {F : Type} (texts : TextLibrary F) (left right : Option String) : Prop :=
  normalize texts left ≠ "" ∧ normalize texts right ≠ "" ∧
    ∀ word, word ∈ tokens texts left ↔ word ∈ tokens texts right

theorem tokens_ne_nil {F : Type} {texts : TextLibrary F} {value : Option String}
    (some : normalize texts value ≠ "") : tokens texts value ≠ [] := by
  unfold tokens
  dsimp only
  rw [if_neg some, ← @String.ofList_toList (normalize texts value), Runs.splitOn_blank]
  intro none
  have parts := List.map_eq_nil_iff.mp ((List.dedup_eq_nil _).mp none)
  exact List.splitOn_ne_nil ' ' _ parts

theorem overlap_one {left right : List String} (distinct : left.Nodup) (otherDistinct : right.Nodup)
    (some : left ≠ []) :
    ((left.filter (· ∈ right)).length : ℚ) / (left ∪ right).length = 1 ↔
      ∀ word, word ∈ left ↔ word ∈ right := by
  obtain ⟨positive, -⟩ := overlap_chance distinct some right
  have whole : ((left ∪ right).length : ℚ) ≠ 0 := by exact_mod_cast positive.ne'
  have unionDistinct : (left ∪ right).Nodup := otherDistinct.union left
  have inUnion : left.Subperm (left ∪ right) :=
    List.subperm_of_subset distinct fun word member => List.mem_union_iff.mpr (.inl member)
  rw [div_eq_one_iff_eq whole, Nat.cast_inj]
  constructor
  · intro lengths
    have filtered := List.length_filter_le (· ∈ right) left
    have all : left.Perm (left ∪ right) := inUnion.perm_of_length_le (by omega)
    have kept : ∀ word ∈ left, word ∈ right := by
      have same := List.length_filter_eq_length_iff.mp (Nat.le_antisymm filtered (lengths ▸ inUnion.length_le))
      exact fun word member => of_decide_eq_true (same word member)
    exact fun word => ⟨kept word, fun member => all.mem_iff.mpr (List.mem_union_iff.mpr (.inr member))⟩
  · intro same
    have kept : left.filter (· ∈ right) = left :=
      List.filter_eq_self.mpr fun word member => decide_eq_true ((same word).mp member)
    have all : left.Perm (left ∪ right) := by
      refine (List.perm_ext_iff_of_nodup distinct unionDistinct).mpr fun word => ?_
      rw [List.mem_union_iff, ← same, or_self]
    rw [kept, all.length_eq]

theorem textSimilarity_one (left right : Option String) :
    textSimilarity exact (sequenceTexts nfkd lower) left right = 1 ↔
      SameWords (sequenceTexts nfkd lower) left right := by
  unfold textSimilarity SameWords
  dsimp only
  split_ifs with blank missing
  · have zero : exact.literal 0 1 ≠ 1 := by norm_num [exact]
    exact iff_of_false zero fun same => blank.elim same.1 same.2.1
  · obtain ⟨first, second⟩ := not_or.mp blank
    exact absurd missing (not_or.mpr ⟨tokens_ne_nil first, tokens_ne_nil second⟩)
  · obtain ⟨first, second⟩ := not_or.mp blank
    let texts := sequenceTexts nfkd lower
    have distinct : ∀ value, (tokens texts value).Nodup := tokens_nodup
    have same := overlap_one (distinct left) (distinct right) (tokens_ne_nil first)
    obtain ⟨-, overlapMost⟩ :=
      (overlap_chance (distinct left) (tokens_ne_nil first) (tokens texts right)).2
    have ratioMost := (sequenceRatio_chance (normalize texts left) (normalize texts right)).2
    constructor
    · intro whole
      refine ⟨first, second, ?_⟩
      rcases max_eq_iff.mp whole with ⟨ratio, -⟩ | ⟨overlap, -⟩
      · have equal := (sequenceRatio_one _ _).mp ratio
        intro word
        rw [tokens, tokens, equal]
      · exact same.mp overlap
    · intro words
      exact le_antisymm (max_le ratioMost overlapMost)
        ((same.mpr words.2.2).ge.trans (le_max_right _ _))

def SameBucket (left right : String) : Prop :=
  left ≠ "" ∧ right ≠ "" ∧ AmountBucketizer.bucketIndex left = AmountBucketizer.bucketIndex right

theorem amountSimilarity_one (left right : String) :
    amountSimilarity exact left right = 1 ↔ SameBucket left right := by
  unfold amountSimilarity SameBucket
  dsimp only
  split_ifs with blank same one two
  · have zero : exact.literal 0 1 ≠ 1 := by norm_num [exact]
    exact iff_of_false zero fun alike => blank.elim alike.1 alike.2.1
  · have whole : exact.literal 1 1 = 1 := by norm_num [exact]
    obtain ⟨first, second⟩ := not_or.mp blank
    exact iff_of_true whole ⟨first, second, by omega⟩
  · have part : percent exact 65 ≠ 1 := by norm_num [percent, exact]
    exact iff_of_false part fun alike => by omega
  · have part : percent exact 35 ≠ 1 := by norm_num [percent, exact]
    exact iff_of_false part fun alike => by omega
  · have zero : exact.literal 0 1 ≠ 1 := by norm_num [exact]
    exact iff_of_false zero fun alike => by omega

theorem Balanced.whole {weights : Weights ℚ} (balanced : Balanced weights)
    {title merchant notes amount : ℚ} (titles : title ≤ 1) (merchants : merchant ≤ 1) (noteses : notes ≤ 1)
    (amounts : amount ≤ 1) :
    weights.title * title + (weights.merchant * merchant + (weights.notes * notes +
        (weights.amount * amount + 0))) = 1 ↔
      (weights.title = 0 ∨ title = 1) ∧ (weights.merchant = 0 ∨ merchant = 1) ∧
        (weights.notes = 0 ∨ notes = 1) ∧ (weights.amount = 0 ∨ amount = 1) := by
  obtain ⟨first, second, third, fourth, total⟩ := balanced
  have titleLack := mul_nonneg first (sub_nonneg.mpr titles)
  have merchantLack := mul_nonneg second (sub_nonneg.mpr merchants)
  have notesLack := mul_nonneg third (sub_nonneg.mpr noteses)
  have amountLack := mul_nonneg fourth (sub_nonneg.mpr amounts)
  have none : ∀ weight part : ℚ, weight * (1 - part) = 0 ↔ weight = 0 ∨ part = 1 := by
    intro weight part
    rw [mul_eq_zero, sub_eq_zero, eq_comm (a := (1 : ℚ))]
  rw [← none, ← none, ← none, ← none]
  constructor
  · intro whole
    refine ⟨?_, ?_, ?_, ?_⟩ <;> linarith
  · rintro ⟨title', merchant', notes', amount'⟩
    linarith

structure WhollyAlike (texts : TextLibrary ℚ) (query : Query) (candidate : Document) : Prop where
  title : SameWords texts (some query.title) (some candidate.title)
  merchant : (selectWeights exact texts query).merchant = 0 ∨
    SameWords texts query.merchant candidate.merchant
  notes : SameWords texts query.notes candidate.notes
  amount : SameBucket query.amountBucket candidate.amountBucket

theorem selectWeights_nonzero (texts : TextLibrary ℚ) (query : Query) :
    (selectWeights exact texts query).title ≠ 0 ∧ (selectWeights exact texts query).notes ≠ 0 ∧
      (selectWeights exact texts query).amount ≠ 0 := by
  unfold selectWeights
  dsimp only
  split_ifs <;> norm_num [weightsOf, percent, exact]

theorem score_certain_iff (nfkd lower : String → String) (query : Query) (candidate : Document) :
    let texts := sequenceTexts nfkd lower
    let score := (scorePair exact texts query candidate).1
    0 ≤ score ∧ score ≤ 1 ∧ (score = 1 ↔ WhollyAlike texts query candidate) := by
  intro texts score
  have ratio : ∀ left right, IsChance (texts.ratio left right) := sequenceRatio_chance
  obtain ⟨lower, upper⟩ := scorePair_chance ratio query candidate
  refine ⟨lower, upper, ?_⟩
  obtain ⟨title, notes, amount⟩ := selectWeights_nonzero texts query
  have whole := (@selectWeights_balanced texts query).whole
    (textSimilarity_chance ratio (some query.title) (some candidate.title)).2
    (textSimilarity_chance ratio query.merchant candidate.merchant).2
    (textSimilarity_chance ratio query.notes candidate.notes).2
    (amountSimilarity_chance query.amountBucket candidate.amountBucket).2
  rw [textSimilarity_one, textSimilarity_one, textSimilarity_one, amountSimilarity_one,
    or_iff_right title, or_iff_right notes, or_iff_right amount] at whole
  refine whole.trans ⟨fun alike => ⟨alike.1, alike.2.1, alike.2.2.1, alike.2.2.2⟩,
    fun alike => ⟨alike.title, alike.merchant, alike.notes, alike.amount⟩⟩

end FireflyToolkit.Categorization
