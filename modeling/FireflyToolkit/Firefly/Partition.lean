import FireflyToolkit.Firefly.Window

set_option autoImplicit false

namespace FireflyToolkit

open PyBuiltins

section Choosing

variable {α : Type}

structure Picks (items : List α) (positions : List Nat) (chosen : List α) : Prop where
  increasing : positions.Pairwise (· < ·)
  taken : positions.map (fun place => items[place]?) = chosen.map some

def positionsWhere (test : α → Bool) (items : List α) : List Nat :=
  (items.zipIdx.filter fun item => test item.1).map Prod.snd

theorem mem_positionsWhere {test : α → Bool} {items : List α} {place : Nat} :
    place ∈ positionsWhere test items ↔ ∃ item, items[place]? = some item ∧ test item = true := by
  simp only [positionsWhere, List.mem_map, List.mem_filter]
  constructor
  · rintro ⟨item, ⟨listed, passes⟩, rfl⟩
    exact ⟨item.1, List.mem_zipIdx_iff_getElem?.mp listed, passes⟩
  · rintro ⟨item, placed, passes⟩
    exact ⟨(item, place), ⟨List.mem_zipIdx_iff_getElem?.mpr placed, passes⟩, rfl⟩

theorem positionsWhere_increasing (test : α → Bool) (items : List α) :
    (positionsWhere test items).Pairwise (· < ·) := by
  have places : (items.zipIdx.map Prod.snd).Pairwise (· < ·) := by
    rw [List.zipIdx_map_snd]
    exact List.pairwise_lt_range'
  exact List.Pairwise.sublist (List.filter_sublist.map Prod.snd) places

theorem picks_filter (test : α → Bool) (items : List α) :
    Picks items (positionsWhere test items) (items.filter test) := by
  refine ⟨positionsWhere_increasing test items, ?_⟩
  rw [← zipIdx_filter_fst test items 0, positionsWhere, List.map_map, List.map_map]
  apply List.map_congr_left
  intro item listed
  exact List.mem_zipIdx_iff_getElem?.mp (List.mem_filter.mp listed).1

end Choosing

section Matching

variable {α : Type} [Matchable α]

def Compares (items : List α) (tx : Transaction) (place : Nat) : Prop :=
  ∃ item, items[place]? = some item ∧ Matchable.compare item tx = .ok true

-- The results and the unmatched items are disjoint choices by position: `taken` lists the positions
-- of each result and `left` those of the unmatched items.
structure Partitions (txs : List Transaction) (items : List α) (tagDone : TxTag)
    (results : List (MatchResult α)) (unmatched : List α) (taken : List (List Nat))
    (left : List Nat) : Prop where
  transactions : results.map MatchResult.tx = txs
  picked : List.Forall₂ (fun result positions => Picks items positions result.txMatches) results taken
  compared : List.Forall₂ (fun tx positions => ∀ place, place ∈ positions ↔ Compares items tx place)
    txs taken
  unmatchedPicked : Picks items left unmatched
  complement : ∀ place, place ∈ left ↔ place < items.length ∧ ∀ positions ∈ taken, place ∉ positions
  status : ∀ result ∈ results, result.status = .alreadyProcessed ↔ result.tx.hasTag tagDone = true

def AllCompare (txs : List Transaction) (items : List α) : Prop :=
  ∀ tx ∈ txs, ∀ item ∈ items, ∃ verdict, Matchable.compare item tx = .ok verdict

theorem processingStatus_eq {tagDone : TxTag} {tx : Transaction} :
    processingStatus tagDone tx = .alreadyProcessed ↔ tx.hasTag tagDone = true := by
  unfold processingStatus
  by_cases tagged : tx.hasTag tagDone = true <;> simp [tagged]

theorem matchResults_partition {txs : List Transaction} {items : List α} (tagDone : TxTag)
    (decided : ∀ tx ∈ txs, ∀ item ∈ items, Matchable.compare item tx = .ok (accepts item tx)) :
    Partitions txs items tagDone (txs.map (matchResult items tagDone))
      (items.filter fun item => txs.all fun tx => !accepts item tx)
      (txs.map fun tx => positionsWhere (fun item => accepts item tx) items)
      (positionsWhere (fun item => txs.all fun tx => !accepts item tx) items) where
  transactions := by simp [matchResult, Function.comp_def]
  picked := by
    rw [List.forall₂_map_left_iff, List.forall₂_map_right_iff, List.forall₂_same]
    exact fun tx _ => picks_filter _ items
  compared := by
    rw [List.forall₂_map_right_iff, List.forall₂_same]
    intro tx member place
    rw [mem_positionsWhere]
    constructor
    · rintro ⟨item, placed, accepted⟩
      refine ⟨item, placed, ?_⟩
      rw [decided tx member item (List.mem_of_getElem? placed), accepted]
    · rintro ⟨item, placed, compared⟩
      exact ⟨item, placed, accepts_of_compare compared⟩
  unmatchedPicked := picks_filter _ items
  complement := by
    intro place
    simp only [mem_positionsWhere, List.forall_mem_map, not_exists, not_and]
    constructor
    · rintro ⟨item, placed, nothing⟩
      refine ⟨(List.getElem?_eq_some_iff.mp placed).1, fun tx member other sameplace => ?_⟩
      have refused : accepts item tx = false := by simpa using List.all_eq_true.mp nothing tx member
      have same : item = other := Option.some.inj (placed.symm.trans sameplace)
      simp [← same, refused]
    · rintro ⟨inside, nothing⟩
      refine ⟨items[place], List.getElem?_eq_getElem inside, List.all_eq_true.mpr fun tx member => ?_⟩
      simpa using nothing tx member items[place] (List.getElem?_eq_getElem inside)
  status := by
    simp only [List.forall_mem_map]
    exact fun tx _ => processingStatus_eq

theorem matchTransactions_returns_iff {txs : List Transaction} {items : List α} {tagDone : TxTag} :
    (∃ output, matchTransactions txs items tagDone = .ok output) ↔ AllCompare txs items := by
  constructor
  · rintro ⟨output, matched⟩ tx member item listed
    exact ⟨_, matchTransactions_decided matched tx member item listed⟩
  · intro compares
    refine ⟨_, matchTransactions_eq fun tx member item listed => ?_⟩
    obtain ⟨verdict, compared⟩ := compares tx member item listed
    rw [compared, accepts_of_compare compared]

theorem matchTransactions_partition (txs : List Transaction) (items : List α) (tagDone : TxTag) :
    ((∃ output, matchTransactions txs items tagDone = .ok output) ↔ AllCompare txs items) ∧
      ∀ results unmatched, matchTransactions txs items tagDone = .ok (results, unmatched) →
        ∃ taken left, Partitions txs items tagDone results unmatched taken left := by
  refine ⟨matchTransactions_returns_iff, fun results unmatched matched => ?_⟩
  have decided := matchTransactions_decided matched
  have same := matched.symm.trans (matchTransactions_eq decided)
  simp only [Except.ok.injEq, Prod.mk.injEq] at same
  obtain ⟨rfl, rfl⟩ := same
  exact ⟨_, _, matchResults_partition tagDone decided⟩

end Matching

-- A row is compared where both amounts have absolute values, a payment where moreover the days it
-- may be late are in the calendar, should the amounts be equal.
theorem compare_answers_iff (tx : Transaction) :
    (∀ record : BankRecord, (∃ verdict, Matchable.compare record tx = .ok verdict) ↔
      ∃ equal, compareAmountsAbs record.amount tx.amount = .ok equal) ∧
    (∀ payment : AllegroOrderPayment, (∃ verdict, Matchable.compare payment tx = .ok verdict) ↔
      ∃ equal, compareAmountsAbs payment.amount tx.amount = .ok equal ∧
        (equal = true → (payment.date.addDays 6).isSome = true)) := by
  constructor
  · intro record
    cases amounts : compareAmountsAbs record.amount tx.amount <;>
      simp [Matchable.compare, amounts, bind, Except.bind]
  · intro payment
    change (∃ verdict, payment.toOrderPayment.compare tx = .ok verdict) ↔ _
    cases amounts : compareAmountsAbs payment.amount tx.amount with
    | error failure => simp [OrderPayment.compare, amounts, bind, Except.bind]
    | ok equal =>
      cases equal <;> cases counted : payment.date.addDays 6 <;>
        simp [OrderPayment.compare, amounts, counted, bind, Except.bind]

namespace Sample

-- The last six days of the calendar leave no room for the days a payment may be late.
def lastPayment : AllegroOrderPayment :=
  { date := lastDay, amount := cents 1000, details := ["Order"], tagDone := .allegro_done
    isBalanced := true, allegroLogin := "anna", externalShortId := "p-1", externalId := "payment-1" }

end Sample

theorem matchTransactions_latePayment :
    matchTransactions (Sample.dated [Sample.lastDay]) [Sample.lastPayment] .allegro_done =
      .error (.overflowError "date value out of range") := by
  decide

end FireflyToolkit
