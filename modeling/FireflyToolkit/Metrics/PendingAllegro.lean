import FireflyToolkit.Metrics.Views

set_option autoImplicit false

namespace FireflyToolkit.Metrics

open PyBuiltins Snapshot

section Filters

variable {α : Type} {wide narrow : α → Bool} {items : List α}

theorem filter_length_eq_iff (implied : ∀ item ∈ items, narrow item = true → wide item = true) :
    (items.filter wide).length = (items.filter narrow).length ↔
      ∀ item ∈ items, wide item = narrow item := by
  have nested : (items.filter wide).filter narrow = items.filter narrow := by
    rw [List.filter_filter]
    apply List.filter_congr
    intro item member
    cases kept : narrow item with
    | false => simp
    | true => simp [implied item member kept]
  constructor
  · intro sameLength item member
    have sublist : (items.filter narrow).Sublist (items.filter wide) := nested ▸ List.filter_sublist
    have same := sublist.eq_of_length sameLength.symm
    cases kept : wide item with
    | false =>
      by_contra dropped
      have passes : narrow item = true := by simpa using Ne.symm dropped
      simp [implied item member passes] at kept
    | true =>
      have listed : item ∈ items.filter narrow := same ▸ List.mem_filter.mpr ⟨member, kept⟩
      exact (List.mem_filter.mp listed).2.symm
  · intro agree
    rw [List.filter_congr agree]

end Filters

section Pending

variable (lower : String → String)

-- What `SnapshotAllegroMetricsService` counts as not processed.
def notProcessedAllegro (filterDescAllegro : String) (txs : List Transaction) : List Transaction :=
  (filterByDescription lower txs filterDescAllegro false).filter fun tx => !tx.hasTag .allegro_done

theorem notProcessedAllegro_length (filterDescAllegro : String) (snapshot : TransactionSnapshot) :
    (SnapshotAllegroMetricsService.buildMetrics lower filterDescAllegro
      snapshot).notProcessedAllegroTransactions =
        (notProcessedAllegro lower filterDescAllegro snapshot.transactions).length := rfl

def unclassified (filterDescBlik : String) (tx : Transaction) : Bool :=
  tx.category.isNone && decide (lower tx.description ≠ lower filterDescBlik) && !tx.hasTag .action_req

-- How the two services read the filter: as it is written, and lowered.
def writtenIn (filterDescAllegro : String) (tx : Transaction) : Bool :=
  decide (OccursIn filterDescAllegro (lower tx.description)) && !tx.hasTag .allegro_done

def loweredIn (filterDescAllegro : String) (tx : Transaction) : Bool :=
  writtenIn lower (lower filterDescAllegro) tx

variable (filters : TxFilters) (reader : FireflyReader)

structure PendingAgrees (snapshot : TransactionSnapshot) : Prop where
  counted : (SnapshotTxMetricsService.buildMetrics lower filters.filterDescBlik
      filters.filterDescAllegro snapshot).allegroNotOk =
    ((notProcessedAllegro lower filters.filterDescAllegro snapshot.transactions).filter
      (unclassified lower filters.filterDescBlik)).length
  withheld : ∀ startDate endDate offered,
    FireflyTxService.getTxsForScreening lower filters reader (some startDate) (some endDate) =
        .ok offered →
      ∀ tx ∈ offered, tx ∉ notProcessedAllegro lower filters.filterDescAllegro snapshot.transactions

def FilterReadAlike (txs : List Transaction) : Prop :=
  ∀ tx ∈ txs, tx.category = none → lower tx.description ≠ lower filters.filterDescBlik →
    tx.hasTag .action_req = false → tx.hasTag .allegro_done = false →
      (OccursIn filters.filterDescAllegro (lower tx.description) ↔
        OccursIn (lower filters.filterDescAllegro) (lower tx.description))

variable {lower filters reader}

theorem txsActionNotReq_eq (filterDescBlik : String) (txs : List Transaction) :
    txsActionNotReq lower filterDescBlik txs = txs.filter (unclassified lower filterDescBlik) := by
  simp only [txsActionNotReq, txsBlikOk, filterOutCategorized, filterByDescription,
    List.filter_filter]
  apply List.filter_congr
  intro tx _
  simp only [unclassified, Bool.bne_true, if_true, decide_not, Bool.and_comm]

theorem notProcessedAllegro_filter (txs : List Transaction) :
    (notProcessedAllegro lower filters.filterDescAllegro txs).filter
        (unclassified lower filters.filterDescBlik) =
      (txs.filter (unclassified lower filters.filterDescBlik)).filter
        (loweredIn lower filters.filterDescAllegro) := by
  simp only [notProcessedAllegro, filterByDescription, List.filter_filter]
  apply List.filter_congr
  intro tx _
  simp only [loweredIn, writtenIn, Bool.bne_false, Bool.and_comm]
  rfl

theorem allegroNotOk_eq (snapshot : TransactionSnapshot) :
    (SnapshotTxMetricsService.buildMetrics lower filters.filterDescBlik filters.filterDescAllegro
      snapshot).allegroNotOk =
        ((snapshot.transactions.filter (unclassified lower filters.filterDescBlik)).filter
          (writtenIn lower filters.filterDescAllegro)).length := by
  have split := @List.length_eq_length_filter_add _
    (snapshot.transactions.filter (unclassified lower filters.filterDescBlik))
    (writtenIn lower filters.filterDescAllegro)
  simp only [SnapshotTxMetricsService.buildMetrics, txsAllegroOk, txsActionNotReq_eq]
  change ((_ : Nat) : Int) - ((List.filter (fun tx => !writtenIn lower filters.filterDescAllegro tx)
    _).length : Int) = _
  omega

theorem mem_notProcessedAllegro {filterDescAllegro : String} {txs : List Transaction}
    {tx : Transaction} :
    tx ∈ notProcessedAllegro lower filterDescAllegro txs ↔
      tx ∈ txs ∧ loweredIn lower filterDescAllegro tx = true := by
  simp [notProcessedAllegro, filterByDescription, loweredIn, writtenIn, and_comm]

theorem offered_iff {txs offered : List Transaction} {startDate endDate : Date}
    (serves : reader.Serves txs)
    (screened : FireflyTxService.getTxsForScreening lower filters reader (some startDate)
      (some endDate) = .ok offered) (tx : Transaction) :
    tx ∈ offered ↔ tx ∈ txs ∧ unclassified lower filters.filterDescBlik tx = true ∧
      writtenIn lower filters.filterDescAllegro tx = false ∧
      FireflyStore.inRange (some startDate) (some endDate) tx = true := by
  rw [getTxsForScreening_eq serves] at screened
  rw [← Except.ok.inj screened, List.mem_filter, txsAllegroOk, List.mem_filter, txsActionNotReq_eq,
    List.mem_filter]
  simp only [writtenIn, Bool.not_eq_true', and_assoc]

theorem filterReadAlike_iff {txs : List Transaction} :
    FilterReadAlike lower filters txs ↔
      ∀ tx ∈ txs.filter (unclassified lower filters.filterDescBlik),
        writtenIn lower filters.filterDescAllegro tx = loweredIn lower filters.filterDescAllegro tx := by
  constructor
  · intro alike tx member
    obtain ⟨listed, kept⟩ := List.mem_filter.mp member
    simp only [unclassified, Bool.and_eq_true, Option.isNone_iff_eq_none, decide_eq_true_eq,
      Bool.not_eq_true'] at kept
    obtain ⟨⟨uncategorized, notBlik⟩, noAction⟩ := kept
    unfold loweredIn writtenIn
    cases done : tx.hasTag .allegro_done with
    | true => simp
    | false => simp [alike tx listed uncategorized notBlik noAction done]
  · intro agree tx listed uncategorized notBlik noAction notDone
    have kept : tx ∈ txs.filter (unclassified lower filters.filterDescBlik) := by
      simp [unclassified, listed, uncategorized, notBlik, noAction]
    have same := agree tx kept
    simpa [loweredIn, writtenIn, notDone] using same

-- The three places agree exactly where lowering the filter changes nothing for the transactions
-- that could be offered.
theorem pendingAgrees_iff {snapshot : TransactionSnapshot}
    (serves : reader.Serves snapshot.transactions) :
    PendingAgrees lower filters reader snapshot ↔
      FilterReadAlike lower filters snapshot.transactions := by
  rw [filterReadAlike_iff]
  let candidates := snapshot.transactions.filter (unclassified lower filters.filterDescBlik)
  constructor
  · rintro ⟨counted, withheld⟩
    have implied : ∀ tx ∈ candidates, loweredIn lower filters.filterDescAllegro tx = true →
        writtenIn lower filters.filterDescAllegro tx = true := by
      intro tx member pending
      obtain ⟨listed, kept⟩ := List.mem_filter.mp member
      by_contra dropped
      have today : FireflyStore.inRange (some tx.date) (some tx.date) tx = true := by
        simp [FireflyStore.inRange, Date.le_refl]
      have screened := @getTxsForScreening_eq lower filters reader _ serves tx.date tx.date
      exact withheld _ _ _ screened tx
        ((offered_iff serves screened tx).mpr ⟨listed, kept, by simpa using dropped, today⟩)
        (mem_notProcessedAllegro.mpr ⟨listed, pending⟩)
    rw [allegroNotOk_eq, notProcessedAllegro_filter] at counted
    exact (filter_length_eq_iff implied).mp (by exact_mod_cast counted)
  · intro agree
    constructor
    · rw [allegroNotOk_eq, notProcessedAllegro_filter, List.filter_congr agree]
    · intro startDate endDate offered screened tx member pending
      obtain ⟨listed, kept, dropped, -⟩ := (offered_iff serves screened tx).mp member
      have same := agree tx (List.mem_filter.mpr ⟨listed, kept⟩)
      rw [(mem_notProcessedAllegro.mp pending).2, dropped] at same
      cases same

theorem filterReadAlike_of_lowered (already : lower filters.filterDescAllegro = filters.filterDescAllegro)
    (txs : List Transaction) : FilterReadAlike lower filters txs := by
  intro tx _ _ _ _ _
  rw [already]

end Pending

namespace Sample

open FireflyToolkit.Sample

def capitalFilters : TxFilters := ⟨"BLIK", "Allegro"⟩

end Sample

theorem pendingAgrees_iff_capital :
    PendingAgrees asciiLower Sample.capitalFilters
        (Sample.readerOf (Sample.dated [Sample.tenth])) (Sample.snapshotOf (Sample.dated [Sample.tenth])) ↔
      FilterReadAlike asciiLower Sample.capitalFilters (Sample.dated [Sample.tenth]) :=
  pendingAgrees_iff fun _ _ => rfl

-- The Allegro statistics report the purchase, the others do not, and screening offers it.
theorem pending_offered_capital :
    ¬ PendingAgrees asciiLower Sample.capitalFilters
      (Sample.readerOf (Sample.dated [Sample.tenth]))
      (Sample.snapshotOf (Sample.dated [Sample.tenth])) := by
  rintro ⟨counted, -⟩
  revert counted
  decide

end FireflyToolkit.Metrics
