import FireflyToolkit.Firefly.Attempts
import FireflyToolkit.Firefly.Screening
import FireflyToolkit.Metrics.Snapshots

set_option autoImplicit false

namespace FireflyToolkit.Metrics

open PyBuiltins Snapshot

section Screening

variable {lower : String → String} {filters : TxFilters} {reader : FireflyReader}
  {txs : List Transaction}

theorem getTxsForScreening_eq (serves : reader.Serves txs) (startDate endDate : Date) :
    FireflyTxService.getTxsForScreening lower filters reader (some startDate) (some endDate) =
      .ok ((txsAllegroOk lower filters.filterDescBlik filters.filterDescAllegro txs).filter
        (FireflyStore.inRange (some startDate) (some endDate))) := by
  have answer := serves startDate endDate
  simp only [FireflyTxService.getTxsForScreening, FireflyBaseService.fetchFrom, answer, bind,
    Except.bind, Except.ok.injEq, if_true]
  simp only [txsAllegroOk, txsActionNotReq, txsBlikOk, filterOutCategorized, filterByDescription,
    List.filter_filter]
  apply List.filter_congr
  intro tx _
  simp only [Bool.and_assoc, Bool.and_comm, Bool.and_left_comm]

-- What a month's response reports; no response stands for an empty list.
def remaining (response : Option ScreeningMonthResponse) : Nat :=
  (response.map ScreeningMonthResponse.remaining).getD 0

def listed (response : Option ScreeningMonthResponse) : List SimplifiedTx :=
  (response.map ScreeningMonthResponse.transactions).getD []

theorem getScreeningMonth_eq {categories : List Category} (serves : reader.Serves txs)
    (categoriesListed : reader.fetchCategories = .ok categories) {year month : Nat}
    (calendar : ValidDate year month 1) :
    let found := (txsAllegroOk lower filters.filterDescBlik filters.filterDescAllegro txs).filter
      fun tx => decide (tx.date.year = year ∧ tx.date.month = month)
    (∀ failure, found.mapM mapTxToApi = .error failure →
      TxApplicationService.getScreeningMonth lower filters reader year month = .error failure) ∧
    ∀ transactions, found.mapM mapTxToApi = .ok transactions →
      ∃ response, TxApplicationService.getScreeningMonth lower filters reader year month =
        .ok response ∧ remaining response = found.length ∧ listed response = transactions := by
  intro found
  obtain ⟨firstDay, lastDay, range⟩ := TxApplicationService.monthRange_valid calendar
  have screened := @getTxsForScreening_eq lower filters reader txs serves firstDay lastDay
  have sameRange : (txsAllegroOk lower filters.filterDescBlik filters.filterDescAllegro txs).filter
      (FireflyStore.inRange (some firstDay) (some lastDay)) = found := by
    apply List.filter_congr
    intro tx _
    rw [Bool.eq_iff_iff, decide_eq_true_eq]
    exact TxApplicationService.inRange_month range tx
  rw [sameRange] at screened
  simp only [TxApplicationService.getScreeningMonth, range, TxApplicationService.screen,
    FireflyTxService.getCategories, categoriesListed, screened, bind, Except.bind]
  constructor
  · intro failure failed
    by_cases nothing : found = []
    · rw [nothing] at failed
      cases failed
    · simp [nothing, failed]
  · intro transactions mapped
    by_cases nothing : found = []
    · rw [nothing] at mapped
      obtain rfl := Except.ok.inj mapped
      exact ⟨_, if_pos nothing, by simp [remaining, nothing], rfl⟩
    · simp only [nothing, if_false, mapped]
      exact ⟨_, rfl, rfl, rfl⟩

theorem count_months {year month : Nat} (calendar : ValidDate year month 1)
    (dated : ∀ tx ∈ txs, representable tx.date = true) :
    (txs.map fun tx => monthPeriod tx.date).count (monthKey year month) =
      (txs.filter fun tx => decide (tx.date.year = year ∧ tx.date.month = month)).length := by
  rw [List.count, List.countP_map, List.countP_eq_length_filter]
  congr 1
  apply List.filter_congr
  intro tx member
  rw [Function.comp_apply, monthPeriod_eq_monthKey (dated tx member), Bool.eq_iff_iff, beq_iff_eq,
    decide_eq_true_eq]
  constructor
  · exact monthKey_injective tx.date.valid.2.1 calendar.2.1
  · rintro ⟨rfl, rfl⟩
    rfl

theorem txsAllegroOk_sublist (filterDescBlik filterDescAllegro : String) :
    (txsAllegroOk lower filterDescBlik filterDescAllegro txs).Sublist txs :=
  List.filter_sublist.trans (List.filter_sublist.trans
    (List.filter_sublist.trans List.filter_sublist))

theorem screening_agrees_with_metrics {categories : List Category} (serves : reader.Serves txs)
    (categoriesListed : reader.fetchCategories = .ok categories)
    (dated : ∀ tx ∈ txs, representable tx.date = true) {snapshot : TransactionSnapshot}
    (taken : snapshot.transactions = txs) {year month : Nat} (calendar : ValidDate year month 1) :
    let metrics := SnapshotTxMetricsService.buildMetrics lower filters.filterDescBlik
      filters.filterDescAllegro snapshot
    let categorizable := txsAllegroOk lower filters.filterDescBlik filters.filterDescAllegro txs
    let found := categorizable.filter fun tx => decide (tx.date.year = year ∧ tx.date.month = month)
    ((∃ response, TxApplicationService.getScreeningMonth lower filters reader year month =
        .ok response) ↔ ∀ tx ∈ found, tx.Renders) ∧
      (∀ response, TxApplicationService.getScreeningMonth lower filters reader year month =
          .ok response →
        (remaining response : Int) =
            (metrics.categorizableByMonth.lookup (monthKey year month)).getD 0 ∧
          found.mapM mapTxToApi = .ok (listed response)) ∧
      ((metrics.categorizableByMonth.lookup (monthKey year month)).getD 0 = found.length ∧
        metrics.categorizable = categorizable.length ∧
        (metrics.categorizableByMonth.map Prod.snd).sum = metrics.categorizable ∧
        metrics.categorizable + metrics.blikNotOk + metrics.actionReq + metrics.allegroNotOk =
          metrics.uncategorizedTransactions) := by
  intro metrics categorizable found
  obtain ⟨refused, answered⟩ :=
    @getScreeningMonth_eq lower filters reader txs categories serves categoriesListed _ _ calendar
  have renders : (∃ transactions, found.mapM mapTxToApi = .ok transactions) ↔
      ∀ tx ∈ found, tx.Renders := by
    simp only [mapM_ok_iff, mapTxToApi_ok_iff]
  have kept : ∀ tx ∈ categorizable, representable tx.date = true :=
    fun tx member => dated tx ((txsAllegroOk_sublist _ _).subset member)
  have built : metrics = SnapshotTxMetricsService.buildMetrics lower filters.filterDescBlik
      filters.filterDescAllegro snapshot := rfl
  have categorized : metrics.categorizable = categorizable.length := by
    rw [built, SnapshotTxMetricsService.buildMetrics, taken]
  have byMonth : metrics.categorizableByMonth = groupTxByMonth categorizable := by
    rw [built, SnapshotTxMetricsService.buildMetrics, taken]
  have counted : (metrics.categorizableByMonth.lookup (monthKey year month)).getD 0 = found.length := by
    rw [byMonth, groupTxByMonth_lookup, count_months calendar kept]
  refine ⟨?_, ?_, counted, categorized, ?_, ?_⟩
  · rw [← renders]
    constructor
    · rintro ⟨response, reported⟩
      cases mapped : found.mapM mapTxToApi with
      | ok transactions => exact ⟨transactions, rfl⟩
      | error failure => cases reported.symm.trans (refused failure mapped)
    · rintro ⟨transactions, mapped⟩
      obtain ⟨response, reported, -⟩ := answered transactions mapped
      exact ⟨response, reported⟩
  · intro response reported
    cases mapped : found.mapM mapTxToApi with
    | error failure => cases reported.symm.trans (refused failure mapped)
    | ok transactions =>
      obtain ⟨other, otherReported, count, shown⟩ := answered transactions mapped
      obtain rfl := Except.ok.inj (reported.symm.trans otherReported)
      rw [counted, count, shown]
      exact ⟨rfl, rfl⟩
  · rw [byMonth, groupTxByMonth_sum, categorized]
  · simp only [built, SnapshotTxMetricsService.buildMetrics]
    omega

end Screening

namespace Sample

open FireflyToolkit.Sample

def february : Date := ⟨2024, 2, 29, by decide⟩

def twoMonths : List Transaction :=
  [{ purchase 1 eleventh (cents 1000) with description := "Bakery" },
    { purchase 2 february (cents 2500) with description := "Bakery" }]

def longAmount : Transaction := { purchase 3 february (.finite false 1 26) with description := "Bakery" }

def filters : TxFilters := ⟨"BLIK", "allegro"⟩

def snapshotOf (txs : List Transaction) : TransactionSnapshot := ⟨txs, ⟨0, 0, 0, 0⟩, 0, 1⟩

end Sample

theorem screening_agrees_february :
    ∃ response, TxApplicationService.getScreeningMonth asciiLower Sample.filters
        (FireflyToolkit.Sample.readerOf Sample.twoMonths) 2024 2 = .ok response ∧
      (remaining response : Int) = ((SnapshotTxMetricsService.buildMetrics asciiLower "BLIK" "allegro"
        (Sample.snapshotOf Sample.twoMonths)).categorizableByMonth.lookup (monthKey 2024 2)).getD 0 := by
  have serves : (FireflyToolkit.Sample.readerOf Sample.twoMonths).Serves Sample.twoMonths :=
    fun _ _ => rfl
  have agrees := @screening_agrees_with_metrics asciiLower Sample.filters _ _ [] serves rfl (by decide)
    (Sample.snapshotOf Sample.twoMonths) rfl 2024 2 (by decide)
  exact ⟨_, rfl, (agrees.2.1 _ rfl).1⟩

-- The amount in 29 digits: the metrics count the transaction, and the month is not answered.
theorem screening_refuses_amount :
    TxApplicationService.getScreeningMonth asciiLower Sample.filters
        (FireflyToolkit.Sample.readerOf [Sample.longAmount]) 2024 2 = .error .invalidOperation ∧
      (SnapshotTxMetricsService.buildMetrics asciiLower "BLIK" "allegro"
        (Sample.snapshotOf [Sample.longAmount])).categorizableByMonth.lookup (monthKey 2024 2) = some 1 :=
  ⟨by decide, by decide⟩

def CountedBy (measure : List Transaction → Int) (tx : Transaction) : Prop :=
  ∀ before after, measure (before ++ tx :: after) = measure (before ++ after) + 1

def IgnoredBy (measure : List Transaction → Int) (tx : Transaction) : Prop :=
  ∀ before after, measure (before ++ tx :: after) = measure (before ++ after)

section Blik

variable (lower : String → String) (filterDescBlik filterDescAllegro : String)

def notProcessedTransactions (snapshot : TransactionSnapshot) (txs : List Transaction) : Int :=
  (SnapshotBlikMetricsService.buildMetrics lower filterDescBlik
    { snapshot with transactions := txs }).notProcessedTransactions

def blikNotOk (snapshot : TransactionSnapshot) (txs : List Transaction) : Int :=
  (SnapshotTxMetricsService.buildMetrics lower filterDescBlik filterDescAllegro
    { snapshot with transactions := txs }).blikNotOk

def PassesBlikFilter (tx : Transaction) : Prop :=
  filterByDescription lower [tx] filterDescBlik true true = [tx]

structure ProcessedInAllViews (tx : Transaction) : Prop where
  notProcessed : ∀ snapshot, IgnoredBy (notProcessedTransactions lower filterDescBlik snapshot) tx
  blikNotOk : ∀ snapshot, IgnoredBy (blikNotOk lower filterDescBlik filterDescAllegro snapshot) tx
  screened : PassesBlikFilter lower filterDescBlik tx

variable {lower filterDescBlik filterDescAllegro}

theorem notProcessed_ignores {tx : Transaction} (uncategorized : tx.category = none)
    (tagged : tx.hasTag .blik_done = true) (snapshot : TransactionSnapshot) :
    IgnoredBy (notProcessedTransactions lower filterDescBlik snapshot) tx := by
  intro before after
  by_cases same : lower tx.description = lower filterDescBlik <;>
    simp [notProcessedTransactions, SnapshotBlikMetricsService.buildMetrics, blikNotProcessed,
      filterOutCategorized, filterByDescription, uncategorized, tagged, same]

theorem blikNotOk_counts {tx : Transaction} (uncategorized : tx.category = none)
    (snapshot : TransactionSnapshot) :
    (lower tx.description = lower filterDescBlik →
        CountedBy (blikNotOk lower filterDescBlik filterDescAllegro snapshot) tx) ∧
      (lower tx.description ≠ lower filterDescBlik →
        IgnoredBy (blikNotOk lower filterDescBlik filterDescAllegro snapshot) tx) := by
  constructor <;> intro same before after <;>
    simp [blikNotOk, SnapshotTxMetricsService.buildMetrics, txsBlikOk, filterOutCategorized,
      filterByDescription, List.filter_append, uncategorized, same] <;>
    omega

theorem passesBlikFilter_iff {tx : Transaction} :
    PassesBlikFilter lower filterDescBlik tx ↔ lower tx.description ≠ lower filterDescBlik := by
  by_cases same : lower tx.description = lower filterDescBlik <;>
    simp [PassesBlikFilter, filterByDescription, same]

-- Of an uncategorized transaction with the done tag the views agree when its description is not
-- the filter text.
theorem processedInAllViews_iff {tx : Transaction} (uncategorized : tx.category = none)
    (tagged : tx.hasTag .blik_done = true) :
    ProcessedInAllViews lower filterDescBlik filterDescAllegro tx ↔
      lower tx.description ≠ lower filterDescBlik := by
  constructor
  · intro processed
    exact passesBlikFilter_iff.mp processed.screened
  · intro differs
    exact ⟨notProcessed_ignores uncategorized tagged,
      fun snapshot => (blikNotOk_counts uncategorized snapshot).2 differs,
      passesBlikFilter_iff.mpr differs⟩

end Blik

section Applied

variable {settings : Settings} {store next : FireflyStore} {tx : Transaction} {record : BankRecord}
  {filterDescBlik filterDescAllegro : String}

theorem applyMatch_reread (stored : store.get? tx.id = some tx)
    (applied : FireflyEnrichmentService.applyMatch settings .reliable store tx record = .ok next) :
    ∃ payload, record.buildTxUpdate settings.lower tx = .ok payload ∧
      next.get? tx.id = some (payload.applyTo store.categories tx) := by
  obtain ⟨payload, built, -, rfl⟩ := FireflyEnrichmentService.applyMatch_reliable.mp applied
  refine ⟨payload, built, ?_⟩
  rw [FireflyStore.get?_replace, if_pos rfl, stored]
  rfl

theorem rewritten_description {payload : TransactionUpdate} {details : String}
    (lowerSemicolon : ∀ left right, settings.lower (left ++ ";" ++ right) =
      settings.lower left ++ ";" ++ settings.lower right)
    (hidden : settings.lower tx.description = settings.lower filterDescBlik)
    (described : record.details = some details)
    (built : record.buildTxUpdate settings.lower tx = .ok payload) :
    settings.lower (payload.applyTo store.categories tx).description ≠
        settings.lower filterDescBlik ↔
      ¬ OccursIn (settings.lower details) (settings.lower filterDescBlik) := by
  obtain ⟨other, printed, otherDescribed, -, rfl⟩ := BankRecord.buildTxUpdate_ok.mp built
  obtain rfl := Option.some.inj (described.symm.trans otherDescribed)
  by_cases occurs : OccursIn (settings.lower details) (settings.lower filterDescBlik)
  next => simp [TransactionUpdate.applyTo, hidden, occurs]
  next =>
    simp only [TransactionUpdate.applyTo, hidden, occurs, if_false, Option.getD_some]
    rw [lowerSemicolon, hidden]
    refine iff_of_true (fun same => ?_) not_false
    have lengths := congrArg String.length same
    simp only [String.length_append] at lengths
    have semicolon : (";" : String).length = 1 := rfl
    omega

theorem applied_processed_iff
    (lowerSemicolon : ∀ left right, settings.lower (left ++ ";" ++ right) =
      settings.lower left ++ ";" ++ settings.lower right)
    (stored : store.get? tx.id = some tx) (uncategorized : tx.category = none)
    (hidden : settings.lower tx.description = settings.lower filterDescBlik)
    (applied : FireflyEnrichmentService.applyMatch settings .reliable store tx record = .ok next) :
    ∃ details reread, record.details = some details ∧
      FireflyTxService.getTransaction next tx.id = .ok reread ∧
      (ProcessedInAllViews settings.lower filterDescBlik filterDescAllegro reread ↔
        ¬ OccursIn (settings.lower details) (settings.lower filterDescBlik)) := by
  obtain ⟨payload, built, held⟩ := applyMatch_reread stored applied
  obtain ⟨details, printed, described, -, shape⟩ := BankRecord.buildTxUpdate_ok.mp built
  have tagged : (payload.applyTo store.categories tx).hasTag .blik_done = true := by
    simp [Transaction.hasTag, TransactionUpdate.applyTo, shape]
  have remains : (payload.applyTo store.categories tx).category = none := by
    simp [TransactionUpdate.applyTo, shape, uncategorized]
  refine ⟨details, payload.applyTo store.categories tx, described,
    by simp [FireflyTxService.getTransaction, held], ?_⟩
  rw [processedInAllViews_iff remains tagged]
  exact rewritten_description lowerSemicolon hidden described built

end Applied

namespace Sample

open FireflyToolkit.Sample

def blikText : String := "BLIK - płatność w internecie"

def blikPayment : Transaction := { purchase 1 tenth (cents 1000) with description := blikText }

def blikStore : FireflyStore := ⟨[blikPayment], [], by decide⟩

def detailsRow (details : String) : BankRecord :=
  { date := tenth, amount := cents 1000, details := some details, recipient := some "Shop"
    operationAmount := cents 1000 }

def applied (details : String) : Except PyError FireflyStore :=
  FireflyEnrichmentService.applyMatch settings .reliable blikStore blikPayment (detailsRow details)

def reread (details : String) : Except PyError Transaction := do
  let next ← applied details
  FireflyTxService.getTransaction next 1

theorem lower_semicolon (left right : String) :
    settings.lower (left ++ ";" ++ right) = settings.lower left ++ ";" ++ settings.lower right := by
  have lowers : settings.lower = asciiLower := rfl
  simp only [lowers, asciiLower, String.toList_append, List.map_append, String.ofList_append]
  rfl

end Sample

theorem applied_processed_order :
    ∃ reread, Sample.reread "Order 12" = .ok reread ∧
      (ProcessedInAllViews asciiLower Sample.blikText "allegro" reread ↔
        ¬ OccursIn (asciiLower "Order 12") (asciiLower Sample.blikText)) := by
  obtain ⟨details, reread, described, found, agree⟩ :=
    @applied_processed_iff FireflyToolkit.Sample.settings Sample.blikStore _ Sample.blikPayment
      (Sample.detailsRow "Order 12") Sample.blikText "allegro" Sample.lower_semicolon rfl rfl rfl rfl
  obtain rfl := Option.some.inj described
  exact ⟨reread, found, agree⟩

-- A row without details leaves the description as it is: one view has processed the transaction
-- and the other keeps hiding it.
theorem applied_hidden_noDetails :
    ∃ reread, Sample.reread "" = .ok reread ∧
      notProcessedTransactions asciiLower Sample.blikText (Sample.snapshotOf []) [reread] = 0 ∧
      blikNotOk asciiLower Sample.blikText "allegro" (Sample.snapshotOf []) [reread] = 1 ∧
      ¬ ProcessedInAllViews asciiLower Sample.blikText "allegro" reread := by
  refine ⟨_, rfl, by decide, by decide, fun processed => ?_⟩
  exact absurd (passesBlikFilter_iff.mp processed.screened) (by decide)

end FireflyToolkit.Metrics
