import FireflyToolkit.Domain.Calendar
import FireflyToolkit.Firefly.Services
import FireflyToolkit.Metrics.Manager
import FireflyToolkit.Shared.OrderedDict
import FireflyToolkit.Snapshot.Service
import Mathlib.Algebra.BigOperators.Ring.Finset
import Mathlib.Data.List.Sort

set_option autoImplicit false

namespace FireflyToolkit

open PyBuiltins

-- The first and the last midnight that 64 bits of nanoseconds around 1970 can hold.
def firstTimestamp : Date := ⟨1677, 9, 22, by decide⟩

def lastTimestamp : Date := ⟨2262, 4, 11, by decide⟩

def representable (date : Date) : Bool := firstTimestamp.le date && date.le lastTimestamp

-- `to_period("M").astype(str)`; a date that no timestamp can hold was coerced to NaT.
def monthPeriod (date : Date) : String :=
  if representable date then toString date.year ++ "-" ++ padZeros 2 date.month else "NaT"

def monthKey (year month : Nat) : String := padZeros 4 year ++ "-" ++ padZeros 2 month

theorem padZeros_of_long {width value : Nat} (long : 10 ^ width ≤ value) :
    padZeros (width + 1) value = toString value := by
  have digits : width + 1 ≤ (Nat.toDigits 10 value).length := by
    by_contra short
    rcases Nat.eq_zero_or_pos width with rfl | positive
    · exact short Nat.length_toDigits_pos
    · have fits : value < 10 ^ width := (Nat.length_toDigits_le_iff (by decide) positive).mp (by omega)
      omega
  apply String.toList_injective
  rw [padZeros_toList, Nat.sub_eq_zero_of_le digits, Nat.toString_eq_repr, Nat.toList_repr]
  rfl

theorem monthKey_injective {year month year' month' : Nat} (fits : year ≤ 9999) (fits' : year' ≤ 9999)
    (same : monthKey year month = monthKey year' month') : year = year' ∧ month = month' := by
  have texts := congrArg String.toList same
  simp only [monthKey, String.toList_append, List.append_assoc] at texts
  have lengths : (padZeros 4 year).toList.length = (padZeros 4 year').toList.length := by
    rw [padZeros_length (by decide) (by omega), padZeros_length (by decide) (by omega)]
  obtain ⟨years, rest⟩ := List.append_inj texts lengths
  have months := List.append_cancel_left rest
  exact ⟨padZeros_injective (String.toList_injective years),
    padZeros_injective (String.toList_injective months)⟩

theorem monthPeriod_eq_monthKey {date : Date} (dated : representable date = true) :
    monthPeriod date = monthKey date.year date.month := by
  have bounds := dated
  simp only [representable, Bool.and_eq_true, Date.le_iff] at bounds
  have months := date.valid.2.2.2.1
  have days := date.day_le
  have century : 10 ^ 3 ≤ date.year := by
    have start : firstTimestamp.rank = 697942 := by decide
    rw [start, Date.rank] at bounds
    omega
  rw [monthPeriod, if_pos dated, monthKey, padZeros_of_long century]

namespace Metrics

open Snapshot

-- A frame grouped by month: the months in the order of their texts, each with its number of rows.
def groupTxByMonth (txs : List Transaction) : List (String × Int) :=
  let months := txs.map fun tx => monthPeriod tx.date
  (months.dedup.insertionSort (· ≤ ·)).map fun month => (month, (months.count month : Int))

theorem groupTxByMonth_lookup (txs : List Transaction) (month : String) :
    ((groupTxByMonth txs).lookup month).getD 0 =
      ((txs.map fun tx => monthPeriod tx.date).count month : Int) := by
  have lookup : ∀ (months keys : List String),
      ((keys.map fun key => (key, (months.count key : Int))).lookup month).getD 0 =
        if month ∈ keys then (months.count month : Int) else 0 := by
    intro months keys
    induction keys with
    | nil => rfl
    | cons key rest ih =>
      by_cases same : month = key
      · simp [same]
      · simp [OrderedDict.lookup_pair, same, ih]
  rw [groupTxByMonth, lookup]
  simp only [List.mem_insertionSort, List.mem_dedup]
  split_ifs with present
  · rfl
  · rw [List.count_eq_zero_of_not_mem present, Nat.cast_zero]

theorem groupTxByMonth_sum (txs : List Transaction) :
    ((groupTxByMonth txs).map Prod.snd).sum = (txs.length : Int) := by
  let months := txs.map fun tx => monthPeriod tx.date
  have sorted := ((months.dedup.perm_insertionSort (· ≤ ·)).map fun month => months.count month)
  calc
    _ = ((months.dedup.insertionSort (· ≤ ·)).map fun month => (months.count month : Int)).sum := by
      simp [groupTxByMonth, months, Function.comp_def]
    _ = (((months.dedup.insertionSort (· ≤ ·)).map fun month => months.count month).sum : Int) := by
      rw [Nat.cast_list_sum, List.map_map]
      rfl
    _ = ((months.dedup.map fun month => months.count month).sum : Int) := by rw [sorted.sum_eq]
    _ = (txs.length : Int) := by
      rw [List.sum_map_count_dedup_eq_length, List.length_map]

section Pipelines

variable (lower : String → String) (filterDescBlik filterDescAllegro : String)

def txsBlikOk (txs : List Transaction) : List Transaction :=
  filterByDescription lower (filterOutCategorized txs) filterDescBlik true true

def txsActionNotReq (txs : List Transaction) : List Transaction :=
  (txsBlikOk lower filterDescBlik txs).filter fun tx => !tx.hasTag .action_req

def txsAllegroOk (txs : List Transaction) : List Transaction :=
  (txsActionNotReq lower filterDescBlik txs).filter fun tx =>
    !(decide (OccursIn filterDescAllegro (lower tx.description)) && !tx.hasTag .allegro_done)

def SnapshotTxMetricsService.buildMetrics (snapshot : TransactionSnapshot) : TXStatisticsMetrics :=
  let txsUncategorized := filterOutCategorized snapshot.transactions
  let blikOk := txsBlikOk lower filterDescBlik snapshot.transactions
  let actionNotReq := txsActionNotReq lower filterDescBlik snapshot.transactions
  let allegroOk := txsAllegroOk lower filterDescBlik filterDescAllegro snapshot.transactions
  { totalTransactions := snapshot.metrics.totalTransactions
    fetchingDurationMs := snapshot.metrics.fetchingDurationMs
    singlePartTransactions := snapshot.transactions.length
    uncategorizedTransactions := txsUncategorized.length
    blikNotOk := txsUncategorized.length - blikOk.length
    actionReq := blikOk.length - actionNotReq.length
    allegroNotOk := actionNotReq.length - allegroOk.length
    categorizable := allegroOk.length
    categorizableByMonth := groupTxByMonth allegroOk
    timeStamp := snapshot.fetchedAt }

def blikNotProcessed (exactMatch : Bool) (txs : List Transaction) : List Transaction :=
  (filterByDescription lower (filterOutCategorized txs) filterDescBlik exactMatch).filter fun tx =>
    !tx.hasTag .blik_done

def SnapshotBlikMetricsService.buildMetrics (snapshot : TransactionSnapshot) :
    BlikStatisticsMetrics :=
  let notProcessed := blikNotProcessed lower filterDescBlik true snapshot.transactions
  let incompleteProcessed := blikNotProcessed lower filterDescBlik false snapshot.transactions
  { totalTransactions := snapshot.metrics.totalTransactions
    fetchingDurationMs := snapshot.metrics.fetchingDurationMs
    singlePartTransactions := snapshot.transactions.length
    uncategorizedTransactions := (filterOutCategorized snapshot.transactions).length
    filteredByDescriptionExact := notProcessed.length
    filteredByDescriptionPartial := incompleteProcessed.length
    notProcessedTransactions := notProcessed.length
    notProcessedByMonth := groupTxByMonth notProcessed
    inclompleteProcesedByMonth := groupTxByMonth incompleteProcessed
    timeStamp := snapshot.fetchedAt }

def SnapshotAllegroMetricsService.buildMetrics (snapshot : TransactionSnapshot) : AllegroMetrics :=
  let filteredByDescPartial :=
    filterByDescription lower snapshot.transactions filterDescAllegro false
  let notProcessed := filteredByDescPartial.filter fun tx => !tx.hasTag .allegro_done
  { totalTransactions := snapshot.metrics.totalTransactions
    fetchingDurationMs := snapshot.metrics.fetchingDurationMs
    allegroTransactions := filteredByDescPartial.length
    notProcessedAllegroTransactions := notProcessed.length
    notProcessedByMonth := groupTxByMonth notProcessed
    timeStamp := snapshot.fetchedAt }

end Pipelines

end Metrics

end FireflyToolkit
