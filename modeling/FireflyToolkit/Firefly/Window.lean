import FireflyToolkit.Domain.Calendar
import FireflyToolkit.Firefly.Services

set_option autoImplicit false

namespace FireflyToolkit

open PyBuiltins

-- The remote reads as the services see them: any answer is possible.
structure FireflyReader where
  fetchTransactions : Option Date → Option Date → Except FireflyAPIError (List Transaction)
  fetchCategories : Except FireflyAPIError (List Category)

-- A fetch with a date range answers the transactions dated in it, both ends included.
def FireflyReader.Serves (reader : FireflyReader) (txs : List Transaction) : Prop :=
  ∀ startDate endDate : Date, reader.fetchTransactions (some startDate) (some endDate) =
    .ok (txs.filter (FireflyStore.inRange (some startDate) (some endDate)))

def FireflyStore.reader (store : FireflyStore) : FireflyReader :=
  ⟨fun startDate endDate => .ok (store.fetchTransactions startDate endDate), .ok store.categories⟩

def FireflyBaseService.fetchFrom (reader : FireflyReader) (startDate endDate : Option Date)
    (excludeCategorized : Bool := false) : Except PyError (List Transaction) :=
  match reader.fetchTransactions startDate endDate with
  | .error failure =>
      .error (.fireflyServiceError "Failed to fetch transactions from Firefly iii" failure.statusCode)
  | .ok domainTxs =>
      .ok (if excludeCategorized then filterOutCategorized domainTxs else domainTxs)

inductive BaseMatchItem
  | bankRecord (record : BankRecord)
  | orderPayment (payment : AllegroOrderPayment)
  deriving DecidableEq

instance : Matchable BaseMatchItem where
  date
    | .bankRecord record => record.date
    | .orderPayment payment => payment.date
  compare
    | .bankRecord record, tx => Matchable.compare record tx
    | .orderPayment payment, tx => Matchable.compare payment tx

def BaseMatchItem.amount : BaseMatchItem → Decimal
  | .bankRecord record => record.amount
  | .orderPayment payment => payment.amount

namespace FireflyEnrichmentService

variable {α : Type} [Matchable α]

def matchFrom (settings : Settings) (reader : FireflyReader) (candidates : List α)
    (filterText : String) (tagDone : TxTag) : Except PyError (List (MatchResult α) × List α) :=
  match candidates.map Matchable.date with
  | [] => .error (.valueError "min() iterable argument is empty")
  | first :: rest =>
      match (maxDate first rest).addDays settings.matchWithUnmatchedFutureDays with
      | none => .error (.overflowError "date value out of range")
      | some lastDate => do
          let domainTxs ←
            FireflyBaseService.fetchFrom reader (some (minDate first rest)) (some lastDate)
          let filtered := filterByDescription settings.lower domainTxs filterText false
          matchTransactions filtered candidates tagDone

def matchCandidates (settings : Settings) (reader : FireflyReader) (candidates : List α)
    (filterText : String) (tagDone : TxTag) : Except PyError (List (MatchResult α)) := do
  let (results, _) ← matchFrom settings reader candidates filterText tagDone
  .ok results

theorem matchFrom_reader (settings : Settings) (store : FireflyStore) (candidates : List α)
    (filterText : String) (tagDone : TxTag) :
    matchFrom settings store.reader candidates filterText tagDone =
      matchWithUnmatched settings store candidates filterText tagDone := rfl

end FireflyEnrichmentService

section Matching

variable {α : Type} [Matchable α]

theorem matchTransactions_eq {txs : List Transaction} {items : List α} {tagDone : TxTag}
    (decided : ∀ tx ∈ txs, ∀ item ∈ items, Matchable.compare item tx = .ok (accepts item tx)) :
    matchTransactions txs items tagDone =
      .ok (txs.map (matchResult items tagDone),
        items.filter fun item => txs.all fun tx => !accepts item tx) := by
  let matchedAt (tx : Transaction) : List Nat :=
    (items.zipIdx.filter fun item => accepts item.1 tx).map Prod.snd
  have scan : ∀ tx ∈ txs, matchTransaction items tagDone tx =
      .ok (matchResult items tagDone tx, matchedAt tx) := by
    intro tx member
    have scanned := matchingCandidates_eq_ok.mpr ⟨fun item (listed : item ∈ items.zipIdx) =>
      decided tx member item.1 (List.fst_mem_of_mem_zipIdx listed), rfl⟩
    simp only [matchTransaction, scanned, bind, Except.bind, matchResult, matchedAt,
      zipIdx_filter_fst (fun item => accepts item tx)]
  have scans : txs.mapM (matchTransaction items tagDone) =
      .ok (txs.map fun tx => (matchResult items tagDone tx, matchedAt tx)) := mapM_ok scan
  have unmatched : (items.zipIdx.filter fun item => item.2 ∉ txs.flatMap matchedAt).map Prod.fst =
      items.filter fun item => txs.all fun tx => !accepts item tx := by
    rw [← zipIdx_filter_fst (fun item => txs.all fun tx => !accepts item tx) items 0]
    congr 1
    apply List.filter_congr
    intro item listed
    have placed := List.mem_zipIdx_iff_getElem?.mp listed
    have matchedHere : item.2 ∈ txs.flatMap matchedAt ↔ ∃ tx ∈ txs, accepts item.1 tx = true := by
      simp only [matchedAt, List.mem_flatMap, List.mem_map, List.mem_filter]
      constructor
      · rintro ⟨tx, member, other, ⟨otherListed, accepted⟩, sameIndex⟩
        have otherPlaced := List.mem_zipIdx_iff_getElem?.mp otherListed
        rw [sameIndex, placed] at otherPlaced
        exact ⟨tx, member, Option.some.inj otherPlaced ▸ accepted⟩
      · rintro ⟨tx, member, accepted⟩
        exact ⟨tx, member, item, ⟨listed, accepted⟩, rfl⟩
    rw [Bool.eq_iff_iff]
    simp [matchedHere]
  simp only [matchTransactions, scans, bind, Except.bind, List.map_map, List.flatMap_map,
    Function.comp_def, unmatched]

theorem matchTransactions_decided {txs : List Transaction} {items : List α} {tagDone : TxTag}
    {output : List (MatchResult α) × List α}
    (matched : matchTransactions txs items tagDone = .ok output) :
    ∀ tx ∈ txs, ∀ item ∈ items, Matchable.compare item tx = .ok (accepts item tx) := by
  intro tx member item listed
  obtain ⟨scans, scanned, -⟩ := bind_eq_ok.mp matched
  obtain ⟨scan, ended⟩ := mapM_ok_each scanned tx member
  obtain ⟨found, compared, -⟩ := bind_eq_ok.mp ended
  obtain ⟨place, placed⟩ := List.getElem?_of_mem listed
  exact (matchingCandidates_eq_ok.mp compared).1 (item, place) (List.mem_zipIdx_iff_getElem?.mpr placed)

end Matching

namespace FireflyEnrichmentService

theorem minDate_le {best date : Date} {rest : List Date} (member : date ∈ best :: rest) :
    (minDate best rest).le date = true := by
  have least : (minDate best rest).le best = true ∧
      ∀ other ∈ rest, (minDate best rest).le other = true := by
    clear member
    induction rest generalizing best with
    | nil => simp [minDate, Date.le_refl]
    | cons head rest ih =>
      simp only [minDate, List.forall_mem_cons]
      by_cases smaller : best.le head = true
      next =>
        rw [if_pos smaller]
        exact ⟨ih.1, Date.le_trans ih.1 smaller, ih.2⟩
      next =>
        rw [if_neg smaller]
        have larger := Date.le_total (by simpa using smaller)
        exact ⟨Date.le_trans ih.1 larger, ih.1, ih.2⟩
  rcases List.mem_cons.mp member with rfl | later
  · exact least.1
  · exact least.2 date later

theorem le_maxDate {best date : Date} {rest : List Date} (member : date ∈ best :: rest) :
    date.le (maxDate best rest) = true := by
  have greatest : best.le (maxDate best rest) = true ∧
      ∀ other ∈ rest, other.le (maxDate best rest) = true := by
    clear member
    induction rest generalizing best with
    | nil => simp [maxDate, Date.le_refl]
    | cons head rest ih =>
      simp only [maxDate, List.forall_mem_cons]
      by_cases larger : head.le best = true
      next =>
        rw [if_pos larger]
        exact ⟨ih.1, Date.le_trans larger ih.1, ih.2⟩
      next =>
        rw [if_neg larger]
        have smaller := Date.le_total (by simpa using larger)
        exact ⟨Date.le_trans smaller ih.1, ih.1, ih.2⟩
  rcases List.mem_cons.mp member with rfl | later
  · exact greatest.1
  · exact greatest.2 date later

-- The first and the last day that a preview fetches; none where the last is past the calendar.
def fetchWindow {α : Type} [Matchable α] (settings : Settings) (candidates : List α) :
    Option (Date × Date) :=
  match candidates.map Matchable.date with
  | [] => none
  | first :: rest =>
      ((maxDate first rest).addDays settings.matchWithUnmatchedFutureDays).map fun lastDate =>
        (minDate first rest, lastDate)

variable {settings : Settings}

theorem fetchWindow_covers {α : Type} [Matchable α] {candidates : List α} {candidate : α}
    {firstDate lastDate : Date} (days : 6 ≤ settings.matchWithUnmatchedFutureDays)
    (window : fetchWindow settings candidates = some (firstDate, lastDate))
    (member : candidate ∈ candidates) :
    firstDate.le (Matchable.date candidate) = true ∧
      ∃ latest, (Matchable.date candidate).addDays 6 = some latest ∧ latest.le lastDate = true := by
  unfold fetchWindow at window
  have dated : Matchable.date candidate ∈ candidates.map Matchable.date := List.mem_map_of_mem member
  cases dates : candidates.map Matchable.date with
  | nil => simp [dates] at window
  | cons first rest =>
    rw [dates] at dated
    simp only [dates, Option.map_eq_some_iff, Prod.mk.injEq] at window
    obtain ⟨last, counted, rfl, rfl⟩ := window
    exact ⟨minDate_le dated, Date.addDays_mono (by decide) days (le_maxDate dated) counted⟩

end FireflyEnrichmentService

theorem BaseMatchItem.compare_window {item : BaseMatchItem} {tx : Transaction} {latest : Date}
    (counted : (Matchable.date item).addDays 6 = some latest) :
    ((∃ verdict, Matchable.compare item tx = .ok verdict) ↔
        ∃ equal, compareAmountsAbs item.amount tx.amount = .ok equal) ∧
      (accepts item tx = true →
        (Matchable.date item).le tx.date = true ∧ tx.date.le latest = true) := by
  cases item with
  | bankRecord record =>
    constructor
    · change (∃ verdict, Matchable.compare record tx = .ok verdict) ↔
        ∃ equal, compareAmountsAbs record.amount tx.amount = .ok equal
      cases amounts : compareAmountsAbs record.amount tx.amount <;>
        simp [Matchable.compare, amounts, bind, Except.bind]
    · intro accepted
      have same : record.date = tx.date := by
        cases amounts : compareAmountsAbs record.amount tx.amount with
        | error failure =>
          simp [accepts, Matchable.compare, amounts, bind, Except.bind] at accepted
        | ok equal =>
          simp only [accepts, Matchable.compare, amounts, bind, Except.bind, Bool.and_eq_true,
            decide_eq_true_eq] at accepted
          exact accepted.2
      obtain ⟨start, sameDay, before⟩ :=
        Date.addDays_mono (Int.le_refl 0) (by decide) (Date.le_refl _) counted
      have unmoved : record.date = start := Option.some.inj sameDay
      change record.date.le tx.date = true ∧ _
      rw [← same]
      exact ⟨Date.le_refl _, unmoved ▸ before⟩
  | orderPayment payment =>
    have latestDay : payment.date.addDays 6 = some latest := counted
    change ((∃ verdict, payment.toOrderPayment.compare tx = .ok verdict) ↔
      ∃ equal, compareAmountsAbs payment.amount tx.amount = .ok equal) ∧ _
    cases amounts : compareAmountsAbs payment.amount tx.amount with
    | error failure =>
      simp [accepts, Matchable.compare, OrderPayment.compare, amounts, bind, Except.bind]
    | ok equal =>
      cases equal <;>
        simp [accepts, Matchable.compare, Matchable.date, OrderPayment.compare, amounts, latestDay,
          bind, Except.bind]

namespace FireflyEnrichmentService

def matchedTxs {α : Type} [DecidableEq α] (candidate : α) (results : List (MatchResult α)) :
    List Transaction :=
  (results.filter fun result => candidate ∈ result.txMatches).map MatchResult.tx

theorem matchedTxs_results {α : Type} [DecidableEq α] [Matchable α] {candidate : α}
    {candidates : List α} (member : candidate ∈ candidates) (txs : List Transaction)
    (tagDone : TxTag) :
    matchedTxs candidate (txs.map (matchResult candidates tagDone)) =
      txs.filter (accepts candidate) := by
  have listed : ∀ tx, candidate ∈ (matchResult candidates tagDone tx).txMatches ↔
      accepts candidate tx = true := by
    intro tx
    simp [matchResult, member]
  simp only [matchedTxs, List.filter_map, List.map_map, Function.comp_def, listed]
  simp [matchResult]

theorem filterByDescription_filter (lower : String → String) (txs : List Transaction)
    (test : Transaction → Bool) (text : String) (exactMatch exclude : Bool) :
    filterByDescription lower (txs.filter test) text exactMatch exclude =
      (filterByDescription lower txs text exactMatch exclude).filter test := by
  simp only [filterByDescription, List.filter_filter, Bool.and_comm]

theorem filter_accepts {α : Type} [Matchable α] {item : α} {txs : List Transaction}
    {test : Transaction → Bool} (dropped : ∀ tx ∈ txs, test tx = false → accepts item tx = false) :
    (txs.filter test).filter (accepts item) = txs.filter (accepts item) := by
  rw [List.filter_filter]
  apply List.filter_congr
  intro tx member
  cases kept : test tx with
  | true => simp
  | false => simp [dropped tx member kept]

variable {settings : Settings} {reader : FireflyReader} {txs : List Transaction}
  {candidates : List BaseMatchItem}

theorem outside_unmatched {firstDate lastDate : Date}
    (days : 6 ≤ settings.matchWithUnmatchedFutureDays)
    (window : fetchWindow settings candidates = some (firstDate, lastDate))
    {candidate : BaseMatchItem} (member : candidate ∈ candidates) {tx : Transaction}
    (outside : FireflyStore.inRange (some firstDate) (some lastDate) tx = false) :
    accepts candidate tx = false := by
  obtain ⟨starts, latest, counted, ends⟩ := fetchWindow_covers days window member
  by_contra fits
  obtain ⟨after, before⟩ := (BaseMatchItem.compare_window counted).2 (by simpa using fits)
  have inside : FireflyStore.inRange (some firstDate) (some lastDate) tx = true := by
    simp [FireflyStore.inRange, Date.le_trans starts after, Date.le_trans before ends]
  rw [inside] at outside
  cases outside

def AmountsCompare (txs : List Transaction) (candidates : List BaseMatchItem) : Prop :=
  ∀ tx ∈ txs, ∀ candidate ∈ candidates, ∃ equal,
    compareAmountsAbs candidate.amount tx.amount = .ok equal

structure WindowAgrees (settings : Settings) (reader : FireflyReader) (txs : List Transaction)
    (candidates : List BaseMatchItem) (filterText : String) (tagDone : TxTag)
    (firstDate lastDate : Date) : Prop where
  sameMatches : ∃ results allResults unmatched,
    matchFrom settings reader candidates filterText tagDone = .ok (results, unmatched) ∧
      matchTransactions (filterByDescription settings.lower txs filterText false) candidates tagDone =
        .ok (allResults, unmatched) ∧
      ∀ candidate ∈ candidates,
        let fitting := (filterByDescription settings.lower txs filterText false).filter
          (accepts candidate)
        matchedTxs candidate results = fitting ∧ matchedTxs candidate allResults = fitting
  outside : ∀ tx ∈ txs, FireflyStore.inRange (some firstDate) (some lastDate) tx = false →
    ∀ candidate ∈ candidates, Matchable.compare candidate tx ≠ .ok true

theorem matchFrom_window {α : Type} [Matchable α] {candidates : List α} {filterText : String}
    {tagDone : TxTag} {firstDate lastDate : Date} (serves : reader.Serves txs)
    (window : fetchWindow settings candidates = some (firstDate, lastDate)) :
    matchFrom settings reader candidates filterText tagDone =
      matchTransactions ((filterByDescription settings.lower txs filterText false).filter
        (FireflyStore.inRange (some firstDate) (some lastDate))) candidates tagDone := by
  unfold fetchWindow at window
  unfold matchFrom
  cases dates : candidates.map Matchable.date with
  | nil => simp [dates] at window
  | cons first rest =>
    simp only [dates, Option.map_eq_some_iff, Prod.mk.injEq] at window
    obtain ⟨last, counted, rfl, rfl⟩ := window
    have answer := serves (minDate first rest) last
    simp only [counted, FireflyBaseService.fetchFrom, answer, bind, Except.bind]
    rw [← filterByDescription_filter]
    rfl

theorem amountsCompare_iff {firstDate lastDate : Date} {some : List Transaction}
    (days : 6 ≤ settings.matchWithUnmatchedFutureDays)
    (window : fetchWindow settings candidates = .some (firstDate, lastDate)) :
    AmountsCompare some candidates ↔
      ∀ tx ∈ some, ∀ candidate ∈ candidates,
        Matchable.compare candidate tx = .ok (accepts candidate tx) := by
  refine forall₂_congr fun tx _ => forall₂_congr fun candidate member => ?_
  obtain ⟨-, latest, counted, -⟩ := fetchWindow_covers days window member
  rw [← (BaseMatchItem.compare_window counted).1]
  constructor
  · rintro ⟨verdict, compared⟩
    rw [compared, accepts_of_compare compared]
  · exact fun compared => ⟨_, compared⟩

theorem window_agrees {filterText : String} {tagDone : TxTag} {firstDate lastDate : Date}
    (serves : reader.Serves txs) (days : 6 ≤ settings.matchWithUnmatchedFutureDays)
    (window : fetchWindow settings candidates = some (firstDate, lastDate))
    (compare : AmountsCompare (filterByDescription settings.lower txs filterText false) candidates) :
    WindowAgrees settings reader txs candidates filterText tagDone firstDate lastDate := by
  let filtered := filterByDescription settings.lower txs filterText false
  let inside := filtered.filter (FireflyStore.inRange (some firstDate) (some lastDate))
  have decided := (amountsCompare_iff days window).mp compare
  have decidedInside : ∀ tx ∈ inside, ∀ candidate ∈ candidates,
      Matchable.compare candidate tx = .ok (accepts candidate tx) :=
    fun tx member => decided tx (List.mem_of_mem_filter member)
  have kept : ∀ candidate ∈ candidates,
      inside.filter (accepts candidate) = filtered.filter (accepts candidate) := by
    intro candidate member
    exact filter_accepts fun tx _ outside => outside_unmatched days window member outside
  have everything := @matchTransactions_eq _ _ filtered candidates tagDone decided
  have fetched := @matchTransactions_eq _ _ inside candidates tagDone decidedInside
  have sameUnmatched : (candidates.filter fun item => inside.all fun tx => !accepts item tx) =
      candidates.filter fun item => filtered.all fun tx => !accepts item tx := by
    apply List.filter_congr
    intro candidate member
    have nothing : ∀ some : List Transaction, (some.all fun tx => !accepts candidate tx) =
        (some.filter (accepts candidate)).isEmpty := by
      intro some
      rw [Bool.eq_iff_iff]
      simp
    rw [nothing, nothing, kept candidate member]
  refine ⟨⟨inside.map (matchResult candidates tagDone),
    filtered.map (matchResult candidates tagDone), _, ?_, everything, ?_⟩, ?_⟩
  · rw [matchFrom_window serves window, ← sameUnmatched]
    exact fetched
  · intro candidate member
    exact ⟨(matchedTxs_results member inside tagDone).trans (kept candidate member),
      matchedTxs_results member filtered tagDone⟩
  · intro tx _ outside candidate member accepted
    have refused := outside_unmatched days window member outside
    rw [accepts_of_compare accepted] at refused
    cases refused

-- The two matchings agree exactly where no comparison of amounts raises. Where the window reaches
-- past the calendar the service raises before it reads anything.
theorem matchFrom_agrees {filterText : String} {tagDone : TxTag} (serves : reader.Serves txs)
    (nonempty : candidates ≠ []) (days : 6 ≤ settings.matchWithUnmatchedFutureDays) :
    (∀ firstDate lastDate, fetchWindow settings candidates = some (firstDate, lastDate) →
      (WindowAgrees settings reader txs candidates filterText tagDone firstDate lastDate ↔
        AmountsCompare (filterByDescription settings.lower txs filterText false) candidates)) ∧
    (fetchWindow settings candidates = none →
      matchFrom settings reader candidates filterText tagDone =
        .error (.overflowError "date value out of range")) := by
  constructor
  · intro firstDate lastDate window
    refine ⟨fun agrees => ?_, window_agrees serves days window⟩
    obtain ⟨results, allResults, unmatched, -, matched, -⟩ := agrees.sameMatches
    exact (amountsCompare_iff days window).mpr (matchTransactions_decided matched)
  · intro pastCalendar
    unfold fetchWindow at pastCalendar
    cases dates : candidates.map Matchable.date with
    | nil => exact absurd (List.map_eq_nil_iff.mp dates) nonempty
    | cons first rest =>
      simp only [dates, Option.map_eq_none_iff] at pastCalendar
      simp only [matchFrom, dates, pastCalendar]

end FireflyEnrichmentService

namespace Sample

def lastDay : Date := ⟨9999, 12, 31, by decide⟩

def lastRow : BaseMatchItem :=
  .bankRecord
    { date := lastDay, amount := cents 1000, details := "Order", recipient := "Shop"
      operationAmount := cents 1000 }

def dated (dates : List Date) : List Transaction := dates.map fun date => purchase 7 date (cents 1000)

def readerOf (txs : List Transaction) : FireflyReader :=
  ⟨fun startDate endDate => .ok (txs.filter (FireflyStore.inRange startDate endDate)), .ok []⟩

def tenthRow : BaseMatchItem :=
  .bankRecord
    { date := tenth, amount := cents 1000, details := "Order", recipient := "Shop"
      operationAmount := cents 1000 }

end Sample

open FireflyEnrichmentService

theorem matchFrom_agrees_tenth :
    WindowAgrees Sample.settings (Sample.readerOf (Sample.dated [Sample.tenth, Sample.twelfth]))
      (Sample.dated [Sample.tenth, Sample.twelfth]) [Sample.tenthRow] "allegro" .blik_done
      Sample.tenth (Sample.january 17) :=
  ((matchFrom_agrees (fun _ _ => rfl) (by simp) (by decide)).1 _ _ (by decide)).mpr <| by
    intro tx listed candidate member
    obtain rfl := List.mem_singleton.mp member
    simp only [Sample.dated, List.map_cons, List.map_nil] at listed
    have amount : tx.amount = Sample.cents 1000 := by
      have purchased := List.mem_of_mem_filter listed
      simp only [List.mem_cons, List.not_mem_nil, or_false] at purchased
      rcases purchased with rfl | rfl <;> rfl
    rw [amount]
    exact ⟨true, by decide⟩

-- Seven days after the last day are not in the calendar, so the row is not matched at all.
theorem matchFrom_pastCalendar :
    (Sample.readerOf (Sample.dated [Sample.lastDay])).Serves (Sample.dated [Sample.lastDay]) ∧
      matchFrom Sample.settings (Sample.readerOf (Sample.dated [Sample.lastDay])) [Sample.lastRow]
        "allegro" .blik_done = .error (.overflowError "date value out of range") ∧
      matchTransactions (filterByDescription Sample.settings.lower (Sample.dated [Sample.lastDay])
        "allegro" false) [Sample.lastRow] .blik_done =
          .ok ([⟨Sample.purchase 7 Sample.lastDay (Sample.cents 1000), [Sample.lastRow], .new⟩], []) :=
  ⟨fun _ _ => rfl, rfl, by decide⟩

end FireflyToolkit
