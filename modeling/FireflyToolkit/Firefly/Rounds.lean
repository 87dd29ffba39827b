import FireflyToolkit.Firefly.Attempts
import FireflyToolkit.Firefly.Window

set_option autoImplicit false

namespace FireflyToolkit.FireflyEnrichmentService

open PyBuiltins

section Written

variable {α : Type} [Evidence α]

def updatedBy (lower : String → String) (categories : List Category) (entry : Transaction × α)
    (tx : Transaction) : Transaction :=
  match Evidence.buildTxUpdate lower entry.2 entry.1 with
  | .ok payload => payload.applyTo categories tx
  | .error _ => tx

-- The stored record after the evidence selected for it, if any, is applied.
def written (lower : String → String) (categories : List Category)
    (selected : List (Transaction × α)) (tx : Transaction) : Transaction :=
  match selected.find? fun entry => entry.1.id = tx.id with
  | none => tx
  | some entry => updatedBy lower categories entry tx

variable {lower : String → String} {categories : List Category} {selected : List (Transaction × α)}

theorem updatedBy_keeps (entry : Transaction × α) (tx : Transaction) :
    (updatedBy lower categories entry tx).id = tx.id ∧
      (updatedBy lower categories entry tx).date = tx.date ∧
      (updatedBy lower categories entry tx).amount = tx.amount := by
  unfold updatedBy
  split <;> exact ⟨rfl, rfl, rfl⟩

theorem written_keeps (tx : Transaction) :
    (written lower categories selected tx).id = tx.id ∧
      (written lower categories selected tx).date = tx.date ∧
      (written lower categories selected tx).amount = tx.amount := by
  unfold written
  split
  · exact ⟨rfl, rfl, rfl⟩
  · exact updatedBy_keeps _ tx

@[simp] theorem written_nil (tx : Transaction) :
    written lower categories ([] : List (Transaction × α)) tx = tx := rfl

theorem written_unselected {tx : Transaction}
    (unselected : ∀ entry ∈ selected, entry.1.id ≠ tx.id) :
    written lower categories selected tx = tx := by
  have nothing : (selected.find? fun entry => entry.1.id = tx.id) = none := by
    simpa using unselected
  rw [written, nothing]

theorem written_cons (entry : Transaction × α) (rest : List (Transaction × α)) (tx : Transaction) :
    written lower categories (entry :: rest) tx =
      if entry.1.id = tx.id then updatedBy lower categories entry tx
      else written lower categories rest tx := by
  by_cases same : entry.1.id = tx.id <;> simp [written, same]

theorem written_selected {entry : Transaction × α}
    (distinct : (selected.map fun entry => entry.1.id).Nodup) (member : entry ∈ selected) :
    written lower categories selected entry.1 = updatedBy lower categories entry entry.1 := by
  induction selected with
  | nil => cases member
  | cons head rest ih =>
    obtain ⟨apart, restDistinct⟩ := List.nodup_cons.mp distinct
    rw [written_cons]
    rcases List.mem_cons.mp member with rfl | later
    · rw [if_pos rfl]
    · have differs : head.1.id ≠ entry.1.id := by
        intro same
        exact apart (List.mem_map.mpr ⟨entry, later, same.symm⟩)
      rw [if_neg differs]
      exact ih restDistinct later

theorem attempt_written {settings : Settings} {store : FireflyStore} {entry : Transaction × α}
    (known : store.knows entry.1.id = true) :
    let next := (attempt settings .reliable store (.ok entry)).1
    next.records = store.records.map (written settings.lower store.categories [entry]) ∧
      next.categories = store.categories := by
  intro next
  rcases @attempt_reliable α _ settings store entry.1 entry.2 with
    ⟨payload, built, -, replaced⟩ | ⟨unbuilt, failure, refused⟩
  · have nextEq : next = store.replace entry.1.id payload := congrArg Prod.fst replaced
    rw [nextEq]
    refine ⟨List.map_congr_left fun tx _ => ?_, rfl⟩
    by_cases same : tx.id = entry.1.id
    · simp [written_cons, same, updatedBy, built]
    · simp [written_cons, same, Ne.symm same]
  · have nextEq : next = store := congrArg Prod.fst refused
    have unchanged : ∀ tx, written settings.lower store.categories [entry] tx = tx := by
      intro tx
      cases built : Evidence.buildTxUpdate settings.lower entry.2 entry.1 with
      | error reason => simp [written_cons, updatedBy, built]
      | ok payload => simp [unbuilt payload built] at known
    rw [nextEq, List.map_congr_left fun tx _ => unchanged tx, List.map_id']
    exact ⟨rfl, rfl⟩

theorem attemptAll_written {settings : Settings} {store : FireflyStore}
    (distinct : (selected.map fun entry => entry.1.id).Nodup)
    (known : ∀ entry ∈ selected, store.knows entry.1.id = true) :
    let last := (attemptAll settings .reliable store (selected.map .ok)).1
    last.records = store.records.map (written settings.lower store.categories selected) ∧
      last.categories = store.categories := by
  induction selected generalizing store with
  | nil =>
    intro last
    rw [List.map_congr_left fun tx _ => written_nil tx, List.map_id']
    exact ⟨rfl, rfl⟩
  | cons entry rest ih =>
    obtain ⟨apart, restDistinct⟩ := List.nodup_cons.mp distinct
    intro last
    have first := @attempt_written α _ settings store entry (known entry (by simp))
    have stillKnown : ∀ other ∈ rest,
        (attempt settings .reliable store (.ok entry)).1.knows other.1.id = true := by
      intro other member
      rw [attempt_knows]
      exact known other (by simp [member])
    have later := ih restDistinct stillKnown
    rw [first.1, first.2, List.map_map] at later
    refine ⟨later.1.trans (List.map_congr_left fun tx _ => ?_), later.2⟩
    rw [Function.comp_apply, written_cons, written_cons]
    by_cases same : entry.1.id = tx.id
    · rw [if_pos same, if_pos same]
      apply written_unselected
      intro other member otherSame
      rw [(updatedBy_keeps entry tx).1, ← same] at otherSame
      exact apart (List.mem_map.mpr ⟨other, member, otherSame⟩)
    · rw [if_neg same, if_neg same]
      rw [written_nil]

end Written

theorem get?_rewritten {store next : FireflyStore} {rewrite : Transaction → Transaction}
    (id : ∀ tx, (rewrite tx).id = tx.id) (rewritten : next.records = store.records.map rewrite)
    (txId : Int) : next.get? txId = (store.get? txId).map rewrite := by
  rw [FireflyStore.get?, FireflyStore.get?, rewritten, List.find?_map]
  simp only [Function.comp_def, id]

theorem get?_of_mem {store : FireflyStore} {tx : Transaction} (member : tx ∈ store.records) :
    store.get? tx.id = some tx := by
  cases found : store.get? tx.id with
  | none =>
    have differs := List.find?_eq_none.mp found tx member
    simp at differs
  | some other =>
    have otherMember := List.mem_of_find?_eq_some found
    have same : other.id = tx.id := by simpa using List.find?_some found
    rw [List.inj_on_of_nodup_map store.distinct otherMember member same]

def LooksAtDateAndAmount (α : Type) [Matchable α] : Prop :=
  ∀ (item : α) (tx other : Transaction), tx.date = other.date → tx.amount = other.amount →
    Matchable.compare item tx = Matchable.compare item other

theorem orderPayment_looks : LooksAtDateAndAmount AllegroOrderPayment := by
  intro payment tx other sameDate sameAmount
  simp only [Matchable.compare, OrderPayment.compare, sameDate, sameAmount]

section Preview

variable {α : Type} [Matchable α] {settings : Settings} {store : FireflyStore}
  {candidates : List α} {filterText : String} {tagDone : TxTag} {firstDate lastDate : Date}

def fetchedTxs (settings : Settings) (store : FireflyStore) (filterText : String)
    (firstDate lastDate : Date) : List Transaction :=
  filterByDescription settings.lower (store.fetchTransactions (some firstDate) (some lastDate))
    filterText false

theorem fetchedTxs_sublist :
    (fetchedTxs settings store filterText firstDate lastDate).Sublist store.records :=
  List.filter_sublist.trans List.filter_sublist

theorem fetchedTxs_ids :
    ((fetchedTxs settings store filterText firstDate lastDate).map Transaction.id).Nodup :=
  store.distinct.sublist (fetchedTxs_sublist.map Transaction.id)

theorem matchWithUnmatched_window
    (window : fetchWindow settings candidates = some (firstDate, lastDate)) :
    matchWithUnmatched settings store candidates filterText tagDone =
      matchTransactions (fetchedTxs settings store filterText firstDate lastDate) candidates tagDone := by
  have serves : store.reader.Serves store.records := fun _ _ => rfl
  rw [← matchFrom_reader, matchFrom_window serves window, fetchedTxs, ← filterByDescription_filter]
  rfl

theorem matchWithUnmatched_noWindow (noWindow : fetchWindow settings candidates = none) :
    ∃ failure, (∀ message statusCode, failure ≠ .fireflyServiceError message statusCode) ∧
      ∀ other : FireflyStore,
        matchWithUnmatched settings other candidates filterText tagDone = .error failure := by
  unfold fetchWindow at noWindow
  unfold matchWithUnmatched
  cases dates : candidates.map Matchable.date with
  | nil => exact ⟨_, by simp, fun _ => rfl⟩
  | cons first rest =>
    simp only [dates, Option.map_eq_none_iff] at noWindow
    exact ⟨.overflowError "date value out of range", by simp, fun _ => by simp only [noWindow]⟩

structure KeepsView (settings : Settings) (filterText : String) (records : List Transaction)
    (rewrite : Transaction → Transaction) : Prop where
  id : ∀ tx, (rewrite tx).id = tx.id
  date : ∀ tx, (rewrite tx).date = tx.date
  amount : ∀ tx, (rewrite tx).amount = tx.amount
  description : ∀ tx ∈ records,
    OccursIn (settings.lower filterText) (settings.lower (rewrite tx).description) ↔
      OccursIn (settings.lower filterText) (settings.lower tx.description)

variable {rewrite : Transaction → Transaction}

theorem fetchedTxs_rewritten {next : FireflyStore}
    (keeps : KeepsView settings filterText store.records rewrite)
    (rewritten : next.records = store.records.map rewrite) :
    fetchedTxs settings next filterText firstDate lastDate =
      (fetchedTxs settings store filterText firstDate lastDate).map rewrite := by
  simp only [fetchedTxs, FireflyStore.fetchTransactions, filterByDescription, rewritten,
    List.filter_map, List.filter_filter]
  congr 1
  apply List.filter_congr
  intro tx member
  have sameRange : FireflyStore.inRange (some firstDate) (some lastDate) (rewrite tx) =
      FireflyStore.inRange (some firstDate) (some lastDate) tx := by
    simp only [FireflyStore.inRange, keeps.date tx]
  simp [sameRange, keeps.description tx member]

theorem matchTransactions_rewritten {txs : List Transaction} {results : List (MatchResult α)}
    {unmatched : List α} (looks : LooksAtDateAndAmount α)
    (date : ∀ tx, (rewrite tx).date = tx.date) (amount : ∀ tx, (rewrite tx).amount = tx.amount)
    (matched : matchTransactions txs candidates tagDone = .ok (results, unmatched)) :
    matchTransactions (txs.map rewrite) candidates tagDone =
      .ok ((txs.map rewrite).map (matchResult candidates tagDone), unmatched) := by
  have same : ∀ (item : α) (tx : Transaction),
      Matchable.compare item (rewrite tx) = Matchable.compare item tx :=
    fun item tx => looks item (rewrite tx) tx (date tx) (amount tx)
  have accepted : ∀ (item : α) (tx : Transaction), accepts item (rewrite tx) = accepts item tx := by
    intro item tx
    rw [accepts, accepts, same]
  have decided := matchTransactions_decided matched
  have original := @matchTransactions_eq α _ txs candidates tagDone decided
  have again := @matchTransactions_eq α _ (txs.map rewrite) candidates tagDone (by
    intro tx member item listed
    obtain ⟨old, oldMember, rfl⟩ := List.mem_map.mp member
    rw [same, accepted]
    exact decided old oldMember item listed)
  rw [matched] at original
  have sameUnmatched : unmatched =
      candidates.filter fun item => txs.all fun tx => !accepts item tx :=
    congrArg Prod.snd (Except.ok.inj original)
  rw [again, sameUnmatched]
  simp only [List.all_map, Function.comp_def, accepted]

end Preview

section Selected

variable {α : Type} [Matchable α] {candidates : List α} {tagDone : TxTag} {txs : List Transaction}
  {pick : List (MatchResult α) → List (MatchResult α)}

-- A limit on the number of results: it takes some of them, whatever they are.
structure Limits (pick : List (MatchResult α) → List (MatchResult α)) : Prop where
  sublist : ∀ results, (pick results).Sublist results
  map : ∀ (rewrite : MatchResult α → MatchResult α) results,
    pick (results.map rewrite) = (pick results).map rewrite

def selectedOf (pick : List (MatchResult α) → List (MatchResult α)) (candidates : List α)
    (tagDone : TxTag) (txs : List Transaction) : List (Transaction × α) :=
  selections (pick (singleMatches (txs.map (matchResult candidates tagDone))))

theorem mem_selectedOf (limits : Limits pick) {entry : Transaction × α}
    (member : entry ∈ selectedOf pick candidates tagDone txs) :
    entry.1 ∈ txs ∧ (candidates.filter fun item => accepts item entry.1) = [entry.2] := by
  obtain ⟨result, listed, sameTx, single⟩ := mem_selections_single (limits.sublist _).subset member
  obtain ⟨tx, fetched, rfl⟩ := List.mem_map.mp listed
  rw [← sameTx]
  exact ⟨fetched, single⟩

theorem selectedOf_offered (limits : Limits pick) {entry : Transaction × α}
    (member : entry ∈ selectedOf pick candidates tagDone txs) : entry.2 ∈ candidates := by
  have kept : entry.2 ∈ candidates.filter fun item => accepts item entry.1 := by
    rw [(mem_selectedOf limits member).2]
    exact List.mem_singleton_self _
  exact (List.mem_filter.mp kept).1

theorem selectedOf_txs (limits : Limits pick) :
    ((selectedOf pick candidates tagDone txs).map Prod.fst).Sublist txs := by
  have single : ∀ result ∈ pick (singleMatches (txs.map (matchResult candidates tagDone))),
      ∃ candidate, result.txMatches = [candidate] := by
    intro result picked
    exact (mem_singleMatches.mp ((limits.sublist _).subset picked)).2
  rw [selectedOf, selections_map_tx single]
  have listed : (txs.map (matchResult candidates tagDone)).map MatchResult.tx = txs := by
    simp [Function.comp_def, matchResult]
  have picked := ((limits.sublist (singleMatches (txs.map (matchResult candidates tagDone)))).trans
    List.filter_sublist).map MatchResult.tx
  rwa [listed] at picked

theorem selectedOf_ids (limits : Limits pick) (distinct : (txs.map Transaction.id).Nodup) :
    ((selectedOf pick candidates tagDone txs).map fun entry => entry.1.id).Nodup := by
  have ids := (@selectedOf_txs α _ candidates tagDone txs pick limits).map Transaction.id
  rw [List.map_map] at ids
  exact distinct.sublist ids

theorem selectedOf_rewritten (limits : Limits pick) (looks : LooksAtDateAndAmount α)
    {rewrite : Transaction → Transaction} (date : ∀ tx, (rewrite tx).date = tx.date)
    (amount : ∀ tx, (rewrite tx).amount = tx.amount) :
    selectedOf pick candidates tagDone (txs.map rewrite) =
      (selectedOf pick candidates tagDone txs).map fun entry => (rewrite entry.1, entry.2) := by
  let rewriteResult (result : MatchResult α) : MatchResult α :=
    ⟨rewrite result.tx, result.txMatches, processingStatus tagDone (rewrite result.tx)⟩
  have results : (txs.map rewrite).map (matchResult candidates tagDone) =
      (txs.map (matchResult candidates tagDone)).map rewriteResult := by
    rw [List.map_map, List.map_map]
    apply List.map_congr_left
    intro tx _
    have accepted : ∀ item : α, accepts item (rewrite tx) = accepts item tx := by
      intro item
      rw [accepts, accepts, looks item (rewrite tx) tx (date tx) (amount tx)]
    simp only [Function.comp_apply, matchResult, rewriteResult, accepted]
  have singles : ∀ some : List (MatchResult α),
      singleMatches (some.map rewriteResult) = (singleMatches some).map rewriteResult := by
    intro some
    rw [singleMatches, singleMatches, List.filter_map]
    rfl
  unfold selectedOf
  rw [results, singles, limits.map]
  simp only [selections, List.filterMap_map, List.map_filterMap]
  apply List.filterMap_congr
  intro result _
  cases first : result.txMatches.head? <;> simp [rewriteResult, first]

end Selected

section Again

variable {α : Type} [Evidence α] {lower : String → String} {categories : List Category}
  {selected : List (Transaction × α)}

def reselected (lower : String → String) (categories : List Category)
    (selected : List (Transaction × α)) : List (Transaction × α) :=
  selected.map fun entry => (written lower categories selected entry.1, entry.2)

theorem reselected_ids :
    (reselected lower categories selected).map (fun entry => entry.1.id) =
      selected.map fun entry => entry.1.id := by
  rw [reselected, List.map_map]
  apply List.map_congr_left
  intro entry _
  exact (written_keeps entry.1).1

theorem written_again_unselected {tx : Transaction}
    (unselected : ∀ entry ∈ selected, entry.1.id ≠ tx.id) :
    written lower categories (reselected lower categories selected) tx = tx := by
  apply written_unselected
  intro entry member
  have named : entry.1.id ∈ (reselected lower categories selected).map fun entry => entry.1.id :=
    List.mem_map.mpr ⟨entry, member, rfl⟩
  rw [reselected_ids] at named
  obtain ⟨old, oldMember, same⟩ := List.mem_map.mp named
  rw [← same]
  exact unselected old oldMember

theorem written_again_selected {entry : Transaction × α}
    (distinct : (selected.map fun entry => entry.1.id).Nodup) (member : entry ∈ selected) :
    let once := updatedBy lower categories entry entry.1
    written lower categories (reselected lower categories selected)
        (written lower categories selected entry.1) =
      updatedBy lower categories (once, entry.2) once := by
  intro once
  have first : written lower categories selected entry.1 = once := written_selected distinct member
  have again : (once, entry.2) ∈ reselected lower categories selected :=
    List.mem_map.mpr ⟨entry, member, by rw [first]⟩
  have againDistinct :
      ((reselected lower categories selected).map fun entry => entry.1.id).Nodup := by
    rwa [reselected_ids]
  rw [first]
  exact written_selected againDistinct again

end Again

section TwoRounds

variable {α : Type} [Matchable α] [Evidence α] {settings : Settings} {candidates : List α}
  {filterText : String} {tagDone : TxTag} {store : FireflyStore}
  {pick : List (MatchResult α) → List (MatchResult α)}

structure FirstRound (settings : Settings) (store : FireflyStore) (candidates : List α)
    (filterText : String) (tagDone : TxTag) (pick : List (MatchResult α) → List (MatchResult α))
    (results : List (MatchResult α)) (txs : List Transaction) : Prop where
  fetched : txs.Sublist store.records
  results : results = txs.map (matchResult candidates tagDone)
  distinct : (txs.map Transaction.id).Nodup
  written :
    let selected := selectedOf pick candidates tagDone txs
    let next := (attemptAll settings .reliable store (selected.map .ok)).1
    next.records = store.records.map (written settings.lower store.categories selected) ∧
      next.categories = store.categories

theorem selectedOf_written (limits : Limits pick) {txs : List Transaction}
    (fetched : txs.Sublist store.records) (distinct : (txs.map Transaction.id).Nodup) :
    let selected := selectedOf pick candidates tagDone txs
    let next := (attemptAll settings .reliable store (selected.map .ok)).1
    next.records = store.records.map (written settings.lower store.categories selected) ∧
      next.categories = store.categories := by
  intro selected next
  apply attemptAll_written
  · exact selectedOf_ids limits distinct
  · intro entry member
    have stored := fetched.subset (mem_selectedOf limits member).1
    rw [FireflyStore.knows, get?_of_mem stored]
    rfl

theorem firstRound (limits : Limits pick) {results : List (MatchResult α)} {unmatched : List α}
    (matched : matchWithUnmatched settings store candidates filterText tagDone =
      .ok (results, unmatched)) :
    ∃ firstDate lastDate, fetchWindow settings candidates = some (firstDate, lastDate) ∧
      FirstRound settings store candidates filterText tagDone pick results
        (fetchedTxs settings store filterText firstDate lastDate) := by
  cases window : fetchWindow settings candidates with
  | none =>
    obtain ⟨failure, -, raised⟩ :=
      @matchWithUnmatched_noWindow α _ settings candidates filterText tagDone window
    rw [raised] at matched
    cases matched
  | some range =>
    obtain ⟨firstDate, lastDate⟩ := range
    rw [matchWithUnmatched_window window] at matched
    exact ⟨firstDate, lastDate, rfl, fetchedTxs_sublist, matchTransactions_results matched,
      fetchedTxs_ids, selectedOf_written limits fetchedTxs_sublist fetchedTxs_ids⟩

theorem secondRound (limits : Limits pick) (looks : LooksAtDateAndAmount α)
    {results : List (MatchResult α)} {unmatched : List α} {firstDate lastDate : Date}
    (matched : matchWithUnmatched settings store candidates filterText tagDone =
      .ok (results, unmatched))
    (window : fetchWindow settings candidates = some (firstDate, lastDate)) {next : FireflyStore}
    (sameCategories : next.categories = store.categories) :
    let txs := fetchedTxs settings store filterText firstDate lastDate
    let selected := selectedOf pick candidates tagDone txs
    let rewrite := written settings.lower store.categories selected
    KeepsView settings filterText store.records rewrite →
    next.records = store.records.map rewrite →
    let again := reselected settings.lower store.categories selected
    let results' := (txs.map rewrite).map (matchResult candidates tagDone)
    matchWithUnmatched settings next candidates filterText tagDone = .ok (results', unmatched) ∧
      selections (pick (singleMatches results')) = again ∧
      (results'.map fun result => result.tx.id).Nodup ∧
      (attemptAll settings .reliable next (again.map .ok)).1.records =
        store.records.map fun tx => written settings.lower store.categories again (rewrite tx) := by
  intro txs selected rewrite keeps rewritten again results'
  have refetched : fetchedTxs settings next filterText firstDate lastDate = txs.map rewrite :=
    fetchedTxs_rewritten keeps rewritten
  rw [matchWithUnmatched_window window] at matched
  have rematched : matchWithUnmatched settings next candidates filterText tagDone =
      .ok (results', unmatched) := by
    rw [matchWithUnmatched_window window, refetched]
    exact matchTransactions_rewritten looks keeps.date keeps.amount matched
  have reselects : selectedOf pick candidates tagDone (txs.map rewrite) = again :=
    selectedOf_rewritten limits looks keeps.date keeps.amount
  have distinct : ((txs.map rewrite).map Transaction.id).Nodup := by
    rw [← refetched]
    exact fetchedTxs_ids
  refine ⟨rematched, reselects, ?_, ?_⟩
  · simpa [results', Function.comp_def, matchResult] using distinct
  · have fetched : (txs.map rewrite).Sublist next.records := refetched ▸ fetchedTxs_sublist
    have last := (@selectedOf_written α _ _ settings candidates tagDone next pick limits _ fetched
      distinct).1
    rw [reselects, rewritten, sameCategories, List.map_map] at last
    exact last

end TwoRounds

end FireflyToolkit.FireflyEnrichmentService
