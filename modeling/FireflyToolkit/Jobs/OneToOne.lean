import FireflyToolkit.Allegro.AutoApply
import FireflyToolkit.Blik.Application
import FireflyToolkit.Domain.OneToOne

set_option autoImplicit false

namespace FireflyToolkit

open OrderedDict PyBuiltins Transition

namespace Blik

theorem limitTo_map {β γ : Type} (function : β → γ) (limit : Option Int) (items : List β) :
    limitTo limit (items.map function) = (limitTo limit items).map function := by
  cases limit with
  | none => rfl
  | some count => exact sliceTo_map function count items

theorem limitTo_sublist {β : Type} (limit : Option Int) (items : List β) :
    (limitTo limit items).Sublist items := by
  cases limit with
  | none => exact List.Sublist.refl items
  | some count => exact sliceTo_sublist count items

def autoTransactions (records : List BankRecord) (limit : Option Int) (txs : List Transaction) :
    List Transaction :=
  limitTo limit (txs.filter fun tx => FitsOne (tx, records))

theorem startAutoApply_ok {digest : String → String} {store next : StateStore} {encodedId : String}
    {limit : Option Int} {jobId : UUID} {now : Time} {task : RunningJob}
    (started : startAutoApplySingleMatches digest store encodedId limit jobId now =
      .ok (next, task)) :
    (selections (limitTo limit (singleMatches (store.getMatches encodedId)))).mapM
      (decisionOf digest) = .ok task.decisions := by
  unfold startAutoApplySingleMatches at started
  by_cases nothing : store.getMatches encodedId = []
  · simp [nothing] at started
  · rw [if_neg nothing] at started
    obtain ⟨decisions, decided, begun⟩ := bind_eq_ok.mp started
    rw [decided, (startApplyJob_ok.mp begun).2.2.1]

theorem selections_oneToOne_iff (txs : List Transaction) (records : List BankRecord)
    (limit : Option Int) :
    OneToOne id (selections (limitTo limit
        (singleMatches (txs.map (matchResult records .blik_done))))) ↔
      ∀ left ∈ autoTransactions records limit txs, ∀ right ∈ autoTransactions records limit txs,
        left.id ≠ right.id → ¬ SameDayAndAmount left right := by
  have single : ∀ tx ∈ autoTransactions records limit txs, FitsOne (tx, records) = true := by
    intro tx member
    simpa using List.of_mem_filter ((limitTo_sublist limit _).subset member)
  have listed : txs.map (matchResult records .blik_done) =
      (txs.map fun tx => (tx, records)).map (Listing.result .blik_done) := by
    rw [List.map_map]
    rfl
  rw [listed, singleMatches_results, limitTo_map, List.filter_map, limitTo_map,
    ← apart_records_iff single]
  apply oneToOne_iff_apart
  intro listing member
  obtain ⟨tx, selected, rfl⟩ := List.mem_map.mp member
  exact single tx selected

end Blik

namespace Allegro

theorem limitTo_map {β γ : Type} (function : β → γ) (limit : Option Int) (items : List β) :
    limitTo limit (items.map function) = (limitTo limit items).map function := by
  cases limit with
  | none => rfl
  | some count =>
    simp only [limitTo]
    split_ifs
    · rfl
    · exact sliceTo_map function count items

theorem limitTo_sublist {β : Type} (limit : Option Int) (items : List β) :
    (limitTo limit items).Sublist items := by
  cases limit with
  | none => exact List.Sublist.refl items
  | some count =>
    simp only [limitTo]
    split_ifs
    · exact List.Sublist.refl items
    · exact sliceTo_sublist count items

def listings (store : StateStore) (secretId : UUID) : List (Listing AllegroOrderPayment) :=
  (store.pages secretId).flatMap fun entry =>
    entry.results.map fun result => (result.tx, entry.payments)

def autoListings (store : StateStore) (secretId : UUID) (limit : Option Int) :
    List (Listing AllegroOrderPayment) :=
  limitTo limit ((listings store secretId).filter FitsOne)

theorem getAllMatches_listings {store : StateStore} {secretId : UUID}
    (previewed : AllPreviewed store) :
    store.getAllMatches secretId = (listings store secretId).map (Listing.result .allegro_done) := by
  rw [listings, List.map_flatMap, StateStore.getAllMatches]
  apply List.flatMap_congr
  intro entry page
  obtain ⟨txs, -, same⟩ := previewed secretId entry page
  rw [same, List.map_map, List.map_map]
  rfl

theorem selections_oneToOne_iff {store : StateStore} {secretId : UUID}
    (previewed : AllPreviewed store) (limit : Option Int) :
    OneToOne AllegroOrderPayment.externalId
        (selections (limitTo limit (singleMatches (store.getAllMatches secretId)))) ↔
      Apart AllegroOrderPayment.externalId (autoListings store secretId limit) := by
  rw [getAllMatches_listings previewed, singleMatches_results, limitTo_map]
  apply oneToOne_iff_apart
  intro listing member
  exact List.of_mem_filter ((limitTo_sublist limit _).subset member)

end Allegro

-- A row is identified by its values: a transaction that equal rows fit has several candidates.
theorem autoApply_oneToOne_iff (limit : Option Int) (jobId : UUID) (now : Time) :
    (∀ (digest : String → String) (txs : List Transaction) (records unmatched : List BankRecord)
      (results : List (MatchResult BankRecord)) (store next : Blik.StateStore) (encodedId : String)
      (task : Blik.RunningJob),
      matchTransactions txs records .blik_done = .ok (results, unmatched) →
      store.getMatches encodedId = results →
      Blik.startAutoApplySingleMatches digest store encodedId limit jobId now = .ok (next, task) →
      let selected := selections (Blik.limitTo limit (singleMatches results))
      selected.mapM (Blik.decisionOf digest) = .ok task.decisions ∧
        (OneToOne id selected ↔
          ∀ left ∈ Blik.autoTransactions records limit txs,
            ∀ right ∈ Blik.autoTransactions records limit txs,
              left.id ≠ right.id → ¬ SameDayAndAmount left right)) ∧
    (∀ (settings : Settings) (labels : List Allegro.CacheLabel) (store next : Allegro.StateStore)
      (secretId : UUID) (task : Allegro.RunningJob),
      (Allegro.cacheMachine settings).run Allegro.StateStore.initial labels = some store →
      Allegro.startAutoApplySingleMatches store secretId limit jobId now = .ok (next, task) →
      let selected :=
        selections (Allegro.limitTo limit (singleMatches (store.getAllMatches secretId)))
      task.decisions = selected.map Allegro.decisionOf ∧
        (OneToOne AllegroOrderPayment.externalId selected ↔
          Apart AllegroOrderPayment.externalId (Allegro.autoListings store secretId limit))) := by
  constructor
  · intro digest txs records unmatched results store next encodedId task matched cached started
    have decisions := Blik.startAutoApply_ok started
    rw [cached] at decisions
    rw [matchTransactions_results matched] at decisions ⊢
    exact ⟨decisions, Blik.selections_oneToOne_iff txs records limit⟩
  · intro settings labels store next secretId task reached started
    exact ⟨Allegro.startAutoApply_ok started,
      Allegro.selections_oneToOne_iff (Allegro.run_previewed reached) limit⟩

namespace Sample

def first : Transaction := purchase 1 twelfth (cents 1000)

def second : Transaction := purchase 2 twelfth (cents 1000)

def dearer : Transaction := purchase 3 twelfth (cents 2000)

def row : BankRecord := Blik.Sample.row "order" twelfth (cents 1000)

def dearerRow : BankRecord := Blik.Sample.row "order" twelfth (cents 2000)

def sharedResults : List (MatchResult BankRecord) := [⟨first, [row], .new⟩, ⟨second, [row], .new⟩]

def ownResults : List (MatchResult BankRecord) := [⟨first, [row], .new⟩, ⟨dearer, [dearerRow], .new⟩]

def blikStore (results : List (MatchResult BankRecord)) : Blik.StateStore :=
  Blik.StateStore.initial.putMatches "file" results

def previewBoth : Allegro.CacheLabel :=
  .previewPage Allegro.Sample.secret Allegro.PageRequest.default [Allegro.Sample.early]
    ⟨[first, second], [], by decide⟩

def bothStore : Allegro.StateStore := Allegro.cacheStep settings Allegro.StateStore.initial previewBoth

def previewOwn : Allegro.CacheLabel :=
  .previewPage Allegro.Sample.secret Allegro.PageRequest.default
    [Allegro.Sample.early, Allegro.Sample.late] ⟨[first, dearer], [], by decide⟩

def ownStore : Allegro.StateStore := Allegro.cacheStep settings Allegro.StateStore.initial previewOwn

end Sample

theorem autoApply_oneToOne_own :
    (∀ digest : String → String, ∃ next task,
      Blik.startAutoApplySingleMatches digest (Sample.blikStore Sample.ownResults) "file" none ⟨9⟩ 0 =
          .ok (next, task) ∧
        task.decisions.map Blik.MatchDecision.transactionId = [1, 3] ∧
        OneToOne id (selections (singleMatches Sample.ownResults))) ∧
    OneToOne AllegroOrderPayment.externalId
      (selections (singleMatches (Sample.ownStore.getAllMatches Allegro.Sample.secret))) := by
  constructor
  · intro digest
    have matched : matchTransactions [Sample.first, Sample.dearer] [Sample.row, Sample.dearerRow]
        .blik_done = .ok (Sample.ownResults, []) := by decide
    refine ⟨_, _, rfl, rfl, ?_⟩
    refine ((autoApply_oneToOne_iff none ⟨9⟩ 0).1 digest _ _ _ _ (Sample.blikStore Sample.ownResults) _
      "file" _ matched rfl rfl).2.mpr ?_
    unfold SameDayAndAmount
    decide
  · have reached : (Allegro.cacheMachine Sample.settings).run Allegro.StateStore.initial
        [Sample.previewOwn] = some Sample.ownStore := rfl
    refine ((autoApply_oneToOne_iff none ⟨9⟩ 0).2 _ _ _ _ Allegro.Sample.secret
      (Allegro.Sample.autoJob Sample.ownStore [⟨"early", 1⟩, ⟨"late", 3⟩]).2 reached rfl).2.mpr ?_
    unfold Apart
    decide

-- The one candidate of the first purchase is the one candidate of the second.
theorem autoApply_shares_candidate :
    matchTransactions [Sample.first, Sample.second] [Sample.row] .blik_done =
        .ok (Sample.sharedResults, []) ∧
      (∀ digest : String → String, ∃ next task,
        Blik.startAutoApplySingleMatches digest (Sample.blikStore Sample.sharedResults) "file" none
            ⟨9⟩ 0 = .ok (next, task) ∧
          task.decisions.map Blik.MatchDecision.transactionId = [1, 2]) ∧
      ¬ OneToOne id (selections (singleMatches Sample.sharedResults)) ∧
      (Allegro.cacheMachine Sample.settings).run Allegro.StateStore.initial [Sample.previewBoth] =
        some Sample.bothStore ∧
      ¬ OneToOne AllegroOrderPayment.externalId
        (selections (singleMatches (Sample.bothStore.getAllMatches Allegro.Sample.secret))) := by
  refine ⟨by decide, fun digest => ⟨_, _, rfl, rfl⟩, ?_, rfl, ?_⟩
  · unfold OneToOne
    decide
  · unfold OneToOne
    decide

end FireflyToolkit
