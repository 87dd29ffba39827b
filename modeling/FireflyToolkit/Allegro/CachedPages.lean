import FireflyToolkit.Allegro.ApplyJob
import FireflyToolkit.Shared.Transition

set_option autoImplicit false

namespace FireflyToolkit.Allegro

open OrderedDict PyBuiltins Transition

inductive CacheLabel
  | previewPage (secretId : UUID) (page : PageRequest) (payments : List AllegroOrderPayment)
      (firefly : FireflyStore)
  | clearCachedPage (secretId : UUID) (page : PageRequest)
  | clearCachedSecret (secretId : UUID)
  | clearAll

-- A preview that raises stores nothing.
def cacheStep (settings : Settings) (store : StateStore) : CacheLabel → StateStore
  | .previewPage secretId page payments firefly =>
      match previewPage settings store firefly secretId page payments with
      | .ok (next, _) => next
      | .error _ => store
  | .clearCachedPage secretId page => (store.invalidatePage secretId page).1
  | .clearCachedSecret secretId => (store.invalidateSecret secretId).1
  | .clearAll => store.invalidateAll

def cacheMachine (settings : Settings) : Machine StateStore CacheLabel :=
  ⟨fun store label => some (cacheStep settings store label)⟩

def Previewed (entry : PageMatchCacheEntry) : Prop :=
  ∃ txs : List Transaction, (txs.map Transaction.id).Nodup ∧
    entry.results = txs.map (matchResult entry.payments .allegro_done)

def AllPreviewed (store : StateStore) : Prop :=
  ∀ secretId, ∀ entry ∈ store.pages secretId, Previewed entry

theorem cacheStep_previewed (settings : Settings) (store next : StateStore) (label : CacheLabel)
    (previewed : AllPreviewed store)
    (stepped : (cacheMachine settings).step store label = some next) : AllPreviewed next := by
  have same : cacheStep settings store label = next := Option.some.inj stepped
  subst same
  intro other entry member
  cases label with
  | previewPage secretId page payments firefly =>
    simp only [cacheStep] at member
    split at member
    next stored preview shown =>
      obtain ⟨txs, fetched, rfl⟩ := previewPage_ok shown
      rcases StateStore.mem_pages_putPageMatches member with rfl | older
      · exact ⟨txs, firefly.distinct.sublist (fetched.map _), rfl⟩
      · exact previewed other entry older
    next => exact previewed other entry member
  | clearCachedPage secretId page =>
    exact previewed other entry (StateStore.mem_pages_invalidatePage member)
  | clearCachedSecret secretId =>
    exact previewed other entry (StateStore.mem_pages_invalidateSecret member)
  | clearAll => cases member

theorem run_previewed {settings : Settings} {labels : List CacheLabel} {store : StateStore}
    (reached : (cacheMachine settings).run StateStore.initial labels = some store) :
    AllPreviewed store :=
  Machine.invariant_of_run
    (fun middle label next => cacheStep_previewed settings middle next label)
    (by intro secretId entry member; cases member) reached

theorem Previewed.ids_nodup {entry : PageMatchCacheEntry} (previewed : Previewed entry) :
    (entry.results.map fun result => result.tx.id).Nodup := by
  obtain ⟨txs, distinct, same⟩ := previewed
  rw [same, List.map_map]
  exact distinct

def Lists (entry : PageMatchCacheEntry) (txId : Int) : Prop :=
  ∃ result ∈ entry.results, result.tx.id = txId

def Offers (entry : PageMatchCacheEntry) (decision : MatchDecision)
    (payment : AllegroOrderPayment) : Prop :=
  ∃ result ∈ entry.results, result.tx.id = decision.transactionId ∧
    payment ∈ result.txMatches ∧ payment.externalShortId = decision.paymentId

def Shown (store : StateStore) (secretId : UUID) (decision : MatchDecision)
    (payment : AllegroOrderPayment) : Prop :=
  ∃ entry ∈ store.pages secretId, Offers entry decision payment

def LastPageOffers (store : StateStore) (secretId : UUID) (decision : MatchDecision) : Prop :=
  ∃ before entry after, store.pages secretId = before ++ entry :: after ∧
    (∃ payment, Offers entry decision payment) ∧
      ∀ later ∈ after, ¬ Lists later decision.transactionId

def Cached (store : StateStore) (secretId : UUID) (payment : AllegroOrderPayment) : Prop :=
  ∃ entry ∈ store.pages secretId, ∃ result ∈ entry.results, payment ∈ result.txMatches

def ShortIdsIdentify (store : StateStore) (secretId : UUID) : Prop :=
  ∀ payment other, Cached store secretId payment → Cached store secretId other →
    payment.externalShortId = other.externalShortId → payment.externalId = other.externalId

structure AppliesShown (run : JobRun) (place : Nat) (decision : MatchDecision)
    (payment : AllegroOrderPayment) : Prop where
  called : ∃ tx selected, run.calls[place]? = some (some (tx, selected)) ∧
    tx.id = decision.transactionId ∧ selected.externalShortId = decision.paymentId ∧
    selected.externalId = payment.externalId
  reported : ∃ outcome, run.job.results[place]? = some outcome ∧
    outcome.transactionId = decision.transactionId ∧
    outcome.reason ≠ some (transactionNotFoundText decision.transactionId) ∧
    outcome.reason ≠ some (invalidSelectionText decision)

def StartedJobApplies (settings : Settings) (client : FireflyClient) (store : StateStore)
    (secretId : UUID) (decisions : List MatchDecision) (place : Nat) (decision : MatchDecision)
    (payment : AllegroOrderPayment) (jobId : UUID) (startedAt : Time) (firefly : FireflyStore)
    (finishedAt : Time) : Prop :=
  ∃ next task, startApplyJob store secretId decisions jobId startedAt = .ok (next, task) ∧
    AppliesShown (runApplyJob settings client task firefly finishedAt) place decision payment

theorem matchIndex_lastPage {before after : List PageMatchCacheEntry}
    {entry : PageMatchCacheEntry} {result : MatchResult AllegroOrderPayment}
    (previewed : Previewed entry) (listed : result ∈ entry.results)
    (last : ∀ later ∈ after, ¬ Lists later result.tx.id) :
    (matchIndex ((before ++ entry :: after).flatMap PageMatchCacheEntry.results)).get?
      result.tx.id = some result := by
  obtain ⟨first, second, split⟩ := List.append_of_mem listed
  have distinct := previewed.ids_nodup
  rw [split, List.map_append, List.map_cons, List.nodup_append] at distinct
  have unrepeated := (List.nodup_cons.mp distinct.2.1).1
  refine Dict.get?_indexBy_eq_some.mpr
    ⟨before.flatMap PageMatchCacheEntry.results ++ first,
      second ++ after.flatMap PageMatchCacheEntry.results, by simp [split], rfl, ?_⟩
  intro later member same
  rcases List.mem_append.mp member with onPage | onLater
  · exact unrepeated (List.mem_map.mpr ⟨later, onPage, same⟩)
  · obtain ⟨page, position, cached⟩ := List.mem_flatMap.mp onLater
    exact last page position ⟨later, cached, same⟩

theorem resolves_iff_lastPageOffers {store : StateStore} {secretId : UUID}
    (previewed : AllPreviewed store) {decision : MatchDecision}
    (listed : ∃ entry ∈ store.pages secretId, Lists entry decision.transactionId) :
    (∃ tx payment, resolveDecision (matchIndex (store.getAllMatches secretId)) decision =
        .ok (tx, payment)) ↔ LastPageOffers store secretId decision := by
  have lookup : ∀ {before entry after} {result : MatchResult AllegroOrderPayment},
      store.pages secretId = before ++ entry :: after → result ∈ entry.results →
        result.tx.id = decision.transactionId →
        (∀ later ∈ after, ¬ Lists later decision.transactionId) →
        (matchIndex (store.getAllMatches secretId)).get? decision.transactionId = some result := by
    intro before entry after result split member named last
    have cached : Previewed entry := previewed secretId entry (by simp [split])
    rw [StateStore.getAllMatches, split, ← named]
    exact matchIndex_lastPage cached member (named ▸ last)
  constructor
  · intro ⟨tx, payment, resolved⟩
    obtain ⟨before, entry, after, split, ⟨result, member, named⟩, last⟩ := exists_last listed
    obtain ⟨found, indexed, -, offered⟩ := resolveDecision_ok.mp resolved
    have same : found = result :=
      Option.some.inj (indexed.symm.trans (lookup split member named last))
    obtain ⟨first, second, matched, short, -⟩ := Dict.get?_indexBy_eq_some.mp offered
    exact ⟨before, entry, after, split,
      ⟨payment, result, member, named, by simp [← same, matched], short⟩, last⟩
  · intro ⟨before, entry, after, split, ⟨payment, result, member, named, candidate, short⟩, last⟩
    obtain ⟨found, -, offered, -⟩ :=
      @Dict.exists_get?_indexBy _ _ _ AllegroOrderPayment.externalShortId _ _ candidate
    exact ⟨result.tx, found, resolveDecision_ok.mpr
      ⟨result, lookup split member named last, rfl, short ▸ offered⟩⟩

theorem resolved_cached {store : StateStore} {secretId : UUID} {decision : MatchDecision}
    {tx : Transaction} {payment : AllegroOrderPayment}
    (resolved : resolveDecision (matchIndex (store.getAllMatches secretId)) decision =
      .ok (tx, payment)) : Cached store secretId payment := by
  obtain ⟨result, member, -, -, candidate, -⟩ := resolveDecision_names resolved
  obtain ⟨entry, page, listed⟩ := List.mem_flatMap.mp member
  exact ⟨entry, page, result, listed, candidate⟩

theorem startedJob_iff_resolves {settings : Settings} {client : FireflyClient} {store : StateStore}
    {secretId : UUID} {decisions : List MatchDecision} {place : Nat} {decision : MatchDecision}
    {payment : AllegroOrderPayment} {jobId : UUID} {startedAt finishedAt : Time}
    {firefly : FireflyStore} (identified : ShortIdsIdentify store secretId)
    (placed : decisions[place]? = some decision) (shown : Shown store secretId decision payment) :
    StartedJobApplies settings client store secretId decisions place decision payment jobId
        startedAt firefly finishedAt ↔
      ∃ tx selected, resolveDecision (matchIndex (store.getAllMatches secretId)) decision =
        .ok (tx, selected) := by
  have callAt : ∀ task : RunningJob, task.decisions = decisions →
      task.results = store.getAllMatches secretId →
      (runApplyJob settings client task firefly finishedAt).calls[place]? =
        some (resolveDecision (matchIndex (store.getAllMatches secretId)) decision).toOption := by
    intro task planned matched
    rw [runApplyJob_calls, resolutions, planned, matched, List.getElem?_map, List.getElem?_map,
      placed, Option.map_some, Option.map_some]
  constructor
  · rintro ⟨next, task, started, applies⟩
    obtain ⟨-, -, planned, matched⟩ := startApplyJob_ok.mp started
    obtain ⟨tx, selected, called, -⟩ := applies.called
    rw [callAt task planned matched, Option.some.injEq] at called
    cases resolution : resolveDecision (matchIndex (store.getAllMatches secretId)) decision with
    | error failure => simp [resolution, Except.toOption] at called
    | ok pair => exact ⟨pair.1, pair.2, rfl⟩
  · rintro ⟨tx, selected, resolved⟩
    obtain ⟨entry, page, result, listed, named, candidate, short⟩ := shown
    have nonempty : store.getAllMatches secretId ≠ [] :=
      List.ne_nil_of_mem (List.mem_flatMap.mpr ⟨entry, page, listed⟩)
    let created := store.createJob jobId secretId decisions.length startedAt
    let task : RunningJob := ⟨created.2, decisions, store.getAllMatches secretId⟩
    refine ⟨created.1, task, startApplyJob_ok.mpr ⟨nonempty, rfl, rfl, rfl⟩, ?_, ?_⟩
    · obtain ⟨_, -, rfl, sameId, -, sameShort⟩ := resolveDecision_names resolved
      refine ⟨_, selected, ?_, sameId, sameShort, ?_⟩
      · rw [callAt task rfl rfl, resolved]
        rfl
      · exact identified selected payment (resolved_cached resolved)
          ⟨entry, page, result, listed, candidate⟩ (sameShort.trans short.symm)
    · obtain ⟨reached, report⟩ :=
        @runApplyJob_report settings client task firefly finishedAt rfl place decision placed
      rw [show resolveDecision (matchIndex task.results) decision = .ok (tx, selected) from resolved]
        at report
      exact ⟨_, report, outcomeOf_transactionId _ _, resolved_not_refused⟩

-- Every candidate shown on a cached page comes to an `apply_match` call, in the states where the
-- page cached last for its transaction still offers it and in no other.
theorem shownDecision_applies_iff (settings : Settings) (client : FireflyClient)
    {labels : List CacheLabel} {store : StateStore}
    (reached : (cacheMachine settings).run StateStore.initial labels = some store)
    {secretId : UUID} (identified : ShortIdsIdentify store secretId)
    {decisions : List MatchDecision} {place : Nat} {decision : MatchDecision}
    (placed : decisions[place]? = some decision) {payment : AllegroOrderPayment}
    (shown : Shown store secretId decision payment) (jobId : UUID) (startedAt finishedAt : Time)
    (firefly : FireflyStore) :
    StartedJobApplies settings client store secretId decisions place decision payment jobId
        startedAt firefly finishedAt ↔ LastPageOffers store secretId decision := by
  rw [startedJob_iff_resolves identified placed shown]
  apply resolves_iff_lastPageOffers (run_previewed reached)
  obtain ⟨entry, page, result, listed, named, -⟩ := shown
  exact ⟨entry, page, result, listed, named⟩

namespace Sample

open FireflyToolkit.Sample

def bought : Transaction := purchase 7 twelfth (cents 1000)

def account : FireflyStore := ⟨[bought], [], by decide⟩

def early : AllegroOrderPayment := payment "early" tenth (cents 1000)

def late : AllegroOrderPayment := payment "late" twelfth (cents 2000)

def secret : UUID := ⟨1⟩

def previewEarly : CacheLabel := .previewPage secret PageRequest.default [early] account

def previewLate : CacheLabel := .previewPage secret secondPage [late] account

def onePage : StateStore := cacheStep settings StateStore.initial previewEarly

def twoPages : StateStore := cacheStep settings onePage previewLate

def decision : MatchDecision := ⟨"early", 7⟩

def earlyEntry : PageMatchCacheEntry :=
  ⟨PageRequest.default, "anna", [early], [⟨bought, [early], .new⟩]⟩

def lateEntry : PageMatchCacheEntry := ⟨secondPage, "anna", [late], [⟨bought, [], .new⟩]⟩

def lastPage : StateStore := cacheStep settings (cacheStep settings StateStore.initial previewLate) previewEarly

theorem twoPages_pages : twoPages.pages secret = [earlyEntry, lateEntry] := by decide

theorem lastPage_pages : lastPage.pages secret = [lateEntry, earlyEntry] := by decide

theorem early_identified {store : StateStore}
    (only : ∀ payment, Cached store secret payment → payment = early) :
    ShortIdsIdentify store secret := by
  intro payment other cached otherCached _
  rw [only payment cached, only other otherCached]

end Sample

theorem shownDecision_applies_lastPage :
    StartedJobApplies Sample.settings .reliable Sample.lastPage Sample.secret [Sample.decision] 0
      Sample.decision Sample.early ⟨9⟩ 0 Sample.account 0 := by
  have shown : Offers Sample.earlyEntry Sample.decision Sample.early := by
    unfold Offers
    decide
  have only : ∀ payment, Cached Sample.lastPage Sample.secret payment → payment = Sample.early := by
    simp [Cached, Sample.lastPage_pages, Sample.earlyEntry, Sample.lateEntry]
  have reached : (cacheMachine Sample.settings).run StateStore.initial
      [Sample.previewLate, Sample.previewEarly] = some Sample.lastPage := rfl
  have cached : Sample.earlyEntry ∈ Sample.lastPage.pages Sample.secret := by
    simp [Sample.lastPage_pages]
  exact (shownDecision_applies_iff Sample.settings .reliable reached
    (Sample.early_identified only) rfl ⟨Sample.earlyEntry, cached, shown⟩ ⟨9⟩ 0 0 Sample.account).mpr
      ⟨[Sample.lateEntry], Sample.earlyEntry, [], Sample.lastPage_pages, ⟨Sample.early, shown⟩, by simp⟩

-- The page of `late` was cached later, lists the purchase and offers nothing for it.
theorem shownDecision_refused_twoPages :
    (cacheMachine Sample.settings).run StateStore.initial [Sample.previewEarly, Sample.previewLate] =
        some Sample.twoPages ∧
      ShortIdsIdentify Sample.twoPages Sample.secret ∧
      Shown Sample.twoPages Sample.secret Sample.decision Sample.early ∧
      ¬ StartedJobApplies Sample.settings .reliable Sample.twoPages Sample.secret [Sample.decision] 0
        Sample.decision Sample.early ⟨9⟩ 0 Sample.account 0 := by
  have shown : Shown Sample.twoPages Sample.secret Sample.decision Sample.early := by
    simp only [Shown, Sample.twoPages_pages, Offers]
    decide
  have only : ∀ payment, Cached Sample.twoPages Sample.secret payment → payment = Sample.early := by
    simp [Cached, Sample.twoPages_pages, Sample.earlyEntry, Sample.lateEntry]
  have identified := Sample.early_identified only
  refine ⟨rfl, identified, shown, ?_⟩
  rw [startedJob_iff_resolves identified rfl shown]
  have refused : resolveDecision (matchIndex (Sample.twoPages.getAllMatches Sample.secret))
      Sample.decision = .error (.application .invalidMatchSelection
        "Payment id early not found for transaction id 7") := by decide
  intro ⟨tx, selected, resolved⟩
  rw [refused] at resolved
  cases resolved

end FireflyToolkit.Allegro
