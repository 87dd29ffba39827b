import FireflyToolkit.Firefly.Rounds
import FireflyToolkit.Jobs.OneToOne

set_option autoImplicit false

namespace FireflyToolkit.Allegro

open FireflyEnrichmentService OrderedDict PyBuiltins

structure AutoRound where
  store : StateStore
  firefly : FireflyStore
  preview : Option MatchPreview
  run : Option JobRun

def AutoRound.content (round : AutoRound) : List (MatchResult AllegroOrderPayment) :=
  (round.preview.map MatchPreview.content).getD []

def AutoRound.calls (round : AutoRound) : List (Option (Transaction × AllegroOrderPayment)) :=
  (round.run.map JobRun.calls).getD []

def AutoRound.outcomes (round : AutoRound) : List ApplyOutcome :=
  (round.run.map fun run => run.job.results).getD []

structure RoundRequest where
  secretId : UUID
  page : PageRequest
  payments : List AllegroOrderPayment
  limit : Option Int
  jobId : UUID
  now : Time
  finishedAt : Time

def autoRound (settings : Settings) (client : FireflyClient) (request : RoundRequest)
    (store : StateStore) (firefly : FireflyStore) : AutoRound :=
  match previewPage settings store firefly request.secretId request.page request.payments with
  | .error _ => ⟨store, firefly, none, none⟩
  | .ok (previewed, preview) =>
      match startAutoApplySingleMatches previewed request.secretId request.limit request.jobId
          request.now with
      | .error _ => ⟨previewed, firefly, some preview, none⟩
      | .ok (next, task) =>
          let run := runApplyJob settings client task firefly request.finishedAt
          ⟨next, run.firefly, some preview, some run⟩

def AloneCached (store : StateStore) (secretId : UUID) (page : PageRequest) : Prop :=
  ∀ other, other ≠ page → (store.pageCache secretId).get? other = none

theorem limitTo_limits (limit : Option Int) :
    @Limits AllegroOrderPayment (limitTo limit) :=
  ⟨limitTo_sublist limit, fun rewrite results => limitTo_map rewrite limit results⟩

section Round

variable {settings : Settings} {client : FireflyClient} {request : RoundRequest} {store : StateStore}
  {firefly : FireflyStore}

theorem resolve_selected {results : List (MatchResult AllegroOrderPayment)}
    (distinct : (results.map fun result => result.tx.id).Nodup) (limit : Option Int) :
    ((selections (limitTo limit (singleMatches results))).map decisionOf).map
        (resolveDecision (matchIndex results)) =
      (selections (limitTo limit (singleMatches results))).map .ok := by
  rw [List.map_map]
  apply List.map_congr_left
  intro entry member
  obtain ⟨result, listed, sameTx, single⟩ :=
    mem_selections_single (limitTo_sublist limit _).subset member
  have found : (matchIndex results).get? entry.1.id = some result := by
    rw [← sameTx]
    exact Dict.get?_indexBy_of_nodup distinct listed
  have offered : (indexMatches result).get? entry.2.externalShortId = some entry.2 := by
    rw [indexMatches, single]
    exact Dict.get?_indexBy_of_nodup (by simp) (by simp)
  exact resolveDecision_ok.mpr ⟨result, found, sameTx, offered⟩

theorem getAllMatches_cachePage {results : List (MatchResult AllegroOrderPayment)}
    (alone : AloneCached store request.secretId request.page) :
    let next := cachePage store request.secretId request.page request.payments results
    next.getAllMatches request.secretId = results ∧
      AloneCached next request.secretId request.page := by
  intro next
  have cache : next.pageCache request.secretId = (store.pageCache request.secretId).set request.page
      ⟨request.page, loginOf request.payments, request.payments, results⟩ := by
    simp [next, cachePage, StateStore.pageCache_putPageMatches]
  have others : AloneCached next request.secretId request.page := by
    intro other differs
    rw [cache, Dict.get?_set, if_neg differs]
    exact alone other differs
  refine ⟨?_, others⟩
  have here : (next.pageCache request.secretId).get? request.page =
      some ⟨request.page, loginOf request.payments, request.payments, results⟩ := by
    rw [cache, Dict.get?_set, if_pos rfl]
  rw [StateStore.getAllMatches, StateStore.pages, Dict.values_of_only here others]
  simp

theorem previewPage_matched {results : List (MatchResult AllegroOrderPayment)}
    {unmatched : List AllegroOrderPayment}
    (matched : matchWithUnmatched settings firefly request.payments
      settings.allegroDescriptionFilter .allegro_done = .ok (results, unmatched)) :
    ∃ preview : MatchPreview, preview.content = results ∧
      previewPage settings store firefly request.secretId request.page request.payments =
        .ok (cachePage store request.secretId request.page request.payments results, preview) := by
  simp only [previewPage, matchPage, matched, bind, Except.bind]
  exact ⟨_, rfl, rfl⟩

theorem autoRound_raised {failure : PyError}
    (raised : matchWithUnmatched settings firefly request.payments
      settings.allegroDescriptionFilter .allegro_done = .error failure) :
    autoRound settings client request store firefly = ⟨store, firefly, none, none⟩ := by
  have previewRaised : ∃ other, previewPage settings store firefly request.secretId request.page
      request.payments = .error other := by
    cases failure <;> exact ⟨_, by simp [previewPage, matchPage, raised, bind, Except.bind]; rfl⟩
  obtain ⟨other, preview⟩ := previewRaised
  simp only [autoRound, preview]

theorem autoRound_previewed {previewed : StateStore} {preview : MatchPreview}
    (answered : previewPage settings store firefly request.secretId request.page request.payments =
      .ok (previewed, preview)) :
    (∀ failure, startAutoApplySingleMatches previewed request.secretId request.limit request.jobId
        request.now = .error failure →
      autoRound settings client request store firefly = ⟨previewed, firefly, some preview, none⟩) ∧
    (∀ next task, startAutoApplySingleMatches previewed request.secretId request.limit request.jobId
        request.now = .ok (next, task) →
      let run := runApplyJob settings client task firefly request.finishedAt
      autoRound settings client request store firefly = ⟨next, run.firefly, some preview, some run⟩) := by
  constructor
  · intro failure refused
    simp only [autoRound, answered, refused]
  · intro next task started
    simp only [autoRound, answered, started]

structure RoundApplies (settings : Settings) (client : FireflyClient) (request : RoundRequest)
    (firefly : FireflyStore) (results : List (MatchResult AllegroOrderPayment))
    (selected : List (Transaction × AllegroOrderPayment)) (round : AutoRound) : Prop where
  content : round.content = results
  alone : AloneCached round.store request.secretId request.page
  written : round.firefly = (attemptAll settings client firefly (selected.map .ok)).1
  calls : round.calls = selected.map some
  outcomes : round.outcomes = List.zipWith outcomeOf (selected.map decisionOf)
    (attemptAll settings client firefly (selected.map .ok)).2

theorem startAutoApply_starts {secretId jobId : UUID} {limit : Option Int} {now : Time}
    (cached : store.getAllMatches secretId ≠ []) :
    ∃ next task, startAutoApplySingleMatches store secretId limit jobId now = .ok (next, task) ∧
      next.pageMatchesCache = store.pageMatchesCache ∧ task.job.results = [] ∧
      task.results = store.getAllMatches secretId ∧
      task.decisions =
        (selections (limitTo limit (singleMatches (store.getAllMatches secretId)))).map decisionOf := by
  simp only [startAutoApplySingleMatches, startApplyJob, cached, if_false]
  exact ⟨_, _, rfl, rfl, rfl, rfl, rfl⟩

theorem autoRound_applies {results : List (MatchResult AllegroOrderPayment)}
    {unmatched : List AllegroOrderPayment}
    (alone : AloneCached store request.secretId request.page)
    (distinct : (results.map fun result => result.tx.id).Nodup)
    (matched : matchWithUnmatched settings firefly request.payments
      settings.allegroDescriptionFilter .allegro_done = .ok (results, unmatched)) :
    RoundApplies settings client request firefly results
      (selections (limitTo request.limit (singleMatches results)))
      (autoRound settings client request store firefly) := by
  let previewed := cachePage store request.secretId request.page request.payments results
  obtain ⟨preview, content, answered⟩ := @previewPage_matched settings request store firefly _ _ matched
  obtain ⟨cached, stillAlone⟩ := @getAllMatches_cachePage request store results alone
  by_cases nothing : results = []
  next =>
    subst nothing
    have refused : startAutoApplySingleMatches previewed request.secretId request.limit
        request.jobId request.now = .error (.application .matchesNotComputed "") := by
      simp [startAutoApplySingleMatches, previewed, cached]
    have unselected : selections (limitTo request.limit
        (singleMatches ([] : List (MatchResult AllegroOrderPayment)))) = [] := by
      have none := List.sublist_nil.mp (limitTo_sublist request.limit
        (singleMatches ([] : List (MatchResult AllegroOrderPayment))))
      rw [none]
      rfl
    rw [unselected, (autoRound_previewed answered).1 _ refused]
    exact ⟨content, stillAlone, rfl, rfl, rfl⟩
  next =>
    obtain ⟨next, task, started, sameCache, fresh, taskResults, decisions⟩ :=
      @startAutoApply_starts previewed request.secretId request.jobId request.limit request.now
        (by rwa [cached])
    have resolved : resolutions task.results task.decisions =
        (selections (limitTo request.limit (singleMatches results))).map .ok := by
      rw [resolutions, taskResults, decisions, cached]
      exact resolve_selected distinct request.limit
    rw [(autoRound_previewed answered).2 next task started]
    refine ⟨content, ?_, ?_, ?_, ?_⟩
    · intro other differs
      rw [StateStore.pageCache, sameCache]
      exact stillAlone other differs
    · rw [runApplyJob_firefly, resolved]
    · change (runApplyJob settings client task firefly request.finishedAt).calls = _
      rw [runApplyJob_calls, resolved, List.map_map]
      rfl
    · change (runApplyJob settings client task firefly request.finishedAt).job.results = _
      rw [runApplyJob_results settings client task firefly request.finishedAt fresh, resolved,
        decisions, cached]

end Round

structure Preserves (lower : String → String) (payment : AllegroOrderPayment)
    (before after : Transaction) : Prop where
  description : after.description = before.description
  category : after.category = before.category
  notesKept : (before.notes.getD "").toList <+: (after.notes.getD "").toList
  notesHold : OccursIn (lower payment.flattenDetails) (lower (after.notes.getD ""))
  tags : after.tags = insert TxTag.allegro_done.value before.tags

section Builder

variable {lower : String → String} {payment : AllegroOrderPayment} {tx : Transaction}

-- The notes after an application: not empty, the old ones followed by the details where these
-- were missing.
theorem newNotes_spec (lowerAppend : ∀ left right, lower (left ++ right) = lower left ++ lower right)
    (details : payment.flattenDetails ≠ "") :
    ∃ text, (payment.newNotes lower tx).or tx.notes = some text ∧ text ≠ "" ∧
      (tx.notes.getD "").toList <+: text.toList ∧
      OccursIn (lower payment.flattenDetails) (lower text) := by
  cases held : tx.notes with
  | none =>
    refine ⟨payment.flattenDetails, ?_, details, List.nil_prefix, occursIn_refl _⟩
    simp [OrderPayment.newNotes, held, addLine]
  | some text =>
    by_cases blank : text = ""
    next =>
      refine ⟨payment.flattenDetails, ?_, details, ?_, occursIn_refl _⟩
      · simp [OrderPayment.newNotes, held, addLine, blank]
      · simp [blank]
    next =>
      by_cases occurs : OccursIn (lower payment.flattenDetails) (lower text)
      next =>
        refine ⟨text, ?_, blank, List.prefix_rfl, occurs⟩
        simp [OrderPayment.newNotes, held, blank, occurs]
      next =>
        refine ⟨text ++ "\n" ++ payment.flattenDetails, ?_, ?_, ?_, ?_⟩
        · simp [OrderPayment.newNotes, held, addLine, blank, occurs]
        · intro empty
          have letters := congrArg String.toList empty
          simp at letters
        · simp [String.toList_append]
        · rw [lowerAppend]
          exact occursIn_append_right _ _

theorem updatedBy_payment (details : payment.flattenDetails ≠ "") (categories : List Category)
    (copy : Transaction) :
    updatedBy lower categories (copy, payment) tx =
      { tx with
        notes := (payment.newNotes lower copy).or tx.notes
        tags := insert payment.tagDone.value copy.tags } := by
  have built : Evidence.buildTxUpdate lower payment copy =
      .ok { notes := payment.newNotes lower copy
            tags := some (insert payment.tagDone.value copy.tags) } :=
    OrderPayment.buildTxUpdate_ok.mpr ⟨details, rfl⟩
  simp [updatedBy, built, TransactionUpdate.applyTo]

-- Applying a payment again finds its details in the notes and its tag among the tags.
theorem updatedBy_preserves
    (lowerAppend : ∀ left right, lower (left ++ right) = lower left ++ lower right)
    (tagged : payment.tagDone = .allegro_done) (details : payment.flattenDetails ≠ "")
    (categories : List Category) :
    let after := updatedBy lower categories (tx, payment) tx
    Preserves lower payment tx after ∧ updatedBy lower categories (after, payment) after = after := by
  intro after
  obtain ⟨text, notes, filled, kept, holds⟩ := @newNotes_spec lower payment tx lowerAppend details
  have shape : after =
      { tx with notes := some text, tags := insert TxTag.allegro_done.value tx.tags } := by
    rw [← notes, ← tagged]
    exact updatedBy_payment details categories tx
  have unwritten : payment.newNotes lower after = none := by
    simp [OrderPayment.newNotes, shape, filled, holds]
  constructor
  · rw [shape]
    exact ⟨rfl, rfl, kept, holds, rfl⟩
  · rw [updatedBy_payment details categories after, unwritten, tagged, shape]
    simp

theorem updatedBy_noDetails (blank : payment.flattenDetails = "") (categories : List Category)
    (copy : Transaction) : updatedBy lower categories (copy, payment) tx = tx := by
  have refused : Evidence.buildTxUpdate lower payment copy =
      .error (.valueError "Details cannot be empty") := by
    simp [Evidence.buildTxUpdate, OrderPayment.buildTxUpdate, blank]
  rw [updatedBy, refused]

end Builder

section Twice

variable {settings : Settings} {request : RoundRequest} {store : StateStore} {firefly : FireflyStore}

def Applied (round : AutoRound) (tx : Transaction) (payment : AllegroOrderPayment) : Prop :=
  ∃ place : Nat, round.calls[place]? = some (some (tx, payment)) ∧
    round.outcomes[place]? = some ⟨tx.id, .success, none⟩

variable {results : List (MatchResult AllegroOrderPayment)}
  {selected : List (Transaction × AllegroOrderPayment)} {round : AutoRound}

theorem applied_selected
    (applies : RoundApplies settings .reliable request firefly results selected round)
    {tx : Transaction} {payment : AllegroOrderPayment} (applied : Applied round tx payment) :
    (tx, payment) ∈ selected ∧ payment.flattenDetails ≠ "" := by
  obtain ⟨place, called, reported⟩ := applied
  rw [applies.calls, List.getElem?_map] at called
  have placed : selected[place]? = some (tx, payment) := by simpa using called
  rw [applies.outcomes, List.getElem?_zipWith, List.getElem?_map, placed] at reported
  cases report : (attemptAll settings .reliable firefly (selected.map .ok)).2[place]? with
  | none => simp [report] at reported
  | some failure =>
    have succeeded : failure = none := by
      cases failure with
      | none => rfl
      | some reason => simp [report, outcomeOf] at reported
    have resolved : (selected.map (@Except.ok PyError _))[place]? = some (.ok (tx, payment)) := by
      simp [placed]
    rw [succeeded] at report
    obtain ⟨⟨payload, built⟩, -⟩ := (attemptAll_succeeds resolved).mp report
    exact ⟨List.mem_of_getElem? placed, (OrderPayment.buildTxUpdate_ok.mp built).1⟩

theorem written_description (selected : List (Transaction × AllegroOrderPayment))
    (lower : String → String) (categories : List Category) (tx : Transaction) :
    (written lower categories selected tx).description = tx.description := by
  unfold written
  cases selected.find? fun entry => entry.1.id = tx.id with
  | none => rfl
  | some entry =>
    change (updatedBy lower categories (entry.1, entry.2) tx).description = tx.description
    by_cases blank : entry.2.flattenDetails = ""
    · rw [updatedBy_noDetails blank]
    · rw [updatedBy_payment blank]

theorem written_keepsView (selected : List (Transaction × AllegroOrderPayment))
    (categories : List Category) (records : List Transaction) (filterText : String) :
    KeepsView settings filterText records (written settings.lower categories selected) where
  id tx := (written_keeps tx).1
  date tx := (written_keeps tx).2.1
  amount tx := (written_keeps tx).2.2
  description tx _ := by rw [written_description]

theorem written_twice
    (lowerAppend : ∀ left right, settings.lower (left ++ right) =
      settings.lower left ++ settings.lower right)
    (distinct : (selected.map fun entry => entry.1.id).Nodup)
    (stored : ∀ entry ∈ selected, entry.1 ∈ firefly.records)
    (tagged : ∀ entry ∈ selected, entry.2.tagDone = .allegro_done) {tx : Transaction}
    (member : tx ∈ firefly.records) :
    let rewrite := written settings.lower firefly.categories selected
    written settings.lower firefly.categories
      (reselected settings.lower firefly.categories selected) (rewrite tx) = rewrite tx := by
  intro rewrite
  by_cases chosen : ∃ entry ∈ selected, entry.1.id = tx.id
  next =>
    obtain ⟨entry, entryMember, same⟩ := chosen
    have sameTx : entry.1 = tx :=
      List.inj_on_of_nodup_map firefly.distinct (stored entry entryMember) member same
    have first : rewrite entry.1 = updatedBy settings.lower firefly.categories entry entry.1 :=
      written_selected distinct entryMember
    have again := @written_again_selected _ _ settings.lower firefly.categories selected entry distinct
      entryMember
    rw [← sameTx]
    rw [again, first]
    by_cases blank : entry.2.flattenDetails = ""
    · exact updatedBy_noDetails blank _ _
    · exact (updatedBy_preserves lowerAppend (tagged entry entryMember) blank _).2
  next =>
    have unselected : ∀ entry ∈ selected, entry.1.id ≠ tx.id :=
      fun entry entryMember same => chosen ⟨entry, entryMember, same⟩
    rw [show rewrite tx = tx from written_unselected unselected]
    exact written_again_unselected unselected

theorem first_preserves {txs : List Transaction} {round : AutoRound}
    (lowerAppend : ∀ left right, settings.lower (left ++ right) =
      settings.lower left ++ settings.lower right)
    (tagged : ∀ payment ∈ request.payments, payment.tagDone = .allegro_done)
    (applies : RoundApplies settings .reliable request firefly results
      (selectedOf (limitTo request.limit) request.payments .allegro_done txs) round)
    (matched : FirstRound settings firefly request.payments settings.allegroDescriptionFilter
      .allegro_done (limitTo request.limit) results txs)
    {tx : Transaction} {payment : AllegroOrderPayment} (applied : Applied round tx payment) :
    payment ∈ request.payments ∧
      ∃ after, firefly.get? tx.id = some tx ∧ round.firefly.get? tx.id = some after ∧
        Preserves settings.lower payment tx after ∧ tx ∈ txs ∧
        after = written settings.lower firefly.categories
          (selectedOf (limitTo request.limit) request.payments .allegro_done txs) tx := by
  obtain ⟨member, details⟩ := applied_selected applies applied
  have fetched := (mem_selectedOf (limitTo_limits request.limit) member).1
  have offered : payment ∈ request.payments :=
    selectedOf_offered (limitTo_limits request.limit) member
  have stored := get?_of_mem (matched.fetched.subset fetched)
  have distinct := @selectedOf_ids _ _ request.payments .allegro_done txs (limitTo request.limit)
    (limitTo_limits request.limit) matched.distinct
  have same := @written_selected _ _ settings.lower firefly.categories _ _ distinct member
  refine ⟨offered, _, stored, ?_, ?_, fetched, rfl⟩
  · rw [applies.written, get?_rewritten (fun tx => (written_keeps tx).1) matched.written.1, stored]
    rfl
  · rw [same]
    exact (updatedBy_preserves lowerAppend (tagged payment offered) details _).1

theorem rounds_apply (jobId : UUID) (now finishedAt : Time)
    (alone : AloneCached store request.secretId request.page) {unmatched : List AllegroOrderPayment}
    (matching : matchWithUnmatched settings firefly request.payments
      settings.allegroDescriptionFilter .allegro_done = .ok (results, unmatched)) :
    let again := { request with jobId := jobId, now := now, finishedAt := finishedAt }
    let first := autoRound settings .reliable request store firefly
    let second := autoRound settings .reliable again first.store first.firefly
    ∃ txs,
      let selected := selectedOf (limitTo request.limit) request.payments .allegro_done txs
      let once := written settings.lower firefly.categories selected
      let twice := written settings.lower firefly.categories
        (reselected settings.lower firefly.categories selected)
      FirstRound settings firefly request.payments settings.allegroDescriptionFilter .allegro_done
          (limitTo request.limit) results txs ∧
        RoundApplies settings .reliable request firefly results selected first ∧
        first.firefly.records = firefly.records.map once ∧
        second.content = (txs.map once).map (matchResult request.payments .allegro_done) ∧
        second.firefly.records = firefly.records.map fun tx => twice (once tx) := by
  intro again first second
  let pick : List (MatchResult AllegroOrderPayment) → List (MatchResult AllegroOrderPayment) :=
    limitTo request.limit
  have limits : Limits pick := limitTo_limits request.limit
  obtain ⟨firstDate, lastDate, window, matched⟩ := firstRound limits matching
  have distinct : (results.map fun result => result.tx.id).Nodup := by
    simpa [matched.results, Function.comp_def, matchResult] using matched.distinct
  let txs := fetchedTxs settings firefly settings.allegroDescriptionFilter firstDate lastDate
  let selected := selectedOf pick request.payments .allegro_done txs
  let once := written settings.lower firefly.categories selected
  have applies : RoundApplies settings .reliable request firefly results selected first := by
    have round := @autoRound_applies settings .reliable request store firefly _ _ alone distinct
      matching
    have same : selections (limitTo request.limit (singleMatches results)) = selected := by
      rw [matched.results]
      rfl
    rwa [same] at round
  have firstRecords : first.firefly.records = firefly.records.map once := by
    rw [applies.written]
    exact matched.written.1
  have sameCategories : first.firefly.categories = firefly.categories := by
    rw [applies.written]
    exact matched.written.2
  obtain ⟨rematched, reselects, againDistinct, lastRecords⟩ :=
    secondRound limits orderPayment_looks matching window sameCategories
      (written_keepsView selected firefly.categories firefly.records
        settings.allegroDescriptionFilter) firstRecords
  have reapplies := @autoRound_applies settings .reliable again first.store first.firefly _ _
    applies.alone againDistinct rematched
  rw [show selections (limitTo again.limit (singleMatches _)) = _ from reselects] at reapplies
  refine ⟨txs, matched, applies, firstRecords, reapplies.content, ?_⟩
  rw [reapplies.written]
  exact lastRecords

theorem autoRound_twice (jobId : UUID) (now finishedAt : Time)
    (lowerAppend : ∀ left right, settings.lower (left ++ right) =
      settings.lower left ++ settings.lower right)
    (tagged : ∀ payment ∈ request.payments, payment.tagDone = .allegro_done)
    (alone : AloneCached store request.secretId request.page) :
    let again := { request with jobId := jobId, now := now, finishedAt := finishedAt }
    let first := autoRound settings .reliable request store firefly
    let second := autoRound settings .reliable again first.store first.firefly
    (∀ tx payment, Applied first tx payment → payment ∈ request.payments ∧
      ∃ after, firefly.get? tx.id = some tx ∧ first.firefly.get? tx.id = some after ∧
        Preserves settings.lower payment tx after) ∧
      second.firefly.records = first.firefly.records ∧
      (second.content.map fun result => result.tx.id) = (first.content.map fun result => result.tx.id) ∧
      ∀ tx payment, Applied first tx payment →
        ∃ result ∈ second.content, result.tx.id = tx.id ∧ result.status = .alreadyProcessed := by
  intro again first second
  cases matching : matchWithUnmatched settings firefly request.payments
      settings.allegroDescriptionFilter .allegro_done with
  | error failure =>
    have firstRaised : first = ⟨store, firefly, none, none⟩ := autoRound_raised matching
    have secondRaised : second = ⟨store, firefly, none, none⟩ := by
      rw [show second = autoRound settings .reliable again first.store first.firefly from rfl,
        firstRaised]
      exact autoRound_raised matching
    have nothing : ∀ tx payment, ¬ Applied first tx payment := by
      rintro tx payment ⟨place, called, -⟩
      simp [firstRaised, AutoRound.calls] at called
    rw [secondRaised]
    refine ⟨fun tx payment applied => absurd applied (nothing tx payment), ?_, ?_,
      fun tx payment applied => absurd applied (nothing tx payment)⟩
    · rw [firstRaised]
    · rw [firstRaised]
  | ok found =>
    obtain ⟨results, unmatched⟩ := found
    obtain ⟨txs, matched, applies, firstRecords, content, lastRecords⟩ :=
      rounds_apply jobId now finishedAt alone matching
    let pick : List (MatchResult AllegroOrderPayment) → List (MatchResult AllegroOrderPayment) :=
      limitTo request.limit
    have limits : Limits pick := limitTo_limits request.limit
    let rewrite := written settings.lower firefly.categories
      (selectedOf pick request.payments .allegro_done txs)
    have preserves := fun tx payment =>
      @first_preserves settings request firefly results txs first lowerAppend tagged applies matched
        tx payment
    refine ⟨?_, ?_, ?_, ?_⟩
    · intro tx payment applied
      obtain ⟨offered, after, before, held, kept, -⟩ := preserves tx payment applied
      exact ⟨offered, after, before, held, kept⟩
    · rw [lastRecords, firstRecords]
      apply List.map_congr_left
      intro tx member
      apply written_twice lowerAppend _ _ _ member
      · exact selectedOf_ids limits matched.distinct
      · exact fun entry selects => matched.fetched.subset (mem_selectedOf limits selects).1
      · exact fun entry selects => tagged entry.2 (selectedOf_offered limits selects)
    · rw [content, applies.content, matched.results]
      simp only [List.map_map, Function.comp_def, matchResult]
      exact List.map_congr_left fun tx _ => (written_keeps tx).1
    · intro tx payment applied
      obtain ⟨-, after, -, -, kept, fetched, same⟩ := preserves tx payment applied
      have marked : (rewrite tx).hasTag .allegro_done = true := by
        rw [show rewrite tx = after from same.symm, Transaction.hasTag, kept.tags]
        simp
      refine ⟨matchResult request.payments .allegro_done (rewrite tx), ?_, (written_keeps tx).1, ?_⟩
      · rw [content]
        exact List.mem_map_of_mem (List.mem_map_of_mem fetched)
      · simp only [matchResult, processingStatus, marked, if_true]

end Twice

namespace Sample

open FireflyToolkit.Sample

def roundRequest : RoundRequest := ⟨secret, PageRequest.default, [early], none, ⟨9⟩, 0, 1⟩

def firstRound : AutoRound := autoRound settings .reliable roundRequest StateStore.initial account

def laterRound : AutoRound :=
  autoRound settings .reliable { roundRequest with jobId := ⟨10⟩, now := 2, finishedAt := 3 }
    firstRound.store firstRound.firefly

theorem asciiLower_append (left right : String) :
    asciiLower (left ++ right) = asciiLower left ++ asciiLower right := by
  simp [asciiLower, String.toList_append, String.ofList_append]

theorem firstRound_applies : Applied firstRound bought early := ⟨0, by decide, by decide⟩

end Sample

theorem autoRound_twice_early :
    (∃ after, Sample.firstRound.firefly.get? 7 = some after ∧
        Preserves Sample.settings.lower Sample.early Sample.bought after) ∧
      Sample.laterRound.firefly.records = Sample.firstRound.firefly.records ∧
      ∃ result ∈ Sample.laterRound.content, result.tx.id = 7 ∧ result.status = .alreadyProcessed := by
  have lowerAppend : ∀ left right, Sample.settings.lower (left ++ right) =
      Sample.settings.lower left ++ Sample.settings.lower right := Sample.asciiLower_append
  have tagged : ∀ payment ∈ Sample.roundRequest.payments, payment.tagDone = .allegro_done := by
    decide
  have alone : AloneCached StateStore.initial Sample.roundRequest.secretId Sample.roundRequest.page :=
    fun _ _ => rfl
  obtain ⟨preserved, unchanged, -, reported⟩ :=
    autoRound_twice ⟨10⟩ 2 3 lowerAppend tagged alone
  obtain ⟨-, after, -, kept, preserves⟩ := preserved _ _ Sample.firstRound_applies
  exact ⟨⟨after, kept, preserves⟩, unchanged, reported _ _ Sample.firstRound_applies⟩

end FireflyToolkit.Allegro
