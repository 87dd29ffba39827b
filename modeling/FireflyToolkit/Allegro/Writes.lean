import FireflyToolkit.Allegro.JobRecords

set_option autoImplicit false

namespace FireflyToolkit.Allegro

open OrderedDict Transition
open PyBuiltins (bind_eq_ok)

section Requests

variable (settings : Settings) (crypto : Vault.CryptoLibrary) (ttlSeconds : Int)

def Request.answered : Request → List AllegroOrderPayment
  | .previewMatches _ _ _ _ answer => answer.getD []
  | _ => []

-- A preview of the owner of a secret that finds a payment for a transaction of Firefly; its answer,
-- where one can be made, shows the two together.
structure Finds (system : System) (secretId : UUID) (tx : Transaction) (payment : AllegroOrderPayment)
    (userId : UUID) (request : Request) : Prop where
  asked : request.secretId = some secretId
  answered : payment ∈ request.answered
  owner : ∃ row, system.vault.database.secrets.get? secretId = some row ∧ row.userId = userId
  present : tx ∈ system.firefly.records
  candidate : Matchable.compare payment tx = .ok true
  shown : ∀ response, (respond settings crypto system userId request).1 = .ok (.preview response) →
    ∃ result ∈ response.content, mapTxToApi tx = .ok result.tx ∧
      ∃ answer ∈ result.txMatches, mapAllegroPaymentToResponse payment = .ok answer

structure Decides (system : System) (secretId : UUID) (decision : MatchDecision) (userId : UUID)
    (request : Request) : Prop where
  asked : request.secretId = some secretId
  listed : decision ∈ request.decisions system.store
  accepted : ∃ job, (respond settings crypto system userId request).1 = .ok (.job job)

def IsRequest (holds : UUID → Request → Prop) (label : SystemLabel) : Prop :=
  ∃ userId request, label = .request userId request ∧ holds userId request

def Offered (start : System) (past : List SystemLabel) (secretId : UUID) (tx : Transaction)
    (payment : AllegroOrderPayment) : Prop :=
  (systemMachine settings crypto ttlSeconds).Happened
    (fun _ system => IsRequest (Finds settings crypto system secretId tx payment)) start past

def Decided (start : System) (past : List SystemLabel) (decision : MatchDecision) (tx : Transaction)
    (payment : AllegroOrderPayment) : Prop :=
  ∃ secretId, (systemMachine settings crypto ttlSeconds).Happened
    (fun before system label => IsRequest (Decides settings crypto system secretId decision) label ∧
      Offered settings crypto ttlSeconds start before secretId tx payment) start past

def PagesOffered (start : System) (past : List SystemLabel) (store : StateStore) : Prop :=
  ∀ secretId, ∀ result ∈ store.getAllMatches secretId, ∀ payment ∈ result.txMatches,
    Offered settings crypto ttlSeconds start past secretId result.tx payment

def TasksDecided (start : System) (past : List SystemLabel) (running : List RunningJob) : Prop :=
  ∀ task ∈ running, ∀ decision ∈ task.decisions, ∀ tx payment,
    resolveDecision (matchIndex task.results) decision = .ok (tx, payment) →
      Decided settings crypto ttlSeconds start past decision tx payment

end Requests

section Steps

variable {settings : Settings} {crypto : Vault.CryptoLibrary} {ttlSeconds : Int} {system next : System}
  {label : SystemLabel} {userId secretId : UUID} {request : Request}

theorem previewPage_content {store after : StateStore} {firefly : FireflyStore} {page : PageRequest}
    {payments : List AllegroOrderPayment} {preview : MatchPreview}
    (previewed : previewPage settings store firefly secretId page payments = .ok (after, preview)) :
    after = cachePage store secretId page payments preview.content ∧
      ∃ txs : List Transaction, txs.Sublist firefly.records ∧
        preview.content = txs.map (matchResult payments .allegro_done) := by
  obtain ⟨⟨results, unmatched⟩, -, returned⟩ := bind_eq_ok.mp previewed
  obtain ⟨txs, fetched, cached⟩ := previewPage_ok previewed
  obtain ⟨rfl, rfl⟩ := Prod.mk.inj (Except.ok.inj returned)
  -- The page has one entry, so both descriptions of it agree.
  have entries := congrArg (fun state => (state.pageCache secretId).get? page) cached
  simp only [cachePage, StateStore.pageCache_putPageMatches, if_true, Dict.get?_set] at entries
  exact ⟨rfl, txs, fetched, (PageMatchCacheEntry.mk.inj (Option.some.inj entries)).2.2.2⟩

theorem mem_getAllMatches {store : StateStore} {result : MatchResult AllegroOrderPayment} :
    result ∈ store.getAllMatches secretId ↔ ∃ entry ∈ store.pages secretId, result ∈ entry.results :=
  List.mem_flatMap

theorem fetchAllegroData_ok {vault after : Vault.World} {vaultSessionId : Option String}
    {answer : Option (List AllegroOrderPayment)} {payments : List AllegroOrderPayment}
    (fetched : fetchAllegroData crypto vault userId secretId vaultSessionId answer =
      (.ok payments, after)) :
    answer = some payments ∧
      ∃ row, vault.database.secrets.get? secretId = some row ∧ row.userId = userId := by
  unfold fetchAllegroData at fetched
  split at fetched
  · cases fetched
  · cases fetched
  next secret world got =>
    obtain ⟨row, userKey, sessions, owned, -⟩ := Vault.getSecret_ok.mp ⟨secret, world, got, rfl⟩
    refine ⟨?_, row, Vault.ownedSecret_ok.mp owned⟩
    split at fetched
    · cases fetched
    · rw [Except.ok.inj (Prod.mk.inj fetched).1]

theorem previewReply_ok {preview : MatchPreview} {response : AllegroMatchResponse}
    (replied : previewReply preview = .ok (.preview response)) :
    mapMatchPreviewToApi preview = .ok response := by
  unfold previewReply at replied
  split at replied
  · cases replied
  next mapped => rw [mapped, (Reply.preview.inj (Except.ok.inj replied))]

inductive RequestDoes (settings : Settings) (system : System) (userId : UUID) (request : Request) :
    Except HTTPException Reply → System → Prop
  | forgot {answer : Except HTTPException Reply} {next : System}
      (pages : ∀ secretId, next.store.getAllMatches secretId ⊆ system.store.getAllMatches secretId)
      (running : next.running = system.running) (firefly : next.firefly = system.firefly) :
      RequestDoes settings system userId request answer next
  | previewed {next : System} (secretId : UUID) (page : PageRequest) (payments : List AllegroOrderPayment)
      (preview : MatchPreview) (asked : request.secretId = some secretId) (answered : request.answered = payments)
      (owner : ∃ row, system.vault.database.secrets.get? secretId = some row ∧ row.userId = userId)
      (previewed : previewPage settings system.store system.firefly secretId page payments =
        .ok (next.store, preview))
      (running : next.running = system.running) (firefly : next.firefly = system.firefly) :
      RequestDoes settings system userId request (previewReply preview) next
  | started {next : System} (secretId : UUID) (task : RunningJob) (asked : request.secretId = some secretId)
      (pages : ∀ secretId, next.store.getAllMatches secretId = system.store.getAllMatches secretId)
      (results : task.results = system.store.getAllMatches secretId)
      (decisions : task.decisions = request.decisions system.store)
      (running : next.running = system.running ++ [task]) (firefly : next.firefly = system.firefly) :
      RequestDoes settings system userId request (.ok (.job task.job)) next

theorem does_previewMatches (secret : UUID) (limit : PageLimit) (offset : PageOffset)
    (vaultSessionId : Option String) (answer : Option (List AllegroOrderPayment)) :
    let outcome := previewMatches settings crypto system userId (some secret) (pageOf limit offset)
      vaultSessionId answer
    RequestDoes settings system userId (.previewMatches (some secret) limit offset vaultSessionId answer)
      outcome.1 outcome.2 := by
  intro outcome
  cases fetched : fetchAllegroData crypto system.vault userId secret vaultSessionId answer with
  | mk payments vault =>
    cases payments with
    | error error =>
      simp only [outcome, previewMatches, fetched]
      exact .forgot (fun _ => List.Subset.refl _) rfl rfl
    | ok payments =>
      cases previewed : previewPage settings system.store system.firefly secret (pageOf limit offset)
          payments with
      | error error =>
        simp only [outcome, previewMatches, fetched, previewed]
        exact .forgot (fun _ => List.Subset.refl _) rfl rfl
      | ok stored =>
        obtain ⟨answered, owner⟩ := fetchAllegroData_ok fetched
        simp only [outcome, previewMatches, fetched, previewed]
        exact .previewed secret _ payments _ rfl (by rw [Request.answered, answered]; rfl) owner previewed
          rfl rfl

theorem does_startedJob {httpError : PyError → HTTPException} {secret jobId : UUID} {now : Time}
    (asked : request.secretId = some secret) :
    let outcome := startedJob system httpError
      (startApplyJob system.store secret (request.decisions system.store) jobId now)
    RequestDoes settings system userId request outcome.1 outcome.2 := by
  intro outcome
  cases ran : startApplyJob system.store secret (request.decisions system.store) jobId now with
  | error error =>
    simp only [outcome, startedJob, ran]
    exact .forgot (fun _ => List.Subset.refl _) rfl rfl
  | ok accepted =>
    obtain ⟨store, task⟩ := accepted
    obtain ⟨-, created, planned, matched⟩ := startApplyJob_ok.mp ran
    obtain ⟨rfl, -⟩ := Prod.mk.inj created
    simp only [outcome, startedJob, ran]
    exact .started secret task asked (fun _ => rfl) matched planned rfl rfl

theorem does_clearCacheForSecret (secretId : Option UUID) (limit : Option PageLimit)
    (offset : Option PageOffset) :
    let outcome := clearCacheForSecret system secretId limit offset
    RequestDoes settings system userId request outcome.1 outcome.2 := by
  unfold clearCacheForSecret
  dsimp only
  split_ifs
  · exact .forgot (fun _ => List.Subset.refl _) rfl rfl
  · split
    next => exact .forgot (fun _ => List.Subset.refl _) rfl rfl
    next =>
      refine .forgot (fun other result member => ?_) rfl rfl
      obtain ⟨entry, page, listed⟩ := mem_getAllMatches.mp member
      exact mem_getAllMatches.mpr ⟨entry, StateStore.mem_pages_invalidatePage page, listed⟩
    next =>
      refine .forgot (fun other result member => ?_) rfl rfl
      obtain ⟨entry, page, listed⟩ := mem_getAllMatches.mp member
      exact mem_getAllMatches.mpr ⟨entry, StateStore.mem_pages_invalidateSecret page, listed⟩

theorem respond_does : RequestDoes settings system userId request
    (respond settings crypto system userId request).1 (respond settings crypto system userId request).2 := by
  have idle : ∀ exception : HTTPException,
      RequestDoes settings system userId request (.error exception) system :=
    fun exception => .forgot (fun _ => List.Subset.refl _) rfl rfl
  unfold respond
  split
  · exact idle _
  · cases request with
    | previewMatches secretId limit offset vaultSessionId answer =>
      cases secretId with
      | none => exact idle _
      | some secret => exact does_previewMatches secret limit offset vaultSessionId answer
    | applyMatches secretId decisions jobId =>
      cases secretId with
      | none => exact idle _
      | some secret => exact does_startedJob rfl
    | autoApplySingleMatches secretId limit jobId =>
      cases secretId with
      | none => exact idle _
      | some secret =>
        by_cases nothing : system.store.getAllMatches secret = []
        · simp only [handle, autoApplySingleMatches, startAutoApplySingleMatches, nothing, if_true, startedJob]
          exact idle _
        · have chosen : startAutoApplySingleMatches system.store secret (limit.map Subtype.val) jobId
              system.vault.now = startApplyJob system.store secret
                (Request.decisions system.store (.autoApplySingleMatches (some secret) limit jobId)) jobId
                system.vault.now := if_neg nothing
          rw [handle, autoApplySingleMatches, chosen]
          exact does_startedJob rfl
    | clearCacheForSecret secretId limit offset => exact does_clearCacheForSecret secretId limit offset

end Steps

section Runs

variable {settings : Settings} {crypto : Vault.CryptoLibrary} {ttlSeconds : Int}
  {start system next : System} {past : List SystemLabel} {label : SystemLabel}

theorem Offered.later {secretId : UUID} {tx : Transaction} {payment : AllegroOrderPayment}
    (offered : Offered settings crypto ttlSeconds start past secretId tx payment)
    (more : List SystemLabel) : Offered settings crypto ttlSeconds start (past ++ more) secretId tx payment :=
  Machine.Happened.later offered more

theorem Decided.later {decision : MatchDecision} {tx : Transaction} {payment : AllegroOrderPayment}
    (decided : Decided settings crypto ttlSeconds start past decision tx payment)
    (more : List SystemLabel) : Decided settings crypto ttlSeconds start (past ++ more) decision tx payment := by
  obtain ⟨secretId, happened⟩ := decided
  exact ⟨secretId, happened.later more⟩

theorem PagesOffered.less {store after : StateStore}
    (offered : PagesOffered settings crypto ttlSeconds start past store)
    (pages : ∀ secretId, after.getAllMatches secretId ⊆ store.getAllMatches secretId)
    (more : List SystemLabel) : PagesOffered settings crypto ttlSeconds start (past ++ more) after :=
  fun secretId result listed payment candidate =>
    (offered secretId result (pages secretId listed) payment candidate).later more

theorem TasksDecided.less {running after : List RunningJob}
    (decided : TasksDecided settings crypto ttlSeconds start past running)
    (goesOn : ∀ task ∈ after, ∃ old ∈ running, task.results = old.results ∧ task.decisions ⊆ old.decisions)
    (more : List SystemLabel) : TasksDecided settings crypto ttlSeconds start (past ++ more) after := by
  intro task member decision left tx payment resolved
  obtain ⟨old, earlier, results, decisions⟩ := goesOn task member
  rw [results] at resolved
  exact (decided old earlier decision (decisions left) tx payment resolved).later more

theorem TasksDecided.same {running : List RunningJob}
    (decided : TasksDecided settings crypto ttlSeconds start past running) (more : List SystemLabel) :
    TasksDecided settings crypto ttlSeconds start (past ++ more) running :=
  decided.less (fun task member => ⟨task, member, rfl, List.Subset.refl _⟩) more

theorem compare_of_accepts {payment : AllegroOrderPayment} {tx : Transaction}
    (accepted : accepts payment tx = true) : Matchable.compare payment tx = .ok true := by
  unfold accepts at accepted
  split at accepted
  next compared => rw [compared, accepted]
  next => cases accepted

theorem mem_pages_cachePage {store : StateStore} {secretId other : UUID} {page : PageRequest}
    {payments : List AllegroOrderPayment} {results : List (MatchResult AllegroOrderPayment)}
    {result : MatchResult AllegroOrderPayment}
    (listed : result ∈ (cachePage store secretId page payments results).getAllMatches other) :
    other = secretId ∧ result ∈ results ∨ result ∈ store.getAllMatches other := by
  obtain ⟨entry, cached, member⟩ := mem_getAllMatches.mp listed
  rw [StateStore.pages, cachePage, StateStore.pageCache_putPageMatches] at cached
  split_ifs at cached with same
  · subst same
    rcases Dict.mem_values_set cached with rfl | older
    · exact .inl ⟨rfl, member⟩
    · exact .inr (mem_getAllMatches.mpr ⟨entry, older, member⟩)
  · exact .inr (mem_getAllMatches.mpr ⟨entry, cached, member⟩)

section Answered

variable {userId : UUID} {request : Request} {answer : Except HTTPException Reply}

theorem pagesOffered_request
    (reached : (systemMachine settings crypto ttlSeconds).run start past = some system)
    (offered : PagesOffered settings crypto ttlSeconds start past system.store)
    (responded : respond settings crypto system userId request = (answer, next)) :
    PagesOffered settings crypto ttlSeconds start (past ++ [.request userId request]) next.store := by
  have does := @respond_does settings crypto system userId request
  rw [responded] at does
  cases does with
  | forgot pages => exact offered.less pages _
  | started secretId task asked pages => exact offered.less (fun other _ listed => pages other ▸ listed) _
  | previewed secretId page payments preview asked answered owner previewed =>
    obtain ⟨cached, txs, fetched, content⟩ := previewPage_content previewed
    intro other result listed payment candidate
    rw [cached] at listed
    rcases mem_pages_cachePage listed with ⟨rfl, added⟩ | older
    · have shown := added
      rw [content, List.mem_map] at added
      obtain ⟨tx, member, rfl⟩ := added
      have compared := compare_of_accepts (List.mem_filter.mp candidate).2
      refine Machine.happened_last reached ⟨userId, request, rfl, asked, answered ▸ (List.mem_filter.mp candidate).1, owner,
        fetched.subset member, compared, fun response replied => ?_⟩
      rw [responded] at replied
      exact mapMatchPreviewToApi_shows (previewReply_ok replied) shown candidate
    · exact (offered other result older payment candidate).later _

theorem tasksDecided_request
    (reached : (systemMachine settings crypto ttlSeconds).run start past = some system)
    (offered : PagesOffered settings crypto ttlSeconds start past system.store)
    (decided : TasksDecided settings crypto ttlSeconds start past system.running)
    (responded : respond settings crypto system userId request = (answer, next)) :
    TasksDecided settings crypto ttlSeconds start (past ++ [.request userId request]) next.running := by
  have does := @respond_does settings crypto system userId request
  rw [responded] at does
  cases does with
  | forgot pages running => exact running ▸ decided.same _
  | previewed secretId page payments preview asked answered owner previewed running => exact running ▸ decided.same _
  | started secretId task asked pages results decisions running =>
    rw [running]
    refine List.forall_mem_append.mpr ⟨decided.same _, ?_⟩
    rw [List.forall_mem_singleton]
    intro decision listed tx payment resolved
    rw [results] at resolved
    obtain ⟨result, member, rfl, -, candidate, -⟩ := resolveDecision_names resolved
    refine ⟨secretId, Machine.happened_last reached ⟨⟨userId, request, rfl, asked, decisions ▸ listed, task.job,
      congrArg Prod.fst responded⟩, offered secretId result member payment candidate⟩⟩

end Answered

theorem goesOn_stepJob (client : FireflyClient) {place : Nat} {task : RunningJob}
    (placed : system.running[place]? = some task) :
    ∀ later ∈ (stepJob settings client system place task).running, ∃ old ∈ system.running,
      later.results = old.results ∧ later.decisions ⊆ old.decisions := by
  obtain ⟨before, after, split, erased, updated⟩ := split_at_place placed
  intro later member
  unfold stepJob at member
  split at member
  next =>
    rw [erased] at member
    exact ⟨later, (mem_running split later).mpr (.inr member), rfl, List.Subset.refl _⟩
  next decision rest decisions =>
    dsimp only at member
    rw [updated, mem_running rfl] at member
    rcases member with rfl | other
    · exact ⟨task, (mem_running split task).mpr (.inl rfl), rfl, decisions ▸ List.subset_cons_self _ _⟩
    · exact ⟨later, (mem_running split later).mpr (.inr other), rfl, List.Subset.refl _⟩

theorem getAllMatches_stepJob (client : FireflyClient) (place : Nat) (task : RunningJob) (secretId : UUID) :
    (stepJob settings client system place task).store.getAllMatches secretId =
      system.store.getAllMatches secretId := by
  unfold stepJob
  split <;> rfl

theorem grounded_step
    (reached : (systemMachine settings crypto ttlSeconds).run start past = some system)
    (offered : PagesOffered settings crypto ttlSeconds start past system.store)
    (decided : TasksDecided settings crypto ttlSeconds start past system.running)
    (stepped : systemStep settings crypto ttlSeconds system label = some next) :
    PagesOffered settings crypto ttlSeconds start (past ++ [label]) next.store ∧
      TasksDecided settings crypto ttlSeconds start (past ++ [label]) next.running := by
  have idle : PagesOffered settings crypto ttlSeconds start (past ++ [label]) system.store ∧
      TasksDecided settings crypto ttlSeconds start (past ++ [label]) system.running :=
    ⟨offered.less (fun _ => List.Subset.refl _) _, decided.same _⟩
  cases label with
  | request userId request =>
    obtain rfl := Option.some.inj stepped
    exact ⟨pagesOffered_request reached offered rfl, tasksDecided_request reached offered decided rfl⟩
  | vaultCall call =>
    rw [systemStep] at stepped
    split_ifs at stepped
    obtain rfl := Option.some.inj stepped
    exact idle
  | jobStep place client =>
    rw [systemStep] at stepped
    split at stepped
    · cases stepped
    next task placed =>
      obtain rfl := Option.some.inj stepped
      exact ⟨offered.less (fun other _ listed => getAllMatches_stepJob client place task other ▸ listed) _,
        decided.less (goesOn_stepJob client placed) _⟩
  | setActive userId isActive =>
    obtain rfl := Option.some.inj stepped
    exact idle
  | fireflyChanged firefly =>
    obtain rfl := Option.some.inj stepped
    exact idle
  | advance elapsed =>
    obtain rfl := Option.some.inj stepped
    exact idle

theorem tasksDecided_run {firefly : FireflyStore} {now : Time}
    (reached : (systemMachine settings crypto ttlSeconds).run (.initial firefly now) past = some system) :
    TasksDecided settings crypto ttlSeconds (.initial firefly now) past system.running := by
  have initially : PagesOffered settings crypto ttlSeconds (.initial firefly now) [] StateStore.initial ∧
      TasksDecided settings crypto ttlSeconds (.initial firefly now) [] [] := by
    constructor
    · intro secretId result listed
      cases listed
    · intro task member
      cases member
  have grounded := @Machine.trace_invariant_of_meets _ _ (systemMachine settings crypto ttlSeconds)
    (fun _ _ => True)
    (fun past system => PagesOffered settings crypto ttlSeconds (.initial firefly now) past system.store ∧
      TasksDecided settings crypto ttlSeconds (.initial firefly now) past system.running)
    (.initial firefly now)
    (fun before state label after ran held _ stepped => grounded_step ran held.1 held.2 stepped)
    initially system past (Machine.meets_of_forall fun _ _ _ => trivial) reached
  exact grounded.2

theorem firefly_step (stepped : systemStep settings crypto ttlSeconds system label = some next)
    (own : ∀ firefly, label ≠ .fireflyChanged firefly) (changed : next.firefly ≠ system.firefly) :
    ∃ place client task, label = .jobStep place client ∧ system.running[place]? = some task ∧
      next = stepJob settings client system place task := by
  cases label with
  | request userId request =>
    obtain rfl := Option.some.inj stepped
    have does := @respond_does settings crypto system userId request
    exfalso
    cases responded : respond settings crypto system userId request with
    | mk answer after =>
      rw [responded] at does changed
      cases does <;> exact changed ‹_›
  | vaultCall call =>
    rw [systemStep] at stepped
    split_ifs at stepped
    obtain rfl := Option.some.inj stepped
    exact absurd rfl changed
  | jobStep place client =>
    rw [systemStep] at stepped
    split at stepped
    · cases stepped
    next task placed => exact ⟨place, client, task, rfl, placed, (Option.some.inj stepped).symm⟩
  | setActive userId isActive =>
    obtain rfl := Option.some.inj stepped
    exact absurd rfl changed
  | fireflyChanged firefly => exact absurd rfl (own firefly)
  | advance elapsed =>
    obtain rfl := Option.some.inj stepped
    exact absurd rfl changed

theorem write_stepJob {client : FireflyClient} {place : Nat} {task : RunningJob}
    (changed : (stepJob settings client system place task).firefly ≠ system.firefly) :
    ∃ decision ∈ task.decisions, ∃ tx payment,
      resolveDecision (matchIndex task.results) decision = .ok (tx, payment) ∧
        client.updateTransaction system.firefly tx.id
            { notes := payment.newNotes settings.lower tx
              tags := some (insert payment.tagDone.value tx.tags) } =
          .ok (stepJob settings client system place task).firefly := by
  unfold stepJob at changed ⊢
  split at changed
  next => exact absurd rfl changed
  next decision rest decisions =>
    refine ⟨decision, decisions ▸ List.mem_cons_self, ?_⟩
    dsimp only [applyDecision] at changed ⊢
    cases resolved : resolveDecision (matchIndex task.results) decision with
    | error failure => simp [resolved, FireflyEnrichmentService.attempt] at changed
    | ok selected =>
      obtain ⟨tx, payment⟩ := selected
      refine ⟨tx, payment, rfl, ?_⟩
      cases applied : FireflyEnrichmentService.applyMatch settings client system.firefly tx payment with
      | error failure => simp [resolved, FireflyEnrichmentService.attempt, applied] at changed
      | ok after =>
        obtain ⟨payload, built, updated⟩ := FireflyEnrichmentService.applyMatch_ok.mp applied
        obtain ⟨-, rfl⟩ := OrderPayment.buildTxUpdate_ok.mp built
        simpa [resolved, FireflyEnrichmentService.attempt, applied] using updated

structure Writes (settings : Settings) (system next : System) (label : SystemLabel)
    (decision : MatchDecision) (tx : Transaction) (payment : AllegroOrderPayment) : Prop where
  sent : ∃ place client, label = .jobStep place client ∧
    client.updateTransaction system.firefly tx.id
        { notes := payment.newNotes settings.lower tx
          tags := some (insert payment.tagDone.value tx.tags) } = .ok next.firefly
  named : tx.id = decision.transactionId ∧ payment.externalShortId = decision.paymentId

-- Whatever this system changes in Firefly, someone decided it after a preview of the secret's owner
-- had found the payment for the transaction.
theorem writes_decided {firefly : FireflyStore} {now : Time}
    (reached : (systemMachine settings crypto ttlSeconds).run (.initial firefly now) past = some system)
    (stepped : systemStep settings crypto ttlSeconds system label = some next)
    (own : ∀ firefly, label ≠ .fireflyChanged firefly) (changed : next.firefly ≠ system.firefly) :
    ∃ decision tx payment, Writes settings system next label decision tx payment ∧
      Decided settings crypto ttlSeconds (.initial firefly now) past decision tx payment := by
  obtain ⟨place, client, task, rfl, placed, rfl⟩ := firefly_step stepped own changed
  obtain ⟨decision, left, tx, payment, resolved, updated⟩ := write_stepJob changed
  obtain ⟨result, -, -, named, -, short⟩ := resolveDecision_names resolved
  have decided := tasksDecided_run reached task (List.mem_of_getElem? placed) decision left tx payment resolved
  exact ⟨decision, tx, payment, ⟨⟨place, client, rfl, updated⟩, named, short⟩, decided⟩

namespace Sample

def afterFirst : System := (machine.run afterRequest [.jobStep 0 .reliable]).getD afterRequest

theorem afterFirst_tagged : afterFirst.firefly ≠ afterRequest.firefly := by
  intro same
  have tags := congrArg (fun firefly => firefly.records.map Transaction.tags) same
  exact absurd tags (by decide)

end Sample

theorem writes_decided_early : ∃ decision tx payment,
    Writes FireflyToolkit.Sample.settings Sample.afterRequest Sample.afterFirst (.jobStep 0 .reliable)
        decision tx payment ∧
      Decided FireflyToolkit.Sample.settings Vault.Sample.library 900 (.initial Sample.account 0)
        (Sample.previewedByAnna ++ [Sample.request]) decision tx payment := by
  have reached : Sample.machine.run (.initial Sample.account 0) (Sample.previewedByAnna ++ [Sample.request]) =
      some Sample.afterRequest := rfl
  have stepped : systemStep FireflyToolkit.Sample.settings Vault.Sample.library 900 Sample.afterRequest
      (.jobStep 0 .reliable) = some Sample.afterFirst := rfl
  exact writes_decided reached stepped (fun _ same => SystemLabel.noConfusion same) Sample.afterFirst_tagged

end Runs

end FireflyToolkit.Allegro
