import FireflyToolkit.Allegro.ApplyJob
import FireflyToolkit.Blik.Application
import FireflyToolkit.Shared.AwaitLoop

set_option autoImplicit false

namespace FireflyToolkit

open OrderedDict PyBuiltins Transition

structure UpdateRequest (α : Type) where
  tx : Transaction
  evidence : α
  payload : TransactionUpdate

def requestFor {α : Type} [Evidence α] (settings : Settings)
    (resolution : Except PyError (Transaction × α)) : Except PyError (UpdateRequest α) := do
  let (tx, evidence) ← resolution
  let payload ← Evidence.buildTxUpdate settings.lower evidence tx
  .ok ⟨tx, evidence, payload⟩

namespace Allegro

abbrev JobState := LoopState MatchDecision (UpdateRequest AllegroOrderPayment) PyError ApplyJob

-- Every exception of a decision is caught and counted as it comes.
def applyLoop (settings : Settings) (results : List (MatchResult AllegroOrderPayment)) :
    AwaitLoop MatchDecision (UpdateRequest AllegroOrderPayment) PyError ApplyJob Time where
  start job := { job with status := .running }
  prepare decision := requestFor settings (resolveDecision (matchIndex results) decision)
  catches _ := true
  note job decision failure := job.report decision.transactionId failure
  finish job now := { job with status := .done, finishedAt := some now }
  abort job _ _ := job

end Allegro

namespace Blik

structure Collected where
  job : ApplyJob
  outcomes : List ApplyOutcome

abbrev JobState := LoopState MatchDecision (UpdateRequest BankRecord) PyError Collected

def ApplyJob.countOutcome (job : ApplyJob) (outcome : ApplyOutcome) : ApplyJob :=
  if outcome.status = .success then
    { job with applied := job.applied + 1, results := job.results ++ [outcome] }
  else { job with failed := job.failed + 1, results := job.results ++ [outcome] }

-- The two handlers inside the loop catch every exception of a decision; one that left the loop
-- would fail the job. The outcomes are counted once they are all collected.
def applyLoop (digest : String → String) (settings : Settings)
    (results : List (MatchResult BankRecord)) :
    AwaitLoop MatchDecision (UpdateRequest BankRecord) PyError Collected Time where
  start run := { run with job := { run.job with status := .running } }
  prepare decision := requestFor settings (resolveDecision digest (matchIndex results) decision)
  catches _ := true
  note run decision failure := { run with outcomes := run.outcomes ++ [outcomeOf decision failure] }
  finish run now :=
    { run with
      job :=
        { run.outcomes.foldl ApplyJob.countOutcome run.job with
          status := .done
          finishedAt := some now } }
  abort run failure now :=
    { run with
      job :=
        { run.job with
          status := .failed
          results := run.job.results ++ [⟨-1, none, .failed, some failure.message⟩]
          finishedAt := some now } }

end Blik

structure JobView where
  total : Nat
  status : JobStatus
  applied : Nat
  failed : Nat
  results : List (Int × OutcomeStatus)
  finishedAt : Option Time

def Allegro.ApplyJob.view (job : ApplyJob) : JobView :=
  { total := job.total
    status := job.status
    applied := job.applied
    failed := job.failed
    results := job.results.map fun outcome => (outcome.transactionId, outcome.status)
    finishedAt := job.finishedAt }

def Blik.ApplyJob.view (job : ApplyJob) : JobView :=
  { total := job.total
    status := job.status
    applied := job.applied
    failed := job.failed
    results := job.results.map fun outcome => (outcome.transactionId, outcome.status)
    finishedAt := job.finishedAt }

namespace JobView

def started (total : Nat) : JobView := ⟨total, .running, 0, 0, [], none⟩

def countAll (view : JobView) (reports : List (Int × OutcomeStatus)) : JobView :=
  { view with
    applied := view.applied + (reports.filter fun report => report.2 = .success).length
    failed := view.failed + (reports.filter fun report => report.2 ≠ .success).length
    results := view.results ++ reports }

def done (view : JobView) (now : Time) : JobView :=
  { view with status := .done, finishedAt := some now }

theorem countAll_cons (view : JobView) (report : Int × OutcomeStatus)
    (rest : List (Int × OutcomeStatus)) :
    view.countAll (report :: rest) = (view.countAll [report]).countAll rest := by
  by_cases success : report.2 = .success <;>
    simp [countAll, success, Nat.add_assoc, Nat.add_comm 1]

theorem counted_countAll {view : JobView} (counted : view.applied + view.failed = view.results.length)
    (reports : List (Int × OutcomeStatus)) :
    (view.countAll reports).applied + (view.countAll reports).failed =
      (view.countAll reports).results.length := by
  have split := @List.length_eq_length_filter_add _ reports fun report => decide (report.2 = .success)
  simp only [countAll, List.length_append, ne_eq, decide_not] at counted ⊢
  omega

end JobView

def statusOf : Option PyError → OutcomeStatus
  | none => .success
  | some _ => .failed

section Reports

variable {δ α : Type} (txId : δ → Int)

def reportOf (done : Handled δ (UpdateRequest α) PyError) : Int × OutcomeStatus :=
  (txId done.item, statusOf done.failure)

variable [Evidence α] (lower : String → String) (names : δ → Transaction → α → Prop)

structure Settled (decisions : List δ) (handled : List (Handled δ (UpdateRequest α) PyError))
    (view : JobView) : Prop where
  done : view.status = .done
  finished : view.finishedAt ≠ none
  total : view.applied + view.failed = view.total
  length : view.results.length = view.total
  decided : view.total = decisions.length
  order : view.results.map Prod.fst = decisions.map txId
  named : ∀ (place : Nat) decision tx evidence, decisions[place]? = some decision →
    names decision tx evidence →
      ((view.results[place]?).map Prod.snd = some .success ↔
        ∃ payload, Evidence.buildTxUpdate lower evidence tx = .ok payload ∧
          handled[place]? = some ⟨decision, some ⟨tx, evidence, payload⟩, none⟩)
  unnamed : ∀ (place : Nat) decision, decisions[place]? = some decision →
    (∀ tx evidence, ¬ names decision tx evidence) →
      (view.results[place]?).map Prod.snd = some .failed ∧
        ∃ failure, handled[place]? = some ⟨decision, none, failure⟩

structure Accounted (decisions : List δ) (stage : LoopStage δ (UpdateRequest α))
    (handled : List (Handled δ (UpdateRequest α) PyError)) (view : JobView) : Prop where
  counted : view.applied + view.failed = view.results.length
  bounded : view.results.length ≤ view.total
  unfailed : view.status ≠ .failed
  settled : stage = .ended → Settled txId lower names decisions handled view

variable {txId lower names}

theorem settled_of_recorded {settings : Settings} {resolve : δ → Except PyError (Transaction × α)}
    (resolves : ∀ decision tx evidence, names decision tx evidence →
      resolve decision = .ok (tx, evidence) ∨ ∃ failure, resolve decision = .error failure)
    (refuses : ∀ decision, (∀ tx evidence, ¬ names decision tx evidence) →
      ∃ failure, resolve decision = .error failure)
    {decisions : List δ} {handled : List (Handled δ (UpdateRequest α) PyError)}
    (split : handled.map Handled.item = decisions)
    (recorded : ∀ done ∈ handled, done.Records (requestFor settings (resolve done.item)))
    (now : Time) :
    Settled txId settings.lower names decisions handled
      (((JobView.started decisions.length).countAll (handled.map (reportOf txId))).done now) := by
  have lengths : handled.length = decisions.length := by rw [← split, List.length_map]
  have results : ∀ place : Nat, (((((JobView.started decisions.length).countAll
      (handled.map (reportOf txId))).done now).results[place]?).map Prod.snd) =
        (handled[place]?).map fun done => statusOf done.failure := by
    intro place
    simp [JobView.done, JobView.countAll, JobView.started, reportOf, Function.comp_def]
  have found : ∀ (place : Nat) decision, decisions[place]? = some decision →
      ∃ done, handled[place]? = some done ∧ done ∈ handled ∧ done.item = decision := by
    intro place decision placed
    rw [← split, List.getElem?_map, Option.map_eq_some_iff] at placed
    obtain ⟨done, listed, same⟩ := placed
    exact ⟨done, listed, List.mem_of_getElem? listed, same⟩
  have counted := @JobView.counted_countAll (JobView.started decisions.length) rfl
    (handled.map (reportOf txId))
  have total : (((JobView.started decisions.length).countAll
      (handled.map (reportOf txId))).results).length = decisions.length := by
    simp [JobView.countAll, JobView.started, lengths]
  constructor
  case done => rfl
  case finished => exact Option.some_ne_none now
  case total => exact counted.trans total
  case length => exact total
  case decided => rfl
  case order =>
    simp [JobView.done, JobView.countAll, JobView.started, reportOf, ← split, Function.comp_def]
  case named =>
    intro place decision tx evidence placed named
    obtain ⟨⟨item, request, failure⟩, listed, member, rfl⟩ := found place decision placed
    have record := recorded _ member
    rw [results, listed]
    rcases resolves _ _ _ named with resolved | ⟨reason, refused⟩
    next =>
      simp only [requestFor, resolved, bind, Except.bind] at record
      cases built : Evidence.buildTxUpdate settings.lower evidence tx with
      | error reason =>
        simp only [built, Handled.Records] at record
        simp [record.2, statusOf]
      | ok payload =>
        simp only [built, Handled.Records] at record
        cases failure <;> simp [record, statusOf]
    next =>
      simp only [requestFor, refused, bind, Except.bind, Handled.Records] at record
      simp [record, statusOf]
  case unnamed =>
    intro place decision placed unnamed
    obtain ⟨⟨item, request, failure⟩, listed, member, rfl⟩ := found place decision placed
    obtain ⟨reason, refused⟩ := refuses _ unnamed
    have record := recorded _ member
    simp only [requestFor, refused, bind, Except.bind, Handled.Records] at record
    rw [results, listed]
    simp only [record.1, record.2, Option.map_some, statusOf, true_and]
    exact ⟨_, rfl⟩

end Reports

namespace Allegro

theorem view_report (job : ApplyJob) (decision : MatchDecision) (failure : Option PyError) :
    (job.report decision.transactionId failure).view =
      job.view.countAll [(decision.transactionId, statusOf failure)] := by
  cases failure <;> simp [ApplyJob.report, ApplyJob.view, JobView.countAll, statusOf]

theorem view_noted {settings : Settings} {results : List (MatchResult AllegroOrderPayment)}
    (job : ApplyJob)
    (handled : List (Handled MatchDecision (UpdateRequest AllegroOrderPayment) PyError)) :
    ((applyLoop settings results).noted job handled).view =
      job.view.countAll (handled.map (reportOf MatchDecision.transactionId)) := by
  induction handled generalizing job with
  | nil => simp [AwaitLoop.noted, JobView.countAll]
  | cons done rest ih =>
    have later := ih (job.report done.item.transactionId done.failure)
    rw [List.map_cons, JobView.countAll_cons, reportOf, ← view_report, ← later]
    rfl

end Allegro

namespace Blik

theorem view_countOutcome (job : ApplyJob) (decision : MatchDecision) (failure : Option PyError) :
    (job.countOutcome (outcomeOf decision failure)).view =
      job.view.countAll [(decision.transactionId, statusOf failure)] := by
  cases failure <;> simp [ApplyJob.countOutcome, outcomeOf, ApplyJob.view, JobView.countAll, statusOf]

theorem noted_eq {digest : String → String} {settings : Settings}
    {results : List (MatchResult BankRecord)} (run : Collected)
    (handled : List (Handled MatchDecision (UpdateRequest BankRecord) PyError)) :
    (applyLoop digest settings results).noted run handled =
      ⟨run.job, run.outcomes ++ handled.map fun done => outcomeOf done.item done.failure⟩ := by
  induction handled generalizing run with
  | nil => simp [AwaitLoop.noted]
  | cons done rest ih =>
    change (applyLoop digest settings results).noted
      ⟨run.job, run.outcomes ++ [outcomeOf done.item done.failure]⟩ rest = _
    rw [ih]
    simp

theorem view_counted (job : ApplyJob)
    (handled : List (Handled MatchDecision (UpdateRequest BankRecord) PyError)) :
    ((handled.map fun done => outcomeOf done.item done.failure).foldl ApplyJob.countOutcome job).view =
      job.view.countAll (handled.map (reportOf MatchDecision.transactionId)) := by
  induction handled generalizing job with
  | nil => simp [JobView.countAll]
  | cons done rest ih =>
    rw [List.map_cons, List.foldl_cons, ih, List.map_cons, JobView.countAll_cons, reportOf,
      view_countOutcome]

end Blik

section Runs

variable {δ α Memory : Type} [Evidence α] {txId : δ → Int} {names : δ → Transaction → α → Prop}

-- A loop whose memory shows at most what was handled, and all of it at the end, is accounted for.
theorem accounted_of_run {settings : Settings}
    {loop : AwaitLoop δ (UpdateRequest α) PyError Memory Time}
    {resolve : δ → Except PyError (Transaction × α)} (view : Memory → JobView) {memory : Memory}
    {decisions : List δ} {labels : List (Resumed PyError Time)}
    {state : LoopState δ (UpdateRequest α) PyError Memory}
    (prepares : ∀ decision, loop.prepare decision = requestFor settings (resolve decision))
    (catches : ∀ failure, loop.catches failure = true)
    (resolves : ∀ decision tx evidence, names decision tx evidence →
      resolve decision = .ok (tx, evidence) ∨ ∃ failure, resolve decision = .error failure)
    (refuses : ∀ decision, (∀ tx evidence, ¬ names decision tx evidence) →
      ∃ failure, resolve decision = .error failure)
    (fresh : view memory = { JobView.started decisions.length with status := .pending })
    (underway : ∀ handled, ∃ reports : List (Int × OutcomeStatus), reports.length ≤ handled.length ∧
      view (loop.noted (loop.start memory) handled) =
        (JobView.started decisions.length).countAll reports)
    (finished : ∀ handled now, view (loop.finish (loop.noted (loop.start memory) handled) now) =
      ((JobView.started decisions.length).countAll (handled.map (reportOf txId))).done now)
    (reached : loop.machine.run (AwaitLoop.spawn memory decisions) labels = some state) :
    Accounted txId settings.lower names decisions state.stage state.handled (view state.memory) := by
  have progress := AwaitLoop.run_progress catches reached
  obtain ⟨current, handled, stage⟩ := state
  cases stage with
  | spawned left =>
    obtain ⟨-, rfl, -⟩ := progress
    rw [fresh]
    exact ⟨rfl, Nat.zero_le _, nofun, nofun⟩
  | waiting decision request rest =>
    obtain ⟨⟨split, current_eq, -⟩, -⟩ := progress
    have noted : current = loop.noted (loop.start memory) handled := current_eq
    obtain ⟨reports, shown, shows⟩ := underway handled
    have fewer : handled.length ≤ decisions.length := by
      rw [← split]
      simp
    rw [noted, shows]
    refine ⟨JobView.counted_countAll rfl reports, ?_, nofun, nofun⟩
    simpa [JobView.countAll, JobView.started] using shown.trans fewer
  | ended =>
    obtain ⟨collected, now, ⟨split, collected_eq, recorded⟩, current_eq⟩ := progress
    have noted : current = loop.finish (loop.noted (loop.start memory) handled) now :=
      collected_eq ▸ current_eq
    rw [List.append_nil] at split
    have settled : Settled txId settings.lower names decisions handled
        (((JobView.started decisions.length).countAll (handled.map (reportOf txId))).done now) := by
      refine settled_of_recorded resolves refuses split (fun done member => ?_) now
      rw [← prepares]
      exact recorded done member
    rw [noted, finished]
    refine ⟨settled.total.trans settled.length.symm, settled.length.le, ?_, fun _ => settled⟩
    rw [settled.done]
    exact nofun

end Runs

section Selecting

variable {α κ : Type} {results : List (MatchResult α)}

def Selects (key : Int → α → κ) (results : List (MatchResult α)) (txId : Int) (name : κ)
    (tx : Transaction) (candidate : α) : Prop :=
  ∃ result ∈ results, result.tx = tx ∧ tx.id = txId ∧ candidate ∈ result.txMatches ∧
    key txId candidate = name

theorem selects_listed {key : Int → α → κ} (distinct : (results.map fun result => result.tx.id).Nodup)
    {txId : Int} {name : κ} {tx : Transaction} {candidate : α}
    (selects : Selects key results txId name tx candidate) :
    ∃ result ∈ results, (Dict.indexBy (fun result => result.tx.id) results).get? txId = some result ∧
      result.tx = tx ∧ tx.id = txId ∧ candidate ∈ result.txMatches ∧ key txId candidate = name := by
  obtain ⟨result, member, rfl, rfl, offered, rfl⟩ := selects
  exact ⟨result, member, Dict.get?_indexBy_of_nodup distinct member, rfl, rfl, offered, rfl⟩

theorem lookup_selects [DecidableEq κ] (key : Int → α → κ) {txId : Int} {name : κ}
    {result : MatchResult α} {candidate : α}
    (listed : (Dict.indexBy (fun result => result.tx.id) results).get? txId = some result)
    (offered : (Dict.indexBy (key txId) result.txMatches).get? name = some candidate) :
    Selects key results txId name result.tx candidate := by
  obtain ⟨before, after, split, named, -⟩ := Dict.get?_indexBy_eq_some.mp listed
  obtain ⟨first, second, matched, keyed, -⟩ := Dict.get?_indexBy_eq_some.mp offered
  exact ⟨result, by simp [split], rfl, named, by simp [matched], keyed⟩

end Selecting

theorem error_of_not_ok {β : Type} {outcome : Except PyError β} (never : ∀ value, outcome ≠ .ok value) :
    ∃ failure, outcome = .error failure := by
  cases outcome with
  | error failure => exact ⟨failure, rfl⟩
  | ok value => exact absurd rfl (never value)

namespace Allegro

def Names (results : List (MatchResult AllegroOrderPayment)) (decision : MatchDecision) :
    Transaction → AllegroOrderPayment → Prop :=
  Selects (fun _ payment => payment.externalShortId) results decision.transactionId decision.paymentId

def DistinctIds (results : List (MatchResult AllegroOrderPayment)) : Prop :=
  (results.map fun result => result.tx.id).Nodup ∧
    ∀ result ∈ results, (result.txMatches.map fun payment => payment.externalShortId).Nodup

theorem resolveDecision_iff {results : List (MatchResult AllegroOrderPayment)}
    (distinct : DistinctIds results) {decision : MatchDecision} {tx : Transaction}
    {payment : AllegroOrderPayment} :
    resolveDecision (matchIndex results) decision = .ok (tx, payment) ↔
      Names results decision tx payment := by
  rw [resolveDecision_ok]
  constructor
  · rintro ⟨result, listed, rfl, offered⟩
    exact lookup_selects (fun _ (payment : AllegroOrderPayment) => payment.externalShortId) listed offered
  · intro named
    obtain ⟨result, member, listed, rfl, -, offered, short⟩ := selects_listed distinct.1 named
    refine ⟨result, listed, rfl, ?_⟩
    rw [← short]
    exact Dict.get?_indexBy_of_nodup (distinct.2 result member) offered

def JobsAccounted (settings : Settings) (results : List (MatchResult AllegroOrderPayment)) : Prop :=
  ∀ (store : StateStore) (jobId secretId : UUID) (decisions : List MatchDecision) (startedAt : Time)
      (labels : List (Resumed PyError Time)),
    let spawned : JobState :=
      AwaitLoop.spawn (store.createJob jobId secretId decisions.length startedAt).2 decisions
    (∀ state, (applyLoop settings results).machine.run spawned labels = some state →
      Accounted MatchDecision.transactionId settings.lower (Names results) decisions state.stage
        state.handled state.memory.view) ∧
    (decisions.length + 1 ≤ labels.length → ∃ count final,
      (applyLoop settings results).machine.run spawned (labels.take count) = some final ∧
        final.stage = .ended)

theorem jobsAccounted {settings : Settings} {results : List (MatchResult AllegroOrderPayment)}
    (distinct : DistinctIds results) : JobsAccounted settings results := by
  intro store jobId secretId decisions startedAt labels spawned
  refine ⟨fun state reached => ?_, fun enough => AwaitLoop.run_ends enough⟩
  refine accounted_of_run ApplyJob.view (fun _ => rfl) (fun _ => rfl) ?_ ?_ rfl ?_ ?_ reached
  · exact fun decision tx payment named => .inl ((resolveDecision_iff distinct).mpr named)
  · intro decision unnamed
    exact error_of_not_ok fun selected resolved =>
      unnamed _ _ ((resolveDecision_iff distinct).mp resolved)
  · exact fun handled => ⟨handled.map (reportOf MatchDecision.transactionId),
      (List.length_map _).le, view_noted _ handled⟩
  · intro handled now
    change JobView.done (ApplyJob.view (AwaitLoop.noted _ _ handled)) now = _
    rw [view_noted]
    rfl

end Allegro

namespace Blik

def Names (digest : String → String) (results : List (MatchResult BankRecord))
    (decision : MatchDecision) : Transaction → BankRecord → Prop :=
  Selects (buildBlikMatchId digest) results decision.transactionId (.ok decision.selectedMatchId)

def DistinctIds (digest : String → String) (results : List (MatchResult BankRecord)) : Prop :=
  (results.map fun result => result.tx.id).Nodup ∧
    ∀ result ∈ results, ∀ matchIds,
      result.txMatches.mapM (buildBlikMatchId digest result.tx.id) = .ok matchIds → matchIds.Nodup

theorem resolveDecision_names {digest : String → String} {results : List (MatchResult BankRecord)}
    {decision : MatchDecision} {tx : Transaction} {record : BankRecord}
    (resolved : resolveDecision digest (matchIndex results) decision = .ok (tx, record)) :
    Names digest results decision tx record := by
  obtain ⟨result, listed, rfl, selected⟩ := (resolveDecision_ok digest).mp resolved
  exact lookup_selects (buildBlikMatchId digest) listed ((findSelectedMatch_ok digest).mp selected).2

-- A record without an id keeps every candidate of its transaction from being selected.
theorem names_resolved {digest : String → String} {results : List (MatchResult BankRecord)}
    (distinct : DistinctIds digest results) {decision : MatchDecision} {tx : Transaction}
    {record : BankRecord} (named : Names digest results decision tx record) :
    resolveDecision digest (matchIndex results) decision = .ok (tx, record) ∨
      ∃ failure, resolveDecision digest (matchIndex results) decision = .error failure := by
  obtain ⟨result, member, listed, rfl, same, offered, matchId⟩ := selects_listed distinct.1 named
  by_cases texts : ∀ candidate ∈ result.txMatches, none ∉ textFields candidate
  next =>
    refine .inl ((resolveDecision_ok digest).mpr ⟨result, listed, rfl, ?_⟩)
    obtain ⟨matchIds, built⟩ := mapM_ok_iff.mpr fun candidate candidateMember =>
      (@buildBlikMatchId_ok_iff digest candidate decision.transactionId).mpr
        (texts candidate candidateMember)
    have nodup : (result.txMatches.map (buildBlikMatchId digest decision.transactionId)).Nodup := by
      rw [mapM_eq_ok_iff_map.mp built]
      exact (distinct.2 result member matchIds (same ▸ built)).map fun _ _ => Except.ok.inj
    refine (findSelectedMatch_ok digest).mpr ⟨texts, ?_⟩
    rw [← matchId]
    exact Dict.get?_indexBy_of_nodup nodup offered
  next =>
    refine .inr (error_of_not_ok fun selected resolved => texts ?_)
    obtain ⟨other, found, -, selects⟩ := (resolveDecision_ok digest).mp resolved
    obtain rfl := Option.some.inj (listed.symm.trans found)
    exact ((findSelectedMatch_ok digest).mp selects).1

def JobsAccounted (digest : String → String) (settings : Settings)
    (results : List (MatchResult BankRecord)) : Prop :=
  ∀ (store : StateStore) (jobId : UUID) (fileId : String) (decisions : List MatchDecision)
      (startedAt : Time) (labels : List (Resumed PyError Time)),
    let spawned : JobState :=
      AwaitLoop.spawn ⟨(store.createJob jobId fileId decisions.length startedAt).2, []⟩ decisions
    (∀ state, (applyLoop digest settings results).machine.run spawned labels = some state →
      Accounted MatchDecision.transactionId settings.lower (Names digest results) decisions
        state.stage state.handled state.memory.job.view) ∧
    (decisions.length + 1 ≤ labels.length → ∃ count final,
      (applyLoop digest settings results).machine.run spawned (labels.take count) = some final ∧
        final.stage = .ended)

theorem jobsAccounted {digest : String → String} {settings : Settings}
    {results : List (MatchResult BankRecord)}
    (distinct : DistinctIds digest results) : JobsAccounted digest settings results := by
  intro store jobId fileId decisions startedAt labels spawned
  refine ⟨fun state reached => ?_, fun enough => AwaitLoop.run_ends enough⟩
  refine accounted_of_run (fun run => run.job.view) (fun _ => rfl) (fun _ => rfl) ?_ ?_ rfl
    ?_ ?_ reached
  · exact fun decision tx record named => names_resolved distinct named
  · intro decision unnamed
    exact error_of_not_ok fun selected resolved => unnamed _ _ (resolveDecision_names resolved)
  · intro handled
    refine ⟨[], Nat.zero_le _, ?_⟩
    rw [noted_eq]
    rfl
  · intro handled now
    rw [noted_eq]
    change JobView.done (ApplyJob.view (List.foldl ApplyJob.countOutcome _
      ([] ++ handled.map fun done => outcomeOf done.item done.failure))) now = _
    rw [List.nil_append, view_counted]
    rfl

end Blik

section Clients

variable {α : Type} [Evidence α] (settings : Settings) (client : FireflyClient)

def answerFrom (store : FireflyStore) (request : UpdateRequest α) : FireflyStore × Option PyError :=
  match FireflyBaseService.updateTransaction client store request.tx request.payload with
  | .ok next => (next, none)
  | .error failure => (store, some failure)

-- An attempt is a request that is answered at once, or an exception before it is sent.
theorem attempt_eq (store : FireflyStore) (resolution : Except PyError (Transaction × α)) :
    FireflyEnrichmentService.attempt settings client store resolution =
      match requestFor settings resolution with
      | .ok request => answerFrom client store request
      | .error failure => (store, some failure) := by
  cases resolution with
  | error failure => rfl
  | ok selected =>
    obtain ⟨tx, evidence⟩ := selected
    simp only [FireflyEnrichmentService.attempt, FireflyEnrichmentService.applyMatch, requestFor, bind,
      Except.bind]
    cases Evidence.buildTxUpdate settings.lower evidence tx with
    | error failure => rfl
    | ok payload => rfl

end Clients

namespace Allegro

theorem sweep_eq (settings : Settings) (client : FireflyClient)
    (results : List (MatchResult AllegroOrderPayment)) (run : JobRun) (decisions : List MatchDecision) :
    let ended := decisions.foldl (applyDecision settings client results) run
    (applyLoop settings results).sweep (answerFrom client) run.firefly run.job decisions =
      (ended.firefly, ended.job) := by
  induction decisions generalizing run with
  | nil => rfl
  | cons decision rest ih =>
    have later := ih (applyDecision settings client results run decision)
    rw [List.foldl_cons]
    refine Eq.trans ?_ later
    have prepared : (applyLoop settings results).prepare decision =
        requestFor settings (resolveDecision (matchIndex results) decision) := rfl
    simp only [AwaitLoop.sweep, prepared, applyDecision, attempt_eq]
    cases requestFor settings (resolveDecision (matchIndex results) decision) <;> rfl

theorem runApplyJob_run (settings : Settings) (client : FireflyClient) (task : RunningJob)
    (firefly : FireflyStore) (finishedAt : Time) :
    ∃ labels final, (applyLoop settings task.results).machine.run
        (AwaitLoop.spawn task.job task.decisions) labels = some final ∧ final.stage = .ended ∧
      final.memory = (runApplyJob settings client task firefly finishedAt).job := by
  obtain ⟨labels, final, reached, ended, memory⟩ := AwaitLoop.run_sweep (answerFrom client)
    (applyLoop settings task.results) (fun _ => rfl) finishedAt firefly
    task.job task.decisions
  refine ⟨labels, final, reached, ended, memory.trans ?_⟩
  have swept := sweep_eq settings client task.results ⟨firefly, { task.job with status := .running }, []⟩
    task.decisions
  exact congrArg
    (fun swept => ({ swept.2 with status := .done, finishedAt := some finishedAt } : ApplyJob)) swept

end Allegro

namespace Blik

theorem sweep_eq (digest : String → String) (settings : Settings) (client : FireflyClient)
    (results : List (MatchResult BankRecord)) (firefly : FireflyStore) (run : Collected)
    (decisions : List MatchDecision) :
    let ended := applyDecisions digest settings client (matchIndex results) firefly decisions
    (applyLoop digest settings results).sweep (answerFrom client) firefly run decisions =
      (ended.1, ⟨run.job, run.outcomes ++ ended.2⟩) := by
  induction decisions generalizing firefly run with
  | nil => simp [AwaitLoop.sweep, applyDecisions]
  | cons decision rest ih =>
    have prepared : (applyLoop digest settings results).prepare decision =
        requestFor settings (resolveDecision digest (matchIndex results) decision) := rfl
    simp only [AwaitLoop.sweep, prepared, applyDecisions, attempt_eq]
    have noted : ∀ failure, (applyLoop digest settings results).note run decision failure =
        ⟨run.job, run.outcomes ++ [outcomeOf decision failure]⟩ := fun _ => rfl
    cases requestFor settings (resolveDecision digest (matchIndex results) decision) <;>
      simp [noted, ih]

theorem foldl_countOutcome (job : ApplyJob) (outcomes : List ApplyOutcome) :
    outcomes.foldl ApplyJob.countOutcome job =
      { job with
        applied := job.applied + (outcomes.filter fun outcome => outcome.status = .success).length
        failed := job.failed + (outcomes.filter fun outcome => outcome.status ≠ .success).length
        results := job.results ++ outcomes } := by
  induction outcomes generalizing job with
  | nil => simp
  | cons outcome rest ih =>
    rw [List.foldl_cons, ih]
    by_cases success : outcome.status = .success <;>
      simp [ApplyJob.countOutcome, success, Nat.add_assoc, Nat.add_comm 1]

theorem runApplyJob_run (digest : String → String) (settings : Settings) (client : FireflyClient)
    (task : RunningJob) (firefly : FireflyStore) (finishedAt : Time) :
    ∃ labels final, (applyLoop digest settings task.results).machine.run
        (AwaitLoop.spawn ⟨task.job, []⟩ task.decisions) labels = some final ∧ final.stage = .ended ∧
      final.memory.job = (runApplyJob digest settings client task firefly finishedAt).2 := by
  obtain ⟨labels, final, reached, ended, memory⟩ := AwaitLoop.run_sweep (answerFrom client)
    (applyLoop digest settings task.results) (fun _ => rfl) finishedAt
    firefly ⟨task.job, []⟩ task.decisions
  refine ⟨labels, final, reached, ended, ?_⟩
  have swept := sweep_eq digest settings client task.results firefly
    ⟨{ task.job with status := .running }, []⟩ task.decisions
  have started : (applyLoop digest settings task.results).start ⟨task.job, []⟩ =
      ⟨{ task.job with status := .running }, []⟩ := rfl
  rw [memory, started, swept]
  change ({ List.foldl ApplyJob.countOutcome _ ([] ++ _) with
    status := .done, finishedAt := some finishedAt } : ApplyJob) = _
  rw [List.nil_append, foldl_countOutcome]
  rfl

end Blik

theorem applyJobs_accounted {digest : String → String} {settings : Settings}
    {payments : List (MatchResult AllegroOrderPayment)} {records : List (MatchResult BankRecord)}
    (distinctPayments : Allegro.DistinctIds payments)
    (distinctRecords : Blik.DistinctIds digest records) :
    Allegro.JobsAccounted settings payments ∧ Blik.JobsAccounted digest settings records :=
  ⟨Allegro.jobsAccounted distinctPayments, Blik.jobsAccounted distinctRecords⟩

namespace Sample

def alikeResults {α : Type} (candidates : List α) : List (MatchResult α) :=
  [⟨purchase 7 twelfth (cents 1000), candidates, .new⟩,
    ⟨purchase 8 twelfth (cents 1000), candidates, .new⟩]

def alikePayments : List AllegroOrderPayment :=
  [Allegro.Sample.payment "first" twelfth (cents 1000), Allegro.Sample.payment "second" twelfth (cents 1000)]

def alikeRows : List BankRecord :=
  [Blik.Sample.row "Order" twelfth (cents 1000), Blik.Sample.row "Bread" twelfth (cents 1000)]

end Sample

theorem applyJobs_accounted_alike :
    Allegro.JobsAccounted Sample.settings (Sample.alikeResults Sample.alikePayments) ∧
      Blik.JobsAccounted id Sample.settings (Sample.alikeResults Sample.alikeRows) := by
  have nodup : ∀ result ∈ Sample.alikeResults Sample.alikeRows,
      (result.txMatches.map (Blik.buildBlikMatchId id result.tx.id)).Nodup := by decide
  refine applyJobs_accounted ⟨by decide, by decide⟩ ⟨by decide, fun result member matchIds built => ?_⟩
  have each := nodup result member
  rw [mapM_eq_ok_iff_map.mp built] at each
  exact each.of_map _

end FireflyToolkit
