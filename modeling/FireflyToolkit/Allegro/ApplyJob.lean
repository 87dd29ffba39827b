import FireflyToolkit.Allegro.Application
import FireflyToolkit.Firefly.Attempts

set_option autoImplicit false

namespace FireflyToolkit.Allegro

open OrderedDict PyBuiltins

theorem resolveDecision_ok {index : Dict Int (MatchResult AllegroOrderPayment)}
    {decision : MatchDecision} {tx : Transaction} {payment : AllegroOrderPayment} :
    resolveDecision index decision = .ok (tx, payment) ↔
      ∃ result, index.get? decision.transactionId = some result ∧ result.tx = tx ∧
        (indexMatches result).get? decision.paymentId = some payment := by
  unfold resolveDecision
  cases listed : index.get? decision.transactionId with
  | none => simp
  | some result =>
    cases offered : (indexMatches result).get? decision.paymentId with
    | none => simp [offered]
    | some candidate => simp [offered]

theorem resolveDecision_names {results : List (MatchResult AllegroOrderPayment)}
    {decision : MatchDecision} {tx : Transaction} {payment : AllegroOrderPayment}
    (resolved : resolveDecision (matchIndex results) decision = .ok (tx, payment)) :
    ∃ result ∈ results, result.tx = tx ∧ tx.id = decision.transactionId ∧
      payment ∈ result.txMatches ∧ payment.externalShortId = decision.paymentId := by
  obtain ⟨result, listed, rfl, offered⟩ := resolveDecision_ok.mp resolved
  obtain ⟨before, after, split, named, -⟩ := Dict.get?_indexBy_eq_some.mp listed
  obtain ⟨first, second, matched, short, -⟩ := Dict.get?_indexBy_eq_some.mp offered
  exact ⟨result, by simp [split], rfl, named, by simp [matched], short⟩

def outcomeOf (decision : MatchDecision) : Option PyError → ApplyOutcome
  | none => ⟨decision.transactionId, .success, none⟩
  | some failure => ⟨decision.transactionId, .failed, some failure.message⟩

theorem outcomeOf_transactionId (decision : MatchDecision) (failure : Option PyError) :
    (outcomeOf decision failure).transactionId = decision.transactionId := by
  cases failure <;> rfl

theorem report_results (job : ApplyJob) (decision : MatchDecision) (failure : Option PyError) :
    (job.report decision.transactionId failure).results =
      job.results ++ [outcomeOf decision failure] := by
  cases failure <;> rfl

section Job

variable (settings : Settings) (client : FireflyClient)

def resolutions (results : List (MatchResult AllegroOrderPayment)) (decisions : List MatchDecision) :
    List (Except PyError (Transaction × AllegroOrderPayment)) :=
  decisions.map (resolveDecision (matchIndex results))

theorem foldl_applyDecision (results : List (MatchResult AllegroOrderPayment))
    (decisions : List MatchDecision) (run : JobRun) :
    let attempts := FireflyEnrichmentService.attemptAll settings client run.firefly
      (resolutions results decisions)
    let ended := decisions.foldl (applyDecision settings client results) run
    ended.firefly = attempts.1 ∧
      ended.job.results = run.job.results ++ List.zipWith outcomeOf decisions attempts.2 ∧
      ended.calls = run.calls ++ (resolutions results decisions).map Except.toOption := by
  induction decisions generalizing run with
  | nil => simp [resolutions, FireflyEnrichmentService.attemptAll]
  | cons decision rest ih =>
    obtain ⟨store, reports, calls⟩ := ih (applyDecision settings client results run decision)
    refine ⟨store, ?_, ?_⟩
    · rw [List.foldl_cons, reports]
      simp [applyDecision, resolutions, FireflyEnrichmentService.attemptAll, report_results]
    · rw [List.foldl_cons, calls]
      simp [applyDecision, resolutions]

variable (task : RunningJob) (firefly : FireflyStore) (finishedAt : Time)

theorem runApplyJob_firefly :
    (runApplyJob settings client task firefly finishedAt).firefly =
      (FireflyEnrichmentService.attemptAll settings client firefly
        (resolutions task.results task.decisions)).1 :=
  (foldl_applyDecision settings client task.results task.decisions _).1

theorem runApplyJob_calls :
    (runApplyJob settings client task firefly finishedAt).calls =
      (resolutions task.results task.decisions).map Except.toOption :=
  (foldl_applyDecision settings client task.results task.decisions _).2.2

theorem runApplyJob_results (fresh : task.job.results = []) :
    (runApplyJob settings client task firefly finishedAt).job.results =
      List.zipWith outcomeOf task.decisions (FireflyEnrichmentService.attemptAll settings client
        firefly (resolutions task.results task.decisions)).2 := by
  have reports := (foldl_applyDecision settings client task.results task.decisions
    ⟨firefly, { task.job with status := .running }, []⟩).2.1
  simpa [fresh, runApplyJob] using reports

theorem runApplyJob_report (fresh : task.job.results = []) {place : Nat} {decision : MatchDecision}
    (placed : task.decisions[place]? = some decision) :
    ∃ store, (runApplyJob settings client task firefly finishedAt).job.results[place]? =
      some (outcomeOf decision (FireflyEnrichmentService.attempt settings client store
        (resolveDecision (matchIndex task.results) decision)).2) := by
  rw [runApplyJob_results settings client task firefly finishedAt fresh, List.getElem?_zipWith,
    placed, FireflyEnrichmentService.attemptAll_report, resolutions, List.getElem?_map, placed]
  exact ⟨_, rfl⟩

end Job

def initial (text : String) : Option Char := text.toList.head?

theorem initial_append {left right : String} {letter : Char} (first : initial left = some letter) :
    initial (left ++ right) = some letter := by
  have head : left.toList.head? = some letter := first
  simp [initial, head]

theorem initial_refusals (decision : MatchDecision) :
    initial (transactionNotFoundText decision.transactionId) = some 'T' ∧
      initial (invalidSelectionText decision) = some 'P' := by
  constructor
  · exact initial_append (initial_append (by decide))
  · exact initial_append (initial_append (initial_append (by decide)))

theorem initial_failure {settings : Settings} {client : FireflyClient} {firefly : FireflyStore}
    {tx : Transaction} {payment : AllegroOrderPayment} {failure : PyError}
    (failed : FireflyEnrichmentService.applyMatch settings client firefly tx payment =
      .error failure) :
    initial failure.message = some 'D' ∨ initial failure.message = some 'F' := by
  unfold FireflyEnrichmentService.applyMatch FireflyBaseService.updateTransaction at failed
  rcases bind_eq_error.mp failed with built | ⟨payload, -, updated⟩
  · simp only [Evidence.buildTxUpdate, OrderPayment.buildTxUpdate] at built
    split_ifs at built
    rw [← Except.error.inj built]
    exact .inl (by decide)
  · split at updated
    · cases updated
    · rw [← Except.error.inj updated]
      exact .inr (initial_append (by decide))

theorem failure_not_refusal {settings : Settings} {client : FireflyClient} {firefly : FireflyStore}
    {decision : MatchDecision} {tx : Transaction} {payment : AllegroOrderPayment}
    {failure : PyError}
    (failed : FireflyEnrichmentService.applyMatch settings client firefly tx payment =
      .error failure) :
    failure.message ≠ transactionNotFoundText decision.transactionId ∧
      failure.message ≠ invalidSelectionText decision := by
  have refusals := initial_refusals decision
  constructor <;> intro same <;> rcases initial_failure failed with letter | letter <;>
    simp [same, refusals] at letter

theorem resolved_not_refused {settings : Settings} {client : FireflyClient}
    {firefly : FireflyStore} {decision : MatchDecision} {tx : Transaction}
    {payment : AllegroOrderPayment} :
    let outcome := outcomeOf decision
      (FireflyEnrichmentService.attempt settings client firefly (.ok (tx, payment))).2
    outcome.reason ≠ some (transactionNotFoundText decision.transactionId) ∧
      outcome.reason ≠ some (invalidSelectionText decision) := by
  cases applied : FireflyEnrichmentService.applyMatch settings client firefly tx payment with
  | ok next => simp [FireflyEnrichmentService.attempt, applied, outcomeOf]
  | error failure =>
    simpa [FireflyEnrichmentService.attempt, applied, outcomeOf] using failure_not_refusal applied

theorem startApplyJob_ok {store next : StateStore} {secretId : UUID}
    {decisions : List MatchDecision} {jobId : UUID} {now : Time} {task : RunningJob} :
    startApplyJob store secretId decisions jobId now = .ok (next, task) ↔
      store.getAllMatches secretId ≠ [] ∧
        store.createJob jobId secretId decisions.length now = (next, task.job) ∧
        task.decisions = decisions ∧ task.results = store.getAllMatches secretId := by
  obtain ⟨job, planned, results⟩ := task
  unfold startApplyJob
  by_cases nothing : store.getAllMatches secretId = []
  · simp [nothing]
  · simp only [nothing, if_false, Except.ok.injEq, RunningJob.mk.injEq, ne_eq,
      not_false_eq_true, true_and, Prod.ext_iff]
    constructor
    · intro ⟨first, second, third, fourth⟩
      exact ⟨⟨first, second⟩, third.symm, fourth.symm⟩
    · intro ⟨⟨first, second⟩, third, fourth⟩
      exact ⟨first, second, third.symm, fourth.symm⟩

end FireflyToolkit.Allegro
