import FireflyToolkit.Allegro.StateStore
import FireflyToolkit.Firefly.Services

set_option autoImplicit false

namespace FireflyToolkit.Allegro

open OrderedDict PyBuiltins

structure MatchPreview where
  login : String
  paymentsFetched : Nat
  transactionsFound : Nat
  transactionsNotMatched : Nat
  transactionsWithOneMatch : Nat
  transactionsWithManyMatches : Nat
  content : List (MatchResult AllegroOrderPayment)
  unmatchedPayments : List AllegroOrderPayment

def matchPage (settings : Settings) (firefly : FireflyStore) (payments : List AllegroOrderPayment) :
    Except PyError (List (MatchResult AllegroOrderPayment) × List AllegroOrderPayment) :=
  match FireflyEnrichmentService.matchWithUnmatched settings firefly payments
      settings.allegroDescriptionFilter .allegro_done with
  | .ok found => .ok found
  | .error (.fireflyServiceError message _) =>
      .error (.application .externalServiceFailed message)
  | .error other => .error other

def loginOf : List AllegroOrderPayment → String
  | [] => "unknown"
  | payment :: _ => payment.allegroLogin

def cachePage (store : StateStore) (secretId : UUID) (page : PageRequest)
    (payments : List AllegroOrderPayment) (results : List (MatchResult AllegroOrderPayment)) :
    StateStore :=
  store.putPageMatches secretId
    { page := page, login := loginOf payments, payments := payments, results := results }

def previewPage (settings : Settings) (store : StateStore) (firefly : FireflyStore)
    (secretId : UUID) (page : PageRequest) (payments : List AllegroOrderPayment) :
    Except PyError (StateStore × MatchPreview) := do
  let (results, unmatchedPayments) ← matchPage settings firefly payments
  let withMatches (test : Nat → Bool) : Nat :=
    (results.filter fun result => test result.txMatches.length).length
  .ok (cachePage store secretId page payments results,
    { login := loginOf payments
      paymentsFetched := payments.length
      transactionsFound := results.length
      transactionsNotMatched := withMatches (· == 0)
      transactionsWithOneMatch := withMatches (· == 1)
      transactionsWithManyMatches := withMatches (decide <| 1 < ·)
      content := results
      unmatchedPayments := unmatchedPayments })

theorem previewPage_ok {settings : Settings} {store next : StateStore} {firefly : FireflyStore}
    {secretId : UUID} {page : PageRequest} {payments : List AllegroOrderPayment}
    {preview : MatchPreview}
    (previewed : previewPage settings store firefly secretId page payments = .ok (next, preview)) :
    ∃ txs : List Transaction, txs.Sublist firefly.records ∧
      next = store.putPageMatches secretId
        { page := page, login := loginOf payments, payments := payments
          results := txs.map (matchResult payments .allegro_done) } := by
  unfold previewPage at previewed
  obtain ⟨⟨results, unmatched⟩, matching, returned⟩ := bind_eq_ok.mp previewed
  obtain ⟨rfl, -⟩ := Prod.mk.inj (Except.ok.inj returned)
  have matched : FireflyEnrichmentService.matchWithUnmatched settings firefly payments
      settings.allegroDescriptionFilter .allegro_done = .ok (results, unmatched) := by
    unfold matchPage at matching
    split at matching <;> simp_all
  obtain ⟨txs, fetched, transactions⟩ := FireflyEnrichmentService.matchWithUnmatched_ok matched
  exact ⟨txs, fetched, by rw [cachePage, matchTransactions_results transactions]⟩

-- A spawned task: the matches are those cached when the job was started.
structure RunningJob where
  job : ApplyJob
  decisions : List MatchDecision
  results : List (MatchResult AllegroOrderPayment)
  deriving DecidableEq

def startApplyJob (store : StateStore) (secretId : UUID) (decisions : List MatchDecision)
    (jobId : UUID) (now : Time) : Except PyError (StateStore × RunningJob) :=
  let results := store.getAllMatches secretId
  if results = [] then .error (.application .matchesNotComputed "")
  else
    let (next, job) := store.createJob jobId secretId decisions.length now
    .ok (next, ⟨job, decisions, results⟩)

def matchIndex (results : List (MatchResult AllegroOrderPayment)) :
    Dict Int (MatchResult AllegroOrderPayment) :=
  Dict.indexBy (fun result => result.tx.id) results

def indexMatches (result : MatchResult AllegroOrderPayment) : Dict String AllegroOrderPayment :=
  Dict.indexBy AllegroOrderPayment.externalShortId result.txMatches

def transactionNotFoundText (txId : Int) : String :=
  "Transaction id " ++ toString txId ++ " not found"

def invalidSelectionText (decision : MatchDecision) : String :=
  "Payment id " ++ decision.paymentId ++ " not found for transaction id " ++
    toString decision.transactionId

def resolveDecision (index : Dict Int (MatchResult AllegroOrderPayment))
    (decision : MatchDecision) : Except PyError (Transaction × AllegroOrderPayment) :=
  match index.get? decision.transactionId with
  | none =>
      .error (.application .transactionNotFound (transactionNotFoundText decision.transactionId))
  | some result =>
      match (indexMatches result).get? decision.paymentId with
      | none => .error (.application .invalidMatchSelection (invalidSelectionText decision))
      | some payment => .ok (result.tx, payment)

-- `calls` records for each decision the arguments of its `apply_match` call, if it came to one.
structure JobRun where
  firefly : FireflyStore
  job : ApplyJob
  calls : List (Option (Transaction × AllegroOrderPayment))

def ApplyJob.report (job : ApplyJob) (txId : Int) : Option PyError → ApplyJob
  | none =>
      { job with
        applied := job.applied + 1
        results := job.results ++ [⟨txId, .success, none⟩] }
  | some failure =>
      { job with
        failed := job.failed + 1
        results := job.results ++ [⟨txId, .failed, some failure.message⟩] }

section Job

variable (settings : Settings) (client : FireflyClient)

def applyDecision (results : List (MatchResult AllegroOrderPayment)) (run : JobRun)
    (decision : MatchDecision) : JobRun :=
  let resolution := resolveDecision (matchIndex results) decision
  let (firefly, failure) := FireflyEnrichmentService.attempt settings client run.firefly resolution
  { firefly := firefly
    job := run.job.report decision.transactionId failure
    calls := run.calls ++ [resolution.toOption] }

def runApplyJob (task : RunningJob) (firefly : FireflyStore) (finishedAt : Time) : JobRun :=
  let started : JobRun := ⟨firefly, { task.job with status := .running }, []⟩
  let ended := task.decisions.foldl (applyDecision settings client task.results) started
  { ended with job := { ended.job with status := .done, finishedAt := some finishedAt } }

end Job

-- A limit of zero is no limit.
def limitTo {β : Type} (limit : Option Int) (items : List β) : List β :=
  match limit with
  | none => items
  | some count => if count = 0 then items else sliceTo count items

def decisionOf (selected : Transaction × AllegroOrderPayment) : MatchDecision :=
  ⟨selected.2.externalShortId, selected.1.id⟩

def startAutoApplySingleMatches (store : StateStore) (secretId : UUID) (limit : Option Int)
    (jobId : UUID) (now : Time) : Except PyError (StateStore × RunningJob) :=
  let results := store.getAllMatches secretId
  if results = [] then .error (.application .matchesNotComputed "")
  else
    let decisions := (selections (limitTo limit (singleMatches results))).map decisionOf
    startApplyJob store secretId decisions jobId now

namespace Sample

def payment (name : String) (date : Date) (amount : Decimal) : AllegroOrderPayment :=
  { date := date, amount := amount, details := ["Buyer: anna", "Order " ++ name]
    tagDone := .allegro_done, isBalanced := true, allegroLogin := "anna"
    externalShortId := name, externalId := "payment-" ++ name }

def secondPage : PageRequest :=
  { PageRequest.default with offset := 25, offset_nonnegative := by decide }

end Sample

end FireflyToolkit.Allegro
