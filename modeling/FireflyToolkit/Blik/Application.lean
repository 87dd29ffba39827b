import FireflyToolkit.Blik.Responses
import FireflyToolkit.Blik.StateStore
import FireflyToolkit.Firefly.Attempts
import FireflyToolkit.Firefly.Window

set_option autoImplicit false

namespace FireflyToolkit.Blik

open OrderedDict PyBuiltins

structure FileMatchResponse where
  fileId : String
  decodedName : String
  recordsInFile : Nat
  transactionsFound : Nat
  transactionsNotMatched : Nat
  transactionsWithOneMatch : Nat
  transactionsWithManyMatches : Nat
  content : List ApiMatchResult

def matchFile (settings : Settings) (reader : FireflyReader) (csvRecords : List BankRecord) :
    Except PyError (List (MatchResult BankRecord)) :=
  match FireflyEnrichmentService.matchCandidates settings reader csvRecords
      settings.blikDescriptionFilter .blik_done with
  | .ok results => .ok results
  | .error (.fireflyServiceError message _) =>
      .error (.application .externalServiceFailed message)
  | .error other => .error other

section Selection

-- The first sixteen hexadecimal digits of the SHA-256 hash of a text.
variable (digest : String → String)

def responseOf (encodedId decoded : String) (csvRecords : List BankRecord)
    (results : List (MatchResult BankRecord)) : Except PyError FileMatchResponse := do
  let withMatches (test : Nat → Bool) : Nat :=
    (results.filter fun result => test result.txMatches.length).length
  let matchesApi ← mapMatchResultsToApi digest results
  .ok
    { fileId := encodedId
      decodedName := decoded
      recordsInFile := csvRecords.length
      transactionsFound := results.length
      transactionsNotMatched := withMatches (· == 0)
      transactionsWithOneMatch := withMatches (· == 1)
      transactionsWithManyMatches := withMatches (decide <| 1 < ·)
      content := matchesApi }

-- A preview once the rows of the file are read. The matches are cached before they are mapped to
-- the answer, so they stay where the mapping raises.
def previewMatches (settings : Settings) (store : StateStore) (reader : FireflyReader)
    (encodedId decoded : String) (csvRecords : List BankRecord) :
    StateStore × Except PyError FileMatchResponse :=
  match matchFile settings reader csvRecords with
  | .error failure => (store, .error failure)
  | .ok results =>
      (store.putMatches encodedId results, responseOf digest encodedId decoded csvRecords results)

structure RunningJob where
  job : ApplyJob
  decisions : List MatchDecision
  results : List (MatchResult BankRecord)
  deriving DecidableEq

def startApplyJob (store : StateStore) (encodedId : String) (decisions : List MatchDecision)
    (jobId : UUID) (now : Time) : Except PyError (StateStore × RunningJob) :=
  let results := store.getMatches encodedId
  if results = [] then .error (.application .matchesNotComputed "No match data found")
  else
    let (next, job) := store.createJob jobId encodedId decisions.length now
    .ok (next, ⟨job, decisions, results⟩)

def matchIndex (results : List (MatchResult BankRecord)) : Dict Int (MatchResult BankRecord) :=
  Dict.indexBy (fun result => result.tx.id) results

def findSelectedMatch (transactionId : Int) (result : MatchResult BankRecord)
    (selectedMatchId : String) : Except PyError BankRecord := do
  let candidates ← result.txMatches.mapM fun record => do
    let matchId ← buildBlikMatchId digest transactionId record
    .ok (matchId, record)
  match (Dict.ofPairs candidates).get? selectedMatchId with
  | some evidence => .ok evidence
  | none =>
      .error (.application .invalidMatchSelection ("Match id " ++ selectedMatchId ++
        " not found for transaction id " ++ toString transactionId))

def resolveDecision (index : Dict Int (MatchResult BankRecord)) (decision : MatchDecision) :
    Except PyError (Transaction × BankRecord) :=
  match index.get? decision.transactionId with
  | none =>
      .error (.application .transactionNotFound
        ("Transaction id " ++ toString decision.transactionId ++ " not found"))
  | some result => do
      let evidence ←
        findSelectedMatch digest decision.transactionId result decision.selectedMatchId
      .ok (result.tx, evidence)

def outcomeOf (decision : MatchDecision) : Option PyError → ApplyOutcome
  | none => ⟨decision.transactionId, some decision.selectedMatchId, .success, none⟩
  | some failure =>
      ⟨decision.transactionId, some decision.selectedMatchId, .failed, some failure.message⟩

variable (settings : Settings) (client : FireflyClient)

def applyDecisions (index : Dict Int (MatchResult BankRecord)) :
    FireflyStore → List MatchDecision → FireflyStore × List ApplyOutcome
  | firefly, [] => (firefly, [])
  | firefly, decision :: rest =>
      let (next, failure) := FireflyEnrichmentService.attempt settings client firefly
        (resolveDecision digest index decision)
      let (last, outcomes) := applyDecisions index next rest
      (last, outcomeOf decision failure :: outcomes)

-- No exception leaves the loop over the decisions, so the job always ends as done.
def runApplyJob (task : RunningJob) (firefly : FireflyStore) (finishedAt : Time) :
    FireflyStore × ApplyJob :=
  let (last, outcomes) :=
    applyDecisions digest settings client (matchIndex task.results) firefly task.decisions
  let succeeded := outcomes.filter fun outcome => outcome.status = .success
  let refused := outcomes.filter fun outcome => outcome.status ≠ .success
  (last,
    { task.job with
      applied := task.job.applied + succeeded.length
      failed := task.job.failed + refused.length
      results := task.job.results ++ outcomes
      status := .done
      finishedAt := some finishedAt })

def limitTo {β : Type} (limit : Option Int) (items : List β) : List β :=
  match limit with
  | none => items
  | some count => sliceTo count items

def decisionOf (selected : Transaction × BankRecord) : Except PyError MatchDecision := do
  let matchId ← buildBlikMatchId digest selected.1.id selected.2
  .ok ⟨selected.1.id, matchId⟩

def startAutoApplySingleMatches (store : StateStore) (encodedId : String) (limit : Option Int)
    (jobId : UUID) (now : Time) : Except PyError (StateStore × RunningJob) :=
  let results := store.getMatches encodedId
  if results = [] then .error (.application .matchesNotComputed "No match data found")
  else do
    let decisions ← (selections (limitTo limit (singleMatches results))).mapM (decisionOf digest)
    startApplyJob store encodedId decisions jobId now

end Selection

namespace Sample

def row (details : String) (date : Date) (amount : Decimal) : BankRecord :=
  { date := date, amount := amount, details := some details, recipient := some "Shop"
    operationAmount := amount }

end Sample

section Job

variable (digest : String → String) (settings : Settings) (client : FireflyClient)

def resolutions (results : List (MatchResult BankRecord)) (decisions : List MatchDecision) :
    List (Except PyError (Transaction × BankRecord)) :=
  decisions.map (resolveDecision digest (matchIndex results))

theorem applyDecisions_attempts (results : List (MatchResult BankRecord)) (firefly : FireflyStore)
    (decisions : List MatchDecision) :
    let attempts := FireflyEnrichmentService.attemptAll settings client firefly
      (resolutions digest results decisions)
    applyDecisions digest settings client (matchIndex results) firefly decisions =
      (attempts.1, List.zipWith outcomeOf decisions attempts.2) := by
  induction decisions generalizing firefly with
  | nil => rfl
  | cons decision rest ih =>
    simp only [applyDecisions, ih]
    rfl

-- Every candidate has to have an id before the one that is asked for is looked up.
theorem findSelectedMatch_ok {transactionId : Int} {result : MatchResult BankRecord}
    {matchId : String} {record : BankRecord} :
    findSelectedMatch digest transactionId result matchId = .ok record ↔
      (∀ candidate ∈ result.txMatches, none ∉ textFields candidate) ∧
        (Dict.indexBy (buildBlikMatchId digest transactionId) result.txMatches).get? (.ok matchId) =
          some record := by
  have every : (∀ candidate ∈ result.txMatches, none ∉ textFields candidate) ↔
      ∃ candidates, result.txMatches.mapM (fun record => do
        let matchId ← buildBlikMatchId digest transactionId record
        .ok (matchId, record)) = .ok candidates := by
    rw [mapM_ok_iff]
    refine forall_congr' fun candidate => imp_congr_right fun _ => ?_
    rw [← @buildBlikMatchId_ok_iff digest candidate transactionId]
    cases buildBlikMatchId digest transactionId candidate <;> simp [bind, Except.bind]
  rw [every]
  unfold findSelectedMatch
  cases built : result.txMatches.mapM fun record => do
    let matchId ← buildBlikMatchId digest transactionId record
    .ok (matchId, record) with
  | error failure => simp [bind, Except.bind]
  | ok candidates =>
    have pairs : result.txMatches.map (fun record =>
        (buildBlikMatchId digest transactionId record, record)) =
        candidates.map (Prod.map Except.ok id) := by
      have each := mapM_eq_ok.mp built
      clear built every
      generalize result.txMatches = records at each
      induction each with
      | nil => rfl
      | cons named _ ih =>
        obtain ⟨matchId, hashed, same⟩ := bind_eq_ok.mp named
        rw [List.map_cons, List.map_cons, ih, ← Except.ok.inj same, hashed]
        rfl
    have looked : (Dict.indexBy (buildBlikMatchId digest transactionId) result.txMatches).get?
        (.ok matchId) = (Dict.ofPairs candidates).get? matchId := by
      rw [Dict.indexBy, pairs, Dict.get?_ofPairs_map fun left right => Except.ok.inj]
    rw [looked]
    cases found : (Dict.ofPairs candidates).get? matchId <;> simp [bind, Except.bind, found]

theorem resolveDecision_ok {index : Dict Int (MatchResult BankRecord)} {decision : MatchDecision}
    {tx : Transaction} {record : BankRecord} :
    resolveDecision digest index decision = .ok (tx, record) ↔
      ∃ result, index.get? decision.transactionId = some result ∧ result.tx = tx ∧
        findSelectedMatch digest decision.transactionId result decision.selectedMatchId =
          .ok record := by
  unfold resolveDecision
  cases listed : index.get? decision.transactionId with
  | none => simp
  | some result =>
    cases selected : findSelectedMatch digest decision.transactionId result decision.selectedMatchId <;>
      simp [bind, Except.bind, selected]

theorem startApplyJob_ok {store next : StateStore} {encodedId : String}
    {decisions : List MatchDecision} {jobId : UUID} {now : Time} {task : RunningJob} :
    startApplyJob store encodedId decisions jobId now = .ok (next, task) ↔
      store.getMatches encodedId ≠ [] ∧
        store.createJob jobId encodedId decisions.length now = (next, task.job) ∧
        task.decisions = decisions ∧ task.results = store.getMatches encodedId := by
  obtain ⟨job, planned, results⟩ := task
  unfold startApplyJob
  by_cases nothing : store.getMatches encodedId = []
  · simp [nothing]
  · simp only [nothing, if_false, Except.ok.injEq, RunningJob.mk.injEq, ne_eq,
      not_false_eq_true, true_and, Prod.ext_iff]
    constructor
    · intro ⟨first, second, third, fourth⟩
      exact ⟨⟨first, second⟩, third.symm, fourth.symm⟩
    · intro ⟨⟨first, second⟩, third, fourth⟩
      exact ⟨first, second, third.symm, fourth.symm⟩

end Job

end FireflyToolkit.Blik
