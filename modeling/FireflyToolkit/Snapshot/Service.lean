import FireflyToolkit.Domain.Transaction
import FireflyToolkit.Shared.Transition

set_option autoImplicit false

namespace FireflyToolkit.Snapshot

open Transition

structure FetchMetrics where
  totalTransactions : Int
  fetchingDurationMs : Int
  invalid : Int
  multipart : Int
  deriving DecidableEq, Repr

structure TransactionSnapshot where
  transactions : List Transaction
  metrics : FetchMetrics
  fetchedAt : Time
  schemaVersion : Int := 1
  deriving DecidableEq

def isStale (snapshot : Option TransactionSnapshot) (maxAgeSeconds : Int) (now : Time) : Bool :=
  match snapshot with
  | none => true
  | some stored => decide (seconds maxAgeSeconds < now - stored.fetchedAt)

-- A `_fetch_and_store_snapshot` task; `finishedAt` numbers the step that ended it.
inductive FetchTask
  | pending (cancelRequested : Bool)
  | finished (outcome : TaskOutcome TransactionSnapshot) (finishedAt : Nat)
  deriving DecidableEq

def FetchTask.unfinished : FetchTask → Bool
  | pending _ => true
  | finished _ _ => false

inductive Request
  | getSnapshot | refreshSnapshot
  deriving DecidableEq, Repr

inductive CallerState
  | servedFromStore (snapshot : TransactionSnapshot)
  | awaiting (task : Nat) (mustCancel : Bool)
  | ended (task : Nat) (outcome : TaskOutcome TransactionSnapshot)
  deriving DecidableEq

-- A call, with the step and the time at which it began; `cancelled` says that somebody cancelled
-- it.
structure Caller where
  request : Request
  beganAt : Nat
  checkedAt : Time
  cancelled : Bool
  state : CallerState
  deriving DecidableEq

structure Service where
  stored : Option TransactionSnapshot
  refreshTask : Option Nat
  tasks : List FetchTask
  callers : List Caller
  now : Time
  steps : Nat

def Service.initial (now : Time) : Service := ⟨none, none, [], [], now, 0⟩

inductive SnapshotLabel
  | tick (elapsed : Nat)
  | call (request : Request)
  | fetched (task : Nat) (transactions : List Transaction) (metrics : FetchMetrics)
  | fetchFailed (task : Nat) (error : PyError)
  | fetchCancelled (task : Nat)
  | cancel (caller : Nat)
  | resume (caller : Nat)
  deriving DecidableEq

namespace Service

variable (service : Service)

def unfinished (task : Nat) : Bool := service.tasks[task]?.any FetchTask.unfinished

def addCaller (request : Request) (state : CallerState) : Service :=
  { service with
    callers := service.callers ++ [⟨request, service.steps, service.now, false, state⟩] }

def startTask (request : Request) : Service :=
  { service with
    tasks := service.tasks ++ [.pending false]
    refreshTask := some service.tasks.length
    callers := service.callers ++
      [⟨request, service.steps, service.now, false, .awaiting service.tasks.length false⟩] }

-- The block under the refresh lock after its check of the store. It awaits nothing that
-- suspends, so it is one step and the lock is never contended.
def joinOrStart (request : Request) : Service :=
  match service.refreshTask with
  | some task =>
      if service.unfinished task then service.addCaller request (.awaiting task false)
      else service.startTask request
  | none => service.startTask request

def ensureSnapshot (maxAgeSeconds : Int) (request : Request) (forceRefresh : Bool) : Service :=
  if forceRefresh then service.joinOrStart request
  else
    match service.stored with
    | some snapshot =>
        if isStale service.stored maxAgeSeconds service.now then service.joinOrStart request
        else service.addCaller request (.servedFromStore snapshot)
    | none => service.joinOrStart request

def getSnapshot (maxAgeSeconds : Int) : Service :=
  match service.stored with
  | some snapshot =>
      if isStale service.stored maxAgeSeconds service.now then
        service.ensureSnapshot maxAgeSeconds .getSnapshot false
      else service.addCaller .getSnapshot (.servedFromStore snapshot)
  | none => service.ensureSnapshot maxAgeSeconds .getSnapshot false

def refreshSnapshot (maxAgeSeconds : Int) : Service :=
  service.ensureSnapshot maxAgeSeconds .refreshSnapshot true

def finishTask (task : Nat) (outcome : TaskOutcome TransactionSnapshot) : Service :=
  { service with tasks := service.tasks.set task (.finished outcome service.steps) }

def storeFetched (task : Nat) (transactions : List Transaction) (metrics : FetchMetrics) : Service :=
  let snapshot : TransactionSnapshot :=
    { transactions := transactions, metrics := metrics, fetchedAt := service.now }
  { service.finishTask task (.returned snapshot) with stored := some snapshot }

-- Cancelling a call that awaits an unfinished task passes the request on to the task; one whose
-- task is done raises at the next step of the call.
def cancelCaller (caller : Nat) (entry : Caller) : Option Service :=
  match entry.state with
  | .awaiting task _ =>
      if service.unfinished task then
        some { service with
          tasks := service.tasks.set task (.pending true)
          callers := service.callers.set caller { entry with cancelled := true } }
      else
        some { service with
          callers := service.callers.set caller
            { entry with cancelled := true, state := .awaiting task true } }
  | _ => none

def resumeCaller (caller : Nat) (entry : Caller) : Option Service :=
  match entry.state with
  | .awaiting task mustCancel =>
      match service.tasks[task]? with
      | some (.finished outcome _) =>
          let result := if mustCancel then .cancelled else outcome
          some { service with
            callers := service.callers.set caller { entry with state := .ended task result }
            refreshTask :=
              if service.refreshTask = some task then none else service.refreshTask }
      | _ => none
  | _ => none

end Service

-- A fetch that was asked to cancel ends at its next step, by the cancellation.
def snapshotAction (maxAgeSeconds : Int) (service : Service) : SnapshotLabel → Option Service
  | .tick elapsed => some { service with now := service.now + elapsed }
  | .call .getSnapshot => some (service.getSnapshot maxAgeSeconds)
  | .call .refreshSnapshot => some (service.refreshSnapshot maxAgeSeconds)
  | .fetched task transactions metrics =>
      if service.tasks[task]? = some (.pending false) then
        some (service.storeFetched task transactions metrics)
      else none
  | .fetchFailed task error =>
      if service.tasks[task]? = some (.pending false) then
        some (service.finishTask task (.raised error))
      else none
  | .fetchCancelled task =>
      if service.tasks[task]? = some (.pending true) then some (service.finishTask task .cancelled)
      else none
  | .cancel caller => service.callers[caller]?.bind (service.cancelCaller caller)
  | .resume caller => service.callers[caller]?.bind (service.resumeCaller caller)

def snapshotStep (maxAgeSeconds : Int) (service : Service) (label : SnapshotLabel) :
    Option Service :=
  (snapshotAction maxAgeSeconds service label).map fun next => { next with steps := service.steps + 1 }

def snapshotMachine (maxAgeSeconds : Int) : Machine Service SnapshotLabel :=
  ⟨snapshotStep maxAgeSeconds⟩

def NeedsFetch (maxAgeSeconds : Int) (service : Service) (request : Request) : Prop :=
  request = .refreshSnapshot ∨ isStale service.stored maxAgeSeconds service.now = true

inductive SnapshotCase (maxAgeSeconds : Int) (service : Service) : SnapshotLabel → Service → Prop
  | ticked (elapsed : Nat) :
      SnapshotCase maxAgeSeconds service (.tick elapsed) { service with now := service.now + elapsed }
  | served (snapshot : TransactionSnapshot) (stored : service.stored = some snapshot)
      (fresh : isStale service.stored maxAgeSeconds service.now = false) :
      SnapshotCase maxAgeSeconds service (.call .getSnapshot)
        (service.addCaller .getSnapshot (.servedFromStore snapshot))
  | joined (request : Request) (task : Nat) (needs : NeedsFetch maxAgeSeconds service request)
      (current : service.refreshTask = some task) (running : service.unfinished task = true) :
      SnapshotCase maxAgeSeconds service (.call request)
        (service.addCaller request (.awaiting task false))
  | started (request : Request) (needs : NeedsFetch maxAgeSeconds service request)
      (idle : ∀ task, service.refreshTask = some task → service.unfinished task = false) :
      SnapshotCase maxAgeSeconds service (.call request) (service.startTask request)
  | fetched (task : Nat) (transactions : List Transaction) (metrics : FetchMetrics)
      (running : service.tasks[task]? = some (.pending false)) :
      SnapshotCase maxAgeSeconds service (.fetched task transactions metrics)
        (service.storeFetched task transactions metrics)
  | failed (task : Nat) (error : PyError) (running : service.tasks[task]? = some (.pending false)) :
      SnapshotCase maxAgeSeconds service (.fetchFailed task error)
        (service.finishTask task (.raised error))
  | stopped (task : Nat) (running : service.tasks[task]? = some (.pending true)) :
      SnapshotCase maxAgeSeconds service (.fetchCancelled task) (service.finishTask task .cancelled)
  | cancelledBefore (caller : Nat) (entry : Caller) (task : Nat) (mustCancel : Bool)
      (listed : service.callers[caller]? = some entry)
      (waits : entry.state = .awaiting task mustCancel) (running : service.unfinished task = true) :
      SnapshotCase maxAgeSeconds service (.cancel caller)
        { service with
          tasks := service.tasks.set task (.pending true)
          callers := service.callers.set caller { entry with cancelled := true } }
  | cancelledAfter (caller : Nat) (entry : Caller) (task : Nat) (mustCancel : Bool)
      (listed : service.callers[caller]? = some entry)
      (waits : entry.state = .awaiting task mustCancel) (done : service.unfinished task = false) :
      SnapshotCase maxAgeSeconds service (.cancel caller)
        { service with
          callers := service.callers.set caller
            { entry with cancelled := true, state := .awaiting task true } }
  | resumed (caller : Nat) (entry : Caller) (task : Nat) (mustCancel : Bool)
      (outcome : TaskOutcome TransactionSnapshot) (finishedAt : Nat)
      (listed : service.callers[caller]? = some entry)
      (waits : entry.state = .awaiting task mustCancel)
      (done : service.tasks[task]? = some (.finished outcome finishedAt)) :
      SnapshotCase maxAgeSeconds service (.resume caller)
        { service with
          callers := service.callers.set caller
            { entry with state := .ended task (if mustCancel then .cancelled else outcome) }
          refreshTask := if service.refreshTask = some task then none else service.refreshTask }

section Cases

variable {maxAgeSeconds : Int} {service next : Service}

theorem joinOrStart_cases {request : Request} (needs : NeedsFetch maxAgeSeconds service request) :
    SnapshotCase maxAgeSeconds service (.call request) (service.joinOrStart request) := by
  unfold Service.joinOrStart
  split
  next task current =>
    split_ifs with running
    · exact .joined request task needs current running
    · refine .started request needs fun other same => ?_
      rw [current] at same
      exact Option.some.inj same ▸ Bool.eq_false_iff.mpr running
  next absent =>
    refine .started request needs fun other same => ?_
    rw [absent] at same
    cases same

theorem getSnapshot_cases :
    SnapshotCase maxAgeSeconds service (.call .getSnapshot) (service.getSnapshot maxAgeSeconds) := by
  unfold Service.getSnapshot Service.ensureSnapshot
  cases held : service.stored with
  | none => exact joinOrStart_cases (.inr (by simp [isStale, held]))
  | some snapshot =>
    cases stale : isStale (some snapshot) maxAgeSeconds service.now with
    | true => exact joinOrStart_cases (.inr (by rw [held, stale]))
    | false => exact .served snapshot held (by rw [held, stale])

theorem snapshotAction_cases {label : SnapshotLabel}
    (acted : snapshotAction maxAgeSeconds service label = some next) :
    SnapshotCase maxAgeSeconds service label next := by
  cases label with
  | tick elapsed => exact Option.some.inj acted ▸ .ticked elapsed
  | call request =>
    cases request with
    | getSnapshot => exact Option.some.inj acted ▸ getSnapshot_cases
    | refreshSnapshot => exact Option.some.inj acted ▸ joinOrStart_cases (.inl rfl)
  | fetched task transactions metrics =>
    simp only [snapshotAction] at acted
    split_ifs at acted with running
    exact Option.some.inj acted ▸ .fetched task transactions metrics running
  | fetchFailed task error =>
    simp only [snapshotAction] at acted
    split_ifs at acted with running
    exact Option.some.inj acted ▸ .failed task error running
  | fetchCancelled task =>
    simp only [snapshotAction] at acted
    split_ifs at acted with running
    exact Option.some.inj acted ▸ .stopped task running
  | cancel caller =>
    obtain ⟨entry, listed, cancelled⟩ := Option.bind_eq_some_iff.mp acted
    unfold Service.cancelCaller at cancelled
    split at cancelled
    next task mustCancel waits =>
      split_ifs at cancelled with running
      · exact Option.some.inj cancelled ▸ .cancelledBefore caller entry task mustCancel listed waits running
      · exact Option.some.inj cancelled ▸
          .cancelledAfter caller entry task mustCancel listed waits (Bool.eq_false_iff.mpr running)
    next => cases cancelled
  | resume caller =>
    obtain ⟨entry, listed, resumed⟩ := Option.bind_eq_some_iff.mp acted
    unfold Service.resumeCaller at resumed
    split at resumed
    next task mustCancel waits =>
      split at resumed
      next outcome finishedAt done =>
        exact Option.some.inj resumed ▸
          .resumed caller entry task mustCancel outcome finishedAt listed waits done
      next => cases resumed
    next => cases resumed

theorem call_needing {request : Request} (needs : NeedsFetch maxAgeSeconds service request) :
    snapshotAction maxAgeSeconds service (.call request) = some (service.joinOrStart request) := by
  cases request with
  | refreshSnapshot => rfl
  | getSnapshot =>
    have stale := needs.resolve_left (by simp)
    cases held : service.stored with
    | none => simp [snapshotAction, Service.getSnapshot, Service.ensureSnapshot, held]
    | some snapshot =>
      rw [held] at stale
      simp [snapshotAction, Service.getSnapshot, Service.ensureSnapshot, held, stale]

theorem call_served {snapshot : TransactionSnapshot} (stored : service.stored = some snapshot)
    (fresh : isStale service.stored maxAgeSeconds service.now = false) :
    snapshotAction maxAgeSeconds service (.call .getSnapshot) =
      some (service.addCaller .getSnapshot (.servedFromStore snapshot)) := by
  rw [stored] at fresh
  simp [snapshotAction, Service.getSnapshot, stored, fresh]

theorem joinOrStart_running {request : Request} {task : Nat}
    (current : service.refreshTask = some task) (running : service.unfinished task = true) :
    service.joinOrStart request = service.addCaller request (.awaiting task false) := by
  simp [Service.joinOrStart, current, running]

theorem joinOrStart_idle {request : Request}
    (idle : ∀ task, service.refreshTask = some task → service.unfinished task = false) :
    service.joinOrStart request = service.startTask request := by
  unfold Service.joinOrStart
  split
  next task current => simp [idle task current]
  next => rfl

theorem snapshotStep_cases {label : SnapshotLabel}
    (stepped : (snapshotMachine maxAgeSeconds).step service label = some next) :
    ∃ acted, SnapshotCase maxAgeSeconds service label acted ∧
      next = { acted with steps := service.steps + 1 } := by
  obtain ⟨acted, action, rfl⟩ := Option.map_eq_some_iff.mp stepped
  exact ⟨acted, snapshotAction_cases action, rfl⟩

end Cases

end FireflyToolkit.Snapshot
