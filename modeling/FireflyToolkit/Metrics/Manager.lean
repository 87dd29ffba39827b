import FireflyToolkit.Domain.Transaction
import FireflyToolkit.Shared.Transition

set_option autoImplicit false

namespace FireflyToolkit.Metrics

open Transition

class TimeStamped (M : Type) where
  timeStamp : M → Time

structure TXStatisticsMetrics where
  totalTransactions : Int
  fetchingDurationMs : Int
  singlePartTransactions : Int
  uncategorizedTransactions : Int
  blikNotOk : Int
  actionReq : Int
  allegroNotOk : Int
  categorizable : Int
  categorizableByMonth : List (String × Int)
  timeStamp : Time
  deriving DecidableEq

structure BlikStatisticsMetrics where
  totalTransactions : Int
  fetchingDurationMs : Int
  singlePartTransactions : Int
  uncategorizedTransactions : Int
  filteredByDescriptionExact : Int
  filteredByDescriptionPartial : Int
  notProcessedTransactions : Int
  notProcessedByMonth : List (String × Int)
  inclompleteProcesedByMonth : List (String × Int)
  timeStamp : Time
  deriving DecidableEq

structure AllegroMetrics where
  totalTransactions : Int
  fetchingDurationMs : Int
  allegroTransactions : Int
  notProcessedAllegroTransactions : Int
  notProcessedByMonth : List (String × Int)
  timeStamp : Time
  deriving DecidableEq

instance : TimeStamped TXStatisticsMetrics := ⟨TXStatisticsMetrics.timeStamp⟩

instance : TimeStamped BlikStatisticsMetrics := ⟨BlikStatisticsMetrics.timeStamp⟩

instance : TimeStamped AllegroMetrics := ⟨AllegroMetrics.timeStamp⟩

structure MetricsState (M : Type) where
  status : JobStatus
  result : Option M
  error : Option String
  progress : Option String
  lastUpdatedAt : Option Time

-- A `recompute_metrics` task: created, past its first step and waiting for the provider, or done.
inductive RecomputeTask
  | scheduled (forceRefresh : Bool)
  | awaiting (forceRefresh : Bool)
  | done (outcome : TaskOutcome Unit)
  deriving DecidableEq

def RecomputeTask.live : RecomputeTask → Bool
  | scheduled _ | awaiting _ => true
  | done _ => false

-- `suspended` counts the calls of `ensure_current` that wait for the provider's timestamp.
structure Manager (M : Type) where
  state : MetricsState M
  task : Option Nat
  tasks : List RecomputeTask
  suspended : Nat

abbrev TxMetricsManager := Manager TXStatisticsMetrics

abbrev BlikMetricsManager := Manager BlikStatisticsMetrics

abbrev AllegroMetricsManager := Manager AllegroMetrics

variable {M : Type}

def Manager.initial : Manager M := ⟨⟨.pending, none, none, none, none⟩, none, [], 0⟩

-- `cancelled` delivers a CancelledError to a task, before its first step or where it waits.
inductive ManagerLabel (M : Type)
  | ensureCurrent
  | timestampReady (timestamp : Option Time)
  | callerCancelled
  | refresh
  | begins (task : Nat)
  | returns (task : Nat) (metrics : M) (now : Time)
  | raises (task : Nat) (error : PyError)
  | cancelled (task : Nat)
  | callback (task : Nat)

namespace Manager

variable (manager : Manager M)

def live (task : Nat) : Bool := manager.tasks[task]?.any RecomputeTask.live

-- The part of `_start` past its two early returns: a new task becomes the current one.
def launch (forceRefresh : Bool) : Manager M :=
  { manager with
    state :=
      { manager.state with
        status := .running, progress := some "queued", error := none, result := none }
    task := some manager.tasks.length
    tasks := manager.tasks ++ [.scheduled forceRefresh] }

def start (forceRefresh : Bool) : Manager M :=
  if manager.state.status = .running then manager
  else if manager.task.any manager.live then manager
  else manager.launch forceRefresh

def ensureCurrent : Manager M :=
  if manager.state.status = .running then manager
  else { manager with suspended := manager.suspended + 1 }

def HasCurrentResult [TimeStamped M] (timestamp : Option Time) : Bool :=
  manager.state.status = .done &&
    manager.state.result.any fun result => timestamp = some (TimeStamped.timeStamp result)

def resumeEnsure [TimeStamped M] (timestamp : Option Time) : Manager M :=
  if manager.HasCurrentResult timestamp then manager else manager.start false

def setTask (task : Nat) (state : RecomputeTask) : Manager M :=
  { manager with tasks := manager.tasks.set task state }

def beginTask (task : Nat) (forceRefresh : Bool) : Manager M :=
  { manager.setTask task (.awaiting forceRefresh) with
    state :=
      { manager.state with
        status := .running, progress := some "fetching", error := none, result := none } }

def returnTask (task : Nat) (metrics : M) (now : Time) : Manager M :=
  { manager.setTask task (.done (.returned ())) with
    state :=
      { manager.state with
        result := some metrics, status := .done, lastUpdatedAt := some now, progress := none } }

-- Every exception ends up in the state, so the task itself returns.
def raiseTask (task : Nat) (error : PyError) : Manager M :=
  { manager.setTask task (.done (.returned ())) with
    state :=
      { manager.state with
        status := .failed, error := some error.message, progress := none, result := none } }

def onTaskDone (task : Nat) : Manager M :=
  { manager with task := if manager.task = some task then none else manager.task }

end Manager

def managerStep [TimeStamped M] (manager : Manager M) : ManagerLabel M → Option (Manager M)
  | .ensureCurrent => some manager.ensureCurrent
  | .timestampReady timestamp =>
      if manager.suspended = 0 then none
      else some { manager.resumeEnsure timestamp with suspended := manager.suspended - 1 }
  | .callerCancelled =>
      if manager.suspended = 0 then none
      else some { manager with suspended := manager.suspended - 1 }
  | .refresh => some (manager.start true)
  | .begins task =>
      match manager.tasks[task]? with
      | some (.scheduled forceRefresh) => some (manager.beginTask task forceRefresh)
      | _ => none
  | .returns task metrics now =>
      match manager.tasks[task]? with
      | some (.awaiting _) => some (manager.returnTask task metrics now)
      | _ => none
  | .raises task error =>
      match manager.tasks[task]? with
      | some (.awaiting _) => some (manager.raiseTask task error)
      | _ => none
  | .cancelled task =>
      if manager.live task then some (manager.setTask task (.done .cancelled)) else none
  | .callback task =>
      match manager.tasks[task]? with
      | some (.done _) => some (manager.onTaskDone task)
      | _ => none

def managerMachine (M : Type) [TimeStamped M] : Machine (Manager M) (ManagerLabel M) :=
  ⟨managerStep⟩

end FireflyToolkit.Metrics
