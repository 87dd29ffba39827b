import FireflyToolkit.Metrics.Manager

set_option autoImplicit false

namespace FireflyToolkit.Metrics

open Transition

variable {M : Type} [TimeStamped M] {manager acted : Manager M} {label : ManagerLabel M}

inductive ManagerCase (manager : Manager M) : ManagerLabel M → Manager M → Prop
  | unchanged (label : ManagerLabel M) (entry : ∀ task, label ≠ .cancelled task) :
      ManagerCase manager label manager
  | launched (label : ManagerLabel M) (forceRefresh : Bool) (entry : ∀ task, label ≠ .cancelled task)
      (stopped : manager.state.status ≠ .running) :
      ManagerCase manager label (manager.launch forceRefresh)
  | begun (task : Nat) (forceRefresh : Bool)
      (waits : manager.tasks[task]? = some (.scheduled forceRefresh)) :
      ManagerCase manager (.begins task) (manager.beginTask task forceRefresh)
  | returned (task : Nat) (metrics : M) (now : Time) (forceRefresh : Bool)
      (waits : manager.tasks[task]? = some (.awaiting forceRefresh)) :
      ManagerCase manager (.returns task metrics now) (manager.returnTask task metrics now)
  | raised (task : Nat) (error : PyError) (forceRefresh : Bool)
      (waits : manager.tasks[task]? = some (.awaiting forceRefresh)) :
      ManagerCase manager (.raises task error) (manager.raiseTask task error)
  | cancelled (task : Nat) (running : manager.live task = true) :
      ManagerCase manager (.cancelled task) (manager.setTask task (.done .cancelled))
  | calledBack (task : Nat) (outcome : TaskOutcome Unit)
      (ended : manager.tasks[task]? = some (.done outcome)) :
      ManagerCase manager (.callback task) (manager.onTaskDone task)

omit [TimeStamped M] in
theorem start_case (forceRefresh : Bool) (entry : ∀ task, label ≠ .cancelled task) :
    ManagerCase manager label (manager.start forceRefresh) := by
  unfold Manager.start
  by_cases running : manager.state.status = .running
  next =>
    rw [if_pos running]
    exact .unchanged label entry
  next =>
    rw [if_neg running]
    cases manager.task.any manager.live with
    | true => exact .unchanged label entry
    | false => exact .launched label forceRefresh entry running

theorem managerStep_cases {next : Manager M}
    (stepped : (managerMachine M).step manager label = some next) :
    ∃ acted suspended, ManagerCase manager label acted ∧
      next = { acted with suspended := suspended } := by
  change managerStep manager label = some next at stepped
  cases label with
  | ensureCurrent =>
    cases stepped
    unfold Manager.ensureCurrent
    split
    · exact ⟨manager, manager.suspended, .unchanged _ nofun, rfl⟩
    · exact ⟨manager, manager.suspended + 1, .unchanged _ nofun, rfl⟩
  | timestampReady timestamp =>
    simp only [managerStep, Option.ite_none_left_eq_some, Option.some.injEq] at stepped
    refine ⟨manager.resumeEnsure timestamp, _, ?_, stepped.2.symm⟩
    unfold Manager.resumeEnsure
    split
    · exact .unchanged _ nofun
    · exact start_case false nofun
  | callerCancelled =>
    simp only [managerStep, Option.ite_none_left_eq_some, Option.some.injEq] at stepped
    exact ⟨manager, _, .unchanged _ nofun, stepped.2.symm⟩
  | refresh =>
    cases stepped
    exact ⟨manager.start true, _, start_case true nofun, rfl⟩
  | begins task =>
    simp only [managerStep] at stepped
    split at stepped
    next forceRefresh waits =>
      cases stepped
      exact ⟨_, _, .begun task forceRefresh waits, rfl⟩
    next => cases stepped
  | returns task metrics now =>
    simp only [managerStep] at stepped
    split at stepped
    next forceRefresh waits =>
      cases stepped
      exact ⟨_, _, .returned task metrics now forceRefresh waits, rfl⟩
    next => cases stepped
  | raises task error =>
    simp only [managerStep] at stepped
    split at stepped
    next forceRefresh waits =>
      cases stepped
      exact ⟨_, _, .raised task error forceRefresh waits, rfl⟩
    next => cases stepped
  | cancelled task =>
    simp only [managerStep, Option.ite_none_right_eq_some, Option.some.injEq] at stepped
    rcases stepped with ⟨running, rfl⟩
    exact ⟨_, _, .cancelled task running, rfl⟩
  | callback task =>
    simp only [managerStep] at stepped
    split at stepped
    next outcome ended =>
      cases stepped
      exact ⟨_, _, .calledBack task outcome ended, rfl⟩
    next => cases stepped

namespace Manager

omit [TimeStamped M]

def WasCancelled (manager : Manager M) (task : Nat) : Prop :=
  manager.tasks[task]? = some (.done .cancelled)

theorem live_of_found {task : Nat} {state : RecomputeTask}
    (found : manager.tasks[task]? = some state) : manager.live task = state.live := by
  simp [live, found]

theorem live_setTask {task : Nat} {before : RecomputeTask}
    (found : manager.tasks[task]? = some before) (after : RecomputeTask) (other : Nat) :
    (manager.setTask task after).live other =
      if task = other then after.live else manager.live other := by
  have bound := (List.getElem?_eq_some_iff.mp found).1
  by_cases same : task = other
  next =>
    subst same
    simp [live, setTask, List.getElem?_set_self bound]
  next => simp [live, setTask, List.getElem?_set_ne same, same]

theorem wasCancelled_setTask {task : Nat} {before : RecomputeTask}
    (found : manager.tasks[task]? = some before) (after : RecomputeTask) (other : Nat) :
    (manager.setTask task after).WasCancelled other ↔
      if task = other then after = .done .cancelled else manager.WasCancelled other := by
  have bound := (List.getElem?_eq_some_iff.mp found).1
  by_cases same : task = other
  next =>
    subst same
    simp [WasCancelled, setTask, List.getElem?_set_self bound]
  next => simp [WasCancelled, setTask, List.getElem?_set_ne same, same]

theorem live_launch (forceRefresh : Bool) (task : Nat) :
    (manager.launch forceRefresh).live task =
      (manager.live task || task == manager.tasks.length) := by
  rcases Nat.lt_trichotomy task manager.tasks.length with before | same | after
  · have other : (task == manager.tasks.length) = false := by simp; omega
    simp [live, launch, List.getElem?_append_left before, other]
  · subst same
    simp [live, launch, RecomputeTask.live]
  · have outside : (manager.tasks ++ [RecomputeTask.scheduled forceRefresh])[task]? = none :=
      List.getElem?_eq_none (by simp; omega)
    have absent : manager.tasks[task]? = none := List.getElem?_eq_none (by omega)
    have other : (task == manager.tasks.length) = false := by simp; omega
    simp [live, launch, outside, absent, other]

theorem wasCancelled_launch (forceRefresh : Bool) (task : Nat) :
    (manager.launch forceRefresh).WasCancelled task ↔ manager.WasCancelled task := by
  unfold WasCancelled launch
  rcases Nat.lt_or_ge task manager.tasks.length with before | after
  · rw [List.getElem?_append_left before]
  · rw [List.getElem?_append_right after, List.getElem?_eq_none after]
    cases task - manager.tasks.length <;> simp

end Manager

-- What holds of the manager after the labels of a run: the one live task is the current one and has
-- the status on RUNNING, and only a cancelled task leaves that status behind.
structure Tracked (past : List (ManagerLabel M)) (manager : Manager M) : Prop where
  current : ∀ task, manager.live task = true →
    manager.task = some task ∧ manager.state.status = .running
  held : manager.state.status = .running →
    (∃ task, manager.live task = true) ∨ ∃ task, manager.WasCancelled task
  wedged : ∀ task, manager.WasCancelled task →
    manager.state.status = .running ∧ ∀ other, manager.live other = false
  recorded : (∃ task, manager.WasCancelled task) ↔ ∃ task, ManagerLabel.cancelled task ∈ past

section Steps

omit [TimeStamped M]

variable {past : List (ManagerLabel M)} (tracked : Tracked past manager)

include tracked

theorem Tracked.idle (stopped : manager.state.status ≠ .running) (task : Nat) :
    manager.live task = false ∧ ¬ manager.WasCancelled task := by
  constructor
  · cases running : manager.live task with
    | true => exact absurd (tracked.current task running).2 stopped
    | false => rfl
  · intro cancelled
    exact stopped (tracked.wedged task cancelled).1

theorem Tracked.none_cancelled {task : Nat} (running : manager.live task = true) (other : Nat) :
    ¬ manager.WasCancelled other := by
  intro cancelled
  have stopped := (tracked.wedged other cancelled).2 task
  rw [running] at stopped
  cases stopped

theorem Tracked.unique {task other : Nat} (running : manager.live task = true)
    (alsoRunning : manager.live other = true) : task = other :=
  Option.some.inj ((tracked.current task running).1.symm.trans (tracked.current other alsoRunning).1)

theorem Tracked.live_after {task : Nat} {before : RecomputeTask}
    (found : manager.tasks[task]? = some before) (running : before.live = true)
    (after : RecomputeTask) (other : Nat) :
    (manager.setTask task after).live other = (task == other && after.live) := by
  rw [Manager.live_setTask found]
  by_cases same : task = other
  next => simp [same]
  next =>
    rw [if_neg same, beq_false_of_ne same, Bool.false_and]
    cases alsoRunning : manager.live other with
    | true => exact absurd (tracked.unique ((Manager.live_of_found found).trans running) alsoRunning) same
    | false => rfl

theorem Tracked.cancelled_after {task : Nat} {before : RecomputeTask}
    (found : manager.tasks[task]? = some before) (running : before.live = true)
    (after : RecomputeTask) (other : Nat) :
    (manager.setTask task after).WasCancelled other ↔ task = other ∧ after = .done .cancelled := by
  rw [Manager.wasCancelled_setTask found]
  have others := tracked.none_cancelled ((Manager.live_of_found found).trans running) other
  by_cases same : task = other
  next => simp [same]
  next => simp [same, others]

theorem Tracked.recorded_of {next : Manager M}
    (same : ∀ task, next.WasCancelled task ↔ manager.WasCancelled task)
    (other : ∀ task, label ≠ .cancelled task) :
    (∃ task, next.WasCancelled task) ↔ ∃ task, ManagerLabel.cancelled task ∈ past ++ [label] := by
  have before := tracked.recorded
  simp only [same, before, List.mem_append, List.mem_singleton]
  constructor
  · rintro ⟨task, member⟩
    exact ⟨task, .inl member⟩
  · rintro ⟨task, member | now⟩
    · exact ⟨task, member⟩
    · exact absurd now.symm (other task)

theorem tracked_ended {task : Nat} {before : RecomputeTask} {next : Manager M}
    (found : manager.tasks[task]? = some before) (running : before.live = true)
    (tasks : next.tasks = (manager.setTask task (.done (.returned ()))).tasks)
    (stopped : next.state.status ≠ .running) (other : ∀ task, label ≠ .cancelled task) :
    Tracked (past ++ [label]) next := by
  have idle (place : Nat) : next.live place = false := by
    have lives := tracked.live_after found running (.done (.returned ())) place
    rw [Manager.live, tasks]
    exact lives.trans (Bool.and_false _)
  have none (place : Nat) : ¬ next.WasCancelled place := by
    have cancels := tracked.cancelled_after found running (.done (.returned ())) place
    rw [Manager.WasCancelled, tasks]
    intro cancelled
    cases (cancels.mp cancelled).2
  refine ⟨?_, ?_, ?_, tracked.recorded_of ?_ other⟩
  · intro place live
    rw [idle place] at live
    cases live
  · intro held
    exact absurd held stopped
  · intro place cancelled
    exact absurd cancelled (none place)
  · intro place
    exact iff_of_false (none place)
      (tracked.none_cancelled ((Manager.live_of_found found).trans running) place)

theorem tracked_cancelled {task : Nat} (running : manager.live task = true) :
    Tracked (past ++ [.cancelled task]) (manager.setTask task (.done .cancelled)) := by
  cases found : manager.tasks[task]? with
  | none => simp [Manager.live, found] at running
  | some before =>
    have live : before.live = true := (Manager.live_of_found found).symm.trans running
    have status := (tracked.current task running).2
    have idle (other : Nat) : (manager.setTask task (.done .cancelled)).live other = false :=
      (tracked.live_after found live (.done .cancelled) other).trans (Bool.and_false _)
    have ended : (manager.setTask task (.done .cancelled)).WasCancelled task :=
      (tracked.cancelled_after found live _ task).mpr ⟨rfl, rfl⟩
    refine ⟨?_, fun _ => .inr ⟨task, ended⟩, fun _ _ => ⟨status, idle⟩, ?_⟩
    · intro other stillRunning
      rw [idle other] at stillRunning
      cases stillRunning
    · exact iff_of_true ⟨task, ended⟩ ⟨task, by simp⟩

theorem tracked_calledBack {task : Nat} {outcome : TaskOutcome Unit}
    (ended : manager.tasks[task]? = some (.done outcome)) :
    Tracked (past ++ [.callback task]) (manager.onTaskDone task) := by
  refine ⟨?_, tracked.held, tracked.wedged, tracked.recorded_of (fun _ => .rfl) nofun⟩
  intro other running
  have before := tracked.current other running
  have different : manager.task ≠ some task := by
    rw [before.1]
    intro same
    have stopped := Manager.live_of_found ended
    rw [← Option.some.inj same, show manager.live other = true from running] at stopped
    cases stopped
  exact ⟨(if_neg different).trans before.1, before.2⟩

theorem tracked_case (taken : ManagerCase manager label acted) : Tracked (past ++ [label]) acted := by
  cases taken with
  | unchanged label entry =>
    exact ⟨tracked.current, tracked.held, tracked.wedged, tracked.recorded_of (fun _ => .rfl) entry⟩
  | launched label forceRefresh entry stopped =>
    refine ⟨?_, ?_, ?_, tracked.recorded_of (Manager.wasCancelled_launch forceRefresh) entry⟩
    · intro task running
      rw [Manager.live_launch, (tracked.idle stopped task).1, Bool.false_or, beq_iff_eq] at running
      rw [running]
      exact ⟨rfl, rfl⟩
    · intro _
      exact .inl ⟨manager.tasks.length, by simp [Manager.live_launch]⟩
    · intro task cancelled
      rw [Manager.wasCancelled_launch] at cancelled
      exact absurd cancelled (tracked.idle stopped task).2
  | begun task forceRefresh waits =>
    have lives := tracked.live_after waits rfl (.awaiting forceRefresh)
    have running : manager.live task = true := Manager.live_of_found waits
    have none (other : Nat) : ¬ (manager.setTask task (.awaiting forceRefresh)).WasCancelled other := by
      rw [tracked.cancelled_after waits rfl]
      rintro ⟨_, ended⟩
      cases ended
    refine ⟨?_, ?_, ?_, tracked.recorded_of ?_ nofun⟩
    · intro other stillRunning
      have same : task = other := by
        have both := (lives other).symm.trans stillRunning
        simpa [RecomputeTask.live] using both
      subst same
      exact ⟨(tracked.current task running).1, rfl⟩
    · intro _
      exact .inl ⟨task, (lives task).trans (by simp [RecomputeTask.live])⟩
    · intro other cancelled
      exact absurd cancelled (none other)
    · intro other
      exact iff_of_false (none other) (tracked.none_cancelled running other)
  | returned task metrics now forceRefresh waits =>
    exact tracked_ended tracked waits rfl rfl nofun nofun
  | raised task error forceRefresh waits => exact tracked_ended tracked waits rfl rfl nofun nofun
  | cancelled task running => exact tracked_cancelled tracked running
  | calledBack task outcome ended => exact tracked_calledBack tracked ended

end Steps

theorem tracked_step {past : List (ManagerLabel M)} {next : Manager M} (tracked : Tracked past manager)
    (stepped : (managerMachine M).step manager label = some next) :
    Tracked (past ++ [label]) next := by
  rcases managerStep_cases stepped with ⟨acted, suspended, taken, rfl⟩
  have after := tracked_case tracked taken
  exact ⟨after.current, after.held, after.wedged, after.recorded⟩

omit [TimeStamped M] in
theorem tracked_initial : Tracked [] (Manager.initial : Manager M) :=
  ⟨nofun, nofun, nofun, by simp [Manager.WasCancelled, Manager.initial]⟩

theorem tracked_run {labels : List (ManagerLabel M)}
    (reached : (managerMachine M).run .initial labels = some manager) : Tracked labels manager :=
  Machine.trace_invariant (fun _ _ _ _ => tracked_step) tracked_initial reached

structure Responsive (manager : Manager M) : Prop where
  running : manager.state.status = .running →
    ∃ task, manager.task = some task ∧ manager.live task = true
  refresh : (∀ task, manager.live task = false) →
    (managerMachine M).run manager [.refresh] = some (manager.launch true)
  ensureCurrent : (∀ task, manager.live task = false) →
    ∀ timestamp, manager.HasCurrentResult timestamp = false →
      (managerMachine M).run manager [.ensureCurrent, .timestampReady timestamp] =
        some (manager.launch false)

omit [TimeStamped M] in
theorem Manager.start_eq_launch (stopped : manager.state.status ≠ .running)
    (idle : ∀ task, manager.live task = false) (forceRefresh : Bool) :
    manager.start forceRefresh = manager.launch forceRefresh := by
  have noTask : manager.task.any manager.live = false := by
    cases manager.task with
    | none => rfl
    | some task => exact idle task
  simp [start, stopped, noTask]

theorem responsive_iff_running {labels : List (ManagerLabel M)}
    (reached : (managerMachine M).run .initial labels = some manager) :
    Responsive manager ↔
      (manager.state.status = .running → ∃ task, manager.live task = true) := by
  constructor
  · intro responsive running
    rcases responsive.running running with ⟨task, _, live⟩
    exact ⟨task, live⟩
  · intro held
    have stopped (idle : ∀ task, manager.live task = false) : manager.state.status ≠ .running := by
      intro running
      rcases held running with ⟨task, live⟩
      rw [idle task] at live
      cases live
    refine ⟨?_, ?_, ?_⟩
    · intro running
      rcases held running with ⟨task, live⟩
      exact ⟨task, ((tracked_run reached).current task live).1, live⟩
    · intro idle
      exact congrArg some (Manager.start_eq_launch (stopped idle) idle true)
    · intro idle timestamp stale
      let waiting : Manager M := { manager with suspended := manager.suspended + 1 }
      have waits : managerStep manager .ensureCurrent = some waiting := by
        simp [managerStep, Manager.ensureCurrent, stopped idle, waiting]
      have resumed : managerStep waiting (.timestampReady timestamp) = some (manager.launch false) := by
        have current : waiting.HasCurrentResult timestamp = false := stale
        have starts : waiting.start false = waiting.launch false :=
          @Manager.start_eq_launch _ waiting (stopped idle) idle false
        simp [managerStep, Manager.resumeEnsure, current, starts]
        simp [waiting, Manager.launch]
      exact Machine.run_cons.mpr ⟨waiting, waits, Machine.run_cons.mpr ⟨_, resumed, rfl⟩⟩

theorem responsive_iff_noneCancelled {labels : List (ManagerLabel M)}
    (reached : (managerMachine M).run .initial labels = some manager) :
    Responsive manager ↔ ∀ task, ManagerLabel.cancelled task ∉ labels := by
  have tracked := tracked_run reached
  rw [responsive_iff_running reached]
  constructor
  · intro held task cancelled
    rcases tracked.recorded.mpr ⟨task, cancelled⟩ with ⟨ended, wasCancelled⟩
    have wedged := tracked.wedged ended wasCancelled
    rcases held wedged.1 with ⟨other, live⟩
    rw [wedged.2 other] at live
    cases live
  · intro never running
    rcases tracked.held running with live | cancelled
    · exact live
    · rcases tracked.recorded.mp cancelled with ⟨task, member⟩
      exact absurd member (never task)

-- One cancellation is enough for good: `_on_task_done` only logs it.
theorem wedged_of_cancelled {labels : List (ManagerLabel M)} {task : Nat}
    (reached : (managerMachine M).run .initial labels = some manager)
    (cancelled : .cancelled task ∈ labels) :
    manager.state.status = .running ∧ ∀ other, manager.live other = false := by
  have tracked := tracked_run reached
  rcases tracked.recorded.mpr ⟨task, cancelled⟩ with ⟨ended, wasCancelled⟩
  exact tracked.wedged ended wasCancelled

namespace Sample

def metrics : TXStatisticsMetrics := ⟨3, 40, 3, 1, 0, 0, 0, 1, [("2025-01", 1)], 5⟩

def recomputed : TxMetricsManager :=
  { state := ⟨.done, some metrics, none, none, some 9⟩
    task := none
    tasks := [.done (.returned ())]
    suspended := 0 }

def wedged : TxMetricsManager :=
  { state := ⟨.running, none, none, some "fetching", none⟩
    task := none
    tasks := [.done .cancelled]
    suspended := 0 }

end Sample

theorem responsive_iff_noneCancelled_recomputed :
    (managerMachine TXStatisticsMetrics).run .initial
        [.refresh, .begins 0, .returns 0 Sample.metrics 9, .callback 0] = some Sample.recomputed ∧
      Responsive Sample.recomputed := by
  have reached : (managerMachine TXStatisticsMetrics).run .initial
      [.refresh, .begins 0, .returns 0 Sample.metrics 9, .callback 0] = some Sample.recomputed := rfl
  exact ⟨reached, (responsive_iff_noneCancelled reached).mpr (by simp)⟩

theorem cancelledRecompute_wedges :
    (managerMachine TXStatisticsMetrics).run .initial
        [.refresh, .begins 0, .cancelled 0, .callback 0] = some Sample.wedged ∧
      Sample.wedged.state.status = .running ∧ Sample.wedged.task = none ∧
      (managerMachine TXStatisticsMetrics).run Sample.wedged [.refresh] = some Sample.wedged ∧
      (managerMachine TXStatisticsMetrics).run Sample.wedged [.ensureCurrent] = some Sample.wedged ∧
      ¬ Responsive Sample.wedged := by
  refine ⟨rfl, rfl, rfl, rfl, rfl, ?_⟩
  intro responsive
  rcases responsive.running rfl with ⟨task, current, _⟩
  cases current

end FireflyToolkit.Metrics
