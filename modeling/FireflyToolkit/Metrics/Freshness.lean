import FireflyToolkit.Metrics.Snapshots
import FireflyToolkit.Metrics.Wedging
import FireflyToolkit.Snapshot.SingleFlight

set_option autoImplicit false

namespace FireflyToolkit.Metrics

open Snapshot Transition

-- A snapshot that is too old has no timestamp.
def getCachedSnapshotTimestamp (maxAgeSeconds : Int) (service : Service) : Option Time :=
  match service.stored with
  | none => none
  | some snapshot =>
      if isStale service.stored maxAgeSeconds service.now then none else some snapshot.fetchedAt

structure MetricsProvider (M : Type) [TimeStamped M] where
  buildMetrics : TransactionSnapshot → M
  groups : Nat
  dated : ∀ snapshot, TimeStamped.timeStamp (buildMetrics snapshot) = snapshot.fetchedAt

section Providers

variable (lower : String → String) (filterDescBlik filterDescAllegro : String)

def SnapshotTxMetricsService.provider : MetricsProvider TXStatisticsMetrics :=
  ⟨SnapshotTxMetricsService.buildMetrics lower filterDescBlik filterDescAllegro, 1, fun _ => rfl⟩

def SnapshotBlikMetricsService.provider : MetricsProvider BlikStatisticsMetrics :=
  ⟨SnapshotBlikMetricsService.buildMetrics lower filterDescBlik, 2, fun _ => rfl⟩

def SnapshotAllegroMetricsService.provider : MetricsProvider AllegroMetrics :=
  ⟨SnapshotAllegroMetricsService.buildMetrics lower filterDescAllegro, 1, fun _ => rfl⟩

end Providers

inductive ProviderStage
  | notAsked
  | fetching (caller : Nat)
  | building (snapshot : TransactionSnapshot) (groups : Nat)
  | answered
  deriving DecidableEq

structure Runtime (M : Type) where
  service : Service
  manager : Manager M
  stages : Nat → ProviderStage

-- The steps between two awaits that suspend. The snapshot service has other users, whose steps are
-- its own.
inductive RuntimeLabel
  | service (label : SnapshotLabel)
  | ensureCurrent
  | refresh
  | begins (task : Nat)
  | fetched (task : Nat)
  | grouped (task : Nat)
  | groupingFails (task : Nat) (error : PyError)
  | callback (task : Nat)

namespace Runtime

variable {M : Type}

def initial (now : Time) : Runtime M := ⟨.initial now, .initial, fun _ => .notAsked⟩

def setStage (runtime : Runtime M) (task : Nat) (stage : ProviderStage) : Nat → ProviderStage :=
  Function.update runtime.stages task stage

-- Nothing is cancelled, and the calls of recompute tasks are resumed by the tasks.
def permits (runtime : Runtime M) : SnapshotLabel → Bool
  | .cancel _ | .fetchCancelled _ => false
  | .resume caller =>
      (List.range runtime.manager.tasks.length).all fun task =>
        runtime.stages task ≠ .fetching caller
  | _ => true

variable [TimeStamped M]

def manage (runtime : Runtime M) (labels : List (ManagerLabel M)) (service : Service)
    (stages : Nat → ProviderStage) : Option (Runtime M) :=
  ((managerMachine M).run runtime.manager labels).map fun manager => ⟨service, manager, stages⟩

-- The store does not suspend, so that the timestamp is there in the step that asks for it.
def ensureLabels (maxAgeSeconds : Int) (runtime : Runtime M) : List (ManagerLabel M) :=
  if runtime.manager.state.status = .running then [.ensureCurrent]
  else
    [.ensureCurrent, .timestampReady (getCachedSnapshotTimestamp maxAgeSeconds runtime.service)]

end Runtime

section Step

variable {M : Type} [TimeStamped M] (provider : MetricsProvider M) (maxAgeSeconds : Int)

def callerState (service : Service) (caller : Nat) : Option CallerState :=
  service.callers[caller]?.map Caller.state

-- `get_snapshot` only suspends where it has to wait for a fetch.
def stageAfterCall (service : Service) (caller : Nat) : ProviderStage :=
  match callerState service caller with
  | some (.servedFromStore snapshot) => .building snapshot provider.groups
  | _ => .fetching caller

def runtimeStep (runtime : Runtime M) : RuntimeLabel → Option (Runtime M)
  | .service label =>
      if runtime.permits label then
        (snapshotStep maxAgeSeconds runtime.service label).map fun service =>
          { runtime with service := service }
      else none
  | .ensureCurrent =>
      runtime.manage (runtime.ensureLabels maxAgeSeconds) runtime.service runtime.stages
  | .refresh => runtime.manage [.refresh] runtime.service runtime.stages
  | .begins task =>
      match runtime.manager.tasks[task]? with
      | some (.scheduled forceRefresh) =>
          let request : Request := if forceRefresh then .refreshSnapshot else .getSnapshot
          (snapshotStep maxAgeSeconds runtime.service (.call request)).bind fun service =>
            runtime.manage [.begins task] service
              (runtime.setStage task (stageAfterCall provider service runtime.service.callers.length))
      | _ => none
  | .fetched task =>
      match runtime.stages task with
      | .fetching caller =>
          (snapshotStep maxAgeSeconds runtime.service (.resume caller)).bind fun service =>
            match callerState service caller with
            | some (.ended _ (.returned snapshot)) =>
                some { runtime with
                  service := service
                  stages := runtime.setStage task (.building snapshot provider.groups) }
            | some (.ended _ (.raised error)) =>
                runtime.manage [.raises task error] service (runtime.setStage task .answered)
            | _ => none
      | _ => none
  | .grouped task =>
      match runtime.stages task with
      | .building snapshot groups =>
          if 1 < groups then
            some { runtime with stages := runtime.setStage task (.building snapshot (groups - 1)) }
          else
            runtime.manage [.returns task (provider.buildMetrics snapshot) runtime.service.now]
              runtime.service (runtime.setStage task .answered)
      | _ => none
  | .groupingFails task error =>
      match runtime.stages task with
      | .building _ _ =>
          runtime.manage [.raises task error] runtime.service (runtime.setStage task .answered)
      | _ => none
  | .callback task => runtime.manage [.callback task] runtime.service runtime.stages

def runtimeMachine : Machine (Runtime M) RuntimeLabel := ⟨runtimeStep provider maxAgeSeconds⟩

end Step

def MetricsState.Consistent {M : Type} (state : MetricsState M) : Prop :=
  match state.status with
  | .pending => True
  | .running => state.result = none ∧ state.error = none
  | .done => state.result.isSome = true ∧ state.error = none ∧ state.progress = none
  | .failed => state.error.isSome = true ∧ state.result = none

section Managers

variable {M : Type} [TimeStamped M] {manager next : Manager M} {labels : List (ManagerLabel M)}

def Undisturbed (manager : Manager M) : Prop :=
  ∃ past, Tracked past manager ∧ ∀ task, ManagerLabel.cancelled task ∉ past

structure StateStep (manager : Manager M) (label : ManagerLabel M) (next : Manager M) : Prop where
  undisturbed : Undisturbed next
  consistent : next.state.Consistent
  computed : ∀ metrics, next.state.result = some metrics →
    manager.state.result = some metrics ∨ ∃ task now, label = .returns task metrics now

omit [TimeStamped M] in
theorem stateStep_of_case {label : ManagerLabel M} {acted : Manager M}
    (undisturbed : Undisturbed manager) (consistent : manager.state.Consistent)
    (taken : ManagerCase manager label acted) (kept : ∀ task, label ≠ .cancelled task) :
    acted.state.Consistent ∧ ∀ metrics, acted.state.result = some metrics →
      manager.state.result = some metrics ∨ ∃ task now, label = .returns task metrics now := by
  cases taken with
  | unchanged => exact ⟨consistent, fun _ held => .inl held⟩
  | launched => exact ⟨⟨rfl, rfl⟩, fun _ held => by cases held⟩
  | begun => exact ⟨⟨rfl, rfl⟩, fun _ held => by cases held⟩
  | returned task metrics now forceRefresh waits =>
    -- The task that returns is live, so that its start has cleared the error.
    obtain ⟨past, tracked, -⟩ := undisturbed
    have running := (tracked.current task (Manager.live_of_found waits)).2
    rw [MetricsState.Consistent, running] at consistent
    refine ⟨⟨rfl, consistent.2, rfl⟩, fun other held => .inr ⟨task, now, ?_⟩⟩
    rw [Option.some.inj held]
  | raised => exact ⟨⟨rfl, rfl⟩, fun _ held => by cases held⟩
  | cancelled task => exact absurd rfl (kept task)
  | calledBack => exact ⟨consistent, fun _ held => .inl held⟩

theorem stateStep {label : ManagerLabel M} (undisturbed : Undisturbed manager)
    (consistent : manager.state.Consistent) (kept : ∀ task, label ≠ .cancelled task)
    (stepped : (managerMachine M).step manager label = some next) :
    StateStep manager label next := by
  have tracks : Undisturbed next := by
    obtain ⟨past, tracked, none⟩ := undisturbed
    refine ⟨past ++ [label], tracked_step tracked stepped, fun task member => ?_⟩
    rcases List.mem_append.mp member with earlier | now
    · exact none task earlier
    · exact kept task (List.mem_singleton.mp now).symm
  obtain ⟨acted, suspended, taken, rfl⟩ := managerStep_cases stepped
  obtain ⟨fields, computed⟩ := stateStep_of_case undisturbed consistent taken kept
  exact ⟨tracks, fields, computed⟩

theorem stateRun (undisturbed : Undisturbed manager) (consistent : manager.state.Consistent)
    (kept : ∀ task, ManagerLabel.cancelled task ∉ labels)
    (reached : (managerMachine M).run manager labels = some next) :
    Undisturbed next ∧ next.state.Consistent ∧ ∀ metrics, next.state.result = some metrics →
      manager.state.result = some metrics ∨
        ∃ task now, ManagerLabel.returns task metrics now ∈ labels := by
  induction labels generalizing manager with
  | nil =>
    rw [← Option.some.inj reached]
    exact ⟨undisturbed, consistent, fun _ held => .inl held⟩
  | cons label rest ih =>
    obtain ⟨middle, stepped, onward⟩ := Machine.run_cons.mp reached
    have first := stateStep undisturbed consistent
      (fun task same => kept task (by simp [same])) stepped
    obtain ⟨tracks, fields, computed⟩ := ih first.undisturbed first.consistent
      (fun task member => kept task (List.mem_cons_of_mem _ member)) onward
    refine ⟨tracks, fields, fun metrics held => ?_⟩
    rcases computed metrics held with before | ⟨task, now, member⟩
    · rcases first.computed metrics before with earlier | ⟨task, now, same⟩
      · exact .inl earlier
      · exact .inr ⟨task, now, by simp [same]⟩
    · exact .inr ⟨task, now, List.mem_cons_of_mem _ member⟩

omit [TimeStamped M] in
theorem start_running (undisturbed : Undisturbed manager) (forceRefresh : Bool) :
    (manager.start forceRefresh).state.status = .running := by
  by_cases running : manager.state.status = .running
  next => simp [Manager.start, running]
  next =>
    obtain ⟨past, tracked, -⟩ := undisturbed
    rw [Manager.start_eq_launch running (fun task => (tracked.idle running task).1)]
    rfl

end Managers

section Snapshots

variable {maxAgeSeconds : Int} {service next : Service} {label : SnapshotLabel}

def Fetched (service : Service) (snapshot : TransactionSnapshot) : Prop :=
  ∃ task finishedAt : Nat, service.tasks[task]? = some (.finished (.returned snapshot) finishedAt)

theorem fetched_later (stepped : snapshotStep maxAgeSeconds service label = some next)
    {snapshot : TransactionSnapshot} (fetched : Fetched service snapshot) : Fetched next snapshot := by
  obtain ⟨acted, taken, rfl⟩ := snapshotStep_cases stepped
  obtain ⟨task, finishedAt, finished⟩ := fetched
  exact ⟨task, finishedAt, (case_later taken).finished task _ finishedAt finished⟩

theorem stored_fetched (stepped : snapshotStep maxAgeSeconds service label = some next)
    (known : ∀ snapshot, service.stored = some snapshot → Fetched service snapshot)
    {snapshot : TransactionSnapshot} (stored : next.stored = some snapshot) :
    Fetched next snapshot := by
  have later := @fetched_later maxAgeSeconds service next label stepped
  obtain ⟨acted, taken, rfl⟩ := snapshotStep_cases stepped
  cases taken with
  | fetched task transactions metrics running =>
    have bound := (List.getElem?_eq_some_iff.mp running).1
    refine ⟨task, service.steps, ?_⟩
    rw [← Option.some.inj stored]
    simp [Service.storeFetched, Service.finishTask, List.getElem?_set_self bound]
  | _ => exact later (known snapshot stored)

structure Follows (before after : Service) : Prop where
  fetched : ∀ snapshot, Fetched before snapshot → Fetched after snapshot
  stored : ∀ snapshot, after.stored = some snapshot → Fetched after snapshot

theorem served_stored {request : Request} {snapshot : TransactionSnapshot}
    (stepped : snapshotStep maxAgeSeconds service (.call request) = some next)
    (served : callerState next service.callers.length = some (.servedFromStore snapshot)) :
    service.stored = some snapshot := by
  obtain ⟨acted, taken, rfl⟩ := snapshotStep_cases stepped
  cases taken with
  | served held stored fresh =>
    have same : held = snapshot := by simpa [callerState, Service.addCaller] using served
    rw [stored, same]
  | joined request task needs current running => simp [callerState, Service.addCaller] at served
  | started request needs idle => simp [callerState, Service.startTask] at served

theorem ended_fetched {caller task : Nat} {snapshot : TransactionSnapshot}
    (stepped : snapshotStep maxAgeSeconds service (.resume caller) = some next)
    (ended : callerState next caller = some (.ended task (.returned snapshot))) :
    Fetched next snapshot := by
  have later := @fetched_later maxAgeSeconds service next (.resume caller) stepped
  obtain ⟨acted, taken, rfl⟩ := snapshotStep_cases stepped
  cases taken with
  | resumed caller entry awaited mustCancel outcome finishedAt listed waits finished =>
    have bound := (List.getElem?_eq_some_iff.mp listed).1
    cases mustCancel with
    | true => simp [callerState, List.getElem?_set_self bound] at ended
    | false =>
      have same : awaited = task ∧ outcome = .returned snapshot := by
        simpa [callerState, List.getElem?_set_self bound] using ended
      exact later ⟨awaited, finishedAt, same.2 ▸ finished⟩

theorem cachedTimestamp_some {timestamp : Time}
    (cached : getCachedSnapshotTimestamp maxAgeSeconds service = some timestamp) :
    ∃ snapshot, service.stored = some snapshot ∧ snapshot.fetchedAt = timestamp ∧
      service.now - snapshot.fetchedAt ≤ seconds maxAgeSeconds := by
  unfold getCachedSnapshotTimestamp at cached
  cases stored : service.stored with
  | none => simp [stored] at cached
  | some snapshot =>
    simp only [stored, Option.ite_none_left_eq_some, Option.some.injEq] at cached
    refine ⟨snapshot, rfl, cached.2, ?_⟩
    simpa [isStale] using cached.1

end Snapshots

section Runs

variable {M : Type} [TimeStamped M] {provider : MetricsProvider M} {maxAgeSeconds : Int}
  {runtime next : Runtime M}

-- What holds in every state of a run: every snapshot in use was fetched, and a result was built
-- from one.
structure RuntimeInvariant (provider : MetricsProvider M) (runtime : Runtime M) : Prop where
  undisturbed : Undisturbed runtime.manager
  consistent : runtime.manager.state.Consistent
  stored : ∀ snapshot, runtime.service.stored = some snapshot → Fetched runtime.service snapshot
  building : ∀ task snapshot groups, runtime.stages task = .building snapshot groups →
    Fetched runtime.service snapshot
  computed : ∀ metrics, runtime.manager.state.result = some metrics →
    ∃ snapshot, Fetched runtime.service snapshot ∧ metrics = provider.buildMetrics snapshot

namespace RuntimeInvariant

variable (invariant : RuntimeInvariant provider runtime)

include invariant

theorem stays : Follows runtime.service runtime.service :=
  ⟨fun _ fetched => fetched, invariant.stored⟩

theorem follows {label : SnapshotLabel} {service : Service}
    (acted : snapshotStep maxAgeSeconds runtime.service label = some service) :
    Follows runtime.service service :=
  ⟨fun _ => fetched_later acted, fun _ held => stored_fetched acted invariant.stored held⟩

theorem managed {labels : List (ManagerLabel M)} {service : Service} {stages : Nat → ProviderStage}
    (follows : Follows runtime.service service)
    (building : ∀ task snapshot groups, stages task = .building snapshot groups →
      Fetched service snapshot)
    (kept : ∀ task, ManagerLabel.cancelled task ∉ labels)
    (returned : ∀ task metrics now, ManagerLabel.returns task metrics now ∈ labels →
      ∃ snapshot, Fetched service snapshot ∧ metrics = provider.buildMetrics snapshot)
    (stepped : runtime.manage labels service stages = some next) :
    RuntimeInvariant provider next := by
  obtain ⟨manager, reached, rfl⟩ := Option.map_eq_some_iff.mp stepped
  obtain ⟨tracks, fields, computed⟩ :=
    stateRun invariant.undisturbed invariant.consistent kept reached
  refine ⟨tracks, fields, follows.stored, building, fun metrics held => ?_⟩
  rcases computed metrics held with before | ⟨task, now, member⟩
  · obtain ⟨snapshot, fetched, same⟩ := invariant.computed metrics before
    exact ⟨snapshot, follows.fetched snapshot fetched, same⟩
  · exact returned task metrics now member

theorem unmanaged {service : Service} {stages : Nat → ProviderStage}
    (follows : Follows runtime.service service)
    (building : ∀ task snapshot groups, stages task = .building snapshot groups →
      Fetched service snapshot) :
    RuntimeInvariant provider { runtime with service := service, stages := stages } := by
  have idle : runtime.manage [] service stages =
      some { runtime with service := service, stages := stages } := rfl
  exact invariant.managed follows building (by simp) (by simp) idle

theorem staged {service : Service} {task : Nat} {stage : ProviderStage}
    (follows : Follows runtime.service service)
    (fetched : ∀ snapshot groups, stage = .building snapshot groups → Fetched service snapshot)
    (other : Nat) (snapshot : TransactionSnapshot) (groups : Nat)
    (built : runtime.setStage task stage other = .building snapshot groups) :
    Fetched service snapshot := by
  by_cases same : other = task
  next =>
    subst same
    exact fetched snapshot groups (by simpa [Runtime.setStage] using built)
  next =>
    exact follows.fetched snapshot
      (invariant.building other snapshot groups (by simpa [Runtime.setStage, same] using built))

theorem step {label : RuntimeLabel}
    (stepped : runtimeStep provider maxAgeSeconds runtime label = some next) :
    RuntimeInvariant provider next := by
  cases label with
  | service label =>
    simp only [runtimeStep, Option.ite_none_right_eq_some] at stepped
    obtain ⟨service, acted, rfl⟩ := Option.map_eq_some_iff.mp stepped.2
    exact invariant.unmanaged (invariant.follows acted) fun task snapshot groups built =>
      fetched_later acted (invariant.building task snapshot groups built)
  | ensureCurrent =>
    refine invariant.managed invariant.stays invariant.building ?_ ?_ stepped
    · intro task
      unfold Runtime.ensureLabels
      split_ifs <;> simp
    · intro task metrics now member
      unfold Runtime.ensureLabels at member
      split_ifs at member <;> simp at member
  | refresh =>
    exact invariant.managed invariant.stays invariant.building (by simp) (by simp) stepped
  | begins task =>
    simp only [runtimeStep] at stepped
    split at stepped
    next forceRefresh waits =>
      obtain ⟨service, acted, managed⟩ := Option.bind_eq_some_iff.mp stepped
      have follows := invariant.follows acted
      refine invariant.managed follows (invariant.staged follows ?_) (by simp) (by simp) managed
      intro snapshot groups built
      unfold stageAfterCall at built
      split at built
      next served state =>
        cases built
        exact fetched_later acted (invariant.stored snapshot (served_stored acted state))
      next => cases built
    next => cases stepped
  | fetched task =>
    simp only [runtimeStep] at stepped
    split at stepped
    next caller waits =>
      obtain ⟨service, acted, answered⟩ := Option.bind_eq_some_iff.mp stepped
      have follows := invariant.follows acted
      split at answered
      next awaited snapshot ended =>
        cases answered
        refine invariant.unmanaged follows (invariant.staged follows ?_)
        intro other groups built
        cases built
        exact ended_fetched acted ended
      next awaited error ended =>
        exact invariant.managed follows (invariant.staged follows (by simp)) (by simp) (by simp)
          answered
      next => cases answered
    next => cases stepped
  | grouped task =>
    simp only [runtimeStep] at stepped
    split at stepped
    next snapshot groups waits =>
      have source := invariant.building task snapshot groups waits
      split_ifs at stepped with more
      · cases stepped
        refine invariant.unmanaged invariant.stays (invariant.staged invariant.stays ?_)
        intro other left built
        cases built
        exact source
      · refine invariant.managed invariant.stays (invariant.staged invariant.stays (by simp))
          (by simp) ?_ stepped
        intro other metrics now member
        cases List.mem_singleton.mp member
        exact ⟨snapshot, source, rfl⟩
    next => cases stepped
  | groupingFails task error =>
    simp only [runtimeStep] at stepped
    split at stepped
    next snapshot groups waits =>
      exact invariant.managed invariant.stays (invariant.staged invariant.stays (by simp)) (by simp)
        (by simp) stepped
    next => cases stepped
  | callback task =>
    exact invariant.managed invariant.stays invariant.building (by simp) (by simp) stepped

end RuntimeInvariant

theorem runtimeInvariant_initial (now : Time) :
    RuntimeInvariant provider (Runtime.initial now : Runtime M) where
  undisturbed := ⟨[], tracked_initial, by simp⟩
  consistent := trivial
  stored := fun _ held => by cases held
  building := fun _ _ _ built => by cases built
  computed := fun _ held => by cases held

theorem runtimeInvariant_run {labels : List RuntimeLabel} {start : Time}
    (reached : (runtimeMachine provider maxAgeSeconds).run (.initial start) labels = some runtime) :
    RuntimeInvariant provider runtime :=
  Machine.invariant_of_run (fun _ _ _ invariant stepped => invariant.step stepped)
    (runtimeInvariant_initial start) reached

def SnapshotsDistinct (service : Service) : Prop :=
  ∀ snapshot other, Fetched service snapshot → Fetched service other →
    snapshot.fetchedAt = other.fetchedAt → snapshot = other

def Current (provider : MetricsProvider M) (maxAgeSeconds : Int) (service : Service)
    (state : MetricsState M) : Prop :=
  ∃ snapshot, service.stored = some snapshot ∧
    state.result = some (provider.buildMetrics snapshot) ∧
    service.now - snapshot.fetchedAt ≤ seconds maxAgeSeconds

structure MetricsKept (provider : MetricsProvider M) (maxAgeSeconds : Int) (runtime : Runtime M) :
    Prop where
  oneUnfinished : ∀ task other, runtime.manager.live task = true →
    runtime.manager.live other = true → task = other
  fields : runtime.manager.state.Consistent
  current : SnapshotsDistinct runtime.service → ∀ next,
    runtimeStep provider maxAgeSeconds runtime .ensureCurrent = some next →
    next.manager.state.status = .done →
    Current provider maxAgeSeconds next.service next.manager.state

omit [TimeStamped M] in
theorem start_suspended (manager : Manager M) (suspended : Nat) (forceRefresh : Bool) :
    ({ manager with suspended := suspended } : Manager M).start forceRefresh =
      { manager.start forceRefresh with suspended := suspended } := by
  have lives : ({ manager with suspended := suspended } : Manager M).live = manager.live := rfl
  simp only [Manager.start, lives]
  split_ifs <;> rfl

theorem ensureCurrent_step
    (stepped : runtimeStep provider maxAgeSeconds runtime .ensureCurrent = some next) :
    next.service = runtime.service ∧
      (next.manager.state = runtime.manager.state ∧
          (runtime.manager.state.status = .running ∨
            runtime.manager.HasCurrentResult
              (getCachedSnapshotTimestamp maxAgeSeconds runtime.service) = true) ∨
        next.manager.state = (runtime.manager.start false).state) := by
  obtain ⟨manager, reached, rfl⟩ := Option.map_eq_some_iff.mp stepped
  refine ⟨rfl, ?_⟩
  unfold Runtime.ensureLabels at reached
  split_ifs at reached with running
  · obtain ⟨middle, asked, last⟩ := Machine.run_cons.mp reached
    cases last
    have same : runtime.manager.ensureCurrent = manager := Option.some.inj asked
    rw [Manager.ensureCurrent, if_pos running] at same
    exact .inl ⟨congrArg Manager.state same.symm, .inl running⟩
  · obtain ⟨middle, asked, answered⟩ := Machine.run_cons.mp reached
    obtain ⟨final, resumed, last⟩ := Machine.run_cons.mp answered
    cases last
    have suspended : runtime.manager.ensureCurrent = middle := Option.some.inj asked
    rw [Manager.ensureCurrent, if_neg running] at suspended
    rw [← suspended] at resumed
    have state := congrArg Manager.state (Option.some.inj resumed)
    simp only [Manager.resumeEnsure] at state
    split_ifs at state with current
    · exact .inl ⟨state.symm, .inr current⟩
    · rw [start_suspended] at state
      exact .inr state.symm

theorem metricsKept_of_invariant (invariant : RuntimeInvariant provider runtime) :
    MetricsKept provider maxAgeSeconds runtime := by
  refine ⟨?_, invariant.consistent, ?_⟩
  · obtain ⟨past, tracked, -⟩ := invariant.undisturbed
    exact fun task other running alsoRunning => tracked.unique running alsoRunning
  · intro distinct next stepped done
    obtain ⟨service, ⟨state, reason⟩ | started⟩ := ensureCurrent_step stepped
    · rw [state] at done
      rcases reason with running | current
      · rw [running] at done
        cases done
      · -- The timestamps agree, so that the stored snapshot is the one the result was built from.
        simp only [Manager.HasCurrentResult, Bool.and_eq_true, Option.any_eq_true,
          decide_eq_true_eq] at current
        obtain ⟨-, metrics, held, cached⟩ := current
        obtain ⟨stored, found, dated, young⟩ := cachedTimestamp_some cached
        obtain ⟨source, fetched, built⟩ := invariant.computed metrics held
        have same : source = stored := by
          apply distinct source stored fetched (invariant.stored stored found)
          rw [dated, built, provider.dated]
        rw [service, state]
        exact ⟨stored, found, by rw [held, built, same], young⟩
    · rw [started, start_running invariant.undisturbed] at done
      cases done

theorem metrics_kept (provider : MetricsProvider M) (maxAgeSeconds : Int) (start : Time)
    (labels : List RuntimeLabel) (final : Runtime M)
    (reached : (runtimeMachine provider maxAgeSeconds).run (.initial start) labels = some final) :
    MetricsKept provider maxAgeSeconds final :=
  metricsKept_of_invariant (runtimeInvariant_run reached)

end Runs

namespace Sample

def txProvider : MetricsProvider TXStatisticsMetrics :=
  SnapshotTxMetricsService.provider id "blik" "allegro"

def currentAgain : List RuntimeLabel :=
  [.ensureCurrent, .begins 0, .service (.tick 5), .service (.fetched 0 [] ⟨0, 7, 0, 0⟩), .fetched 0,
    .grouped 0, .callback 0, .service (.tick 5), .ensureCurrent]

end Sample

theorem metrics_kept_currentAgain :
    ∃ final, (runtimeMachine Sample.txProvider 300).run (.initial 0) Sample.currentAgain = some final ∧
      final.manager.state.status = .done ∧ MetricsKept Sample.txProvider 300 final :=
  ⟨_, rfl, rfl, metrics_kept Sample.txProvider 300 0 Sample.currentAgain _ rfl⟩

end FireflyToolkit.Metrics
