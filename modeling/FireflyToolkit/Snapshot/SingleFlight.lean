import FireflyToolkit.Snapshot.Service

set_option autoImplicit false

namespace FireflyToolkit.Snapshot

open Transition

theorem unfinished_iff {service : Service} {task : Nat} :
    service.unfinished task = true ↔ ∃ requested, service.tasks[task]? = some (.pending requested) := by
  unfold Service.unfinished
  cases found : service.tasks[task]? with
  | none => simp
  | some state => cases state <;> simp [FetchTask.unfinished]

structure Later (old new : List FetchTask) (steps : Nat) : Prop where
  finished : ∀ (task : Nat) outcome finishedAt, old[task]? = some (.finished outcome finishedAt) →
    new[task]? = some (.finished outcome finishedAt)
  pending : ∀ (task : Nat) requested, old[task]? = some (.pending requested) →
    (∃ after, new[task]? = some (.pending after)) ∨
      ∃ outcome, new[task]? = some (.finished outcome steps)

theorem Later.refl (tasks : List FetchTask) (steps : Nat) : Later tasks tasks steps :=
  ⟨fun _ _ _ found => found, fun _ requested found => .inl ⟨requested, found⟩⟩

theorem Later.append (tasks : List FetchTask) (added : FetchTask) (steps : Nat) :
    Later tasks (tasks ++ [added]) steps := by
  have kept : ∀ {task : Nat} {state : FetchTask}, tasks[task]? = some state →
      (tasks ++ [added])[task]? = some state := by
    intro task state found
    rw [List.getElem?_append_left (List.getElem?_eq_some_iff.mp found).1, found]
  exact ⟨fun _ _ _ found => kept found, fun _ requested found => .inl ⟨requested, kept found⟩⟩

theorem Later.set {tasks : List FetchTask} {place : Nat} {requested : Bool}
    (running : tasks[place]? = some (.pending requested)) {state : FetchTask} {steps : Nat}
    (allowed : (∃ after, state = .pending after) ∨ ∃ outcome, state = .finished outcome steps) :
    Later tasks (tasks.set place state) steps := by
  have bound := (List.getElem?_eq_some_iff.mp running).1
  constructor
  · intro task outcome finishedAt found
    by_cases same : place = task
    · rw [← same, running] at found
      cases found
    · rw [List.getElem?_set_ne same, found]
  · intro task before found
    by_cases same : place = task
    · subst same
      rw [List.getElem?_set_self bound]
      rcases allowed with ⟨after, rfl⟩ | ⟨outcome, rfl⟩
      · exact .inl ⟨after, rfl⟩
      · exact .inr ⟨outcome, rfl⟩
    · rw [List.getElem?_set_ne same]
      exact .inl ⟨before, found⟩

section Steps

variable {maxAgeSeconds : Int} {service acted : Service} {label : SnapshotLabel}

theorem case_later (taken : SnapshotCase maxAgeSeconds service label acted) :
    Later service.tasks acted.tasks service.steps := by
  cases taken with
  | ticked | served | joined | cancelledAfter | resumed => exact .refl service.tasks service.steps
  | started => exact .append service.tasks _ service.steps
  | fetched task transactions metrics running => exact .set running (.inr ⟨_, rfl⟩)
  | failed task error running => exact .set running (.inr ⟨_, rfl⟩)
  | stopped task running => exact .set running (.inr ⟨_, rfl⟩)
  | cancelledBefore caller entry task mustCancel listed waits running =>
    obtain ⟨requested, pending⟩ := unfinished_iff.mp running
    exact .set pending (.inl ⟨true, rfl⟩)

-- The task was there when the call joined it and had not finished by then.
def JoinedBefore (service : Service) (entry : Caller) (task : Nat) : Prop :=
  (∃ requested, service.tasks[task]? = some (.pending requested)) ∨
    ∃ outcome finishedAt, service.tasks[task]? = some (.finished outcome finishedAt) ∧
      entry.beganAt < finishedAt

def CallerConsistent (maxAgeSeconds : Int) (service : Service) (entry : Caller) : Prop :=
  entry.beganAt < service.steps ∧
    match entry.state with
    | .servedFromStore snapshot =>
        entry.request = .getSnapshot ∧ entry.checkedAt - snapshot.fetchedAt ≤ seconds maxAgeSeconds
    | .awaiting task mustCancel =>
        JoinedBefore service entry task ∧ (mustCancel = true → entry.cancelled = true)
    | .ended task result =>
        ∃ outcome finishedAt, service.tasks[task]? = some (.finished outcome finishedAt) ∧
          entry.beganAt < finishedAt ∧
          (result = outcome ∨ entry.cancelled = true ∧ result = .cancelled)

structure Consistent (maxAgeSeconds : Int) (service : Service) : Prop where
  current : ∀ task, service.unfinished task = true → service.refreshTask = some task
  callers : ∀ entry ∈ service.callers, CallerConsistent maxAgeSeconds service entry
  dated : ∀ snapshot, service.stored = some snapshot → snapshot.fetchedAt ≤ service.now

theorem initial_consistent (now : Time) : Consistent maxAgeSeconds (Service.initial now) := by
  constructor
  · intro task running
    simp [Service.unfinished, Service.initial] at running
  · intro entry member
    cases member
  · intro snapshot stored
    cases stored

theorem callerConsistent_later {entry : Caller} (next : Service)
    (consistent : CallerConsistent maxAgeSeconds service entry)
    (later : Later service.tasks next.tasks service.steps) (steps : next.steps = service.steps + 1) :
    CallerConsistent maxAgeSeconds next entry := by
  obtain ⟨began, state⟩ := consistent
  refine ⟨by omega, ?_⟩
  cases shape : entry.state with
  | servedFromStore snapshot => simpa only [shape] using state
  | awaiting task mustCancel =>
    simp only [shape] at state ⊢
    refine ⟨?_, state.2⟩
    rcases state.1 with ⟨requested, pending⟩ | ⟨outcome, finishedAt, finished, after⟩
    · rcases later.pending task requested pending with stillPending | ⟨outcome, finished⟩
      · exact .inl stillPending
      · exact .inr ⟨outcome, service.steps, finished, began⟩
    · exact .inr ⟨outcome, finishedAt, later.finished task outcome finishedAt finished, after⟩
  | ended task result =>
    simp only [shape] at state ⊢
    obtain ⟨outcome, finishedAt, finished, after, same⟩ := state
    exact ⟨outcome, finishedAt, later.finished task outcome finishedAt finished, after, same⟩

theorem pending_of_finished {tasks : List FetchTask} {place task steps : Nat}
    {outcome : TaskOutcome TransactionSnapshot} {requested : Bool}
    (pending : (tasks.set place (.finished outcome steps))[task]? = some (.pending requested)) :
    tasks[task]? = some (.pending requested) := by
  rw [List.getElem?_set] at pending
  split_ifs at pending
  · cases pending
  · exact pending

theorem current_step (consistent : Consistent maxAgeSeconds service)
    (taken : SnapshotCase maxAgeSeconds service label acted) (task : Nat)
    (running : acted.unfinished task = true) : acted.refreshTask = some task := by
  obtain ⟨requested, pending⟩ := unfinished_iff.mp running
  have unchanged : ∀ before, service.tasks[task]? = some (.pending before) →
      service.refreshTask = some task :=
    fun before held => consistent.current task (unfinished_iff.mpr ⟨before, held⟩)
  cases taken with
  | ticked | served | joined | cancelledAfter => exact unchanged requested pending
  | started request needs idle =>
    by_cases older : task < service.tasks.length
    · have before : service.tasks[task]? = some (.pending requested) := by
        rw [← List.getElem?_append_left older]
        exact pending
      have running := idle task (unchanged requested before)
      rw [unfinished_iff.mpr ⟨requested, before⟩] at running
      cases running
    · have bound : task < (service.tasks ++ [FetchTask.pending false]).length :=
        (List.getElem?_eq_some_iff.mp pending).1
      have last : task = service.tasks.length := by
        rw [List.length_append, List.length_singleton] at bound
        omega
      rw [last]
      rfl
  | fetched | failed | stopped => exact unchanged requested (pending_of_finished pending)
  | cancelledBefore caller entry place mustCancel listed waits stated =>
    by_cases same : place = task
    · subst same
      exact consistent.current place stated
    · exact unchanged requested (by rwa [List.getElem?_set_ne same] at pending)
  | resumed caller entry place mustCancel outcome finishedAt listed waits done =>
    have current := unchanged requested pending
    have other : place ≠ task := by
      intro same
      rw [← same] at pending
      cases done.symm.trans pending
    simp [current, Ne.symm other]

theorem mem_set_cases {entries : List Caller} {place : Nat} {added entry : Caller}
    (member : entry ∈ entries.set place added) : entry = added ∨ entry ∈ entries :=
  (List.mem_or_eq_of_mem_set member).symm

theorem consistent_step {next : Service} (consistent : Consistent maxAgeSeconds service)
    (stepped : (snapshotMachine maxAgeSeconds).step service label = some next) :
    Consistent maxAgeSeconds next := by
  obtain ⟨acted, taken, rfl⟩ := snapshotStep_cases stepped
  have later : Later service.tasks acted.tasks service.steps := case_later taken
  have older : ∀ entry ∈ service.callers, CallerConsistent maxAgeSeconds
      { acted with steps := service.steps + 1 } entry := fun entry member =>
    callerConsistent_later _ (consistent.callers entry member) later rfl
  have current := current_step consistent taken
  refine ⟨current, ?_, ?_⟩
  · intro entry member
    cases taken with
    | ticked | fetched | failed | stopped => exact older entry member
    | served snapshot stored fresh =>
      rcases List.mem_append.mp member with before | added
      · exact older entry before
      · rw [List.mem_singleton.mp added]
        refine ⟨Nat.lt_succ_self _, rfl, ?_⟩
        rw [stored] at fresh
        simpa [isStale] using fresh
    | joined request task needs current running =>
      rcases List.mem_append.mp member with before | added
      · exact older entry before
      · rw [List.mem_singleton.mp added]
        exact ⟨Nat.lt_succ_self _, .inl (unfinished_iff.mp running), by simp⟩
    | started request needs idle =>
      rcases List.mem_append.mp member with before | added
      · exact older entry before
      · rw [List.mem_singleton.mp added]
        exact ⟨Nat.lt_succ_self _, .inl ⟨false, List.getElem?_concat_length⟩, by simp⟩
    | cancelledBefore caller changed task mustCancel listed waits running =>
      rcases mem_set_cases member with rfl | before
      · obtain ⟨began, state⟩ := older changed (List.mem_of_getElem? listed)
        refine ⟨began, ?_⟩
        simp only [waits] at state ⊢
        exact ⟨state.1, fun _ => trivial⟩
      · exact older entry before
    | cancelledAfter caller changed task mustCancel listed waits done =>
      rcases mem_set_cases member with rfl | before
      · obtain ⟨began, state⟩ := older changed (List.mem_of_getElem? listed)
        refine ⟨began, ?_⟩
        simp only [waits] at state
        exact ⟨state.1, fun _ => rfl⟩
      · exact older entry before
    | resumed caller changed task mustCancel outcome finishedAt listed waits done =>
      rcases mem_set_cases member with rfl | before
      · obtain ⟨began, state⟩ := older changed (List.mem_of_getElem? listed)
        refine ⟨began, outcome, finishedAt, done, ?_⟩
        simp only [waits] at state
        rcases state.1 with ⟨requested, pending⟩ | ⟨other, stamp, finished, after⟩
        · cases done.symm.trans pending
        · have same := done.symm.trans finished
          cases same
          refine ⟨after, ?_⟩
          cases mustCancel with
          | false => exact .inl rfl
          | true => exact .inr ⟨state.2 rfl, rfl⟩
      · exact older entry before
  · intro snapshot stored
    cases taken with
    | ticked elapsed =>
      exact Int.le_trans (consistent.dated snapshot stored)
        (Int.le_add_of_nonneg_right (Int.natCast_nonneg elapsed))
    | fetched task transactions metrics running =>
      rw [← Option.some.inj stored]
      exact le_refl service.now
    | served | joined | started | failed | stopped | cancelledBefore | cancelledAfter | resumed =>
      exact consistent.dated snapshot stored

theorem run_consistent {now : Time} {labels : List SnapshotLabel} {state : Service}
    (reached : (snapshotMachine maxAgeSeconds).run (Service.initial now) labels = some state) :
    Consistent maxAgeSeconds state :=
  Machine.invariant_of_run (fun _ _ _ consistent stepped => consistent_step consistent stepped)
    (initial_consistent now) reached

theorem finished_step {next : Service} {task finishedAt : Nat} {snapshot : TransactionSnapshot}
    (stepped : (snapshotMachine maxAgeSeconds).step service label = some next)
    (finished : next.tasks[task]? = some (.finished (.returned snapshot) finishedAt)) :
    service.tasks[task]? = some (.finished (.returned snapshot) finishedAt) ∨
      (∃ transactions metrics, label = .fetched task transactions metrics) ∧
        next.stored = some snapshot := by
  obtain ⟨acted, taken, rfl⟩ := snapshotStep_cases stepped
  cases taken with
  | ticked | served | joined | cancelledAfter | resumed => exact .inl finished
  | started =>
    by_cases older : task < service.tasks.length
    · exact .inl (by rw [← List.getElem?_append_left older]; exact finished)
    · change (service.tasks ++ [FetchTask.pending false])[task]? = _ at finished
      rw [List.getElem?_append_right (Nat.le_of_not_lt older)] at finished
      cases List.mem_singleton.mp (List.mem_of_getElem? finished)
  | fetched place transactions metrics running =>
    change (service.tasks.set place _)[task]? = _ at finished
    rw [List.getElem?_set] at finished
    split_ifs at finished with same
    · cases finished
      exact .inr ⟨⟨transactions, metrics, by rw [same]⟩, rfl⟩
    · exact .inl finished
  | failed place error running =>
    change (service.tasks.set place _)[task]? = _ at finished
    rw [List.getElem?_set] at finished
    split_ifs at finished
    · cases finished
    · exact .inl finished
  | stopped place running =>
    change (service.tasks.set place _)[task]? = _ at finished
    rw [List.getElem?_set] at finished
    split_ifs at finished
    · cases finished
    · exact .inl finished
  | cancelledBefore caller entry place mustCancel listed waits running =>
    change (service.tasks.set place _)[task]? = _ at finished
    rw [List.getElem?_set] at finished
    split_ifs at finished
    · cases finished
    · exact .inl finished

def StoredWhenFinished (maxAgeSeconds : Int) (now : Time) (labels : List SnapshotLabel)
    (task : Nat) (snapshot : TransactionSnapshot) : Prop :=
  ∃ before transactions metrics after state,
    labels = before ++ .fetched task transactions metrics :: after ∧
      (snapshotMachine maxAgeSeconds).run (Service.initial now)
        (before ++ [.fetched task transactions metrics]) = some state ∧
      state.stored = some snapshot

theorem run_stored {now : Time} {labels : List SnapshotLabel} {state : Service}
    (reached : (snapshotMachine maxAgeSeconds).run (Service.initial now) labels = some state)
    {task finishedAt : Nat} {snapshot : TransactionSnapshot}
    (finished : state.tasks[task]? = some (.finished (.returned snapshot) finishedAt)) :
    StoredWhenFinished maxAgeSeconds now labels task snapshot := by
  induction labels using List.reverseRecOn generalizing state with
  | nil =>
    rw [Machine.run_nil] at reached
    rw [← Option.some.inj reached] at finished
    cases finished
  | append_singleton past label ih =>
    obtain ⟨middle, before, stepped⟩ := Machine.run_snoc.mp reached
    rcases finished_step stepped finished with earlier | ⟨⟨transactions, metrics, rfl⟩, stored⟩
    · obtain ⟨first, transactions, metrics, after, there, split, onward, held⟩ := ih before earlier
      exact ⟨first, transactions, metrics, after ++ [label], there, by rw [split]; simp, onward, held⟩
    · exact ⟨past, transactions, metrics, [], state, rfl, reached, stored⟩

def Uncancelled (labels : List SnapshotLabel) : Prop := ∀ caller, .cancel caller ∉ labels

def NoneCancelled (service : Service) : Prop := ∀ entry ∈ service.callers, entry.cancelled = false

theorem noneCancelled_step {next : Service} (none : NoneCancelled service)
    (uncancelled : ∀ caller, label ≠ .cancel caller)
    (stepped : (snapshotMachine maxAgeSeconds).step service label = some next) :
    NoneCancelled next := by
  obtain ⟨acted, taken, rfl⟩ := snapshotStep_cases stepped
  intro entry member
  cases taken with
  | ticked | fetched | failed | stopped => exact none entry member
  | served | joined | started =>
    rcases List.mem_append.mp member with before | added
    · exact none entry before
    · rw [List.mem_singleton.mp added]
  | cancelledBefore caller | cancelledAfter caller => exact absurd rfl (uncancelled caller)
  | resumed caller changed task mustCancel outcome finishedAt listed waits done =>
    rcases mem_set_cases member with rfl | before
    · exact none changed (List.mem_of_getElem? listed)
    · exact none entry before

def StoreAdvances (early late : Service) : Prop :=
  ∀ snapshot, early.stored = some snapshot →
    ∃ later, late.stored = some later ∧ snapshot.fetchedAt ≤ later.fetchedAt

theorem storeAdvances_trans {first second third : Service} (early : StoreAdvances first second)
    (late : StoreAdvances second third) : StoreAdvances first third := by
  intro snapshot stored
  obtain ⟨middle, held, older⟩ := early snapshot stored
  obtain ⟨last, final, newer⟩ := late middle held
  exact ⟨last, final, older.trans newer⟩

theorem stored_step {next : Service} (consistent : Consistent maxAgeSeconds service)
    (stepped : (snapshotMachine maxAgeSeconds).step service label = some next) :
    StoreAdvances service next := by
  obtain ⟨acted, taken, rfl⟩ := snapshotStep_cases stepped
  intro snapshot stored
  cases taken with
  | fetched task transactions metrics running => exact ⟨_, rfl, consistent.dated snapshot stored⟩
  | ticked | served | joined | started | failed | stopped | cancelledBefore | cancelledAfter
  | resumed => exact ⟨snapshot, stored, le_refl _⟩

end Steps

structure SnapshotGuarantees (maxAgeSeconds : Int) (now : Time) (labels : List SnapshotLabel) :
    Prop where
  oneFetch : ∀ before after state, labels = before ++ after →
    (snapshotMachine maxAgeSeconds).run (Service.initial now) before = some state →
    ∀ task other, state.unfinished task = true → state.unfinished other = true → task = other
  failureKeepsStore : ∀ before task error after state next,
    labels = before ++ .fetchFailed task error :: after →
    (snapshotMachine maxAgeSeconds).run (Service.initial now) before = some state →
    (snapshotMachine maxAgeSeconds).step state (.fetchFailed task error) = some next →
    next.stored = state.stored ∧ ∀ other, next.unfinished other = false
  nextCallStarts : ∀ before request after state next, labels = before ++ .call request :: after →
    (snapshotMachine maxAgeSeconds).run (Service.initial now) before = some state →
    (snapshotMachine maxAgeSeconds).step state (.call request) = some next →
    (∀ task, state.unfinished task = false) → NeedsFetch maxAgeSeconds state request →
    next.tasks = state.tasks ++ [.pending false] ∧
      ∃ entry, next.callers = state.callers ++ [entry] ∧
        entry.state = .awaiting state.tasks.length false
  storeAdvances : (snapshotMachine maxAgeSeconds).Segments StoreAdvances (Service.initial now) labels
  waitersAgree : ∀ before after state, labels = before ++ after →
    (snapshotMachine maxAgeSeconds).run (Service.initial now) before = some state →
    ∀ entry ∈ state.callers, ∀ other ∈ state.callers, ∀ task result otherResult,
      entry.state = .ended task result → other.state = .ended task otherResult →
      result = otherResult ∧ ∀ snapshot, result = .returned snapshot →
        StoredWhenFinished maxAgeSeconds now before task snapshot
  freshValues : ∀ before after state, labels = before ++ after →
    (snapshotMachine maxAgeSeconds).run (Service.initial now) before = some state →
    ∀ entry ∈ state.callers,
      (∀ snapshot, entry.state = .servedFromStore snapshot →
        entry.checkedAt - snapshot.fetchedAt ≤ seconds maxAgeSeconds) ∧
      ∀ task snapshot, entry.state = .ended task (.returned snapshot) → ∃ finishedAt,
        state.tasks[task]? = some (.finished (.returned snapshot) finishedAt) ∧
          entry.beganAt < finishedAt

section Guarantees

variable {maxAgeSeconds : Int} {now : Time} {labels : List SnapshotLabel} {state : Service}

theorem run_noneCancelled (uncancelled : Uncancelled labels)
    (reached : (snapshotMachine maxAgeSeconds).run (Service.initial now) labels = some state) :
    NoneCancelled state := by
  induction labels using List.reverseRecOn generalizing state with
  | nil =>
    rw [Machine.run_nil] at reached
    rw [← Option.some.inj reached]
    intro entry member
    cases member
  | append_singleton past label ih =>
    obtain ⟨middle, before, stepped⟩ := Machine.run_snoc.mp reached
    have earlier := ih (fun caller member => uncancelled caller (List.mem_append_left _ member)) before
    exact noneCancelled_step earlier
      (fun caller same => uncancelled caller (by simp [same])) stepped

theorem ended_outcome (uncancelled : Uncancelled labels)
    (reached : (snapshotMachine maxAgeSeconds).run (Service.initial now) labels = some state)
    {entry : Caller} (member : entry ∈ state.callers) {task : Nat}
    {result : TaskOutcome TransactionSnapshot} (ended : entry.state = .ended task result) :
    ∃ finishedAt, state.tasks[task]? = some (.finished result finishedAt) ∧
      entry.beganAt < finishedAt := by
  have consistent := ((run_consistent reached).callers entry member).2
  simp only [ended] at consistent
  obtain ⟨outcome, finishedAt, finished, after, same⟩ := consistent
  rcases same with rfl | ⟨cancelled, -⟩
  · exact ⟨finishedAt, finished, after⟩
  · rw [run_noneCancelled uncancelled reached entry member] at cancelled
    cases cancelled

theorem failure_idle {next : Service} {task : Nat} {error : PyError}
    (consistent : Consistent maxAgeSeconds state)
    (stepped : (snapshotMachine maxAgeSeconds).step state (.fetchFailed task error) = some next) :
    next.stored = state.stored ∧ ∀ other, next.unfinished other = false := by
  obtain ⟨acted, taken, rfl⟩ := snapshotStep_cases stepped
  cases taken with
  | failed _ _ running =>
    refine ⟨rfl, fun other => Bool.eq_false_iff.mpr fun unfinished => ?_⟩
    obtain ⟨requested, pending⟩ := unfinished_iff.mp unfinished
    have before := unfinished_iff.mpr ⟨requested, pending_of_finished pending⟩
    have same : task = other := Option.some.inj
      ((consistent.current task (unfinished_iff.mpr ⟨false, running⟩)).symm.trans
        (consistent.current other before))
    subst same
    change (state.tasks.set task _)[task]? = _ at pending
    rw [List.getElem?_set_self (List.getElem?_eq_some_iff.mp running).1] at pending
    cases pending

theorem call_starts {next : Service} {request : Request}
    (stepped : (snapshotMachine maxAgeSeconds).step state (.call request) = some next)
    (idle : ∀ task, state.unfinished task = false) (needs : NeedsFetch maxAgeSeconds state request) :
    next.tasks = state.tasks ++ [.pending false] ∧
      ∃ entry, next.callers = state.callers ++ [entry] ∧
        entry.state = .awaiting state.tasks.length false := by
  obtain ⟨acted, taken, rfl⟩ := snapshotStep_cases stepped
  cases taken with
  | served snapshot stored fresh =>
    rcases needs with different | stale
    · cases different
    · rw [fresh] at stale
      cases stale
  | joined _ task _ current running =>
    rw [idle task] at running
    cases running
  | started => exact ⟨rfl, _, rfl, rfl⟩

end Guarantees

theorem snapshot_guarantees (maxAgeSeconds : Int) (now : Time) (labels : List SnapshotLabel)
    (uncancelled : Uncancelled labels) : SnapshotGuarantees maxAgeSeconds now labels where
  oneFetch before after state _ reached task other running otherRunning := by
    have consistent := run_consistent reached
    exact Option.some.inj
      ((consistent.current task running).symm.trans (consistent.current other otherRunning))
  failureKeepsStore before task error after state next _ reached stepped :=
    failure_idle (run_consistent reached) stepped
  nextCallStarts before request after state next _ _ stepped idle needs :=
    call_starts stepped idle needs
  storeAdvances :=
    @Machine.segments_of_invariant _ _ (snapshotMachine maxAgeSeconds) (Consistent maxAgeSeconds)
      StoreAdvances (fun _ snapshot stored => ⟨snapshot, stored, le_refl _⟩) @storeAdvances_trans
      (fun _ _ _ consistent stepped => consistent_step consistent stepped)
      (fun _ _ _ consistent stepped => stored_step consistent stepped) _ _ (initial_consistent now)
  waitersAgree before after state split reached entry member other otherMember task result
      otherResult ended otherEnded := by
    have alone : Uncancelled before := fun caller listed =>
      uncancelled caller (split ▸ List.mem_append_left after listed)
    obtain ⟨finishedAt, finished, -⟩ := ended_outcome alone reached member ended
    obtain ⟨otherAt, otherFinished, -⟩ := ended_outcome alone reached otherMember otherEnded
    have same := finished.symm.trans otherFinished
    refine ⟨by cases same; rfl, fun snapshot returned => ?_⟩
    rw [returned] at finished
    exact run_stored reached finished
  freshValues before after state split reached entry member := by
    have alone : Uncancelled before := fun caller listed =>
      uncancelled caller (split ▸ List.mem_append_left after listed)
    refine ⟨fun snapshot served => ?_, fun task snapshot ended =>
      ended_outcome alone reached member ended⟩
    have consistent := ((run_consistent reached).callers entry member).2
    simp only [served] at consistent
    exact consistent.2

namespace Sample

def oneTransaction : FetchMetrics := ⟨1, 5, 0, 0⟩

-- Two calls share a fetch that times out; before they resume a third call starts another fetch.
def failedThenFetched : List SnapshotLabel :=
  [.call .getSnapshot, .call .refreshSnapshot, .fetchFailed 0 .timeoutError, .tick 1000000,
    .call .getSnapshot, .resume 0, .fetched 1 [] oneTransaction, .resume 1, .resume 2]

end Sample

theorem snapshot_guarantees_failedThenFetched :
    SnapshotGuarantees 300 0 Sample.failedThenFetched ∧
      ∃ state, (snapshotMachine 300).run (Service.initial 0) Sample.failedThenFetched = some state ∧
        state.callers.map Caller.state = [.ended 0 (.raised .timeoutError),
          .ended 0 (.raised .timeoutError),
          .ended 1 (.returned ⟨[], Sample.oneTransaction, 1000000, 1⟩)] := by
  refine ⟨snapshot_guarantees 300 0 Sample.failedThenFetched ?_, _, rfl, by decide⟩
  intro caller
  simp [Sample.failedThenFetched]

end FireflyToolkit.Snapshot
