import FireflyToolkit.Snapshot.SingleFlight

set_option autoImplicit false

namespace FireflyToolkit.Snapshot

open Transition

-- A call is cancelled while it awaits an unfinished task only where every other call that awaits
-- the task is cancelled too, and no call joins a task that was asked to cancel.
def CancelsAlone (maxAgeSeconds : Int) (service : Service) : SnapshotLabel → Prop
  | .cancel caller =>
      ∀ entry task mustCancel, service.callers[caller]? = some entry →
        entry.state = .awaiting task mustCancel → service.unfinished task = true →
        ∀ place other otherMust, service.callers[place]? = some other → place ≠ caller →
          other.state = .awaiting task otherMust → other.cancelled = true
  | .call request =>
      NeedsFetch maxAgeSeconds service request →
        ∀ task, service.refreshTask = some task → service.tasks[task]? ≠ some (.pending true)
  | _ => True

-- The same labels with nobody cancelled: the time that a cancellation takes passes, and a fetch
-- that would have been cancelled times out.
def withoutCancel : SnapshotLabel → SnapshotLabel
  | .cancel _ => .tick 0
  | .fetchCancelled task => .fetchFailed task .timeoutError
  | label => label

-- A call that nobody cancelled awaits a task that nobody asked to cancel, or ended with the
-- outcome of its task, which is no cancellation.
def Unharmed (service : Service) (entry : Caller) : Prop :=
  entry.cancelled = false →
    match entry.state with
    | .servedFromStore _ => True
    | .awaiting task _ =>
        service.tasks[task]? ≠ some (.pending true) ∧
          ∀ finishedAt, service.tasks[task]? ≠ some (.finished .cancelled finishedAt)
    | .ended task result => result ≠ .cancelled ∧
        ∃ finishedAt, service.tasks[task]? = some (.finished result finishedAt)

def AllUnharmed (service : Service) : Prop := ∀ entry ∈ service.callers, Unharmed service entry

section Steps

variable {maxAgeSeconds : Int} {service acted : Service} {label : SnapshotLabel}

theorem unharmed_later {entry : Caller} (next : Service) (unharmed : Unharmed service entry)
    (later : Later service.tasks next.tasks service.steps)
    (spared : ∀ task mustCancel, entry.cancelled = false → entry.state = .awaiting task mustCancel →
      service.tasks[task]? = some (.pending false) →
        next.tasks[task]? ≠ some (.pending true) ∧
          ∀ finishedAt, next.tasks[task]? ≠ some (.finished .cancelled finishedAt))
    (known : ∀ task mustCancel, entry.state = .awaiting task mustCancel →
      JoinedBefore service entry task) : Unharmed next entry := by
  intro alone
  have before := unharmed alone
  cases shape : entry.state with
  | servedFromStore snapshot => trivial
  | awaiting task mustCancel =>
    simp only [shape] at before ⊢
    rcases known task mustCancel shape with ⟨requested, pending⟩ | ⟨outcome, stamp, finished, -⟩
    · cases requested with
      | true => exact absurd pending before.1
      | false => exact spared task mustCancel alone shape pending
    · have kept := later.finished task outcome stamp finished
      rw [kept]
      refine ⟨by simp, fun finishedAt same => ?_⟩
      cases same
      exact before.2 _ finished
  | ended task result =>
    simp only [shape] at before ⊢
    obtain ⟨honest, finishedAt, finished⟩ := before
    exact ⟨honest, finishedAt, later.finished task result finishedAt finished⟩

theorem mem_set_index {entries : List Caller} {place : Nat} {added entry : Caller}
    (member : entry ∈ entries.set place added) :
    entry = added ∨ ∃ other, other ≠ place ∧ entries[other]? = some entry := by
  obtain ⟨index, found⟩ := List.mem_iff_getElem?.mp member
  rw [List.getElem?_set] at found
  split_ifs at found with same
  · exact .inl (Option.some.inj found).symm
  · exact .inr ⟨index, Ne.symm same, found⟩

theorem consistent_joined {entry : Caller} (consistent : Consistent maxAgeSeconds service)
    (member : entry ∈ service.callers) {task : Nat} {mustCancel : Bool}
    (waits : entry.state = .awaiting task mustCancel) : JoinedBefore service entry task := by
  have state := (consistent.callers entry member).2
  simp only [waits] at state
  exact state.1

theorem finish_spares {tasks : List FetchTask} {place task steps : Nat}
    {outcome : TaskOutcome TransactionSnapshot} (honest : outcome ≠ .cancelled)
    (pending : tasks[task]? = some (.pending false)) :
    (tasks.set place (.finished outcome steps))[task]? ≠ some (.pending true) ∧
      ∀ finishedAt, (tasks.set place (.finished outcome steps))[task]? ≠
        some (.finished .cancelled finishedAt) := by
  rw [List.getElem?_set]
  split_ifs with same bound
  · exact ⟨by simp, fun finishedAt equal => by cases equal; exact honest rfl⟩
  · simp
  · simp [pending]

theorem pending_spares {tasks : List FetchTask} {task : Nat}
    (pending : tasks[task]? = some (.pending false)) :
    tasks[task]? ≠ some (.pending true) ∧
      ∀ finishedAt, tasks[task]? ≠ some (.finished .cancelled finishedAt) := by
  simp [pending]

theorem uncancelled_awaits (consistent : Consistent maxAgeSeconds service)
    (unharmed : AllUnharmed service) {caller : Nat} {entry : Caller}
    (listed : service.callers[caller]? = some entry) {task : Nat} {mustCancel : Bool}
    (waits : entry.state = .awaiting task mustCancel) (alone : entry.cancelled = false) :
    mustCancel = false ∧ ∀ outcome finishedAt,
      service.tasks[task]? = some (.finished outcome finishedAt) → outcome ≠ .cancelled := by
  have present := List.mem_of_getElem? listed
  have state := (consistent.callers entry present).2
  have before := unharmed entry present alone
  simp only [waits] at state before
  constructor
  · cases mustCancel with
    | false => rfl
    | true =>
      have cancelled := state.2 rfl
      rw [alone] at cancelled
      cases cancelled
  · intro outcome finishedAt done same
    exact before.2 finishedAt (same ▸ done)

theorem allUnharmed_step {next : Service} (consistent : Consistent maxAgeSeconds service)
    (unharmed : AllUnharmed service) (safe : CancelsAlone maxAgeSeconds service label)
    (stepped : (snapshotMachine maxAgeSeconds).step service label = some next) :
    AllUnharmed next := by
  obtain ⟨acted, taken, rfl⟩ := snapshotStep_cases stepped
  have later : Later service.tasks acted.tasks service.steps := case_later taken
  have older : ∀ entry ∈ service.callers,
      (∀ task mustCancel, entry.cancelled = false → entry.state = .awaiting task mustCancel →
        service.tasks[task]? = some (.pending false) →
          acted.tasks[task]? ≠ some (.pending true) ∧
            ∀ finishedAt, acted.tasks[task]? ≠ some (.finished .cancelled finishedAt)) →
      Unharmed { acted with steps := service.steps + 1 } entry := by
    intro entry member spared
    exact unharmed_later _ (unharmed entry member) later spared
      fun task mustCancel waits => consistent_joined consistent member waits
  have untouched : acted.tasks = service.tasks → ∀ entry ∈ service.callers,
      Unharmed { acted with steps := service.steps + 1 } entry :=
    fun same entry member =>
      older entry member fun task _ _ _ pending => pending_spares (same ▸ pending)
  intro entry member
  cases taken with
  | ticked => exact untouched rfl entry member
  | served snapshot stored fresh =>
    rcases List.mem_append.mp member with before | added
    · exact untouched rfl entry before
    · rw [List.mem_singleton.mp added]
      exact fun _ => trivial
  | joined request task needs current running =>
    rcases List.mem_append.mp member with before | added
    · exact untouched rfl entry before
    · rw [List.mem_singleton.mp added]
      obtain ⟨requested, pending⟩ := unfinished_iff.mp running
      refine fun _ => ⟨safe needs task current, fun finishedAt finished => ?_⟩
      cases pending.symm.trans finished
  | started request needs idle =>
    rcases List.mem_append.mp member with before | added
    · refine older entry before fun task _ _ _ pending => pending_spares ?_
      exact (List.getElem?_append_left (List.getElem?_eq_some_iff.mp pending).1).trans pending
    · rw [List.mem_singleton.mp added]
      exact fun _ => pending_spares List.getElem?_concat_length
  | fetched place transactions metrics running =>
    exact older entry member fun task _ _ _ pending => finish_spares (by simp) pending
  | failed place error running =>
    exact older entry member fun task _ _ _ pending => finish_spares (by simp) pending
  | stopped place running =>
    refine older entry member fun task _ _ _ pending => pending_spares ?_
    have other : place ≠ task := by
      intro same
      rw [same, pending] at running
      cases running
    exact (List.getElem?_set_ne other).trans pending
  | cancelledBefore caller changed place mustCancel listed waits running =>
    rcases mem_set_index member with rfl | ⟨index, elsewhere, found⟩
    · intro alone
      cases alone
    · refine older entry (List.mem_of_getElem? found) fun task must alone awaits pending => ?_
      have other : place ≠ task := by
        intro same
        have cancelled := safe changed place mustCancel listed waits running index entry must found
          elsewhere (same ▸ awaits)
        rw [alone] at cancelled
        cases cancelled
      exact pending_spares ((List.getElem?_set_ne other).trans pending)
  | cancelledAfter caller changed place mustCancel listed waits done =>
    rcases mem_set_index member with rfl | ⟨index, elsewhere, found⟩
    · intro alone
      cases alone
    · exact untouched rfl entry (List.mem_of_getElem? found)
  | resumed caller changed task mustCancel outcome finishedAt listed waits done =>
    rcases mem_set_index member with rfl | ⟨index, elsewhere, found⟩
    · intro alone
      have clean := uncancelled_awaits consistent unharmed listed waits alone
      rw [clean.1]
      exact ⟨clean.2 outcome finishedAt done, finishedAt, done⟩
    · exact untouched rfl entry (List.mem_of_getElem? found)

end Steps

def withoutRequest : FetchTask → FetchTask
  | .pending _ => .pending false
  | .finished .cancelled finishedAt => .finished (.raised .timeoutError) finishedAt
  | .finished outcome finishedAt => .finished outcome finishedAt

theorem withoutRequest_unfinished (task : FetchTask) :
    (withoutRequest task).unfinished = task.unfinished := by
  cases task with
  | pending => rfl
  | finished outcome => cases outcome <;> rfl

theorem withoutRequest_finished {outcome : TaskOutcome TransactionSnapshot}
    (honest : outcome ≠ .cancelled) (finishedAt : Nat) :
    withoutRequest (.finished outcome finishedAt) = .finished outcome finishedAt := by
  cases outcome with
  | cancelled => exact absurd rfl honest
  | returned => rfl
  | raised => rfl

structure AlikeCaller (entry other : Caller) : Prop where
  same : entry.cancelled = false → other = entry
  waits : ∀ task mustCancel, entry.state = .awaiting task mustCancel →
    other.state = .awaiting task false

structure Alike (service other : Service) : Prop where
  stored : other.stored = service.stored
  refreshTask : other.refreshTask = service.refreshTask
  now : other.now = service.now
  steps : other.steps = service.steps
  tasks : other.tasks = service.tasks.map withoutRequest
  callers : List.Forall₂ AlikeCaller service.callers other.callers

theorem callers_getElem? {entries others : List Caller} (all : List.Forall₂ AlikeCaller entries others)
    {place : Nat} {entry : Caller} (listed : entries[place]? = some entry) :
    ∃ other, others[place]? = some other ∧ AlikeCaller entry other := by
  induction all generalizing place with
  | nil => cases listed
  | cons head tail ih =>
    cases place with
    | zero =>
      cases listed
      exact ⟨_, rfl, head⟩
    | succ earlier => exact ih listed

theorem callers_set {entries others : List Caller} (all : List.Forall₂ AlikeCaller entries others)
    (place : Nat) {entry other : Caller} (alike : AlikeCaller entry other) :
    List.Forall₂ AlikeCaller (entries.set place entry) (others.set place other) := by
  induction all generalizing place with
  | nil => exact .nil
  | cons head tail ih =>
    cases place with
    | zero => exact .cons alike tail
    | succ earlier => exact .cons head (ih earlier)

theorem callers_set_left {entries others : List Caller}
    (all : List.Forall₂ AlikeCaller entries others) {place : Nat} {old entry : Caller}
    (listed : entries[place]? = some old)
    (alike : ∀ other, AlikeCaller old other → AlikeCaller entry other) :
    List.Forall₂ AlikeCaller (entries.set place entry) others := by
  induction all generalizing place with
  | nil => exact .nil
  | cons head tail ih =>
    cases place with
    | zero =>
      cases listed
      exact .cons (alike _ head) tail
    | succ earlier => exact .cons head (ih listed)

section Simulation

variable {maxAgeSeconds : Int} {service acted other : Service} {label : SnapshotLabel}

theorem alike_unfinished (alike : Alike service other) (task : Nat) :
    other.unfinished task = service.unfinished task := by
  unfold Service.unfinished
  rw [alike.tasks, List.getElem?_map, Option.any_map]
  congr 1
  funext entry
  exact withoutRequest_unfinished entry

theorem alike_needs (alike : Alike service other) {request : Request}
    (needs : NeedsFetch maxAgeSeconds service request) :
    NeedsFetch maxAgeSeconds other request := by
  unfold NeedsFetch at needs ⊢
  rwa [alike.stored, alike.now]

theorem alike_newCaller (alike : Alike service other) (request : Request) {state : CallerState}
    (fresh : ∀ task mustCancel, state = .awaiting task mustCancel → mustCancel = false) :
    List.Forall₂ AlikeCaller
      (service.callers ++ [⟨request, service.steps, service.now, false, state⟩])
      (other.callers ++ [⟨request, other.steps, other.now, false, state⟩]) := by
  have added : AlikeCaller ⟨request, service.steps, service.now, false, state⟩
      ⟨request, other.steps, other.now, false, state⟩ := by
    rw [alike.steps, alike.now]
    refine ⟨fun _ => rfl, fun task mustCancel waits => ?_⟩
    have kept : state = .awaiting task mustCancel := waits
    rw [fresh task mustCancel kept] at kept
    exact kept
  exact List.rel_append alike.callers (.cons added .nil)

theorem alike_task (alike : Alike service other) {task : Nat} {state : FetchTask}
    (held : service.tasks[task]? = some state) :
    other.tasks[task]? = some (withoutRequest state) := by
  rw [alike.tasks, List.getElem?_map, held]
  rfl

theorem alike_finish (alike : Alike service other) (task : Nat)
    {outcome plain : TaskOutcome TransactionSnapshot}
    (translated : ∀ finishedAt, withoutRequest (.finished outcome finishedAt) = .finished plain finishedAt) :
    other.tasks.set task (.finished plain other.steps) =
      (service.tasks.set task (.finished outcome service.steps)).map withoutRequest := by
  rw [alike.tasks, alike.steps, List.map_set, translated]

def Matched (maxAgeSeconds : Int) (other : Service) (label : SnapshotLabel) (acted : Service) :
    Prop :=
  ∃ otherActed, snapshotAction maxAgeSeconds other (withoutCancel label) = some otherActed ∧
    otherActed.stored = acted.stored ∧ otherActed.refreshTask = acted.refreshTask ∧
    otherActed.now = acted.now ∧ otherActed.tasks = acted.tasks.map withoutRequest ∧
    List.Forall₂ AlikeCaller acted.callers otherActed.callers

theorem matched_resumed (consistent : Consistent maxAgeSeconds service)
    (unharmed : AllUnharmed service) (alike : Alike service other) {caller : Nat} {entry : Caller}
    (listed : service.callers[caller]? = some entry) {task : Nat} {mustCancel : Bool}
    (waits : entry.state = .awaiting task mustCancel) {outcome : TaskOutcome TransactionSnapshot}
    {finishedAt : Nat} (done : service.tasks[task]? = some (.finished outcome finishedAt)) :
    Matched maxAgeSeconds other (.resume caller)
      { service with
        callers := service.callers.set caller
          { entry with state := .ended task (if mustCancel then .cancelled else outcome) }
        refreshTask := if service.refreshTask = some task then none else service.refreshTask } := by
  obtain ⟨answered, found, similar⟩ := callers_getElem? alike.callers listed
  obtain ⟨plain, ended⟩ : ∃ plain, withoutRequest (.finished outcome finishedAt) =
      .finished plain finishedAt := by cases outcome <;> exact ⟨_, rfl⟩
  have finished : other.tasks[task]? = some (.finished plain finishedAt) :=
    ended ▸ alike_task alike done
  have did : snapshotAction maxAgeSeconds other (.resume caller) = some { other with
      callers := other.callers.set caller { answered with state := .ended task plain }
      refreshTask := if other.refreshTask = some task then none else other.refreshTask } := by
    simp [snapshotAction, found, Service.resumeCaller, similar.waits task mustCancel waits, finished]
  refine ⟨_, did, alike.stored, by simp [alike.refreshTask], alike.now, alike.tasks, ?_⟩
  refine callers_set alike.callers caller ⟨fun alone => ?_, fun place must waiting => by cases waiting⟩
  have clean := uncancelled_awaits consistent unharmed listed waits alone
  rw [withoutRequest_finished (clean.2 outcome finishedAt done) finishedAt] at ended
  cases ended
  rw [similar.same alone, clean.1]
  rfl

-- Every step that harms no other call is matched by the step without the cancellation.
theorem alike_step {next : Service} (consistent : Consistent maxAgeSeconds service)
    (unharmed : AllUnharmed service) (alike : Alike service other)
    (stepped : (snapshotMachine maxAgeSeconds).step service label = some next) :
    ∃ matching, (snapshotMachine maxAgeSeconds).step other (withoutCancel label) = some matching ∧
      Alike next matching := by
  obtain ⟨acted, taken, rfl⟩ := snapshotStep_cases stepped
  -- It is enough to find what the other state does before its step is counted.
  suffices Matched maxAgeSeconds other label acted by
    obtain ⟨otherActed, did, stored, refreshTask, now, tasks, callers⟩ := this
    refine ⟨{ otherActed with steps := other.steps + 1 }, ?_, ?_⟩
    · simp [snapshotMachine, snapshotStep, did]
    · exact ⟨stored, refreshTask, now, by rw [alike.steps], tasks, callers⟩
  cases taken with
  | ticked elapsed =>
    exact ⟨_, rfl, alike.stored, alike.refreshTask, by rw [alike.now], alike.tasks, alike.callers⟩
  | served snapshot stored fresh =>
    have did := @call_served maxAgeSeconds other snapshot (alike.stored.trans stored)
      (by rw [alike.stored, alike.now, fresh])
    exact ⟨_, did, alike.stored, alike.refreshTask, alike.now, alike.tasks,
      alike_newCaller alike .getSnapshot (by simp)⟩
  | joined request task needs current running =>
    have did := call_needing (alike_needs alike needs)
    rw [joinOrStart_running (alike.refreshTask.trans current)
      ((alike_unfinished alike task).trans running)] at did
    exact ⟨_, did, alike.stored, alike.refreshTask, alike.now, alike.tasks,
      alike_newCaller alike request (by simp)⟩
  | started request needs idle =>
    have did := call_needing (alike_needs alike needs)
    rw [joinOrStart_idle fun task current => (alike_unfinished alike task).trans
      (idle task (alike.refreshTask.symm.trans current))] at did
    have length : other.tasks.length = service.tasks.length := by rw [alike.tasks, List.length_map]
    refine ⟨_, did, alike.stored, ?_, alike.now, ?_, ?_⟩
    · exact congrArg some length
    · exact (congrArg (· ++ [FetchTask.pending false]) alike.tasks).trans
        (by simp [Service.startTask, withoutRequest])
    · simp only [Service.startTask, length]
      exact alike_newCaller alike request (by simp)
  | fetched task transactions metrics running =>
    have pending := alike_task alike running
    refine ⟨_, if_pos pending, ?_, alike.refreshTask, alike.now, ?_, alike.callers⟩
    · simp [Service.storeFetched, alike.now]
    · simp only [Service.storeFetched, Service.finishTask, alike.now]
      exact alike_finish alike task fun _ => rfl
  | failed task error running =>
    refine ⟨_, if_pos (alike_task alike running), alike.stored, alike.refreshTask, alike.now, ?_,
      alike.callers⟩
    exact alike_finish alike task fun _ => rfl
  | stopped task running =>
    refine ⟨_, if_pos (alike_task alike running), alike.stored, alike.refreshTask, alike.now, ?_,
      alike.callers⟩
    exact alike_finish alike task fun _ => rfl
  | cancelledBefore caller entry task mustCancel listed waits running =>
    obtain ⟨requested, pending⟩ := unfinished_iff.mp running
    refine ⟨_, rfl, alike.stored, alike.refreshTask, by simp [alike.now], ?_, ?_⟩
    · have plain := alike_task alike pending
      obtain ⟨bound, value⟩ := List.getElem?_eq_some_iff.mp plain
      rw [List.map_set, ← alike.tasks]
      exact ((congrArg (other.tasks.set task) value).symm.trans (List.set_getElem_self bound)).symm
    · refine callers_set_left alike.callers listed fun answered similar => ⟨?_, similar.waits⟩
      intro alone
      cases alone
  | cancelledAfter caller entry task mustCancel listed waits done =>
    refine ⟨_, rfl, alike.stored, alike.refreshTask, by simp [alike.now], alike.tasks, ?_⟩
    refine callers_set_left alike.callers listed fun answered similar => ⟨?_, ?_⟩
    · intro alone
      cases alone
    · intro place must same
      cases same
      exact similar.waits task mustCancel waits
  | resumed caller entry task mustCancel outcome finishedAt listed waits done =>
    exact matched_resumed consistent unharmed alike listed waits done

end Simulation

structure CancelsUnnoticed (maxAgeSeconds : Int) (now : Time) (labels : List SnapshotLabel)
    (state : Service) : Prop where
  answered : ∀ entry ∈ state.callers, entry.cancelled = false → ∀ task result,
    entry.state = .ended task result → result ≠ .cancelled ∧
      ∃ finishedAt, state.tasks[task]? = some (.finished result finishedAt)
  asWithoutCancels : ∃ plain, (snapshotMachine maxAgeSeconds).run (Service.initial now)
      (labels.map withoutCancel) = some plain ∧
    plain.stored = state.stored ∧ ∀ (place : Nat) entry, state.callers[place]? = some entry →
      entry.cancelled = false → plain.callers[place]? = some entry

theorem cancels_unnoticed (maxAgeSeconds : Int) (now : Time) (labels : List SnapshotLabel)
    (meets : (snapshotMachine maxAgeSeconds).Meets (CancelsAlone maxAgeSeconds)
      (Service.initial now) labels)
    (before after : List SnapshotLabel) (split : labels = before ++ after) (state : Service)
    (reached : (snapshotMachine maxAgeSeconds).run (Service.initial now) before = some state) :
    CancelsUnnoticed maxAgeSeconds now before state := by
  rw [split] at meets
  have allowed := (Machine.meets_append reached meets).1
  have start : Consistent maxAgeSeconds (Service.initial now) ∧ AllUnharmed (Service.initial now) ∧
      Alike (Service.initial now) (Service.initial now) := by
    refine ⟨initial_consistent now, ?_, ⟨rfl, rfl, rfl, rfl, rfl, .nil⟩⟩
    intro entry member
    cases member
  obtain ⟨plain, plainRun, -, unharmed, alike⟩ :=
    @Machine.simulation_of_meets _ _ (snapshotMachine maxAgeSeconds) _ _
      (snapshotMachine maxAgeSeconds) (CancelsAlone maxAgeSeconds) withoutCancel
      (fun service other => Consistent maxAgeSeconds service ∧ AllUnharmed service ∧
        Alike service other)
      (fun service other label next held safe stepped => by
        obtain ⟨matching, taken, alike⟩ := alike_step held.1 held.2.1 held.2.2 stepped
        exact ⟨matching, taken, consistent_step held.1 stepped,
          allUnharmed_step held.1 held.2.1 safe stepped, alike⟩)
      _ _ _ _ start allowed reached
  constructor
  · intro entry member alone task result ended
    have served := unharmed entry member alone
    simpa only [ended] using served
  · refine ⟨plain, plainRun, alike.stored, fun place entry listed alone => ?_⟩
    obtain ⟨other, found, similar⟩ := callers_getElem? alike.callers listed
    rw [found, similar.same alone]

namespace Sample

def metrics : FetchMetrics := ⟨0, 5, 0, 0⟩

def loneCancel : List SnapshotLabel :=
  [.call .refreshSnapshot, .cancel 0, .fetchCancelled 0, .call .refreshSnapshot,
    .fetched 1 [] metrics, .resume 1]

def sharedCancel : List SnapshotLabel :=
  [.call .refreshSnapshot, .call .refreshSnapshot, .cancel 0, .fetchCancelled 0, .resume 1]

end Sample

theorem cancels_unnoticed_loneCancel :
    ∃ state, (snapshotMachine 300).run (Service.initial 0) Sample.loneCancel = some state ∧
      CancelsUnnoticed 300 0 Sample.loneCancel state := by
  refine ⟨_, rfl, cancels_unnoticed 300 0 Sample.loneCancel ?_ Sample.loneCancel [] (by simp) _ rfl⟩
  refine Machine.meets_cons rfl ?_ (Machine.meets_cons rfl ?_ (Machine.meets_cons rfl trivial
    (Machine.meets_cons rfl ?_ (Machine.meets_cons rfl trivial (Machine.meets_cons rfl trivial trivial)))))
  · intro _ task current
    cases current
  · intro entry task mustCancel _ _ _ place other otherMust listed elsewhere _
    cases place with
    | zero => exact absurd rfl elsewhere
    | succ later => cases listed
  · intro _ task current held
    cases current
    cases held

theorem sharedCancel_harms_other :
    ∃ state entry, (snapshotMachine 300).run (Service.initial 0) Sample.sharedCancel = some state ∧
      state.callers[1]? = some entry ∧ entry.cancelled = false ∧
      entry.state = .ended 0 .cancelled ∧ ¬ CancelsUnnoticed 300 0 Sample.sharedCancel state := by
  refine ⟨_, _, rfl, rfl, rfl, rfl, fun unnoticed => ?_⟩
  exact (unnoticed.answered _ (@List.mem_of_getElem? _ _ 1 _ rfl) rfl 0 .cancelled rfl).1 rfl

end FireflyToolkit.Snapshot
