import FireflyToolkit.Allegro.AccessControl
import FireflyToolkit.Allegro.ApplyJob
import FireflyToolkit.Domain.UuidTexts

set_option autoImplicit false

namespace FireflyToolkit.Allegro

open OrderedDict PyText Transition
open PyBuiltins (bind_eq_error)

section Reading

variable (tables : UnicodeTables)

end Reading

def reasonsOf (decision : MatchDecision) : List String :=
  [transactionNotFoundText decision.transactionId, invalidSelectionText decision,
    "Details cannot be empty", "Failed to update transaction " ++ toString decision.transactionId]

inductive Answers (decision : MatchDecision) : ApplyOutcome → Prop
  | success : Answers decision ⟨decision.transactionId, .success, none⟩
  | failed {reason : String} (known : reason ∈ reasonsOf decision) :
      Answers decision ⟨decision.transactionId, .failed, some reason⟩

theorem Answers.transactionId {decision : MatchDecision} {outcome : ApplyOutcome}
    (answers : Answers decision outcome) : outcome.transactionId = decision.transactionId := by
  cases answers <;> rfl

theorem resolveDecision_reason {results : List (MatchResult AllegroOrderPayment)} {decision : MatchDecision}
    {failure : PyError} (refused : resolveDecision (matchIndex results) decision = .error failure) :
    failure.message ∈ reasonsOf decision := by
  unfold resolveDecision at refused
  split at refused
  · rw [← Except.error.inj refused]
    simp [reasonsOf, PyError.message]
  · split at refused
    · rw [← Except.error.inj refused]
      simp [reasonsOf, PyError.message]
    · cases refused

theorem applyMatch_reason {settings : Settings} {client : FireflyClient} {firefly : FireflyStore}
    {decision : MatchDecision} {tx : Transaction} {payment : AllegroOrderPayment} {failure : PyError}
    (own : tx.id = decision.transactionId)
    (failed : FireflyEnrichmentService.applyMatch settings client firefly tx payment = .error failure) :
    failure.message ∈ reasonsOf decision := by
  unfold FireflyEnrichmentService.applyMatch FireflyBaseService.updateTransaction at failed
  rcases bind_eq_error.mp failed with built | ⟨payload, -, updated⟩
  · simp only [Evidence.buildTxUpdate, OrderPayment.buildTxUpdate] at built
    split_ifs at built
    rw [← Except.error.inj built]
    simp [reasonsOf, PyError.message]
  · split at updated
    · cases updated
    · rw [← Except.error.inj updated]
      simp [reasonsOf, PyError.message, own]

theorem attempt_answers (settings : Settings) (client : FireflyClient) (firefly : FireflyStore)
    (results : List (MatchResult AllegroOrderPayment)) (decision : MatchDecision) :
    Answers decision (outcomeOf decision (FireflyEnrichmentService.attempt settings client firefly
      (resolveDecision (matchIndex results) decision)).2) := by
  cases resolved : resolveDecision (matchIndex results) decision with
  | error failure => exact .failed (resolveDecision_reason resolved)
  | ok selected =>
    obtain ⟨tx, payment⟩ := selected
    obtain ⟨-, -, -, own, -⟩ := resolveDecision_names resolved
    rw [FireflyEnrichmentService.attempt]
    cases applied : FireflyEnrichmentService.applyMatch settings client firefly tx payment with
    | ok next => exact .success
    | error failure => exact .failed (applyMatch_reason own applied)

structure Counted (job : ApplyJob) : Prop where
  applied : job.applied = job.results.countP fun outcome => outcome.status = .success
  failed : job.failed = job.results.countP fun outcome => outcome.status = .failed

structure Open (task : RunningJob) : Prop where
  unfinished : task.job.finishedAt = none
  stage : task.job.status = .pending ∧ task.job.results = [] ∨ task.job.status = .running
  left : task.job.results.length + task.decisions.length = task.job.total

structure Closed (job : ApplyJob) : Prop where
  done : job.status = .done
  finished : job.finishedAt.isSome = true
  whole : job.results.length = job.total

structure JobsKept (system : System) : Prop where
  keyed : ∀ id job, system.store.jobs.get? id = some job → job.id = id ∧ Counted job
  distinct : (system.running.map fun task => task.job.id).Nodup
  tasks : ∀ task ∈ system.running, system.store.jobs.get? task.job.id = some task.job ∧ Open task
  closed : ∀ id job, system.store.jobs.get? id = some job →
    (∀ task ∈ system.running, task.job.id ≠ id) → Closed job

inductive JobsMove (system next : System) : Prop
  | idle (jobs : next.store.jobs = system.store.jobs) (running : next.running = system.running)
  | started (task : RunningJob) (fresh : system.store.jobs.get? task.job.id = none) (opened : Open task)
      (empty : task.job.results = [] ∧ Counted task.job)
      (jobs : next.store.jobs = system.store.jobs.set task.job.id task.job)
      (running : next.running = system.running ++ [task])
  | reported (before after : List RunningJob) (task : RunningJob) (decision : MatchDecision)
      (rest : List MatchDecision) (failure : Option PyError) (job : ApplyJob)
      (split : system.running = before ++ task :: after) (decisions : task.decisions = decision :: rest)
      (answers : Answers decision (outcomeOf decision failure))
      (report : job = ApplyJob.report { task.job with status := .running } decision.transactionId failure)
      (jobs : next.store.jobs = system.store.jobs.set job.id job)
      (running : next.running = before ++ { task with job := job, decisions := rest } :: after)
  | finished (before after : List RunningJob) (task : RunningJob) (now : Time) (job : ApplyJob)
      (split : system.running = before ++ task :: after) (decisions : task.decisions = [])
      (ended : job = { task.job with status := .done, finishedAt := some now })
      (jobs : next.store.jobs = system.store.jobs.set job.id job)
      (running : next.running = before ++ after)

-- The ids of new jobs are drawn at random.
def DrawnFresh (system : System) : SystemLabel → Prop
  | .request _ (.applyMatches _ _ jobId) | .request _ (.autoApplySingleMatches _ _ jobId) =>
      system.store.jobs.get? jobId = none
  | _ => True

section Moves

variable {settings : Settings} {crypto : Vault.CryptoLibrary} {ttlSeconds : Int}
  {system next : System} {label : SystemLabel}

theorem split_at_place {α : Type} {items : List α} {place : Nat} {item : α}
    (placed : items[place]? = some item) : ∃ before after, items = before ++ item :: after ∧
      items.eraseIdx place = before ++ after ∧ ∀ other, items.set place other = before ++ other :: after := by
  obtain ⟨inside, rfl⟩ := List.getElem?_eq_some_iff.mp placed
  refine ⟨items.take place, items.drop (place + 1), ?_, List.eraseIdx_eq_take_drop_succ items place,
    fun other => List.set_eq_take_append_cons_drop.trans (if_pos inside)⟩
  rw [← List.drop_eq_getElem_cons, List.take_append_drop]

theorem move_stepJob (client : FireflyClient) {place : Nat} {task : RunningJob}
    (placed : system.running[place]? = some task) :
    JobsMove system (stepJob settings client system place task) := by
  obtain ⟨before, after, split, erased, updated⟩ := split_at_place placed
  unfold stepJob
  split
  next decisions => exact .finished before after task _ _ split decisions rfl rfl erased
  next decision rest decisions =>
    exact .reported before after task decision rest _ _ split decisions
      (attempt_answers settings client system.firefly task.results decision) rfl rfl (updated _)

theorem move_startedJob {httpError : PyError → HTTPException} {secret : UUID} {decisions : List MatchDecision}
    {jobId : UUID} {now : Time} (fresh : system.store.jobs.get? jobId = none) :
    JobsMove system (startedJob system httpError
      (startApplyJob system.store secret decisions jobId now)).2 := by
  cases started : startApplyJob system.store secret decisions jobId now with
  | error error => exact .idle rfl rfl
  | ok accepted =>
    obtain ⟨store, task⟩ := accepted
    obtain ⟨-, created, planned, -⟩ := startApplyJob_ok.mp started
    obtain ⟨rfl, made⟩ := Prod.mk.inj created
    have opened : Open task := by
      constructor <;> rw [← made]
      · exact .inl ⟨rfl, rfl⟩
      · simp [planned]
    refine .started task (by rwa [← made]) opened ?_ ?_ rfl
    · rw [← made]
      exact ⟨rfl, rfl, rfl⟩
    · rw [← made]
      rfl

theorem move_autoApply {httpError : PyError → HTTPException} {secret : UUID} {limit : Option Int}
    {jobId : UUID} {now : Time} (fresh : system.store.jobs.get? jobId = none) :
    JobsMove system (startedJob system httpError
      (startAutoApplySingleMatches system.store secret limit jobId now)).2 := by
  unfold startAutoApplySingleMatches
  dsimp only
  split_ifs
  · exact .idle rfl rfl
  · exact move_startedJob fresh

theorem jobs_invalidatePage (store : StateStore) (secret : UUID) (page : PageRequest) :
    (store.invalidatePage secret page).1.jobs = store.jobs := by
  unfold StateStore.invalidatePage
  split
  · rfl
  · dsimp only
    split_ifs <;> rfl

theorem jobs_invalidateSecret (store : StateStore) (secret : UUID) :
    (store.invalidateSecret secret).1.jobs = store.jobs := by
  unfold StateStore.invalidateSecret
  split_ifs <;> rfl

theorem move_handle {userId : UUID} {request : Request}
    (fresh : DrawnFresh system (.request userId request)) :
    JobsMove system (handle settings crypto system userId request).2 := by
  cases request with
  | previewMatches secretId limit offset vaultSessionId answer =>
    cases secretId with
    | none => exact .idle rfl rfl
    | some secret =>
      rw [handle]
      unfold previewMatches
      dsimp only
      split
      · exact .idle rfl rfl
      · split
        next => exact .idle rfl rfl
        next previewed =>
          obtain ⟨txs, -, rfl⟩ := previewPage_ok previewed
          exact .idle rfl rfl
  | applyMatches secretId decisions jobId =>
    cases secretId with
    | none => exact .idle rfl rfl
    | some secret => exact move_startedJob fresh
  | autoApplySingleMatches secretId limit jobId =>
    cases secretId with
    | none => exact .idle rfl rfl
    | some secret => exact move_autoApply fresh
  | clearCacheForSecret secretId limit offset =>
    unfold handle clearCacheForSecret
    dsimp only
    split_ifs
    · exact .idle rfl rfl
    · split
      · exact .idle rfl rfl
      · exact .idle (jobs_invalidatePage _ _ _) rfl
      · exact .idle (jobs_invalidateSecret _ _) rfl

theorem move_step (fresh : DrawnFresh system label)
    (stepped : systemStep settings crypto ttlSeconds system label = some next) : JobsMove system next := by
  cases label with
  | request userId request =>
    obtain rfl := Option.some.inj stepped
    unfold respond
    split
    · exact .idle rfl rfl
    · exact move_handle fresh
  | vaultCall call =>
    rw [systemStep] at stepped
    split_ifs at stepped
    obtain rfl := Option.some.inj stepped
    exact .idle rfl rfl
  | setActive userId isActive =>
    obtain rfl := Option.some.inj stepped
    exact .idle rfl rfl
  | jobStep place client =>
    rw [systemStep] at stepped
    split at stepped
    · cases stepped
    next placed =>
      obtain rfl := Option.some.inj stepped
      exact move_stepJob client placed
  | fireflyChanged firefly =>
    obtain rfl := Option.some.inj stepped
    exact .idle rfl rfl
  | advance elapsed =>
    obtain rfl := Option.some.inj stepped
    exact .idle rfl rfl

end Moves

section Kept

variable {system next : System} {before after : List RunningJob} {task : RunningJob}

theorem jobsKept_initial (firefly : FireflyStore) (now : Time) : JobsKept (.initial firefly now) where
  keyed := nofun
  distinct := List.nodup_nil
  tasks := nofun
  closed := nofun

theorem Counted.report {job : ApplyJob} (counted : Counted job) (txId : Int) (failure : Option PyError) :
    Counted (job.report txId failure) := by
  obtain ⟨applied, failed⟩ := counted
  cases failure <;> constructor <;> simp [ApplyJob.report, applied, failed]

theorem Counted.started {job : ApplyJob} (counted : Counted job) :
    Counted { job with status := .running } := ⟨counted.applied, counted.failed⟩

theorem Counted.ended {job : ApplyJob} (counted : Counted job) (now : Time) :
    Counted { job with status := .done, finishedAt := some now } := ⟨counted.applied, counted.failed⟩

theorem JobsKept.others (kept : JobsKept system) (split : system.running = before ++ task :: after) :
    ((before ++ after).map fun other => other.job.id).Nodup ∧
      ∀ other ∈ before ++ after, other.job.id ≠ task.job.id := by
  have distinct := kept.distinct
  rw [split, List.map_append, List.map_cons, List.nodup_middle, ← List.map_append, List.nodup_cons] at distinct
  exact ⟨distinct.2, fun other member same => distinct.1 (same ▸ List.mem_map_of_mem member)⟩

theorem mem_running {running : List RunningJob} (split : running = before ++ task :: after)
    (other : RunningJob) : other ∈ running ↔ other = task ∨ other ∈ before ++ after := by
  rw [split, List.mem_append, List.mem_append, List.mem_cons]
  tauto

theorem jobsKept_replace {job : ApplyJob} {successor : Option RunningJob} (kept : JobsKept system)
    (split : system.running = before ++ task :: after) (own : job.id = task.job.id) (counted : Counted job)
    (jobs : next.store.jobs = system.store.jobs.set job.id job)
    (running : next.running = before ++ successor.toList ++ after)
    (goesOn : ∀ later, successor = some later → later.job = job ∧ Open later)
    (ends : successor = none → Closed job) : JobsKept next := by
  obtain ⟨distinct, others⟩ := kept.others split
  have listed : ∀ other, other ∈ next.running ↔ successor = some other ∨ other ∈ before ++ after := by
    intro other
    rw [running, List.mem_append, List.mem_append, List.mem_append, Option.mem_toList]
    tauto
  constructor
  · intro id other stored
    rw [jobs, Dict.get?_set] at stored
    split_ifs at stored with same
    · obtain rfl := Option.some.inj stored
      exact ⟨same.symm, counted⟩
    · exact kept.keyed id other stored
  · rw [running]
    cases successor with
    | none => simpa using distinct
    | some later =>
      obtain ⟨rfl, -⟩ := goesOn later rfl
      rw [Option.toList_some, List.append_assoc, List.singleton_append, List.map_append, List.map_cons,
        List.nodup_middle, ← List.map_append, List.nodup_cons, own]
      refine ⟨fun member => ?_, distinct⟩
      obtain ⟨other, inside, same⟩ := List.mem_map.mp member
      exact others other inside same
  · intro other member
    rw [jobs, Dict.get?_set]
    rcases (listed other).mp member with added | old
    · obtain ⟨rfl, opened⟩ := goesOn other added
      exact ⟨if_pos rfl, opened⟩
    · rw [own, if_neg (others other old)]
      exact kept.tasks other ((mem_running split other).mpr (.inr old))
  · intro id other stored untouched
    rw [jobs, Dict.get?_set] at stored
    split_ifs at stored with same
    · obtain rfl := Option.some.inj stored
      cases successor with
      | none => exact ends rfl
      | some later =>
        obtain ⟨rfl, -⟩ := goesOn later rfl
        exact absurd same.symm (untouched later ((listed later).mpr (.inl rfl)))
    · refine kept.closed id other stored fun old member => ?_
      rcases (mem_running split old).mp member with rfl | inside
      · exact fun named => same (named.symm.trans own.symm)
      · exact untouched old ((listed old).mpr (.inr inside))

theorem jobsKept_move (kept : JobsKept system) (move : JobsMove system next) : JobsKept next := by
  cases move with
  | idle jobs running =>
    constructor
    · rw [jobs]
      exact kept.keyed
    · rw [running]
      exact kept.distinct
    · rw [jobs, running]
      exact kept.tasks
    · rw [jobs, running]
      exact kept.closed
  | started task fresh opened empty jobs running =>
    have unused : ∀ other ∈ system.running, other.job.id ≠ task.job.id := by
      intro other member same
      rw [← same, (kept.tasks other member).1] at fresh
      cases fresh
    constructor
    · intro id job stored
      rw [jobs, Dict.get?_set] at stored
      split_ifs at stored with same
      · obtain rfl := Option.some.inj stored
        exact ⟨same.symm, empty.2⟩
      · exact kept.keyed id job stored
    · rw [running, List.map_append, List.nodup_append]
      refine ⟨kept.distinct, List.nodup_singleton _, fun id listed other added => ?_⟩
      obtain ⟨old, member, rfl⟩ := List.mem_map.mp listed
      obtain rfl := List.mem_singleton.mp added
      exact unused old member
    · intro other member
      rw [running, List.mem_append, List.mem_singleton] at member
      rw [jobs, Dict.get?_set]
      rcases member with old | rfl
      · rw [if_neg (unused other old)]
        exact kept.tasks other old
      · exact ⟨if_pos rfl, opened⟩
    · intro id job stored untouched
      have other : task.job.id ≠ id := untouched task (by simp [running])
      rw [jobs, Dict.get?_set, if_neg (Ne.symm other)] at stored
      exact kept.closed id job stored fun old member => untouched old (by simp [running, member])
  | reported before after task decision rest failure job split decisions answers report jobs running =>
    obtain ⟨stored, opened⟩ := kept.tasks task ((mem_running split task).mpr (.inl rfl))
    have own : job.id = task.job.id := by
      rw [report]
      cases failure <;> rfl
    have counted : Counted job := report ▸ (kept.keyed _ _ stored).2.started.report _ _
    have later : Open { task with job := job, decisions := rest } := by
      have left := opened.left
      rw [decisions, List.length_cons] at left
      rw [report]
      constructor
      · cases failure <;> exact opened.unfinished
      · cases failure <;> exact .inr rfl
      · rw [report_results, List.length_append, List.length_singleton]
        cases failure <;> (dsimp only [ApplyJob.report]; omega)
    refine @jobsKept_replace _ _ _ _ _ _ (some { task with job := job, decisions := rest }) kept split own
      counted jobs (by simpa using running) ?_ (fun ended => absurd ended (Option.some_ne_none _))
    rintro _ ⟨⟩
    exact ⟨rfl, later⟩
  | finished before after task now job split decisions ended jobs running =>
    obtain ⟨stored, opened⟩ := kept.tasks task ((mem_running split task).mpr (.inl rfl))
    have counted : Counted job := ended ▸ (kept.keyed _ _ stored).2.ended now
    have closed : Closed job := by
      have left := opened.left
      rw [decisions] at left
      rw [ended]
      exact ⟨rfl, rfl, left⟩
    exact @jobsKept_replace _ _ _ _ _ _ none kept split (by rw [ended]) counted jobs (by simpa using running)
      (fun _ later => absurd later.symm (Option.some_ne_none _)) fun _ => closed

end Kept

def Left (system : System) (id : UUID) (decisions : List MatchDecision) : Prop :=
  (∃ task ∈ system.running, task.job.id = id ∧ task.decisions = decisions) ∨
    (∀ task ∈ system.running, task.job.id ≠ id) ∧ decisions = []

structure Progressed (before after : ApplyJob) (made : List MatchDecision) : Prop where
  same : after.id = before.id ∧ after.secretId = before.secretId ∧ after.total = before.total ∧
    after.startedAt = before.startedAt
  results : ∃ added, after.results = before.results ++ added ∧ List.Forall₂ Answers made added
  begun : before.status ≠ .pending → after.status ≠ .pending
  settled : before.status = .done → after = before

def Advanced (system later : System) : Prop :=
  ∀ id job left, system.store.jobs.get? id = some job → Left system id left →
    ∃ after made rest, later.store.jobs.get? id = some after ∧ Left later id rest ∧ left = made ++ rest ∧
      Progressed job after made

section Advancing

variable {system next : System}

theorem Progressed.refl (job : ApplyJob) : Progressed job job [] :=
  ⟨⟨rfl, rfl, rfl, rfl⟩, ⟨[], by simp⟩, id, fun _ => rfl⟩

theorem Progressed.trans {first second third : ApplyJob} {made more : List MatchDecision}
    (before : Progressed first second made) (after : Progressed second third more) :
    Progressed first third (made ++ more) := by
  obtain ⟨id, secretId, total, startedAt⟩ := before.same
  obtain ⟨id', secretId', total', startedAt'⟩ := after.same
  obtain ⟨added, results, answers⟩ := before.results
  obtain ⟨extra, results', answers'⟩ := after.results
  refine ⟨⟨id'.trans id, secretId'.trans secretId, total'.trans total, startedAt'.trans startedAt⟩,
    ⟨added ++ extra, ?_, List.rel_append answers answers'⟩, fun begun => after.begun (before.begun begun), ?_⟩
  · rw [results', results, List.append_assoc]
  · intro done
    obtain rfl := before.settled done
    exact after.settled done

theorem advanced_refl (system : System) : Advanced system system :=
  fun _ job left stored owed => ⟨job, [], left, stored, owed, rfl, .refl job⟩

theorem advanced_trans {first second third : System} (before : Advanced first second)
    (after : Advanced second third) : Advanced first third := by
  intro id job left stored owed
  obtain ⟨middle, made, rest, stored', owed', rfl, progressed⟩ := before id job left stored owed
  obtain ⟨last, more, remaining, stored'', owed'', rfl, progressed'⟩ := after id middle rest stored' owed'
  exact ⟨last, made ++ more, remaining, stored'', owed'', (List.append_assoc _ _ _).symm,
    progressed.trans progressed'⟩

theorem JobsKept.left_task (kept : JobsKept system) {task : RunningJob} (member : task ∈ system.running)
    {left : List MatchDecision} (owed : Left system task.job.id left) : left = task.decisions := by
  rcases owed with ⟨other, listed, same, rfl⟩ | ⟨untouched, -⟩
  · rw [List.inj_on_of_nodup_map kept.distinct listed member same]
  · exact absurd rfl (untouched task member)

theorem Open.undone {task : RunningJob} (opened : Open task) : task.job.status ≠ .done := by
  rcases opened.stage with ⟨pending, -⟩ | running
  · simp [pending]
  · simp [running]

theorem advanced_replace {before after : List RunningJob} {task : RunningJob} {later : ApplyJob}
    {made rest : List MatchDecision} {successor : Option RunningJob} (kept : JobsKept system)
    (split : system.running = before ++ task :: after) (progressed : Progressed task.job later made)
    (jobs : next.store.jobs = system.store.jobs.set later.id later)
    (running : next.running = before ++ successor.toList ++ after) (decisions : task.decisions = made ++ rest)
    (goesOn : ∀ other, successor = some other → other.job = later ∧ other.decisions = rest)
    (ends : successor = none → rest = []) : Advanced system next := by
  intro id job left stored owed
  have own := progressed.same.1
  have member := (mem_running split task).mpr (.inl rfl)
  have listed : ∀ other, other ∈ next.running ↔ successor = some other ∨ other ∈ before ++ after := by
    intro other
    rw [running, List.mem_append, List.mem_append, List.mem_append, Option.mem_toList]
    tauto
  by_cases same : id = task.job.id
  · subst same
    rw [(kept.tasks task member).1] at stored
    obtain rfl := Option.some.inj stored
    refine ⟨later, made, rest, by rw [jobs, Dict.get?_set, own, if_pos rfl], ?_,
      (kept.left_task member owed).trans decisions, progressed⟩
    cases successor with
    | some other =>
      obtain ⟨rfl, same⟩ := goesOn other rfl
      exact .inl ⟨other, (listed other).mpr (.inl rfl), own, same⟩
    | none =>
      refine .inr ⟨fun other inside => ?_, ends rfl⟩
      rcases (listed other).mp inside with added | old
      · cases added
      · exact (kept.others split).2 other old
  · refine ⟨job, [], left, by rwa [jobs, Dict.get?_set, own, if_neg same], ?_, rfl, .refl job⟩
    rcases owed with ⟨old, inside, named, decided⟩ | ⟨untouched, nothing⟩
    · rcases (mem_running split old).mp inside with rfl | remains
      · exact absurd named.symm same
      · exact .inl ⟨old, (listed old).mpr (.inr remains), named, decided⟩
    · refine .inr ⟨fun other inside => ?_, nothing⟩
      rcases (listed other).mp inside with added | old
      · obtain ⟨rfl, -⟩ := goesOn other added
        exact fun named => same (named.symm.trans own)
      · exact untouched other ((mem_running split other).mpr (.inr old))

theorem advanced_move (kept : JobsKept system) (move : JobsMove system next) : Advanced system next := by
  intro id job left stored owed
  cases move with
  | idle jobs running =>
    refine ⟨job, [], left, by rwa [jobs], ?_, rfl, .refl job⟩
    unfold Left
    rwa [running]
  | started task fresh opened empty jobs running =>
    have other : id ≠ task.job.id := by
      rintro rfl
      rw [fresh] at stored
      cases stored
    refine ⟨job, [], left, by rwa [jobs, Dict.get?_set, if_neg other], ?_, rfl, .refl job⟩
    rcases owed with ⟨old, member, named, same⟩ | ⟨untouched, nothing⟩
    · exact .inl ⟨old, by simp [running, member], named, same⟩
    · refine .inr ⟨fun old member => ?_, nothing⟩
      rw [running, List.mem_append, List.mem_singleton] at member
      rcases member with inside | rfl
      · exact untouched old inside
      · exact Ne.symm other
  | reported before after task decision rest failure later split decisions answers report jobs running =>
    obtain ⟨stored', opened⟩ := kept.tasks task ((mem_running split task).mpr (.inl rfl))
    have progressed : Progressed task.job later [decision] := by
      rw [report]
      constructor
      · cases failure <;> exact ⟨rfl, rfl, rfl, rfl⟩
      · exact ⟨_, report_results _ _ _, .cons answers .nil⟩
      · intro _
        cases failure <;> simp [ApplyJob.report]
      · exact fun done => absurd done opened.undone
    refine @advanced_replace _ _ _ _ _ _ _ rest (some { task with job := later, decisions := rest }) kept split
      progressed jobs (by simpa using running) decisions ?_ nofun id job left stored owed
    rintro _ ⟨⟩
    exact ⟨rfl, rfl⟩
  | finished before after task now later split decisions ended jobs running =>
    obtain ⟨stored', opened⟩ := kept.tasks task ((mem_running split task).mpr (.inl rfl))
    have progressed : Progressed task.job later [] := by
      rw [ended]
      refine ⟨⟨rfl, rfl, rfl, rfl⟩, ⟨[], by simp⟩, fun _ => by simp, fun done => absurd done opened.undone⟩
    exact @advanced_replace _ _ _ _ _ _ _ [] none kept split progressed jobs (by simpa using running)
      decisions nofun (fun _ => rfl) id job left stored owed

end Advancing

structure Consistent (job : ApplyJob) : Prop extends Counted job where
  bounded : job.results.length ≤ job.total
  unfailed : job.status ≠ .failed
  unstarted : job.status = .pending → job.results = []
  whole : job.status = .done → job.results.length = job.total
  finished : job.status = .done ↔ job.finishedAt.isSome = true

def Request.decisions (store : StateStore) : Request → List MatchDecision
  | .applyMatches _ decisions _ => decisions
  | .autoApplySingleMatches (some secret) limit _ =>
      (selections (limitTo (limit.map Subtype.val) (singleMatches (store.getAllMatches secret)))).map decisionOf
  | _ => []

structure Follows (asked : List MatchDecision) (job later : ApplyJob) : Prop where
  same : later.id = job.id ∧ later.secretId = job.secretId ∧ later.startedAt = job.startedAt
  total : later.total = asked.length
  consistent : Consistent later
  answered : ∃ made rest, asked = made ++ rest ∧ List.Forall₂ Answers made later.results ∧
    (later.status = .done → rest = [])

-- What the tasks have left to do: their decisions, and one step each to end.
def workLeft (system : System) : Nat :=
  (system.running.map fun task => task.decisions.length + 1).sum

section Runs

variable {settings : Settings} {crypto : Vault.CryptoLibrary} {ttlSeconds : Int} {tables : UnicodeTables}
  {firefly : FireflyStore} {now : Time} {system early late : System} {before after middle : List SystemLabel}

theorem JobsKept.consistent (kept : JobsKept system) {id : UUID} {job : ApplyJob}
    (stored : system.store.jobs.get? id = some job) : Consistent job := by
  have counted := (kept.keyed id job stored).2
  by_cases busy : ∃ task ∈ system.running, task.job.id = id
  · obtain ⟨task, member, rfl⟩ := busy
    obtain ⟨own, opened⟩ := kept.tasks task member
    obtain rfl := Option.some.inj (own.symm.trans stored)
    have left := opened.left
    refine ⟨counted, by omega, ?_, ?_, fun done => absurd done opened.undone, ?_⟩
    · rcases opened.stage with ⟨pending, -⟩ | running
      · simp [pending]
      · simp [running]
    · intro pending
      rcases opened.stage with ⟨-, empty⟩ | running
      · exact empty
      · rw [running] at pending
        cases pending
    · simp [opened.undone, opened.unfinished]
  · have closed := kept.closed id job stored fun task member same => busy ⟨task, member, same⟩
    exact ⟨counted, closed.whole.le, by simp [closed.done], by simp [closed.done], fun _ => closed.whole,
      by simp [closed.done, closed.finished]⟩

theorem jobs_of_run (kept : JobsKept early)
    (meets : (systemMachine settings crypto ttlSeconds).Meets DrawnFresh early middle)
    (onward : (systemMachine settings crypto ttlSeconds).run early middle = some late) :
    JobsKept late ∧ Advanced early late := by
  refine @Machine.invariant_of_meets _ _ (systemMachine settings crypto ttlSeconds) DrawnFresh
    (fun state => JobsKept state ∧ Advanced early state) ?_ early late middle ⟨kept, advanced_refl early⟩
    meets onward
  rintro state label next ⟨held, advanced⟩ fresh stepped
  have move := move_step fresh stepped
  exact ⟨jobsKept_move held move, advanced_trans advanced (advanced_move held move)⟩

theorem jobsKept_run (meets : (systemMachine settings crypto ttlSeconds).Meets DrawnFresh
      (.initial firefly now) before)
    (reached : (systemMachine settings crypto ttlSeconds).run (.initial firefly now) before = some system) :
    JobsKept system :=
  (jobs_of_run (jobsKept_initial firefly now) meets reached).1

theorem meets_steps (steps : List (Nat × FireflyClient)) :
    (systemMachine settings crypto ttlSeconds).Meets DrawnFresh early
      (steps.map fun step => .jobStep step.1 step.2) := by
  refine Machine.meets_of_forall fun label member state => ?_
  obtain ⟨step, -, rfl⟩ := List.mem_map.mp member
  trivial

namespace Sample

open FireflyToolkit.Sample FireflyToolkit.Vault.Sample

def request : SystemLabel := .request anna applyEarly

def steps : List (Nat × FireflyClient) := [(0, .reliable), (0, .reliable)]

def stepLabels : List SystemLabel := steps.map fun step => .jobStep step.1 step.2

def afterRequest : System := (machine.run afterPreview [request]).getD afterPreview

def afterSteps : System := (machine.run afterRequest stepLabels).getD afterRequest

theorem meets_applied : machine.Meets DrawnFresh (.initial account 0)
    (previewedByAnna ++ request :: stepLabels) := by
  refine Machine.meets_of_append (Machine.meets_of_forall ?_) fun middle reached => ?_
  · intro label member state
    simp only [previewedByAnna, List.mem_cons, List.not_mem_nil, or_false] at member
    rcases member with rfl | rfl | rfl | rfl | rfl | rfl <;> trivial
  · have same : machine.run (.initial account 0) previewedByAnna = some afterPreview := rfl
    obtain rfl := Option.some.inj (reached.symm.trans same)
    exact ⟨rfl, fun next _ => meets_steps steps⟩

end Sample

theorem workLeft_step {place : Nat} {client : FireflyClient}
    (stepped : systemStep settings crypto ttlSeconds early (.jobStep place client) = some late) :
    workLeft early = workLeft late + 1 := by
  rw [systemStep] at stepped
  split at stepped
  · cases stepped
  next task placed =>
    obtain rfl := Option.some.inj stepped
    obtain ⟨before, after, split, erased, updated⟩ := split_at_place placed
    unfold stepJob
    split
    next decisions =>
      dsimp only [workLeft]
      rw [erased, split]
      simp only [decisions, List.map_append, List.map_cons, List.sum_append, List.sum_cons, List.length_nil]
      omega
    next decision rest decisions =>
      dsimp only [workLeft]
      rw [updated, split]
      simp only [decisions, List.map_append, List.map_cons, List.sum_append, List.sum_cons, List.length_cons]
      omega

theorem workLeft_steps {steps : List (Nat × FireflyClient)}
    (onward : (systemMachine settings crypto ttlSeconds).run early
      (steps.map fun step => .jobStep step.1 step.2) = some late) :
    steps.length + workLeft late = workLeft early := by
  induction steps generalizing early with
  | nil =>
    obtain rfl := Option.some.inj onward
    exact Nat.zero_add _
  | cons step rest ih =>
    obtain ⟨next, stepped, later⟩ := Machine.run_cons.mp onward
    have one := @workLeft_step settings crypto ttlSeconds _ _ _ _ stepped
    have others := ih later
    rw [List.length_cons]
    omega

-- The tasks alone bring every job to its end, in a number of steps that is known beforehand.
theorem jobs_finish
    (meets : (systemMachine settings crypto ttlSeconds).Meets DrawnFresh (.initial firefly now) before)
    (reached : (systemMachine settings crypto ttlSeconds).run (.initial firefly now) before = some early)
    {steps : List (Nat × FireflyClient)}
    (onward : (systemMachine settings crypto ttlSeconds).run early
      (steps.map fun step => .jobStep step.1 step.2) = some late) :
    steps.length + workLeft late = workLeft early ∧
      (workLeft late ≠ 0 → ∀ client, ∃ next, (systemMachine settings crypto ttlSeconds).step late
        (.jobStep 0 client) = some next) ∧
      (workLeft late = 0 → ∀ id job, late.store.jobs.get? id = some job → Closed job) := by
  have kept := (jobs_of_run (jobsKept_run meets reached) (meets_steps steps) onward).1
  refine ⟨workLeft_steps onward, fun some client => ?_, fun none id job stored => ?_⟩
  · cases running : late.running with
    | nil => exact absurd (by simp [workLeft, running]) some
    | cons task rest => exact ⟨_, by simp [systemMachine, systemStep, running]; rfl⟩
  · refine kept.closed id job stored fun task member => ?_
    cases running : late.running with
    | nil => simp [running] at member
    | cons first rest => simp [workLeft, running] at none

theorem jobs_finish_early : 2 + workLeft Sample.afterSteps = workLeft Sample.afterRequest := by
  have meets : Sample.machine.Meets DrawnFresh (.initial Sample.account 0)
      ((Sample.previewedByAnna ++ [Sample.request]) ++ Sample.stepLabels) := Sample.meets_applied
  have reached : Sample.machine.run (.initial Sample.account 0) (Sample.previewedByAnna ++ [Sample.request]) =
      some Sample.afterRequest := rfl
  exact (@jobs_finish FireflyToolkit.Sample.settings Vault.Sample.library 900 _ _ Sample.afterRequest
    Sample.afterSteps _ (Machine.meets_append reached meets).1 reached Sample.steps rfl).1

end Runs

end FireflyToolkit.Allegro
