import FireflyToolkit.Users.Router

set_option autoImplicit false

namespace FireflyToolkit.Users

open Sessions Transition Vault

inductive SystemRequest
  | bootstrap (payload : BootstrapPayload) (userId : UUID) (idFits : userId.value < 2 ^ 128)
      (salt : TokenBytes 16) (now : Time)
  | administer (request : AdminRequest)

def SystemRequest.program (config : AuthConfig) : SystemRequest → Endpoint
  | bootstrap payload userId idFits salt now =>
      bootstrapSystem config payload userId idFits salt now
  | administer request => request.program config

def SystemRequest.isBootstrap : SystemRequest → Bool
  | bootstrap _ _ _ _ _ => true
  | administer _ => false

def Operation.deletes : Operation → Option UUID
  | deleteUser userId => some userId
  | _ => none

def SystemRequest.deletes : SystemRequest → Option UUID
  | bootstrap _ _ _ _ _ => none
  | administer request => request.operation.deletes

abbrev SystemSession := Session SystemRequest Database Failure Response

abbrev SystemState := State SystemRequest Database Failure Response

def systemMachine (config : AuthConfig) : Machine SystemState (Label SystemRequest) :=
  Sessions.machine (SystemRequest.program config)

def AfterInsert (program : Endpoint) : Prop :=
  (∃ userId, program = refreshRow userId) ∨ program = .finished (.ok .bootstrapped) ∨
    program = .finished (.error .invalidRequest)

def InsertedBy (session : SystemSession) : Prop :=
  session.request.isBootstrap = true ∧ AfterInsert session.program

def Inserted (state : SystemState) (place : Nat) : Prop :=
  ∃ session, state.sessions[place]? = some session ∧ InsertedBy session

def Bootstrapped (state : SystemState) (place : Nat) : Prop :=
  ∃ session, state.sessions[place]? = some session ∧ session.request.isBootstrap = true ∧
    session.program = .finished (.ok .bootstrapped)

-- A bootstrap commits its user only while there is no user yet, and no commit of a deletion
-- removes the only user.
def StaysClosed (state : SystemState) (label : Label SystemRequest) : Prop :=
  ∀ place session next, label = .advance place → state.sessions[place]? = some session →
    session.program = .commit next →
    (session.request.isBootstrap = true → state.database.users = []) ∧
      ∀ userId, session.request.deletes = some userId →
        ∃ user ∈ state.database.users, user.id ≠ userId

instance (state : SystemState) (label : Label SystemRequest) :
    Decidable (StaysClosed state label) :=
  match label with
  | .start _ => isTrue fun _ _ _ same => by cases same
  | .advance place =>
      decidable_of_iff
        (∀ session ∈ state.sessions[place]?, session.program.isCommit = true →
          (session.request.isBootstrap = true → state.database.users = []) ∧
            ∀ userId ∈ session.request.deletes, ∃ user ∈ state.database.users, user.id ≠ userId)
        ⟨fun holds other session next same found commits => by
            cases same
            exact holds session found ((Program.isCommit_iff _).mpr ⟨next, commits⟩),
          fun holds session found commits => by
            obtain ⟨next, isNext⟩ := (Program.isCommit_iff _).mp commits
            exact holds place session next rfl found isNext⟩

def KeepsUsers (deleted : Option UUID) (before after : Database) : Prop :=
  ∀ userId ∈ before.users.map User.id, deleted ≠ some userId → userId ∈ after.users.map User.id

section Keeps

variable {deleted : Option UUID}

theorem keepsUsers_refl (database : Database) : KeepsUsers deleted database database :=
  fun _ member _ => member

theorem keepsUsers_trans (first second third : Database) (left : KeepsUsers deleted first second)
    (right : KeepsUsers deleted second third) : KeepsUsers deleted first third :=
  fun userId member other => right userId (left userId member other) other

theorem keepsUsers_same {change : Database → Except Failure Database}
    (same : ∀ before after, change before = .ok after → after.users = before.users) :
    Respects (KeepsUsers deleted) change := by
  intro before after changed userId member _
  rwa [same before after changed]

theorem updateOne_keeps (userId : UUID) (update : UserRepository.Update) :
    Respects (KeepsUsers deleted) (UserRepository.updateOne userId update) := by
  intro before after changed other member _
  rwa [updateOne_ids changed]

theorem create_keeps (userId : UUID) (idFits : userId.value < 2 ^ 128)
    (username passwordHash : String) (isSuperuser mustChange : Bool) (changedAt : Option Time)
    (now : Time) :
    Respects (KeepsUsers deleted)
      (UserRepository.create userId idFits username passwordHash isSuperuser mustChange changedAt
        now) := by
  intro before after created other member _
  rw [(add_ok created).2.1, List.map_append]
  exact List.mem_append_left _ member

theorem log_keeps (actorId : UUID) (action : String) (targetId : Option UUID)
    (metadata : Option Metadata) (now : Time) :
    Respects (KeepsUsers deleted) (AuditLogRepository.log actorId action targetId metadata now) :=
  keepsUsers_same fun _ _ logged => Except.ok.inj logged ▸ rfl

theorem createToken_keeps (id userId : UUID) (tokenHash : String) (expiresAt : Time) :
    Respects (KeepsUsers deleted)
      (PasswordSetTokenRepository.createToken id userId tokenHash expiresAt) :=
  keepsUsers_same fun _ _ created => (createToken_ok created).1

theorem invalidatePrevious_keeps (userId : UUID) (invalidatedAt : Time) :
    Respects (KeepsUsers deleted)
      (PasswordSetTokenRepository.invalidatePrevious userId invalidatedAt) :=
  keepsUsers_same fun _ _ invalidated => Except.ok.inj invalidated ▸ rfl

theorem delete_keeps (userId : UUID) :
    Respects (KeepsUsers (some userId)) (UserRepository.delete userId) := by
  intro before after removed other member differs
  obtain ⟨user, held, rfl⟩ := List.mem_map.mp member
  rw [(delete_ok removed).2.2.1]
  have other : user.id ≠ userId := fun same => differs (congrArg some same.symm)
  exact List.mem_map_of_mem (List.mem_filter.mpr ⟨held, decide_eq_true other⟩)

theorem changeUser_keeps (adminId : UUID) (now : Time) {change : Database → Except Failure Database}
    (action : String) (userId : UUID) (keeps : Respects (KeepsUsers deleted) change) :
    (changeUser adminId now change action userId).Respects (KeepsUsers deleted) :=
  ⟨keeps, log_keeps _ _ _ _ _, trivial⟩

theorem operation_keeps (config : AuthConfig) (adminId : UUID) (now : Time) (operation : Operation) :
    (operation.program config adminId now).Respects (KeepsUsers operation.deletes) := by
  cases operation with
  | createUser user fresh =>
    exact ⟨create_keeps _ _ _ _ _ _ _ _, createToken_keeps _ _ _ _, log_keeps _ _ _ _ _, trivial⟩
  | inviteUser userId fresh =>
    intro database
    dsimp only
    cases UserRepository.getById database userId with
    | none => trivial
    | some user =>
      exact ⟨updateOne_keeps _ _, invalidatePrevious_keeps _ _, createToken_keeps _ _ _ _,
        log_keeps _ _ _ _ _, trivial⟩
  | disableUser userId => exact changeUser_keeps _ _ _ _ (updateOne_keeps _ _)
  | enableUser userId => exact changeUser_keeps _ _ _ _ (updateOne_keeps _ _)
  | promoteUser userId => exact changeUser_keeps _ _ _ _ (updateOne_keeps _ _)
  | demoteUser userId => exact changeUser_keeps _ _ _ _ (updateOne_keeps _ _)
  | deleteUser userId => exact changeUser_keeps _ _ _ _ (delete_keeps userId)

theorem program_keeps (config : AuthConfig) (request : SystemRequest) :
    (request.program config).Respects (KeepsUsers request.deletes) := by
  cases request with
  | bootstrap payload userId idFits salt now =>
    intro database
    dsimp only
    split_ifs
    · trivial
    · refine ⟨create_keeps _ _ _ _ _ _ _ _, fun later => ?_⟩
      dsimp only
      cases UserRepository.getById later userId <;> trivial
  | administer request =>
    intro database
    dsimp only
    cases checkSuperuser database request.adminId with
    | error failure => trivial
    | ok adminId => exact operation_keeps config adminId request.now request.operation

end Keeps

inductive BootstrapStage (config : AuthConfig) (payload : BootstrapPayload) (userId : UUID)
    (idFits : userId.value < 2 ^ 128) (salt : TokenBytes 16) (now : Time) :
    Endpoint → (Database → Except Failure Database) → Prop
  | counting : BootstrapStage config payload userId idFits salt now
      (bootstrapSystem config payload userId idFits salt now) .ok
  | inserting : BootstrapStage config payload userId idFits salt now
      (insertSuperuser config payload userId idFits salt now) .ok
  | committing : BootstrapStage config payload userId idFits salt now
      (.commit (refreshRow userId))
      (andThen .ok (UserRepository.create userId idFits payload.username
        (config.hashPassword salt payload.password) true false none now))
  | refreshing : BootstrapStage config payload userId idFits salt now (refreshRow userId) .ok
  | finished (answer : Except Failure Response) (pending : Database → Except Failure Database) :
      BootstrapStage config payload userId idFits salt now (.finished answer) pending

def Staged (config : AuthConfig) (session : SystemSession) : Prop :=
  ∀ payload userId idFits salt now, session.request = .bootstrap payload userId idFits salt now →
    BootstrapStage config payload userId idFits salt now session.program session.pending

section Step

variable {config : AuthConfig} {payload : BootstrapPayload} {userId : UUID}
  {idFits : userId.value < 2 ^ 128} {salt : TokenBytes 16} {now : Time}

theorem not_afterInsert_refused {failure : Failure} (other : failure ≠ .invalidRequest) :
    ¬ AfterInsert (.finished (.error failure)) := by
  rintro (⟨userId, same⟩ | same | same)
  · cases same
  · cases same
  · cases same
    exact other rfl

theorem not_afterInsert_write (change : Database → Except Failure Database) (next : Endpoint) :
    ¬ AfterInsert (.write change next) := by
  rintro (⟨userId, same⟩ | same | same) <;> cases same

theorem not_afterInsert_commit (next : Endpoint) : ¬ AfterInsert (.commit next) := by
  rintro (⟨userId, same⟩ | same | same) <;> cases same

def Database.empty : Database :=
  ⟨[], [], [], List.nodup_nil, List.nodup_nil, List.nodup_nil, List.nodup_nil⟩

-- On an empty table the count leads to the insert and not to an answer.
theorem not_afterInsert_counting :
    ¬ AfterInsert (bootstrapSystem config payload userId idFits salt now) := by
  rintro (⟨other, same⟩ | same | same)
  · have onEmpty := congrFun (Program.query.inj same) Database.empty
    cases onEmpty
  · cases same
  · cases same

theorem bootstrap_advance {program : Endpoint} {pending : Database → Except Failure Database}
    (stage : BootstrapStage config payload userId idFits salt now program pending)
    (database : Database) :
    let session : SystemSession := ⟨.bootstrap payload userId idFits salt now, program, pending⟩
    let result := session.advance database
    BootstrapStage config payload userId idFits salt now result.2.program result.2.pending ∧
      (AfterInsert result.2.program → AfterInsert program ∨
        ((∃ next, program = .commit next) ∧ result.1.users ≠ [])) := by
  cases stage with
  | counting =>
    simp only [Session.advance, bootstrapSystem]
    split_ifs
    · exact ⟨.finished _ _, fun after => absurd after (not_afterInsert_refused (by decide))⟩
    · exact ⟨.inserting, fun after => absurd after (not_afterInsert_write _ _)⟩
  | inserting =>
    simp only [Session.advance, insertSuperuser]
    cases inserted : andThen .ok (UserRepository.create userId idFits payload.username
        (config.hashPassword salt payload.password) true false none now) database with
    | ok next => exact ⟨.committing, fun after => absurd after (not_afterInsert_commit _)⟩
    | error failure =>
      have refused : failure = .integrityError := add_error inserted
      rw [refused]
      exact ⟨.finished _ _, fun after => absurd after (not_afterInsert_refused (by decide))⟩
  | committing =>
    simp only [Session.advance]
    cases inserted : andThen .ok (UserRepository.create userId idFits payload.username
        (config.hashPassword salt payload.password) true false none now) database with
    | ok next =>
      refine ⟨.refreshing, fun _ => .inr ⟨⟨_, rfl⟩, ?_⟩⟩
      have users := (add_ok inserted).2.1
      simp [users]
    | error failure =>
      have refused : failure = .integrityError := add_error inserted
      rw [refused]
      exact ⟨.finished _ _, fun after => absurd after (not_afterInsert_refused (by decide))⟩
  | refreshing =>
    have before : AfterInsert (refreshRow userId) := .inl ⟨userId, rfl⟩
    simp only [Session.advance, refreshRow]
    cases UserRepository.getById database userId with
    | none => exact ⟨.finished _ _, fun _ => .inl before⟩
    | some user => exact ⟨.finished _ _, fun _ => .inl before⟩
  | finished answer pending => exact ⟨.finished _ _, .inl⟩

theorem staged_start (request : SystemRequest) :
    Staged config (Session.start (SystemRequest.program config) request) := by
  intro payload userId idFits salt now same
  replace same : request = .bootstrap payload userId idFits salt now := same
  rw [same]
  exact .counting

theorem not_inserted_start (request : SystemRequest) :
    ¬ InsertedBy (Session.start (SystemRequest.program config) request) := by
  rintro ⟨isBootstrap, after⟩
  cases request with
  | administer request => cases isBootstrap
  | bootstrap payload userId idFits salt now => exact not_afterInsert_counting after

theorem staged_advance {session : SystemSession} (staged : Staged config session)
    (database : Database) :
    Staged config (session.advance database).2 ∧
      (InsertedBy (session.advance database).2 → InsertedBy session ∨
        (session.request.isBootstrap = true ∧ (∃ next, session.program = .commit next) ∧
          (session.advance database).1.users ≠ [])) := by
  obtain ⟨request, program, pending⟩ := session
  constructor
  · intro payload userId idFits salt now same
    rw [Session.advance_request] at same
    have stage := staged payload userId idFits salt now same
    simp only at same stage
    subst same
    exact (bootstrap_advance stage database).1
  · rintro ⟨isBootstrap, after⟩
    rw [Session.advance_request] at isBootstrap
    cases request with
    | administer request => cases isBootstrap
    | bootstrap payload userId idFits salt now =>
      have stage := staged payload userId idFits salt now rfl
      rcases (bootstrap_advance stage database).2 after with earlier | ⟨commits, users⟩
      · exact .inl ⟨rfl, earlier⟩
      · exact .inr ⟨rfl, commits, users⟩

end Step

structure Closed (config : AuthConfig) (state : SystemState) : Prop where
  staged : ∀ session ∈ state.sessions, Staged config session
  keeps : ∀ session ∈ state.sessions, session.Respects (KeepsUsers session.request.deletes)
  populated : ∀ place, Inserted state place → state.database.users ≠ []
  once : ∀ first second, Inserted state first → Inserted state second → first = second

section Run

variable {config : AuthConfig} {state next : SystemState} {label : Label SystemRequest}

theorem users_remain (closed : Closed config state) (allowed : StaysClosed state label)
    (stepped : (systemMachine config).step state label = some next)
    (populated : state.database.users ≠ []) : next.database.users ≠ [] := by
  rcases step_cases stepped with
    ⟨request, -, database, -⟩ | ⟨place, session, acts, found, database, -⟩
  · rwa [database]
  · rw [database]
    by_cases commits : ∃ next, session.program = .commit next
    next =>
      obtain ⟨rest, commits⟩ := commits
      have respects := closed.keeps session (List.mem_of_getElem? found)
      have keeps := (Session.advance_respects keepsUsers_refl keepsUsers_trans respects
        state.database).1
      obtain ⟨user, member, other⟩ : ∃ user ∈ state.database.users,
          session.request.deletes ≠ some user.id := by
        cases deletes : session.request.deletes with
        | none =>
          obtain ⟨user, member⟩ := List.exists_mem_of_ne_nil _ populated
          exact ⟨user, member, by simp⟩
        | some userId =>
          obtain ⟨user, member, differs⟩ :=
            (allowed place session rest acts found commits).2 userId deletes
          exact ⟨user, member, fun same => differs (Option.some.inj same).symm⟩
      have kept := keeps user.id (List.mem_map_of_mem member) other
      intro empty
      rw [empty] at kept
      cases kept
    next =>
      have reads : ∀ next, session.program ≠ .commit next := fun next same => commits ⟨next, same⟩
      rwa [Session.advance_database state.database reads]

theorem inserted_earlier (closed : Closed config state) (allowed : StaysClosed state label)
    (stepped : (systemMachine config).step state label = some next) :
    (∀ place, Inserted next place → Inserted state place) ∨
      (state.database.users = [] ∧ next.database.users ≠ [] ∧
        ∃ acting, ∀ place, Inserted next place → place = acting ∨ Inserted state place) := by
  rcases step_cases stepped with
    ⟨request, -, -, sessions⟩ | ⟨acting, session, acts, found, database, sessions⟩
  · refine .inl fun place inserted => ?_
    rw [Inserted, sessions] at inserted
    exact held_append (not_inserted_start request) inserted
  · have moved := (staged_advance (closed.staged session (List.mem_of_getElem? found))
      state.database).2
    by_cases fresh : InsertedBy (session.advance state.database).2 ∧ ¬ InsertedBy session
    next =>
      rcases moved fresh.1 with earlier | ⟨isBootstrap, ⟨rest, commits⟩, users⟩
      · exact absurd earlier fresh.2
      · refine .inr ⟨(allowed acting session rest acts found commits).1 isBootstrap, ?_, acting, ?_⟩
        · rwa [database]
        · rintro place ⟨current, placed, inserted⟩
          rw [sessions] at placed
          rcases placed_set placed with ⟨same, -⟩ | ⟨-, old⟩
          · exact .inl same
          · exact .inr ⟨current, old, inserted⟩
    next =>
      refine .inl fun place inserted => ?_
      rw [Inserted, sessions] at inserted
      refine held_set found (fun isInserted => ?_) inserted
      by_contra not
      exact fresh ⟨isInserted, not⟩

theorem closed_step (closed : Closed config state) (allowed : StaysClosed state label)
    (stepped : (systemMachine config).step state label = some next) : Closed config next := by
  have sessions : ∀ session ∈ next.sessions,
      Staged config session ∧ session.Respects (KeepsUsers session.request.deletes) := by
    refine @sessions_step _ _ _ _ _
      (fun _ session => Staged config session ∧ session.Respects (KeepsUsers session.request.deletes))
      state next label ?_ ?_ ?_ ?_ stepped
    · intro _ request
      exact ⟨staged_start request, program_keeps config request, respects_ok keepsUsers_refl⟩
    · rintro session member ⟨staged, respects⟩
      refine ⟨(staged_advance staged state.database).1, ?_⟩
      rw [Session.advance_request]
      exact (Session.advance_respects keepsUsers_refl keepsUsers_trans respects state.database).2
    · exact fun _ _ other held => held
    · exact fun session member => ⟨closed.staged session member, closed.keeps session member⟩
  have earlier := inserted_earlier closed allowed stepped
  refine ⟨fun session member => (sessions session member).1,
    fun session member => (sessions session member).2, ?_, ?_⟩
  · intro place inserted
    rcases earlier with before | ⟨-, populated, -⟩
    · exact users_remain closed allowed stepped (closed.populated place (before place inserted))
    · exact populated
  · intro first second left right
    rcases earlier with before | ⟨empty, -, acting, before⟩
    · exact closed.once first second (before first left) (before second right)
    · have here : ∀ place, Inserted next place → place = acting := by
        intro place inserted
        rcases before place inserted with same | old
        · exact same
        · exact absurd empty (closed.populated place old)
      exact (here first left).trans (here second right).symm

theorem closed_initial (start : Database) : Closed config ⟨start, []⟩ := by
  have nobody : ∀ place, ¬ Inserted (⟨start, []⟩ : SystemState) place := by
    rintro place ⟨session, placed, -⟩
    cases placed
  refine ⟨fun session member => absurd member List.not_mem_nil,
    fun session member => absurd member List.not_mem_nil, ?_, ?_⟩
  · exact fun place inserted => absurd inserted (nobody place)
  · exact fun first second inserted => absurd inserted (nobody first)

theorem inserted_before {final : SystemState} {labels : List (Label SystemRequest)}
    (closed : Closed config state) (populated : state.database.users ≠ [])
    (meets : (systemMachine config).Meets StaysClosed state labels)
    (reached : (systemMachine config).run state labels = some final) :
    ∀ place, Inserted final place → Inserted state place := by
  have held := @Machine.invariant_of_meets _ _ (systemMachine config) StaysClosed
    (fun current => Closed config current ∧ current.database.users ≠ [] ∧
      ∀ place, Inserted current place → Inserted state place)
    (fun current label next holds allowed stepped => by
      obtain ⟨currentClosed, currentPopulated, before⟩ := holds
      refine ⟨closed_step currentClosed allowed stepped,
        users_remain currentClosed allowed stepped currentPopulated, ?_⟩
      intro place inserted
      rcases inserted_earlier currentClosed allowed stepped with earlier | ⟨empty, -⟩
      · exact before place (earlier place inserted)
      · exact absurd empty currentPopulated)
    state final labels ⟨closed, populated, fun _ inserted => inserted⟩ meets reached
  exact held.2.2

theorem bootstrapped_inserted {place : Nat} (bootstrapped : Bootstrapped state place) :
    Inserted state place := by
  obtain ⟨session, placed, isBootstrap, finished⟩ := bootstrapped
  exact ⟨session, placed, isBootstrap, .inr (.inl finished)⟩

end Run

theorem bootstrap_oneTime {config : AuthConfig} {start : Database} {final : SystemState}
    {labels : List (Label SystemRequest)}
    (meets : (systemMachine config).Meets StaysClosed ⟨start, []⟩ labels)
    (reached : (systemMachine config).run ⟨start, []⟩ labels = some final) :
    (∀ first second, Bootstrapped final first → Bootstrapped final second → first = second) ∧
      ∀ before after middle, labels = before ++ after →
        (systemMachine config).run ⟨start, []⟩ before = some middle →
        middle.database.users ≠ [] →
        ∀ place, Bootstrapped final place → Inserted middle place := by
  have preserved := fun state label next closed allowed stepped =>
    @closed_step config state next label closed allowed stepped
  constructor
  · intro first second left right
    have closed := Machine.invariant_of_meets preserved (closed_initial start) meets reached
    exact closed.once first second (bootstrapped_inserted left) (bootstrapped_inserted right)
  · intro before after middle split halfway populated place bootstrapped
    rw [split] at meets reached
    obtain ⟨meetsBefore, meetsAfter⟩ := Machine.meets_append halfway meets
    obtain ⟨other, toOther, onward⟩ := Machine.run_append.mp reached
    rw [halfway, Option.some.injEq] at toOther
    have closed := Machine.invariant_of_meets preserved (closed_initial start) meetsBefore halfway
    exact inserted_before closed populated meetsAfter (toOther ▸ onward) place
      (bootstrapped_inserted bootstrapped)

namespace Sample

def boot (name : String) (userId : UUID) (idFits : userId.value < 2 ^ 128) : SystemRequest :=
  .bootstrap ⟨name, "password"⟩ userId idFits salt 0

def firstBoot : SystemRequest := boot "anna" ⟨1⟩ admin.idFits

def secondBoot : SystemRequest := boot "ben" ⟨2⟩ member.idFits

def bootTwice : List (Label SystemRequest) :=
  .start firstBoot :: List.replicate 4 (.advance 0) ++ .start secondBoot :: [.advance 1]

-- Both bootstraps count the users before one of them inserts its own.
def bothCountFirst : List (Label SystemRequest) :=
  [.start firstBoot, .start secondBoot, .advance 0, .advance 1] ++ List.replicate 3 (.advance 0) ++
    List.replicate 3 (.advance 1)

def bootAfterDeletion : List (Label SystemRequest) :=
  .start firstBoot :: List.replicate 4 (.advance 0) ++
    .start (.administer ⟨⟨1⟩, .deleteUser ⟨1⟩, 1⟩) :: List.replicate 5 (.advance 1) ++
      .start secondBoot :: List.replicate 4 (.advance 2)

end Sample

theorem bootstrap_oneTime_bootTwice :
    ∃ final, (systemMachine Sample.config).run ⟨Database.empty, []⟩ Sample.bootTwice = some final ∧
      Bootstrapped final 0 ∧
        ∀ first second, Bootstrapped final first → Bootstrapped final second → first = second := by
  have meets : (systemMachine Sample.config).Meets StaysClosed ⟨Database.empty, []⟩
      Sample.bootTwice := by decide
  exact ⟨_, rfl, ⟨_, rfl, rfl, rfl⟩, (bootstrap_oneTime meets rfl).1⟩

theorem bootstrap_succeeds_twice :
    (∃ final, (systemMachine Sample.config).run ⟨Database.empty, []⟩ Sample.bothCountFirst =
        some final ∧ Bootstrapped final 0 ∧ Bootstrapped final 1) ∧
      ∃ final, (systemMachine Sample.config).run ⟨Database.empty, []⟩ Sample.bootAfterDeletion =
        some final ∧ Bootstrapped final 0 ∧ Bootstrapped final 2 :=
  ⟨⟨_, rfl, ⟨_, rfl, rfl, rfl⟩, ⟨_, rfl, rfl, rfl⟩⟩,
    ⟨_, rfl, ⟨_, rfl, rfl, rfl⟩, ⟨_, rfl, rfl, rfl⟩⟩⟩

end FireflyToolkit.Users
