import FireflyToolkit.Users.Router

set_option autoImplicit false

namespace FireflyToolkit.Users

open Sessions Transition Vault

inductive PrivilegedRequest
  | administer (request : AdminRequest)
  | setPassword (payload : SetPasswordRequest) (salt : TokenBytes 16) (now : Time)

def PrivilegedRequest.program (config : AuthConfig) : PrivilegedRequest → Endpoint
  | administer request => request.program config
  | setPassword payload salt now => Users.setPassword config payload salt now

def Operation.action : Operation → String
  | createUser _ _ => "user.create"
  | inviteUser _ _ => "user.invite"
  | disableUser _ => "user.disable"
  | enableUser _ => "user.enable"
  | promoteUser _ => "user.promote"
  | demoteUser _ => "user.demote"
  | deleteUser _ => "user.delete"

def Operation.target : Operation → UUID
  | createUser user _ => user.userId
  | inviteUser userId _ => userId
  | disableUser userId => userId
  | enableUser userId => userId
  | promoteUser userId => userId
  | demoteUser userId => userId
  | deleteUser userId => userId

def Operation.change (config : AuthConfig) (now : Time) (operation : Operation)
    (database : Database) : Except Failure Database :=
  match operation with
  | createUser user fresh => do
      let created ← UserRepository.create user.userId user.idFits user.username
        (generatePlaceholderPasswordHash config fresh) user.isSuperuser true none now database
      PasswordSetTokenRepository.createToken fresh.tokenId user.userId
        (config.hashPasswordSetToken fresh.plainToken) (getPasswordSetExpiry config now) created
  | inviteUser userId fresh => do
      let marked ← UserRepository.markPasswordResetRequired userId
        (generatePlaceholderPasswordHash config fresh) database
      let invalidated ← PasswordSetTokenRepository.invalidatePrevious userId now marked
      PasswordSetTokenRepository.createToken fresh.tokenId userId
        (config.hashPasswordSetToken fresh.plainToken) (getPasswordSetExpiry config now) invalidated
  | disableUser userId => UserRepository.disable userId database
  | enableUser userId => UserRepository.enable userId database
  | promoteUser userId => UserRepository.promoteToSuperuser userId database
  | demoteUser userId => UserRepository.demoteFromSuperuser userId database
  | deleteUser userId => UserRepository.delete userId database

def tokenPresented (config : AuthConfig) (payload : SetPasswordRequest) (database : Database) :
    Option PasswordSetToken :=
  PasswordSetTokenRepository.getByHash database (config.hashPasswordSetToken payload.token)

def PrivilegedRequest.change (config : AuthConfig) (request : PrivilegedRequest)
    (database : Database) : Except Failure Database :=
  match request with
  | administer request => request.operation.change config request.now database
  | setPassword payload salt now =>
      match tokenPresented config payload database with
      | none => .error invalidOrExpired
      | some token => do
          let stored ← UserRepository.setPassword token.userId
            (config.hashPassword salt payload.newPassword) false now database
          PasswordSetTokenRepository.consume token.id now stored

def PrivilegedRequest.entry (config : AuthConfig) (request : PrivilegedRequest)
    (database : Database) : AuditLog :=
  match request with
  | administer request =>
      ⟨request.adminId, request.operation.action, some request.operation.target, none, request.now⟩
  | setPassword payload _ now =>
      ⟨systemActorId, "user.password.set",
        (tokenPresented config payload database).map PasswordSetToken.userId,
        some [("by_token", .flag true)], now⟩

def Database.record (database : Database) (entry : AuditLog) : Database :=
  { database with auditLog := database.auditLog ++ [entry] }

def Atomic (config : AuthConfig) (request : PrivilegedRequest) (before after : Database) : Prop :=
  after = before ∨ ∃ changed, request.change config before = .ok changed ∧
    after = changed.record (request.entry config before)

def CommitsOnce (program : Endpoint) (database : Database) (change : Except Failure Database)
    (entry : AuditLog) (response : Response) : Prop :=
  (∃ failure, program.perform database = (database, .error failure) ∧
      program.stops database database = [database]) ∨
    ∃ changed, change = .ok changed ∧
      program.perform database = (changed.record entry, .ok response) ∧
      program.stops database database = [database, changed.record entry]

structure Issue where
  token : String
  userId : UUID
  expiresAt : Time
  deriving DecidableEq

def issuedBy (operation : Operation) : Except Failure Response → List Issue
  | .ok (.created body) => [⟨body.token, body.id, body.expiresAt⟩]
  | .ok (.invited body) => [⟨body.token, operation.target, body.expiresAt⟩]
  | _ => []

def Operation.issues (config : AuthConfig) (now : Time) : Operation → List Issue
  | createUser user fresh => [⟨fresh.plainToken, user.userId, getPasswordSetExpiry config now⟩]
  | inviteUser userId fresh => [⟨fresh.plainToken, userId, getPasswordSetExpiry config now⟩]
  | _ => []

-- The operations that commit twice, where the first commit changes something.
def Operation.Effective (operation : Operation) (database : Database) : Prop :=
  match operation with
  | createUser _ _ => False
  | inviteUser _ _ => False
  | disableUser userId => ∃ user ∈ database.users, user.id = userId ∧ user.isActive = true
  | enableUser userId => ∃ user ∈ database.users, user.id = userId ∧ user.isActive = false
  | promoteUser userId => ∃ user ∈ database.users, user.id = userId ∧ user.isSuperuser = false
  | demoteUser userId => ∃ user ∈ database.users, user.id = userId ∧ user.isSuperuser = true
  | deleteUser userId => ∃ user ∈ database.users, user.id = userId

-- The stops of a request are counted from zero, so this is the one before its second commit.
def Halfway (request : PrivilegedRequest) (database : Database) (stop : Nat) : Prop :=
  match request with
  | .administer request =>
      stop = 1 ∧ UserRepository.isSuperuser database request.adminId = true ∧
        request.operation.Effective database
  | .setPassword _ _ _ => False

section Stops

variable {config : AuthConfig} {database after : Database}

theorem record_ne (changed : Database) (entry : AuditLog) : changed ≠ changed.record entry := by
  intro same
  have lengths := congrArg (fun database => database.auditLog.length) same
  simp [Database.record] at lengths

theorem atomic_unchanged {request : PrivilegedRequest} {stop : Nat} (same : after = database)
    (whole : ¬ Halfway request database stop) :
    Atomic config request database after ↔ ¬ Halfway request database stop :=
  iff_of_true (.inl same) whole

theorem atomic_recorded {request : PrivilegedRequest} {stop : Nat} {changed : Database}
    (changes : request.change config database = .ok changed)
    (recorded : after = changed.record (request.entry config database))
    (whole : ¬ Halfway request database stop) :
    Atomic config request database after ↔ ¬ Halfway request database stop :=
  iff_of_true (.inr ⟨changed, changes, recorded⟩) whole

theorem stops_single {program : Endpoint} {request : PrivilegedRequest} {response : Response}
    {stop : Nat} (whole : ¬ Halfway request database stop)
    (once : CommitsOnce program database (request.change config database)
      (request.entry config database) response)
    (stopped : (program.stops database database)[stop]? = some after) :
    Atomic config request database after ↔ ¬ Halfway request database stop := by
  rcases once with ⟨failure, -, alone⟩ | ⟨changed, changes, -, both⟩
  · rw [alone] at stopped
    have same := List.mem_of_getElem? stopped
    exact atomic_unchanged (List.mem_singleton.mp same) whole
  · rw [both] at stopped
    rcases List.mem_cons.mp (List.mem_of_getElem? stopped) with same | recorded
    · exact atomic_unchanged same whole
    · exact atomic_recorded changes (List.mem_singleton.mp recorded) whole

theorem change_auditLog {request : PrivilegedRequest} {changed : Database}
    (changes : request.change config database = .ok changed) :
    changed.auditLog = database.auditLog := by
  cases request with
  | administer request =>
    obtain ⟨adminId, operation, now⟩ := request
    cases operation with
    | createUser user fresh =>
      obtain ⟨created, made, added⟩ := bind_ok changes
      exact (createToken_ok added).2.1.trans (add_ok made).2.2.2
    | inviteUser userId fresh =>
      obtain ⟨marked, made, rest⟩ := bind_ok changes
      obtain ⟨invalidated, used, added⟩ := bind_ok rest
      rw [(createToken_ok added).2.1, ← Except.ok.inj used]
      exact (updateOne_ok made).2.2.1
    | disableUser userId => exact (updateOne_ok changes).2.2.1
    | enableUser userId => exact (updateOne_ok changes).2.2.1
    | promoteUser userId => exact (updateOne_ok changes).2.2.1
    | demoteUser userId => exact (updateOne_ok changes).2.2.1
    | deleteUser userId => exact (delete_ok changes).2.1
  | setPassword payload salt now =>
    simp only [PrivilegedRequest.change] at changes
    cases presented : tokenPresented config payload database with
    | none => simp [presented] at changes
    | some token =>
      rw [presented] at changes
      obtain ⟨stored, made, consumed⟩ := bind_ok changes
      rw [(consume_ok consumed).2]
      exact (updateOne_ok made).2.2.1

theorem createUser_once (adminId : UUID) (now : Time) (user : NewUser) (fresh : FreshInvite) :
    let operation : Operation := .createUser user fresh
    ∃ response, issuedBy operation (.ok response) = operation.issues config now ∧
      CommitsOnce (createUser config adminId now user fresh) database
        (operation.change config now database)
        ⟨adminId, operation.action, some operation.target, none, now⟩ response := by
  intro operation
  refine ⟨.created ⟨user.userId, user.username, user.isSuperuser, true, true,
    buildInviteUrl config fresh.plainToken, fresh.plainToken, getPasswordSetExpiry config now⟩, rfl, ?_⟩
  simp only [CommitsOnce, operation, createUser, Program.perform, Program.execute, Program.stops,
    Operation.change, bind, Except.bind]
  split
  next created made =>
    split
    next changed added =>
      refine .inr ⟨changed, ?_, rfl, rfl⟩
      rw [made]
      exact added
    next => exact .inl ⟨_, rfl, rfl⟩
  next => exact .inl ⟨_, rfl, rfl⟩

theorem inviteUser_once (adminId userId : UUID) (now : Time) (fresh : FreshInvite) :
    let operation : Operation := .inviteUser userId fresh
    ∃ response, issuedBy operation (.ok response) = operation.issues config now ∧
      CommitsOnce (inviteUser config adminId now userId fresh) database
        (operation.change config now database)
        ⟨adminId, operation.action, some operation.target, none, now⟩ response := by
  intro operation
  refine ⟨.invited ⟨buildInviteUrl config fresh.plainToken, fresh.plainToken,
    getPasswordSetExpiry config now⟩, rfl, ?_⟩
  simp only [CommitsOnce, operation, inviteUser, Program.perform, Program.execute, Program.stops,
    Operation.change, bind, Except.bind]
  cases UserRepository.getById database userId with
  | none => exact .inl ⟨_, rfl, rfl⟩
  | some user =>
    simp only [Program.execute, Program.stops]
    split
    next marked made =>
      simp only [PasswordSetTokenRepository.invalidatePrevious]
      split
      next changed added =>
        refine .inr ⟨changed, ?_, rfl, rfl⟩
        rw [made]
        exact added
      next => exact .inl ⟨_, rfl, rfl⟩
    next => exact .inl ⟨_, rfl, rfl⟩

theorem setPassword_once (payload : SetPasswordRequest) (salt : TokenBytes 16) (now : Time) :
    let request : PrivilegedRequest := .setPassword payload salt now
    CommitsOnce (setPassword config payload salt now) database (request.change config database)
      (request.entry config database) .noContent := by
  intro request
  simp only [CommitsOnce, request, setPassword, Program.perform, Program.execute, Program.stops,
    PrivilegedRequest.change, PrivilegedRequest.entry, tokenPresented]
  cases PasswordSetTokenRepository.getByHash database
      (config.hashPasswordSetToken payload.token) with
  | none => exact .inl ⟨_, rfl, rfl⟩
  | some token =>
    simp only
    split_ifs
    · exact .inl ⟨_, rfl, rfl⟩
    · simp only [readUser, Program.execute, Program.stops]
      cases UserRepository.getById database token.userId with
      | none => exact .inl ⟨_, rfl, rfl⟩
      | some user =>
        simp only
        split_ifs
        · exact .inl ⟨_, rfl, rfl⟩
        · simp only [storePassword, Program.execute, Program.stops, bind, Except.bind]
          split
          next stored made =>
            split
            next changed consumed =>
              refine .inr ⟨changed, ?_, rfl, rfl⟩
              rw [made]
              exact consumed
            next => exact .inl ⟨_, rfl, rfl⟩
          next => exact .inl ⟨_, rfl, rfl⟩

theorem updateOne_unchanged {userId : UUID} {update : UserRepository.Update}
    (updated : UserRepository.updateOne userId update database = .ok after) :
    after = database ↔ ∀ user ∈ database.users, user.id = userId → update.apply user = user := by
  obtain ⟨-, tokens, auditLog, users⟩ := updateOne_ok updated
  constructor
  · intro same user member named
    have rows : (database.users.map fun user =>
        if user.id = userId then update.apply user else user) = database.users.map id := by
      rw [List.map_id, ← users, same]
    simpa [named] using List.map_inj_left.mp rows user member
  · intro unchanged
    have rows : (database.users.map fun user =>
        if user.id = userId then update.apply user else user) = database.users.map id := by
      apply List.map_congr_left
      intro user member
      by_cases named : user.id = userId
      · simp [named, unchanged user member named]
      · simp [named]
    exact Database.ext (by rw [users, rows, List.map_id]) tokens auditLog

theorem delete_changes {userId : UUID}
    (deleted : UserRepository.delete userId database = .ok after) : after ≠ database := by
  obtain ⟨⟨user, member, named⟩, -, users, -⟩ := delete_ok deleted
  intro same
  have kept : user ∈ after.users := by rwa [same]
  rw [users] at kept
  simp [named] at kept

theorem change_unchanged {operation : Operation} {adminId : UUID} {now : Time}
    (twice : operation.program config adminId now =
      changeUser adminId now (operation.change config now) operation.action operation.target)
    (changed : operation.change config now database = .ok after) :
    after = database ↔ ¬ operation.Effective database := by
  cases operation with
  | createUser user fresh => simp [Operation.program, createUser, changeUser] at twice
  | inviteUser userId fresh => simp [Operation.program, inviteUser, changeUser] at twice
  | disableUser userId =>
    rw [updateOne_unchanged changed]
    simp [Operation.Effective, User.ext_iff]
  | enableUser userId =>
    rw [updateOne_unchanged changed]
    simp [Operation.Effective, User.ext_iff]
  | promoteUser userId =>
    rw [updateOne_unchanged changed]
    simp [Operation.Effective, User.ext_iff]
  | demoteUser userId =>
    rw [updateOne_unchanged changed]
    simp [Operation.Effective, User.ext_iff]
  | deleteUser userId =>
    exact iff_of_false (delete_changes changed) (not_not.mpr (delete_ok changed).1)

-- An operation that commits twice is whole at every stop but the one in the middle.
theorem changeUser_atomic {operation : Operation} {adminId : UUID} {now : Time} {stop : Nat}
    (twice : operation.program config adminId now =
      changeUser adminId now (operation.change config now) operation.action operation.target)
    (admitted : UserRepository.isSuperuser database adminId = true)
    (stopped : ((operation.program config adminId now).stops database database)[stop]? =
      some after) :
    let request : PrivilegedRequest := .administer ⟨adminId, operation, now⟩
    Atomic config request database after ↔ ¬ Halfway request database stop := by
  intro request
  rw [twice, changeUser, Program.stops] at stopped
  cases changing : operation.change config now database with
  | error failure =>
    have unchanged : after = database := by
      rw [changing] at stopped
      exact List.mem_singleton.mp (List.mem_of_getElem? stopped)
    have whole : ¬ Halfway request database stop := by
      rintro ⟨rfl, -, -⟩
      rw [changing] at stopped
      cases stopped
    exact atomic_unchanged unchanged whole
  | ok changed =>
    have stops : [database, changed, changed.record (request.entry config database)][stop]? =
        some after := by
      rw [changing] at stopped
      exact stopped
    have changes : request.change config database = .ok changed := changing
    rcases stop with _ | _ | _ | later
    · exact atomic_unchanged (Option.some.inj stops).symm fun halfway => absurd halfway.1 (by decide)
    · have middle : changed = after := Option.some.inj stops
      have halfway : Halfway request database 1 ↔ operation.Effective database :=
        ⟨fun halfway => halfway.2.2, fun effective => ⟨rfl, admitted, effective⟩⟩
      rw [show (0 + 1 : Nat) = 1 from rfl, halfway, ← change_unchanged twice changing, ← middle]
      constructor
      · rintro (same | ⟨other, otherChanges, recorded⟩)
        · exact same
        · rw [changes, Except.ok.injEq] at otherChanges
          rw [← otherChanges] at recorded
          exact absurd recorded (record_ne changed _)
      · exact fun same => .inl same
    · exact atomic_recorded changes (Option.some.inj stops).symm
        fun halfway => absurd halfway.1 (by decide)
    · cases stops

theorem administer_atomic {adminId : UUID} {operation : Operation} {now : Time} {stop : Nat}
    (stopped : (((⟨adminId, operation, now⟩ : AdminRequest).program config).stops
      database database)[stop]? = some after) :
    let request : PrivilegedRequest := .administer ⟨adminId, operation, now⟩
    Atomic config request database after ↔ ¬ Halfway request database stop := by
  intro request
  rw [AdminRequest.program, Program.stops, checkSuperuser] at stopped
  cases admitted : UserRepository.isSuperuser database adminId with
  | false =>
    have unchanged : after = database := by
      simp only [admitted] at stopped
      exact List.mem_singleton.mp (List.mem_of_getElem? stopped)
    have whole : ¬ Halfway request database stop := by
      rintro ⟨-, superuser, -⟩
      rw [admitted] at superuser
      cases superuser
    exact atomic_unchanged unchanged whole
  | true =>
    simp only [admitted, if_true] at stopped
    cases operation with
    | createUser user fresh =>
      obtain ⟨response, -, once⟩ := createUser_once adminId now user fresh
      exact stops_single (fun halfway => halfway.2.2) once stopped
    | inviteUser userId fresh =>
      obtain ⟨response, -, once⟩ := inviteUser_once adminId userId now fresh
      exact stops_single (fun halfway => halfway.2.2) once stopped
    | disableUser userId => exact changeUser_atomic rfl admitted stopped
    | enableUser userId => exact changeUser_atomic rfl admitted stopped
    | promoteUser userId => exact changeUser_atomic rfl admitted stopped
    | demoteUser userId => exact changeUser_atomic rfl admitted stopped
    | deleteUser userId => exact changeUser_atomic rfl admitted stopped

theorem stopped_atomic_iff {request : PrivilegedRequest} {stop : Nat}
    (stopped : ((request.program config).stops database database)[stop]? = some after) :
    Atomic config request database after ↔ ¬ Halfway request database stop := by
  cases request with
  | administer request => exact administer_atomic stopped
  | setPassword payload salt now =>
    exact stops_single (fun halfway => halfway) (setPassword_once payload salt now) stopped

theorem performed_stop (request : PrivilegedRequest) :
    ∃ stop : Nat, ((request.program config).stops database database)[stop]? =
      some ((request.program config).perform database).1 := by
  refine ⟨((request.program config).stops database database).length - 1, ?_⟩
  rw [← List.getLast?_eq_getElem?]
  exact (request.program config).stops_getLast database database

theorem stopped_run {request : PrivilegedRequest} {stop : Nat}
    (stopped : ((request.program config).stops database database)[stop]? = some after) :
    ∃ count final, (machine (PrivilegedRequest.program config)).run ⟨database, []⟩
        (.start request :: List.replicate count (.advance 0)) = some final ∧
      final.database = after := by
  obtain ⟨count, passed⟩ := (mem_stops_iff request (request.program config) .ok database database rfl
    after).mp (List.mem_of_getElem? stopped)
  have ran := @run_alone _ _ _ _ (PrivilegedRequest.program config) [] [] database
    (Session.start (PrivilegedRequest.program config) request) count
  exact ⟨count, _, Machine.run_cons.mpr ⟨_, rfl, ran⟩, passed⟩

end Stops

-- The committed database and the entries of the changes that were committed.
structure Audited where
  database : Database
  changes : List AuditLog

structure Stopped where
  request : PrivilegedRequest
  stop : Nat

def auditStep (config : AuthConfig) (state : Audited) (label : Stopped) : Option Audited :=
  let stops := (label.request.program config).stops state.database state.database
  stops[label.stop]?.map fun after =>
    { database := after
      changes :=
        if after.users = state.database.users ∧ after.tokens = state.database.tokens then state.changes
        else state.changes ++ [label.request.entry config state.database] }

def auditMachine (config : AuthConfig) : Machine Audited Stopped := ⟨auditStep config⟩

theorem auditStep_recorded {config : AuthConfig} {state next : Audited} {label : Stopped}
    (recorded : state.changes.Sublist state.database.auditLog)
    (whole : ¬ Halfway label.request state.database label.stop)
    (stepped : (auditMachine config).step state label = some next) :
    next.changes.Sublist next.database.auditLog := by
  obtain ⟨after, stopped, same⟩ := Option.map_eq_some_iff.mp stepped
  rw [← same]
  rcases (stopped_atomic_iff stopped).mpr whole with unchanged | ⟨changed, changes, both⟩
  · simpa [unchanged] using recorded
  · have entries : after.auditLog =
        changed.auditLog ++ [label.request.entry config state.database] := by
      rw [both]
      rfl
    rw [change_auditLog changes] at entries
    simp only [entries]
    split_ifs
    · exact recorded.trans (List.sublist_append_left _ _)
    · exact recorded.append (List.Sublist.refl _)

theorem audited_iff (config : AuthConfig) :
    (∀ (request : PrivilegedRequest) (database after : Database) (stop : Nat),
      ((request.program config).stops database database)[stop]? = some after →
      (Atomic config request database after ↔ ¬ Halfway request database stop)) ∧
    ∀ (labels : List Stopped) (start : Database) (final : Audited),
      (auditMachine config).Meets
        (fun state label => ¬ Halfway label.request state.database label.stop) ⟨start, []⟩ labels →
      (auditMachine config).run ⟨start, []⟩ labels = some final →
      final.changes.Sublist final.database.auditLog := by
  constructor
  · intro request database after stop stopped
    exact stopped_atomic_iff stopped
  · intro labels start final whole reached
    exact @Machine.invariant_of_meets _ _ (auditMachine config) _
      (fun state => state.changes.Sublist state.database.auditLog)
      (fun state label next recorded allowed stepped => auditStep_recorded recorded allowed stepped)
      _ _ _ (List.nil_sublist _) whole reached

namespace Sample

def disabling : PrivilegedRequest := .administer ⟨⟨1⟩, .disableUser ⟨2⟩, 5⟩

def inviting : PrivilegedRequest := .administer ⟨⟨1⟩, .inviteUser ⟨2⟩ (invite "token" ⟨10⟩), 0⟩

def disabledMember : User := { member with isActive := false }

-- The member is disabled and no entry says so.
def disabledOnly : Database :=
  ⟨[admin, disabledMember], [], [], by decide, by decide, List.nodup_nil, List.nodup_nil⟩

def disabledEntry : AuditLog := ⟨⟨1⟩, "user.disable", some ⟨2⟩, none, 5⟩

end Sample

theorem audited_inviting :
    ∃ final, (auditMachine Sample.config).run ⟨Sample.store, []⟩
        [⟨Sample.inviting, 1⟩, ⟨Sample.disabling, 0⟩] = some final ∧
      final.changes.Sublist final.database.auditLog ∧ final.changes.length = 1 ∧
      Atomic Sample.config Sample.inviting Sample.store final.database := by
  have whole : (auditMachine Sample.config).Meets
      (fun state label => ¬ Halfway label.request state.database label.stop) ⟨Sample.store, []⟩
      [⟨Sample.inviting, 1⟩, ⟨Sample.disabling, 0⟩] := by
    refine ⟨fun halfway => halfway.2.2, fun next _ => ⟨fun halfway => ?_, fun _ _ => trivial⟩⟩
    exact absurd halfway.1 (by decide)
  have invited := ((audited_iff Sample.config).1 Sample.inviting Sample.store _ 1 rfl).mpr
    fun halfway => halfway.2.2
  exact ⟨_, rfl, (audited_iff Sample.config).2 _ _ _ whole rfl, rfl, invited⟩

theorem disabling_unaudited :
    ((Sample.disabling.program Sample.config).stops Sample.store Sample.store)[1]? =
        some Sample.disabledOnly ∧
      ¬ Atomic Sample.config Sample.disabling Sample.store Sample.disabledOnly ∧
      (auditMachine Sample.config).run ⟨Sample.store, []⟩ [⟨Sample.disabling, 1⟩] =
        some ⟨Sample.disabledOnly, [Sample.disabledEntry]⟩ ∧
      ¬ [Sample.disabledEntry].Sublist Sample.disabledOnly.auditLog := by
  have stopped : ((Sample.disabling.program Sample.config).stops Sample.store Sample.store)[1]? =
      some Sample.disabledOnly := rfl
  refine ⟨stopped, fun atomic => ?_, rfl, by decide⟩
  have halfway : Halfway Sample.disabling Sample.store 1 :=
    ⟨rfl, by decide, Sample.member, by decide, rfl, rfl⟩
  exact (stopped_atomic_iff stopped).mp atomic halfway

end FireflyToolkit.Users
