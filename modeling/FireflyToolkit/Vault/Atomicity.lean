import FireflyToolkit.Vault.Statements

set_option autoImplicit false

namespace FireflyToolkit.Vault

open OrderedDict Sessions

def Database.record (database : Database) (entry : AuditLog) : Database :=
  { database with auditLog := database.auditLog ++ [entry] }

structure Touches (userId secretId : UUID) (before after : Database) : Prop where
  auditLog : after.auditLog = before.auditLog
  vaults : after.vaults = before.vaults
  others : ∀ other, other ≠ secretId → after.secrets.get? other = before.secrets.get? other
  owned : ∀ row, before.secrets.get? secretId = some row ∨ after.secrets.get? secretId = some row →
    row.userId = userId

-- The change and one audit row went into the database in one commit, the only one of the request.
def CommitsOnce (userId secretId : UUID) (change : Option UserSecret → Option UserSecret → Prop)
    (before after : Database) (stops : List Database) : Prop :=
  stops = [before, after] ∧ ∃ changed entry, after = changed.record entry ∧
    Touches userId secretId before changed ∧
    change (before.secrets.get? secretId) (changed.secrets.get? secretId)

-- A request that raises leaves the committed database as it was, and one that returns has committed
-- once. The request has come to `program` with `view` flushed and not yet committed.
structure AtomicFrom {A : Type} (program : Statements A) (committed view : Database)
    (userId secretId : UUID) (change : Option UserSecret → Option UserSecret → Prop) : Prop where
  raised : ∀ failure, (program.execute committed view).2 = .error failure →
    (program.execute committed view).1 = committed ∧ program.stops committed view = [committed]
  returned : ∀ answer, (program.execute committed view).2 = .ok answer →
    CommitsOnce userId secretId change committed (program.execute committed view).1
      (program.stops committed view)

def Atomic {A : Type} (program : Statements A) (database : Database) (userId secretId : UUID)
    (change : Option UserSecret → Option UserSecret → Prop) : Prop :=
  AtomicFrom program database database userId secretId change

def Created (userId : UUID) (type : SecretType) (aliasName externalUsername : Option String)
    (before after : Option UserSecret) : Prop :=
  before = none ∧ ∃ row, after = some row ∧ row.userId = userId ∧ row.type = type ∧
    row.aliasName = aliasName ∧ row.externalUsername = externalUsername ∧ row.usageCount = 0

def Updated (aliasName externalUsername secret : UserSecretsService.UpdateField)
    (before after : Option UserSecret) : Prop :=
  ∃ row, before = some row ∧
    match secret.join with
    | none => after = some (UserSecretsService.updateMetadata row aliasName externalUsername)
    | some _ => ∃ encrypted,
        after = some ((UserSecretsService.updateMetadata row aliasName externalUsername).setBlob encrypted)

def Deleted (before after : Option UserSecret) : Prop := before.isSome = true ∧ after = none

def Used (usageMeta : Option Metadata) (now : Time) (before after : Option UserSecret) : Prop :=
  ∃ row, before = some row ∧ after = some (row.markUsed usageMeta now)

section Statements

variable {A : Type} {committed view : Database} {userId secretId : UUID}
  {change : Option UserSecret → Option UserSecret → Prop}

theorem atomic_error (failure : RequestError) :
    AtomicFrom (.finished (.error failure) : Statements A) committed view userId secretId change where
  raised := fun _ _ => ⟨rfl, rfl⟩
  returned := by
    intro answer returned
    cases returned

theorem atomic_write_error {write : Database → Except RequestError Database} {next : Statements A}
    {failure : RequestError} (refused : write view = .error failure) :
    AtomicFrom (.write write next) committed view userId secretId change := by
  constructor
  · intro other raised
    simp [Program.execute, Program.stops, refused]
  · intro answer returned
    simp [Program.execute, refused] at returned

theorem atomic_write {write : Database → Except RequestError Database} {next : Statements A}
    {changed : Database} (written : write view = .ok changed)
    (later : AtomicFrom next committed changed userId secretId change) :
    AtomicFrom (.write write next) committed view userId secretId change := by
  constructor
  · intro failure raised
    simp only [Program.execute, Program.stops, written] at raised ⊢
    exact later.raised failure raised
  · intro answer returned
    simp only [Program.execute, Program.stops, written] at returned ⊢
    exact later.returned answer returned

theorem atomic_query {next : Database → Statements A}
    (later : AtomicFrom (next view) committed view userId secretId change) :
    AtomicFrom (.query next) committed view userId secretId change :=
  ⟨later.raised, later.returned⟩

theorem atomic_requireUserKey {sessions : VaultSessionStore} {now : Time} {user : UUID}
    {sessionId : Option String} {next : ByteArray → Statements A}
    (later : ∀ userKey, AtomicFrom (next userKey) committed view userId secretId change) :
    AtomicFrom (SecretRequests.requireUserKey sessions now user sessionId next) committed view userId
      secretId change := by
  unfold SecretRequests.requireUserKey
  apply atomic_query
  cases (VaultService.requireUserKey ⟨view, sessions, now⟩ user sessionId).1 with
  | error error => exact atomic_error _
  | ok userKey => exact later userKey

theorem atomic_ownedSecret {user : UUID} {next : UserSecret → Statements A}
    (later : ∀ found, view.secrets.get? secretId = some found → found.userId = user →
      AtomicFrom (next found) committed view userId secretId change) :
    AtomicFrom (SecretRequests.ownedSecret secretId user next) committed view userId secretId
      change := by
  unfold SecretRequests.ownedSecret
  apply atomic_query
  cases owned : UserSecretsService.ownedSecret view secretId user with
  | error error => exact atomic_error _
  | ok found =>
    obtain ⟨stored, own⟩ := ownedSecret_ok.mp owned
    exact later found stored own

theorem atomic_log {actorId : UUID} {action : String} {targetId : Option UUID}
    {metadata : Option Metadata} {now : Time} {next : Statements A} {answer : A}
    (touches : Touches userId secretId committed view)
    (changes : change (committed.secrets.get? secretId) (view.secrets.get? secretId))
    (answers : ∀ stored : Database, stored.secrets.get? secretId = view.secrets.get? secretId →
      next.execute stored stored = (stored, .ok answer) ∧ next.stops stored stored = [stored]) :
    AtomicFrom (AuditLogRepository.log actorId action targetId metadata now next) committed view
      userId secretId change := by
  have last := answers (view.log actorId action targetId metadata now) rfl
  constructor
  · intro failure raised
    simp [AuditLogRepository.log, Program.execute, last.1] at raised
  · intro final returned
    simp only [AuditLogRepository.log, Program.execute, Program.stops, last.1, last.2]
    exact ⟨rfl, view, ⟨actorId, action, targetId, metadata, now⟩, rfl, touches, changes⟩

theorem atomic_logRefreshed {actorId : UUID} {action : String} {targetId : Option UUID}
    {metadata : Option Metadata} {now : Time} {answer : UserSecret → A} {row : UserSecret}
    (touches : Touches userId secretId committed view)
    (written : view.secrets.get? secretId = some row)
    (changes : change (committed.secrets.get? secretId) (some row)) :
    AtomicFrom (AuditLogRepository.log actorId action targetId metadata now
      (SecretRequests.refreshed secretId answer)) committed view userId secretId change := by
  refine @atomic_log _ _ _ _ _ _ _ _ _ _ _ _ (answer row) touches (written ▸ changes) ?_
  intro stored same
  simp [SecretRequests.refreshed, Program.execute, Program.stops, same, written]

theorem touches_found {database : Database} {found : UserSecret}
    (stored : database.secrets.get? secretId = some found) (own : found.userId = userId) :
    Touches userId secretId database database := by
  refine ⟨rfl, rfl, fun _ _ => rfl, fun row same => ?_⟩
  rw [or_self_iff, stored] at same
  exact Option.some.inj same ▸ own

theorem touches_absent {database : Database} (absent : database.secrets.get? secretId = none) :
    Touches userId secretId database database := by
  refine ⟨rfl, rfl, fun _ _ => rfl, fun row same => ?_⟩
  rw [or_self_iff, absent] at same
  cases same

theorem Touches.set {row : UserSecret} (touches : Touches userId secretId committed view)
    (owned : row.userId = userId) :
    Touches userId secretId committed
      { view with secrets := view.secrets.set secretId row } := by
  refine ⟨touches.auditLog, touches.vaults, fun other differs => ?_, ?_⟩
  · simp [differs, touches.others other differs]
  · rintro old (before | after)
    · exact touches.owned old (.inl before)
    · simp only [Dict.get?_set, if_true, Option.some.injEq] at after
      exact after ▸ owned

theorem update_written {columns : UserSecret → UserSecret} {row : UserSecret}
    (found : view.secrets.get? secretId = some row) :
    UserSecretRepository.update secretId columns view =
      .ok { view with secrets := view.secrets.set secretId (columns row) } := by
  simp [UserSecretRepository.update, found]

theorem create_written {row : UserSecret} (fresh : view.secrets.get? row.id = none) :
    UserSecretRepository.create row view =
      .ok { view with secrets := view.secrets.set row.id row } := by
  simp [UserSecretRepository.create, fresh]

theorem create_refused {row stored : UserSecret} (taken : view.secrets.get? row.id = some stored) :
    UserSecretRepository.create row view = .error .integrityError := by
  simp [UserSecretRepository.create, taken]

theorem updateMetadata_unchanged {row : UserSecret}
    {aliasName externalUsername : UserSecretsService.UpdateField}
    (kept : ¬ (aliasName.isSome = true ∨ externalUsername.isSome = true)) :
    UserSecretsService.updateMetadata row aliasName externalUsername = row := by
  simp only [not_or, Bool.not_eq_true, Option.isSome_eq_false_iff, Option.isNone_iff_eq_none] at kept
  simp [UserSecretsService.updateMetadata, kept.1, kept.2]

end Statements

section Operations

variable (crypto : CryptoLibrary) (sessions : VaultSessionStore) (now : Time) (database : Database)

theorem createSecret_atomic (actorId userId : UUID) (sessionId : Option String) (type : SecretType)
    (aliasName externalUsername : Option String) (secret : String) (id : UUID)
    (random : SecretRandomness) :
    Atomic (SecretRequests.createSecret crypto sessions now actorId userId sessionId type aliasName
      externalUsername secret id random) database userId id
      (Created userId type aliasName externalUsername) := by
  apply atomic_requireUserKey
  intro userKey
  cases stored : database.secrets.get? id with
  | some other =>
    exact atomic_write_error (create_refused stored)
  | none =>
    refine atomic_write (create_written stored) ?_
    refine atomic_logRefreshed ((touches_absent stored).set rfl) (Dict.get?_set_self ..)
      ⟨stored, _, rfl, ?_⟩
    exact ⟨rfl, rfl, rfl, rfl, rfl⟩

theorem updateSecret_atomic (actorId userId secretId : UUID) (sessionId : Option String)
    (aliasName externalUsername secret : UserSecretsService.UpdateField)
    (random : SecretRandomness) :
    Atomic (SecretRequests.updateSecret crypto sessions now actorId userId secretId sessionId
      aliasName externalUsername secret random) database userId secretId
      (Updated aliasName externalUsername secret) := by
  apply atomic_ownedSecret
  intro found stored own
  have unchanged := touches_found stored own
  -- What follows once the metadata has been flushed, or needs no flush.
  have rotates : ∀ view, Touches userId secretId database view →
      view.secrets.get? secretId =
        some (UserSecretsService.updateMetadata found aliasName externalUsername) →
      AtomicFrom (match secret.join with
        | none => AuditLogRepository.log actorId "user_secret.update" (some secretId)
            (some (UserSecretsService.updateLog aliasName externalUsername secret)) now
            (SecretRequests.refreshed secretId mapSecretToDomainReadModel)
        | some plaintext =>
            SecretRequests.requireUserKey sessions now userId sessionId fun userKey =>
              .write (UserSecretRepository.update secretId
                (·.setBlob (SecretCryptoService.encryptSecret crypto plaintext userKey random)))
              (AuditLogRepository.log actorId "user_secret.update" (some secretId)
                (some (UserSecretsService.updateLog aliasName externalUsername secret)) now
                (SecretRequests.refreshed secretId mapSecretToDomainReadModel)))
        database view userId secretId (Updated aliasName externalUsername secret) := by
    intro view touches flushed
    cases rotated : secret.join with
    | none => exact atomic_logRefreshed touches flushed ⟨found, stored, by rw [rotated]⟩
    | some plaintext =>
      apply atomic_requireUserKey
      intro userKey
      refine atomic_write (update_written flushed) ?_
      refine atomic_logRefreshed (touches.set own) (Dict.get?_set_self ..) ⟨found, stored, ?_⟩
      rw [rotated]
      exact ⟨_, rfl⟩
  split_ifs with metadata
  · exact atomic_write (update_written stored)
      (rotates _ (unchanged.set own) (Dict.get?_set_self ..))
  · exact rotates database unchanged (by rw [updateMetadata_unchanged metadata, stored])

theorem deleteSecret_atomic (actorId userId secretId : UUID) :
    Atomic (SecretRequests.deleteSecret now actorId userId secretId) database userId secretId
      Deleted := by
  apply atomic_ownedSecret
  intro found stored own
  refine atomic_write rfl ?_
  refine atomic_log ⟨rfl, rfl, fun other differs => by simp [differs], ?_⟩ ⟨by simp [stored], by simp⟩
    fun final _ => ⟨rfl, rfl⟩
  rintro row (before | after)
  · exact (touches_found stored own).owned row (.inl before)
  · simp at after

theorem getSecretForInternalUse_atomic (secretId userId : UUID) (sessionId : Option String)
    (usageMeta : Option Metadata) :
    Atomic (SecretRequests.getSecretForInternalUse crypto sessions now secretId userId sessionId
      usageMeta) database userId secretId (Used usageMeta now) := by
  apply atomic_ownedSecret
  intro found stored own
  apply atomic_requireUserKey
  intro userKey
  cases UserSecretsService.openSecret crypto found userKey with
  | error error => exact atomic_error _
  | ok plaintext =>
    refine atomic_write (update_written stored) ?_
    exact atomic_logRefreshed ((touches_found stored own).set own) (Dict.get?_set_self ..)
      ⟨found, stored, rfl⟩

end Operations

def Performs {A : Type} (program : Statements A) (world : World)
    (operation : Except PyError A × World) : Prop :=
  program.perform world.database = (operation.2.database, operation.1.mapError .raised)

section Performs

variable (crypto : CryptoLibrary) (world : World)

theorem requireUserKey_secrets (secrets : Dict UUID UserSecret) (userId : UUID)
    (sessionId : Option String) :
    VaultService.requireUserKey
        { world with database := { world.database with secrets := secrets } } userId sessionId =
      VaultService.requireUserKey world userId sessionId := rfl

theorem createSecret_performs (actorId userId : UUID) (sessionId : Option String)
    (type : SecretType) (aliasName externalUsername : Option String) (secret : String) (id : UUID)
    (random : SecretRandomness) (fresh : world.database.secrets.get? id = none) :
    Performs
      (SecretRequests.createSecret crypto world.sessions world.now actorId userId sessionId type
        aliasName externalUsername secret id random) world
      (UserSecretsService.createSecret crypto world actorId userId sessionId type aliasName
        externalUsername secret id random) := by
  simp only [Performs, Program.perform, SecretRequests.createSecret, SecretRequests.requireUserKey,
    Program.execute, UserSecretsService.createSecret]
  cases VaultService.requireUserKey world userId sessionId with
  | mk answer sessions =>
    cases answer with
    | error error => rfl
    | ok userKey =>
      simp [Program.execute, UserSecretRepository.create, UserSecret.setBlob, fresh,
        AuditLogRepository.log, Database.log, SecretRequests.refreshed, Except.mapError]

theorem updateSecret_performs (actorId userId secretId : UUID) (sessionId : Option String)
    (aliasName externalUsername secret : UserSecretsService.UpdateField)
    (random : SecretRandomness) :
    Performs
      (SecretRequests.updateSecret crypto world.sessions world.now actorId userId secretId sessionId
        aliasName externalUsername secret random) world
      (UserSecretsService.updateSecret crypto world actorId userId secretId sessionId aliasName
        externalUsername secret random) := by
  simp only [Performs, Program.perform, SecretRequests.updateSecret, SecretRequests.ownedSecret,
    Program.execute, UserSecretsService.updateSecret]
  cases owned : UserSecretsService.ownedSecret world.database secretId userId with
  | error error => rfl
  | ok found =>
    have stored := (ownedSecret_ok.mp owned).1
    -- The row once the metadata has been flushed, also where there was nothing to flush.
    have flushed : ∀ program : Statements UserSecretReadModel,
        (if aliasName.isSome ∨ externalUsername.isSome then
          Program.write (UserSecretRepository.update secretId
            (UserSecretsService.updateMetadata · aliasName externalUsername)) program
        else program).execute world.database world.database =
          program.execute world.database
            { world.database with
              secrets := (world.database.secrets.set secretId
                (UserSecretsService.updateMetadata found aliasName externalUsername)) } := by
      intro program
      split_ifs with metadata
      · simp only [Program.execute, update_written stored]
      · rw [updateMetadata_unchanged metadata, Dict.set_get? stored]
    simp only [flushed]
    cases secret.join with
    | none =>
      simp [AuditLogRepository.log, Program.execute, Database.log, SecretRequests.refreshed,
        Except.mapError]
    | some plaintext =>
      simp only [SecretRequests.requireUserKey, Program.execute]
      rw [requireUserKey_secrets world (world.database.secrets.set secretId _)]
      cases VaultService.requireUserKey world userId sessionId with
      | mk answer sessions =>
        cases answer with
        | error error => rfl
        | ok userKey =>
          simp [AuditLogRepository.log, Program.execute, Database.log, SecretRequests.refreshed,
            UserSecretRepository.update, Dict.set_set, Except.mapError]

theorem deleteSecret_performs (actorId userId secretId : UUID) :
    Performs (SecretRequests.deleteSecret world.now actorId userId secretId) world
      (UserSecretsService.deleteSecret world actorId userId secretId) := by
  simp only [Performs, Program.perform, SecretRequests.deleteSecret, SecretRequests.ownedSecret,
    Program.execute, UserSecretsService.deleteSecret]
  cases UserSecretsService.ownedSecret world.database secretId userId with
  | error error => rfl
  | ok found => rfl

theorem getSecretForInternalUse_performs (secretId userId : UUID) (sessionId : Option String)
    (usageMeta : Option Metadata) :
    Performs
      (SecretRequests.getSecretForInternalUse crypto world.sessions world.now secretId userId
        sessionId usageMeta) world
      (UserSecretsService.getSecretForInternalUse crypto world secretId userId sessionId
        usageMeta) := by
  simp only [Performs, Program.perform, SecretRequests.getSecretForInternalUse,
    SecretRequests.ownedSecret, Program.execute, UserSecretsService.getSecretForInternalUse]
  cases owned : UserSecretsService.ownedSecret world.database secretId userId with
  | error error => rfl
  | ok found =>
    have stored := (ownedSecret_ok.mp owned).1
    simp only [SecretRequests.requireUserKey, Program.execute]
    cases VaultService.requireUserKey world userId sessionId with
    | mk answer sessions =>
      cases answer with
      | error error => rfl
      | ok userKey =>
        cases opened : UserSecretsService.openSecret crypto found userKey with
        | error error => simp [opened, Program.execute, Except.mapError]
        | ok plaintext =>
          simp [opened, Program.execute, UserSecretRepository.markUsed, update_written stored,
            AuditLogRepository.log, Database.log, SecretRequests.refreshed, Except.mapError,
            UserSecret.markUsed]

end Performs

structure SecretsAtomic (crypto : CryptoLibrary) (sessions : VaultSessionStore) (now : Time)
    (database : Database) : Prop where
  create : ∀ actorId userId sessionId type aliasName externalUsername secret id random,
    Atomic (SecretRequests.createSecret crypto sessions now actorId userId sessionId type aliasName
      externalUsername secret id random) database userId id
      (Created userId type aliasName externalUsername)
  update : ∀ actorId userId secretId sessionId aliasName externalUsername secret random,
    Atomic (SecretRequests.updateSecret crypto sessions now actorId userId secretId sessionId
      aliasName externalUsername secret random) database userId secretId
      (Updated aliasName externalUsername secret)
  updateAlias : ∀ actorId userId secretId aliasName random,
    Atomic (SecretRequests.updateAlias crypto sessions now actorId userId secretId aliasName random)
      database userId secretId (Updated (some aliasName) none none)
  delete : ∀ actorId userId secretId,
    Atomic (SecretRequests.deleteSecret now actorId userId secretId) database userId secretId Deleted
  use : ∀ secretId userId sessionId usageMeta,
    Atomic (SecretRequests.getSecretForInternalUse crypto sessions now secretId userId sessionId
      usageMeta) database userId secretId (Used usageMeta now)

theorem secrets_atomic (crypto : CryptoLibrary) (sessions : VaultSessionStore) (now : Time)
    (database : Database) : SecretsAtomic crypto sessions now database where
  create := createSecret_atomic crypto sessions now database
  update := updateSecret_atomic crypto sessions now database
  updateAlias := by
    intro actorId userId secretId aliasName random
    exact updateSecret_atomic crypto sessions now database actorId userId secretId none
      (some aliasName) none none random
  delete := deleteSecret_atomic now database
  use := getSecretForInternalUse_atomic crypto sessions now database

end FireflyToolkit.Vault
