import FireflyToolkit.Vault.Disclosure
import FireflyToolkit.Vault.Statements

set_option autoImplicit false

namespace FireflyToolkit.Vault

open OrderedDict Sessions Transition

structure UseRequest where
  userId : UUID
  sessionId : Option String
  usageMeta : Option Metadata
  sessions : VaultSessionStore
  now : Time

def UseRequest.program (crypto : CryptoLibrary) (secretId : UUID) (request : UseRequest) :
    Statements UserSecretModel :=
  SecretRequests.getSecretForInternalUse crypto request.sessions request.now secretId request.userId
    request.sessionId request.usageMeta

abbrev UseSession := Session UseRequest Database RequestError UserSecretModel

abbrev UseState := State UseRequest Database RequestError UserSecretModel

def useMachine (crypto : CryptoLibrary) (secretId : UUID) : Machine UseState (Label UseRequest) :=
  Sessions.machine (UseRequest.program crypto secretId)

def usedEntries (secretId : UUID) (database : Database) : List AuditLog :=
  database.auditLog.filter fun entry =>
    entry.action = "user_secret.used" ∧ entry.targetId = some secretId

def UsageCounted (secretId : UUID) (database : Database) : Prop :=
  ∀ row, database.secrets.get? secretId = some row →
    row.usageCount = (usedEntries secretId database).length

def Keyed (secretId : UUID) (database : Database) : Prop :=
  ∀ row, database.secrets.get? secretId = some row → row.id = secretId

instance (secretId : UUID) (database : Database) : Decidable (UsageCounted secretId database) :=
  decidable_of_iff
    (∀ row ∈ database.secrets.get? secretId,
      row.usageCount = (usedEntries secretId database).length) Iff.rfl

instance (secretId : UUID) (database : Database) : Decidable (Keyed secretId database) :=
  decidable_of_iff (∀ row ∈ database.secrets.get? secretId, row.id = secretId) Iff.rfl

section Writes

variable (secretId : UUID) (request : UseRequest) (found : UserSecret)

def markWrite : Database → Except RequestError Database :=
  UserSecretRepository.markUsed secretId found request.usageMeta request.now

def usedWrite (database : Database) : Except RequestError Database :=
  .ok (database.log found.userId "user_secret.used" (some found.id) request.usageMeta request.now)

def flushed : Database → Except RequestError Database :=
  andThen (andThen .ok (markWrite secretId request found)) (usedWrite request found)

def marked (row : UserSecret) : UserSecret :=
  { row with
    usageCount := found.usageCount + 1
    lastUsedAt := some request.now
    lastUsedMeta := request.usageMeta.or row.lastUsedMeta }

def used (database : Database) (row : UserSecret) : Database :=
  { database with
    secrets := database.secrets.set secretId (marked request found row)
    auditLog := database.auditLog ++
      [⟨found.userId, "user_secret.used", some found.id, request.usageMeta, request.now⟩] }

variable {secretId request found}

theorem markWrite_stored {database : Database} {row : UserSecret}
    (stored : database.secrets.get? secretId = some row) :
    andThen .ok (markWrite secretId request found) database =
      .ok { database with secrets := database.secrets.set secretId (marked request found row) } := by
  simp [andThen, Except.bind, markWrite, UserSecretRepository.markUsed, UserSecretRepository.update,
    stored, marked]

theorem markWrite_absent {database : Database} (absent : database.secrets.get? secretId = none) :
    andThen .ok (markWrite secretId request found) database = .error .staleDataError := by
  simp [andThen, Except.bind, markWrite, UserSecretRepository.markUsed, UserSecretRepository.update,
    absent]

theorem flushed_stored {database : Database} {row : UserSecret}
    (stored : database.secrets.get? secretId = some row) :
    flushed secretId request found database = .ok (used secretId request found database row) := by
  rw [flushed, andThen, markWrite_stored stored]
  rfl

theorem flushed_absent {database : Database} (absent : database.secrets.get? secretId = none) :
    flushed secretId request found database = .error .staleDataError := by
  rw [flushed, andThen, markWrite_absent absent]
  rfl

theorem usedEntries_used (keyed : found.id = secretId) (database : Database) (row : UserSecret) :
    (usedEntries secretId (used secretId request found database row)).length =
      (usedEntries secretId database).length + 1 := by
  simp [usedEntries, used, List.filter_append, keyed]

-- The count stays right exactly when the row that was read had the count that is stored.
theorem usageCounted_used {database : Database} {row : UserSecret} (keyed : found.id = secretId)
    (stored : database.secrets.get? secretId = some row)
    (counted : UsageCounted secretId database) :
    UsageCounted secretId (used secretId request found database row) ↔
      row.usageCount = found.usageCount := by
  have before := counted row stored
  have written : (used secretId request found database row).secrets.get? secretId =
      some (marked request found row) := by
    simp [used]
  constructor
  · intro after
    have total := after _ written
    rw [usedEntries_used keyed] at total
    simp only [marked] at total
    omega
  · intro same other held
    rw [written] at held
    rw [← Option.some.inj held, usedEntries_used keyed]
    simp only [marked]
    omega

end Writes

-- A use commits while the stored count is the one it read.
def CommitsCurrent (secretId : UUID) (state : UseState) (label : Label UseRequest) : Prop :=
  ∀ place session next found, label = .advance place → state.sessions[place]? = some session →
    session.program = .commit next → session.pending = flushed secretId session.request found →
    ∀ row, state.database.secrets.get? secretId = some row → row.usageCount = found.usageCount

section Stages

variable (crypto : CryptoLibrary) (secretId : UUID) (request : UseRequest)

def answering (plaintext : String) : Statements UserSecretModel :=
  SecretRequests.refreshed secretId fun row =>
    { mapSecretToDomainReadModel row with secret := plaintext }

def unlocking (found : UserSecret) : Statements UserSecretModel :=
  SecretRequests.requireUserKey request.sessions request.now request.userId request.sessionId
    fun userKey =>
      match UserSecretsService.openSecret crypto found userKey with
      | .error error => .finished (.error (.raised error))
      | .ok plaintext =>
          .write (markWrite secretId request found)
            (.write (usedWrite request found) (.commit (answering secretId plaintext)))

-- Where a request is: its program and what it has flushed and not committed.
inductive UseStage : Statements UserSecretModel → (Database → Except RequestError Database) → Prop
  | reading : UseStage (request.program crypto secretId) .ok
  | unlocking (found : UserSecret) (keyed : found.id = secretId) :
      UseStage (unlocking crypto secretId request found) .ok
  | marking (found : UserSecret) (keyed : found.id = secretId) (plaintext : String) :
      UseStage (.write (markWrite secretId request found)
        (.write (usedWrite request found) (.commit (answering secretId plaintext)))) .ok
  | recording (found : UserSecret) (keyed : found.id = secretId) (plaintext : String) :
      UseStage (.write (usedWrite request found) (.commit (answering secretId plaintext)))
        (andThen .ok (markWrite secretId request found))
  | committing (found : UserSecret) (keyed : found.id = secretId) (plaintext : String) :
      UseStage (.commit (answering secretId plaintext)) (flushed secretId request found)
  | answering (plaintext : String) : UseStage (answering secretId plaintext) .ok
  | finished (answer : Except RequestError UserSecretModel) :
      UseStage (.finished answer) .ok

end Stages

def Staged (crypto : CryptoLibrary) (secretId : UUID) (session : UseSession) : Prop :=
  UseStage crypto secretId session.request session.program session.pending

inductive UseAdvanced (crypto : CryptoLibrary) (secretId : UUID) (database : Database)
    (session : UseSession) : Database × UseSession → Prop
  | kept (next : UseSession) (staged : Staged crypto secretId next)
      (idle : ∀ rest, session.program = .commit rest → database.secrets.get? secretId = none) :
      UseAdvanced crypto secretId database session (database, next)
  | committed (found row : UserSecret) (rest : Statements UserSecretModel) (next : UseSession)
      (staged : Staged crypto secretId next) (commits : session.program = .commit rest)
      (pending : session.pending = flushed secretId session.request found)
      (keyed : found.id = secretId) (stored : database.secrets.get? secretId = some row) :
      UseAdvanced crypto secretId database session
        (used secretId session.request found database row, next)

section Runs

variable {crypto : CryptoLibrary} {secretId : UUID}

theorem staged_advance {database : Database} (keyed : Keyed secretId database)
    (session : UseSession) (staged : Staged crypto secretId session) :
    UseAdvanced crypto secretId database session (session.advance database) := by
  obtain ⟨request, program, pending⟩ := session
  replace staged : UseStage crypto secretId request program pending := staged
  cases staged with
  | reading =>
    simp only [Session.advance, UseRequest.program, SecretRequests.getSecretForInternalUse,
      SecretRequests.ownedSecret]
    cases owned : UserSecretsService.ownedSecret database secretId request.userId with
    | error error => exact .kept _ (.finished _) (by simp)
    | ok found =>
      exact .kept _ (.unlocking found (keyed found (ownedSecret_ok.mp owned).1)) (by simp)
  | unlocking found named =>
    simp only [Session.advance, unlocking, SecretRequests.requireUserKey]
    cases (VaultService.requireUserKey ⟨database, request.sessions, request.now⟩ request.userId
        request.sessionId).1 with
    | error error => exact .kept _ (.finished _) (by simp)
    | ok userKey =>
      cases opened : UserSecretsService.openSecret crypto found userKey with
      | error error => exact .kept _ (by simpa [opened, Staged] using UseStage.finished _) (by simp)
      | ok plaintext =>
        exact .kept _ (by simpa [opened, Staged] using UseStage.marking found named plaintext)
          (by simp)
  | marking found named plaintext =>
    cases stored : database.secrets.get? secretId with
    | none =>
      simp only [Session.advance, markWrite_absent stored]
      exact .kept _ (.finished _) (by simp)
    | some row =>
      simp only [Session.advance, markWrite_stored stored]
      exact .kept _ (.recording found named plaintext) (by simp)
  | recording found named plaintext =>
    cases stored : database.secrets.get? secretId with
    | none =>
      have refused : andThen (andThen .ok (markWrite secretId request found))
          (usedWrite request found) database = .error .staleDataError := flushed_absent stored
      simp only [Session.advance, refused]
      exact .kept _ (.finished _) (by simp)
    | some row =>
      have written : andThen (andThen .ok (markWrite secretId request found))
          (usedWrite request found) database = .ok (used secretId request found database row) :=
        flushed_stored stored
      simp only [Session.advance, written]
      exact .kept _ (.committing found named plaintext) (by simp)
  | committing found named plaintext =>
    cases stored : database.secrets.get? secretId with
    | none =>
      simp only [Session.advance, flushed_absent stored]
      exact .kept _ (.finished _) fun rest commits => stored
    | some row =>
      simp only [Session.advance, flushed_stored stored]
      exact .committed found row _ _ (.answering plaintext) rfl rfl named stored
  | answering plaintext =>
    simp only [Session.advance, answering, SecretRequests.refreshed]
    cases stored : database.secrets.get? secretId with
    | none => exact .kept _ (.finished _) (by simp)
    | some row => exact .kept _ (.finished _) (by simp)
  | finished answer => exact .kept _ (.finished answer) (by simp)

structure UseInvariant (crypto : CryptoLibrary) (secretId : UUID) (state : UseState) : Prop where
  keyed : Keyed secretId state.database
  staged : ∀ session ∈ state.sessions, Staged crypto secretId session

theorem keyed_used {request : UseRequest} {found row : UserSecret} {database : Database}
    (keyed : Keyed secretId database) (stored : database.secrets.get? secretId = some row) :
    Keyed secretId (used secretId request found database row) := by
  intro other held
  simp only [used, Dict.get?_set, if_true, Option.some.injEq] at held
  rw [← held]
  exact keyed row stored

theorem UseAdvanced.invariant {database : Database} {session : UseSession}
    {result : Database × UseSession} (keyed : Keyed secretId database)
    (advanced : UseAdvanced crypto secretId database session result) :
    Keyed secretId result.1 ∧ Staged crypto secretId result.2 := by
  cases advanced with
  | kept next staged idle => exact ⟨keyed, staged⟩
  | committed found row rest next staged commits pending named stored =>
    exact ⟨keyed_used keyed stored, staged⟩

theorem useInvariant_step {state next : UseState} {label : Label UseRequest}
    (invariant : UseInvariant crypto secretId state)
    (stepped : (useMachine crypto secretId).step state label = some next) :
    UseInvariant crypto secretId next := by
  rcases step_cases stepped with
    ⟨request, -, database, sessions⟩ | ⟨place, session, -, found, database, sessions⟩
  · refine ⟨database ▸ invariant.keyed, fun session member => ?_⟩
    rw [sessions] at member
    rcases List.mem_append.mp member with old | new
    · exact invariant.staged session old
    · rw [List.mem_singleton.mp new]
      exact .reading
  · obtain ⟨keyed, staged⟩ := (staged_advance invariant.keyed session
      (invariant.staged session (List.mem_of_getElem? found))).invariant invariant.keyed
    refine ⟨database ▸ keyed, fun other member => ?_⟩
    rw [sessions] at member
    rcases List.mem_or_eq_of_mem_set member with old | new
    · exact invariant.staged other old
    · exact new ▸ staged

theorem flushed_count {request : UseRequest} {found other row : UserSecret} {database : Database}
    (same : flushed secretId request found = flushed secretId request other)
    (stored : database.secrets.get? secretId = some row) :
    found.usageCount = other.usageCount := by
  have written := congrFun same database
  rw [flushed_stored stored, flushed_stored stored] at written
  have rows : (used secretId request found database row).secrets.get? secretId =
      (used secretId request other database row).secrets.get? secretId := by
    rw [Except.ok.inj written]
  simpa [used, marked] using rows

theorem usageCounted_step {state next : UseState} {label : Label UseRequest}
    (invariant : UseInvariant crypto secretId state)
    (counted : UsageCounted secretId state.database)
    (stepped : (useMachine crypto secretId).step state label = some next) :
    UsageCounted secretId next.database ↔ CommitsCurrent secretId state label := by
  rcases step_cases stepped with ⟨request, same, database, -⟩ | ⟨place, session, same, found, database, -⟩
  · rw [database, same]
    refine iff_of_true counted ?_
    intro place session rest row acts
    cases acts
  · have advanced := staged_advance invariant.keyed session
      (invariant.staged session (List.mem_of_getElem? found))
    generalize session.advance state.database = result at advanced database
    rw [database, same]
    cases advanced with
    | kept moved staged idle =>
      refine iff_of_true counted ?_
      intro place other rest read acts placed commits pending row stored
      cases acts
      rw [found] at placed
      cases placed
      rw [idle rest commits] at stored
      cases stored
    | committed read row rest moved staged commits pending keyed stored =>
      rw [usageCounted_used keyed stored counted]
      constructor
      · intro current other acting further another acts placed _ flushes held holds
        cases acts
        rw [found] at placed
        cases placed
        rw [stored] at holds
        rw [← Option.some.inj holds, current]
        exact flushed_count (pending.symm.trans flushes) stored
      · intro current
        exact current place session rest read rfl found commits pending row stored

end Runs

theorem usage_counted_iff (crypto : CryptoLibrary) (secretId : UUID) (database : Database)
    (keyed : Keyed secretId database) (counted : UsageCounted secretId database)
    (labels : List (Label UseRequest)) :
    (useMachine crypto secretId).Always (fun state => UsageCounted secretId state.database)
        ⟨database, []⟩ labels ↔
      (useMachine crypto secretId).Meets (CommitsCurrent secretId) ⟨database, []⟩ labels := by
  have initially : UseInvariant crypto secretId ⟨database, []⟩ :=
    ⟨keyed, fun session member => absurd member List.not_mem_nil⟩
  refine Machine.always_iff_meets (fun _ _ _ => useInvariant_step) ?_
    (fun _ _ _ => usageCounted_step) initially counted
  intro state label blocked place session rest found acts placed
  rw [acts] at blocked
  simp [useMachine, Sessions.machine, step, placed] at blocked

namespace Sample

def useRequest : UseRequest := ⟨anna, some "second", none, afterLabels.world.sessions, 6⟩

def oneUseAfterTheOther : List (Label UseRequest) :=
  .start useRequest :: List.replicate 5 (.advance 0) ++
    .start useRequest :: List.replicate 5 (.advance 1)

-- Both uses read the row before one of them commits.
def bothUsesReadFirst : List (Label UseRequest) :=
  [.start useRequest, .start useRequest, .advance 0, .advance 1] ++
    List.replicate 4 (.advance 0) ++ List.replicate 4 (.advance 1)

end Sample

theorem usage_counted_oneUseAfterTheOther :
    (useMachine Sample.library Sample.secretId).Meets (CommitsCurrent Sample.secretId)
      ⟨Sample.afterLabels.world.database, []⟩ Sample.oneUseAfterTheOther :=
  (usage_counted_iff Sample.library Sample.secretId Sample.afterLabels.world.database (by decide)
    (by decide) Sample.oneUseAfterTheOther).mp (by decide)

theorem bothUsesReadFirst_miscounted :
    UsageCounted Sample.secretId Sample.afterLabels.world.database ∧
      ∃ final row, (useMachine Sample.library Sample.secretId).run
          ⟨Sample.afterLabels.world.database, []⟩ Sample.bothUsesReadFirst = some final ∧
        final.database.secrets.get? Sample.secretId = some row ∧ row.usageCount = 1 ∧
        (usedEntries Sample.secretId final.database).length = 2 ∧
        ¬ UsageCounted Sample.secretId final.database := by
  refine ⟨by decide, _, _, rfl, rfl, rfl, rfl, ?_⟩
  intro counted
  have same := counted _ rfl
  revert same
  decide

end FireflyToolkit.Vault
