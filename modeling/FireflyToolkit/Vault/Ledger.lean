import FireflyToolkit.Shared.Transition
import FireflyToolkit.Vault.Services

set_option autoImplicit false

namespace FireflyToolkit.Vault

open OrderedDict Transition

-- A call of a service, with the random values it would draw.
inductive VaultCall
  | setupVault (userId : UUID) (passphrase : String) (freshSalt : TokenBytes 16)
      (nonce : TokenBytes 12)
  | unlockVault (userId : UUID) (passphrase : String) (freshSalt : TokenBytes 16)
      (sessionId : String)
  | lockVault (userId : UUID) (sessionId : String)
  | createSecret (actorId userId : UUID) (sessionId : Option String) (type : SecretType)
      (aliasName externalUsername : Option String) (secret : String) (id : UUID)
      (random : SecretRandomness)
  | updateSecret (actorId userId secretId : UUID) (sessionId : Option String)
      (aliasName externalUsername secret : UserSecretsService.UpdateField)
      (random : SecretRandomness)
  | deleteSecret (actorId userId secretId : UUID)
  | getSecretForInternalUse (secretId userId : UUID) (sessionId : Option String)
      (usageMeta : Option Metadata)

inductive VaultLabel
  | call (call : VaultCall)
  | advance (elapsed : Nat)

def outcome {α : Type} (performed : Except PyError α × World) : Except PyError Unit × World :=
  (performed.1.map fun _ => (), performed.2)

def perform (crypto : CryptoLibrary) (ttlSeconds : Int) (world : World) :
    VaultCall → Except PyError Unit × World
  | .setupVault userId passphrase freshSalt nonce =>
      VaultService.setupVault crypto world userId passphrase freshSalt nonce
  | .unlockVault userId passphrase freshSalt sessionId =>
      outcome <|
        VaultService.unlockVault crypto ttlSeconds world userId passphrase freshSalt sessionId
  | .lockVault userId sessionId => (.ok (), VaultService.lockVault world userId sessionId)
  | .createSecret actorId userId sessionId type aliasName externalUsername secret id random =>
      outcome <| UserSecretsService.createSecret crypto world actorId userId sessionId type aliasName
        externalUsername secret id random
  | .updateSecret actorId userId secretId sessionId aliasName externalUsername secret random =>
      outcome <| UserSecretsService.updateSecret crypto world actorId userId secretId sessionId
        aliasName externalUsername secret random
  | .deleteSecret actorId userId secretId =>
      UserSecretsService.deleteSecret world actorId userId secretId
  | .getSecretForInternalUse secretId userId sessionId usageMeta =>
      outcome <| UserSecretsService.getSecretForInternalUse crypto world secretId userId sessionId
        usageMeta

structure Ledger where
  world : World
  returned : List (VaultCall × Time)

def Ledger.record (ledger : Ledger) (call : VaultCall) :
    Except PyError Unit × World → Ledger
  | (.ok _, world) => ⟨world, ledger.returned ++ [(call, ledger.world.now)]⟩
  | (.error _, world) => ⟨world, ledger.returned⟩

-- A new secret gets an id that no stored secret has.
def VaultCall.idTaken (database : Database) : VaultCall → Bool
  | .createSecret _ _ _ _ _ _ _ id _ => (database.secrets.get? id).isSome
  | _ => false

def ledgerStep (crypto : CryptoLibrary) (ttlSeconds : Int) (ledger : Ledger) :
    VaultLabel → Option Ledger
  | .advance elapsed =>
      some { ledger with world := { ledger.world with now := ledger.world.now + elapsed } }
  | .call call =>
      if call.idTaken ledger.world.database then none
      else some (ledger.record call (perform crypto ttlSeconds ledger.world call))

def vaultMachine (crypto : CryptoLibrary) (ttlSeconds : Int) : Machine Ledger VaultLabel :=
  ⟨ledgerStep crypto ttlSeconds⟩

def Ledger.initial (now : Time) : Ledger :=
  ⟨⟨⟨Dict.empty, Dict.empty, []⟩, .initial, now⟩, []⟩

def latest {α : Type} (returned : List (VaultCall × Time)) (read : VaultCall → Time → Option α) :
    Option α :=
  (returned.filterMap fun entry => read entry.1 entry.2).getLast?

theorem latest_append {α : Type} (returned : List (VaultCall × Time)) (call : VaultCall)
    (time : Time) (read : VaultCall → Time → Option α) :
    latest (returned ++ [(call, time)]) read = (read call time).or (latest returned read) := by
  unfold latest
  cases said : read call time <;> simp [List.filterMap_append, said]

structure Issue where
  passphrase : String
  issuedAt : Time
  deriving DecidableEq

namespace VaultCall

@[simp] def passphraseFor (userId : UUID) : VaultCall → Time → Option String
  | setupVault user passphrase _ _, _ => if userId = user then some passphrase else none
  | _, _ => none

@[simp] def issueFor (userId : UUID) (sessionId : String) : VaultCall → Time → Option (Option Issue)
  | unlockVault user passphrase _ session, time =>
      if userId = user ∧ sessionId = session then some (some ⟨passphrase, time⟩) else none
  | lockVault user session, _ => if userId = user ∧ sessionId = session then some none else none
  | _, _ => none

@[simp] def creatorFor (secretId : UUID) : VaultCall → Time → Option UUID
  | createSecret _ userId _ _ _ _ _ id _, _ => if secretId = id then some userId else none
  | _, _ => none

@[simp] def plaintextFor (secretId : UUID) : VaultCall → Time → Option String
  | createSecret _ _ _ _ _ _ secret id _, _ => if secretId = id then some secret else none
  | updateSecret _ _ id _ _ _ secret _, _ => if secretId = id then secret.join else none
  | _, _ => none

end VaultCall

namespace Ledger

variable (ledger : Ledger)

def passphrase (userId : UUID) : Option String :=
  latest ledger.returned (VaultCall.passphraseFor userId)

-- The unlock that issued a session to a user, unless the session was locked since.
def issue (userId : UUID) (sessionId : String) : Option Issue :=
  (latest ledger.returned (VaultCall.issueFor userId sessionId)).join

def creator (secretId : UUID) : Option UUID :=
  latest ledger.returned (VaultCall.creatorFor secretId)

def plaintext (secretId : UUID) : Option String :=
  latest ledger.returned (VaultCall.plaintextFor secretId)

variable (world : World) (call : VaultCall) (time : Time)

@[simp] theorem passphrase_snoc (userId : UUID) :
    Ledger.passphrase ⟨world, ledger.returned ++ [(call, time)]⟩ userId =
      (VaultCall.passphraseFor userId call time).or (ledger.passphrase userId) :=
  latest_append ..

@[simp] theorem issue_snoc (userId : UUID) (sessionId : String) :
    Ledger.issue ⟨world, ledger.returned ++ [(call, time)]⟩ userId sessionId =
      (VaultCall.issueFor userId sessionId call time).getD (ledger.issue userId sessionId) := by
  unfold issue
  rw [latest_append]
  cases VaultCall.issueFor userId sessionId call time <;> rfl

@[simp] theorem creator_snoc (secretId : UUID) :
    Ledger.creator ⟨world, ledger.returned ++ [(call, time)]⟩ secretId =
      (VaultCall.creatorFor secretId call time).or (ledger.creator secretId) :=
  latest_append ..

@[simp] theorem plaintext_snoc (secretId : UUID) :
    Ledger.plaintext ⟨world, ledger.returned ++ [(call, time)]⟩ secretId =
      (VaultCall.plaintextFor secretId call time).or (ledger.plaintext secretId) :=
  latest_append ..

end Ledger

inductive VaultsEffect (crypto : CryptoLibrary) (ledger next : Ledger) : Prop
  | unchanged (vaults : next.world.database.vaults = ledger.world.database.vaults)
      (passphrases : ∀ userId, next.passphrase userId = ledger.passphrase userId)
  | setUp (userId : UUID) (passphrase : String) (freshSalt : TokenBytes 16) (nonce : TokenBytes 12)
      (fresh : ledger.world.database.vaults.get? userId = none)
      (vaults : next.world.database.vaults = ledger.world.database.vaults.set userId
        (VaultService.newVault crypto passphrase freshSalt nonce))
      (passphrases : ∀ other, next.passphrase other =
        if other = userId then some passphrase else ledger.passphrase other)

inductive SessionsEffect (crypto : CryptoLibrary) (ttlSeconds : Int) (ledger next : Ledger) : Prop
  | pruned (sessions : VaultSessionStore.Pruned ledger.world.now ledger.world.sessions
        next.world.sessions)
      (issues : ∀ userId sessionId, next.issue userId sessionId = ledger.issue userId sessionId)
  | unlocked (userId : UUID) (sessionId passphrase : String) (freshSalt : TokenBytes 16)
      (userKey : ByteArray)
      (opened : VaultService.checkPassphrase crypto ledger.world.database userId passphrase
        freshSalt = .ok userKey)
      (sessions : next.world.sessions =
        ledger.world.sessions.create userId userKey ttlSeconds ledger.world.now sessionId)
      (issues : ∀ other otherId, next.issue other otherId =
        if other = userId ∧ otherId = sessionId then some ⟨passphrase, ledger.world.now⟩
        else ledger.issue other otherId)
  | locked (userId : UUID) (sessionId : String)
      (sessions : next.world.sessions = ledger.world.sessions.invalidate userId sessionId)
      (issues : ∀ other otherId, next.issue other otherId =
        if other = userId ∧ otherId = sessionId then none else ledger.issue other otherId)

structure SealedRow (crypto : CryptoLibrary) (world : World) (row : UserSecret)
    (plaintext : String) : Prop where
  blob : ∃ userKey random sessionId sessions,
    VaultService.requireUserKey world row.userId sessionId = (.ok userKey, sessions) ∧
      UserSecretsService.getEncryptedBlob row =
        .ok (SecretCryptoService.encryptSecret crypto plaintext userKey random)

inductive SecretsEffect (crypto : CryptoLibrary) (ledger next : Ledger) : Prop
  | unchanged (secrets : next.world.database.secrets = ledger.world.database.secrets)
      (creators : ∀ secretId, next.creator secretId = ledger.creator secretId)
      (plaintexts : ∀ secretId, next.plaintext secretId = ledger.plaintext secretId)
  | created (id : UUID) (row : UserSecret) (plaintext : String)
      (made : SealedRow crypto ledger.world row plaintext)
      (secrets : next.world.database.secrets = ledger.world.database.secrets.set id row)
      (creators : ∀ other, next.creator other =
        if other = id then some row.userId else ledger.creator other)
      (plaintexts : ∀ other, next.plaintext other =
        if other = id then some plaintext else ledger.plaintext other)
  | rotated (id : UUID) (old row : UserSecret) (plaintext : String)
      (found : ledger.world.database.secrets.get? id = some old) (owner : row.userId = old.userId)
      (made : SealedRow crypto ledger.world row plaintext)
      (secrets : next.world.database.secrets = ledger.world.database.secrets.set id row)
      (creators : ∀ other, next.creator other = ledger.creator other)
      (plaintexts : ∀ other, next.plaintext other =
        if other = id then some plaintext else ledger.plaintext other)
  | marked (id : UUID) (old row : UserSecret)
      (found : ledger.world.database.secrets.get? id = some old) (owner : row.userId = old.userId)
      (blob : UserSecretsService.getEncryptedBlob row = UserSecretsService.getEncryptedBlob old)
      (secrets : next.world.database.secrets = ledger.world.database.secrets.set id row)
      (creators : ∀ other, next.creator other = ledger.creator other)
      (plaintexts : ∀ other, next.plaintext other = ledger.plaintext other)
  | deleted (id : UUID)
      (secrets : next.world.database.secrets = ledger.world.database.secrets.erase id)
      (creators : ∀ other, next.creator other = ledger.creator other)
      (plaintexts : ∀ other, next.plaintext other = ledger.plaintext other)

structure StepEffects (crypto : CryptoLibrary) (ttlSeconds : Int) (ledger next : Ledger) : Prop where
  time : ledger.world.now ≤ next.world.now
  vaults : VaultsEffect crypto ledger next
  sessions : SessionsEffect crypto ttlSeconds ledger next
  secrets : SecretsEffect crypto ledger next

section Effects

@[simp] theorem record_ok (ledger : Ledger) (call : VaultCall) (world : World) :
    ledger.record call (.ok (), world) = ⟨world, ledger.returned ++ [(call, ledger.world.now)]⟩ :=
  rfl

@[simp] theorem outcome_ok {α : Type} (result : α) (world : World) :
    outcome ((.ok result : Except PyError α), world) = (.ok (), world) := rfl

variable {crypto : CryptoLibrary} {ttlSeconds : Int} {ledger next : Ledger} {world : World}

theorem effects_refused {sessions : VaultSessionStore}
    (pruned : VaultSessionStore.Pruned ledger.world.now ledger.world.sessions sessions) :
    StepEffects crypto ttlSeconds ledger
      ⟨{ ledger.world with sessions := sessions }, ledger.returned⟩ :=
  { time := le_refl ledger.world.now
    vaults := .unchanged rfl fun _ => rfl
    sessions := .pruned pruned fun _ _ => rfl
    secrets := .unchanged rfl (fun _ => rfl) fun _ => rfl }

theorem effects_setupVault (userId : UUID) (passphrase : String) (freshSalt : TokenBytes 16)
    (nonce : TokenBytes 12) :
    StepEffects crypto ttlSeconds ledger
      (ledger.record (.setupVault userId passphrase freshSalt nonce)
        (VaultService.setupVault crypto ledger.world userId passphrase freshSalt nonce)) := by
  unfold VaultService.setupVault
  cases stored : ledger.world.database.vaults.get? userId with
  | some vault => exact effects_refused (.refl _ _)
  | none =>
    refine ⟨le_refl _, .setUp userId passphrase freshSalt nonce stored rfl ?_,
      .pruned (.refl _ _) (by simp), .unchanged rfl (by simp) (by simp)⟩
    intro other
    by_cases same : other = userId <;> simp [same]

theorem effects_unlockVault (userId : UUID) (passphrase : String) (freshSalt : TokenBytes 16)
    (sessionId : String) :
    StepEffects crypto ttlSeconds ledger
      (ledger.record (.unlockVault userId passphrase freshSalt sessionId)
        (outcome (VaultService.unlockVault crypto ttlSeconds ledger.world userId passphrase
          freshSalt sessionId))) := by
  unfold VaultService.unlockVault
  cases opened : VaultService.checkPassphrase crypto ledger.world.database userId passphrase
      freshSalt with
  | error reason => exact effects_refused (.refl _ _)
  | ok userKey =>
    refine ⟨le_refl _, .unchanged rfl (by simp), .unlocked userId sessionId passphrase freshSalt
      userKey opened rfl ?_, .unchanged rfl (by simp) (by simp)⟩
    intro other otherId
    by_cases same : other = userId ∧ otherId = sessionId <;> simp [same]

theorem effects_lockVault (userId : UUID) (sessionId : String) :
    StepEffects crypto ttlSeconds ledger
      (ledger.record (.lockVault userId sessionId)
        (.ok (), VaultService.lockVault ledger.world userId sessionId)) := by
  refine ⟨le_refl _, .unchanged rfl (by simp), .locked userId sessionId rfl ?_,
    .unchanged rfl (by simp) (by simp)⟩
  intro other otherId
  by_cases same : other = userId ∧ otherId = sessionId <;> simp [same]

theorem effects_createSecret (actorId userId : UUID) (sessionId : Option String) (type : SecretType)
    (aliasName externalUsername : Option String) (secret : String) (id : UUID)
    (random : SecretRandomness) :
    StepEffects crypto ttlSeconds ledger
      (ledger.record
        (.createSecret actorId userId sessionId type aliasName externalUsername secret id random)
        (outcome (UserSecretsService.createSecret crypto ledger.world actorId userId sessionId type
          aliasName externalUsername secret id random))) := by
  have pruned := requireUserKey_pruned ledger.world userId sessionId
  unfold UserSecretsService.createSecret
  cases required : VaultService.requireUserKey ledger.world userId sessionId with
  | mk found sessions =>
    rw [required] at pruned
    cases found with
    | error reason => exact effects_refused pruned
    | ok userKey =>
      refine ⟨le_refl _, .unchanged rfl (by simp), .pruned pruned (by simp),
        .created id _ secret ⟨userKey, random, sessionId, sessions, required, rfl⟩ rfl ?_ ?_⟩
      · intro other
        by_cases same : other = id <;> simp [same, UserSecret.setBlob]
      · intro other
        by_cases same : other = id <;> simp [same]

theorem effects_updateSecret (actorId userId secretId : UUID) (sessionId : Option String)
    (aliasName externalUsername secret : UserSecretsService.UpdateField)
    (random : SecretRandomness) :
    StepEffects crypto ttlSeconds ledger
      (ledger.record
        (.updateSecret actorId userId secretId sessionId aliasName externalUsername secret random)
        (outcome (UserSecretsService.updateSecret crypto ledger.world actorId userId secretId
          sessionId aliasName externalUsername secret random))) := by
  have pruned := requireUserKey_pruned ledger.world userId sessionId
  unfold UserSecretsService.updateSecret
  cases owned : UserSecretsService.ownedSecret ledger.world.database secretId userId with
  | error reason => exact effects_refused (.refl _ _)
  | ok found =>
    have listed := ownedSecret_ok.mp owned
    cases rotation : secret.join with
    | none =>
      exact ⟨le_refl _, .unchanged rfl (by simp), .pruned (.refl _ _) (by simp),
        .marked secretId found (UserSecretsService.updateMetadata found aliasName externalUsername)
          listed.1 rfl rfl rfl (by simp) (by simp [rotation])⟩
    | some plaintext =>
      simp only
      cases required : VaultService.requireUserKey ledger.world userId sessionId with
      | mk key sessions =>
        rw [required] at pruned
        cases key with
        | error reason => exact effects_refused pruned
        | ok userKey =>
          have made : VaultService.requireUserKey ledger.world found.userId sessionId =
              (.ok userKey, sessions) := by
            rw [listed.2, required]
          let row := (UserSecretsService.updateMetadata found aliasName externalUsername).setBlob
            (SecretCryptoService.encryptSecret crypto plaintext userKey random)
          refine ⟨le_refl _, .unchanged rfl (by simp), .pruned pruned (by simp),
            .rotated secretId found row plaintext listed.1 rfl
              ⟨userKey, random, sessionId, sessions, made, rfl⟩ rfl (by simp) ?_⟩
          intro other
          by_cases same : other = secretId <;> simp [rotation, same]

theorem effects_deleteSecret (actorId userId secretId : UUID) :
    StepEffects crypto ttlSeconds ledger
      (ledger.record (.deleteSecret actorId userId secretId)
        (UserSecretsService.deleteSecret ledger.world actorId userId secretId)) := by
  unfold UserSecretsService.deleteSecret
  cases UserSecretsService.ownedSecret ledger.world.database secretId userId with
  | error reason => exact effects_refused (.refl _ _)
  | ok found =>
    exact ⟨le_refl _, .unchanged rfl (by simp), .pruned (.refl _ _) (by simp),
      .deleted secretId rfl (by simp) (by simp)⟩

theorem effects_getSecret (secretId userId : UUID) (sessionId : Option String)
    (usageMeta : Option Metadata) :
    StepEffects crypto ttlSeconds ledger
      (ledger.record (.getSecretForInternalUse secretId userId sessionId usageMeta)
        (outcome (UserSecretsService.getSecretForInternalUse crypto ledger.world secretId userId
          sessionId usageMeta))) := by
  have pruned := requireUserKey_pruned ledger.world userId sessionId
  unfold UserSecretsService.getSecretForInternalUse
  cases owned : UserSecretsService.ownedSecret ledger.world.database secretId userId with
  | error reason => exact effects_refused (.refl _ _)
  | ok secret =>
    simp only
    cases required : VaultService.requireUserKey ledger.world userId sessionId with
    | mk key sessions =>
      rw [required] at pruned
      cases key with
      | error reason => exact effects_refused pruned
      | ok userKey =>
        simp only
        cases opened : UserSecretsService.openSecret crypto secret userKey with
        | error reason => exact effects_refused pruned
        | ok plaintext =>
          exact ⟨le_refl _, .unchanged rfl (by simp), .pruned pruned (by simp),
            .marked secretId secret (secret.markUsed usageMeta ledger.world.now)
              (ownedSecret_ok.mp owned).1 rfl rfl rfl (by simp) (by simp)⟩

theorem effects_step {label : VaultLabel}
    (stepped : (vaultMachine crypto ttlSeconds).step ledger label = some next) :
    StepEffects crypto ttlSeconds ledger next := by
  cases label with
  | advance elapsed =>
    cases stepped
    refine ⟨Int.le_add_of_nonneg_right (Int.natCast_nonneg elapsed), .unchanged rfl fun _ => rfl,
      .pruned (.refl _ _) fun _ _ => rfl, .unchanged rfl (fun _ => rfl) fun _ => rfl⟩
  | call call =>
    simp only [vaultMachine, ledgerStep, Option.ite_none_left_eq_some, Option.some.injEq] at stepped
    rw [← stepped.2]
    cases call with
    | setupVault => exact effects_setupVault ..
    | unlockVault => exact effects_unlockVault ..
    | lockVault => exact effects_lockVault ..
    | createSecret => exact effects_createSecret ..
    | updateSecret => exact effects_updateSecret ..
    | deleteSecret => exact effects_deleteSecret ..
    | getSecretForInternalUse => exact effects_getSecret ..

end Effects

end FireflyToolkit.Vault
