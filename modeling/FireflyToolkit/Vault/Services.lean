import FireflyToolkit.Vault.SecretCrypto
import FireflyToolkit.Vault.SessionStore

set_option autoImplicit false

namespace FireflyToolkit.Vault

open OrderedDict

inductive SecretType
  | allegro | amazon | session | apiToken
  deriving DecidableEq, Repr

def SecretType.value : SecretType → String
  | allegro => "allegro"
  | amazon => "amazon"
  | session => "session"
  | apiToken => "api_token"

inductive MetadataValue
  | text (value : String)
  | flag (value : Bool)
  | null
  deriving DecidableEq, Repr

def MetadataValue.ofOption : Option String → MetadataValue
  | some value => text value
  | none => null

abbrev Metadata := List (String × MetadataValue)

structure AuditLog where
  actorId : UUID
  action : String
  targetId : Option UUID
  metadata : Option Metadata
  createdAt : Time
  deriving DecidableEq

structure UserSecretVault where
  kdfSalt : Option ByteArray
  kdfParamsJson : Option KdfParams
  vaultCheckCiphertext : Option ByteArray
  vaultCheckNonce : Option ByteArray

structure UserSecret where
  id : UUID
  userId : UUID
  type : SecretType
  aliasName : Option String
  externalUsername : Option String
  ciphertext : Option ByteArray
  secretNonce : Option ByteArray
  wrappedDek : Option ByteArray
  wrappedDekNonce : Option ByteArray
  cryptoVersion : Option Int
  usageCount : Int
  lastUsedAt : Option Time
  lastUsedMeta : Option Metadata
  createdAt : Time

structure UserSecretReadModel where
  id : UUID
  type : SecretType
  aliasName : Option String
  externalUsername : Option String
  usageCount : Int
  lastUsedAt : Option Time
  createdAt : Time

structure UserSecretModel extends UserSecretReadModel where
  secret : String

structure Database where
  vaults : Dict UUID UserSecretVault
  secrets : Dict UUID UserSecret
  auditLog : List AuditLog

def Database.log (database : Database) (actorId : UUID) (action : String) (targetId : Option UUID)
    (metadata : Option Metadata) (now : Time) : Database :=
  { database with auditLog := database.auditLog ++ [⟨actorId, action, targetId, metadata, now⟩] }

def UserSecret.setBlob (secret : UserSecret) (encrypted : EncryptedSecretBlob) : UserSecret :=
  { secret with
    ciphertext := some encrypted.ciphertext
    secretNonce := some encrypted.secretNonce
    wrappedDek := some encrypted.wrappedDek
    wrappedDekNonce := some encrypted.wrappedDekNonce
    cryptoVersion := some encrypted.cryptoVersion }

def UserSecret.markUsed (secret : UserSecret) (usageMeta : Option Metadata) (now : Time) :
    UserSecret :=
  { secret with
    usageCount := secret.usageCount + 1
    lastUsedAt := some now
    lastUsedMeta := usageMeta.or secret.lastUsedMeta }

def mapSecretToDomainReadModel (secret : UserSecret) : UserSecretReadModel :=
  { id := secret.id, type := secret.type, aliasName := secret.aliasName
    externalUsername := secret.externalUsername, usageCount := secret.usageCount
    lastUsedAt := secret.lastUsedAt, createdAt := secret.createdAt }

-- A request reads and writes the database, the process-wide session store and the clock. A request
-- that raises leaves no trace in the database, whose session is closed uncommitted; the session
-- store keeps what the request did to it.
structure World where
  database : Database
  sessions : VaultSessionStore
  now : Time

def vaultNotConfigured : PyError := .application .vaultNotConfigured "Vault not configured"

namespace VaultService

variable (crypto : CryptoLibrary) (ttlSeconds : Int)

def getVaultOrRaise (database : Database) (userId : UUID) : Except PyError UserSecretVault :=
  match database.vaults.get? userId with
  | none => .error vaultNotConfigured
  | some vault => .ok vault

def buildVaultCheck (vault : UserSecretVault) : Except PyError VaultCheckBlob :=
  match vault.vaultCheckCiphertext, vault.vaultCheckNonce with
  | some ciphertext, some nonce => .ok ⟨ciphertext, nonce⟩
  | _, _ => .error vaultNotConfigured

def getKdfParams (vault : UserSecretVault) : Except PyError KdfParams :=
  match vault.kdfSalt, vault.kdfParamsJson with
  | some _, some params => .ok params
  | _, _ => .error vaultNotConfigured

def newVault (passphrase : String) (freshSalt : TokenBytes 16) (nonce : TokenBytes 12) :
    UserSecretVault :=
  let derivedKey := SecretCryptoService.deriveUserKey crypto passphrase none none freshSalt
  let vaultCheck := SecretCryptoService.createVaultCheck crypto derivedKey.key nonce
  { kdfSalt := some derivedKey.salt, kdfParamsJson := some derivedKey.params
    vaultCheckCiphertext := some vaultCheck.ciphertext, vaultCheckNonce := some vaultCheck.nonce }

def setupVault (world : World) (userId : UUID) (passphrase : String) (freshSalt : TokenBytes 16)
    (nonce : TokenBytes 12) : Except PyError Unit × World :=
  match world.database.vaults.get? userId with
  | some _ =>
      (.error (.application .vaultAlreadyConfigured "Vault already configured"), world)
  | none =>
      let vault := newVault crypto passphrase freshSalt nonce
      let stored := { world.database with vaults := world.database.vaults.set userId vault }
      (.ok (), { world with database := stored.log userId "vault.setup" none none world.now })

def checkPassphrase (database : Database) (userId : UUID) (passphrase : String)
    (freshSalt : TokenBytes 16) : Except PyError ByteArray := do
  let vault ← getVaultOrRaise database userId
  let params ← getKdfParams vault
  let derivedKey :=
    SecretCryptoService.deriveUserKey crypto passphrase vault.kdfSalt (some params) freshSalt
  let vaultCheck ← buildVaultCheck vault
  if SecretCryptoService.verifyVaultCheck crypto derivedKey.key vaultCheck then .ok derivedKey.key
  else .error (.application .invalidVaultPassphrase "Invalid vault passphrase")

-- `freshSalt` and `sessionId` are the random values the call draws.
def unlockVault (world : World) (userId : UUID) (passphrase : String) (freshSalt : TokenBytes 16)
    (sessionId : String) : Except PyError String × World :=
  match checkPassphrase crypto world.database userId passphrase freshSalt with
  | .error error => (.error error, world)
  | .ok userKey =>
      (.ok sessionId,
        { world with
          database := world.database.log userId "vault.unlock" none none world.now
          sessions := world.sessions.create userId userKey ttlSeconds world.now sessionId })

def lockVault (world : World) (userId : UUID) (sessionId : String) : World :=
  { world with
    database := world.database.log userId "vault.lock" none none world.now
    sessions := world.sessions.invalidate userId sessionId }

def requireUserKey (world : World) (userId : UUID) (sessionId : Option String) :
    Except PyError ByteArray × VaultSessionStore :=
  match getVaultOrRaise world.database userId with
  | .error error => (.error error, world.sessions)
  | .ok _ =>
      match sessionId with
      | none => (.error (.application .vaultLocked "Vault session missing"), world.sessions)
      | some session =>
          match world.sessions.getUserKey world.now userId session with
          | (none, sessions) =>
              (.error (.application .vaultSessionExpired "Vault session expired"), sessions)
          | (some userKey, sessions) => (.ok userKey, sessions)

end VaultService

def secretNotFound : PyError := .application .secretNotAccessible "Secret not found"

namespace UserSecretsService

variable (crypto : CryptoLibrary)

def ownedSecret (database : Database) (secretId userId : UUID) : Except PyError UserSecret :=
  match database.secrets.get? secretId with
  | none => .error secretNotFound
  | some secret => if secret.userId ≠ userId then .error secretNotFound else .ok secret

def createMetadata (type : SecretType) (aliasName externalUsername : Option String) : Metadata :=
  [("type", .text type.value), ("alias", .ofOption aliasName),
    ("external_username", .ofOption externalUsername)]

def createSecret (world : World) (actorId userId : UUID) (sessionId : Option String)
    (type : SecretType) (aliasName externalUsername : Option String) (secret : String) (id : UUID)
    (random : SecretRandomness) : Except PyError UserSecretReadModel × World :=
  match VaultService.requireUserKey world userId sessionId with
  | (.error error, sessions) => (.error error, { world with sessions := sessions })
  | (.ok userKey, sessions) =>
      let blank : UserSecret :=
        { id := id, userId := userId, type := type, aliasName := aliasName
          externalUsername := externalUsername, ciphertext := none, secretNonce := none
          wrappedDek := none, wrappedDekNonce := none, cryptoVersion := none, usageCount := 0
          lastUsedAt := none, lastUsedMeta := none, createdAt := world.now }
      let row := blank.setBlob (SecretCryptoService.encryptSecret crypto secret userKey random)
      let stored := { world.database with secrets := world.database.secrets.set id row }
      (.ok (mapSecretToDomainReadModel row),
        { world with
          sessions := sessions
          database := stored.log actorId "user_secret.create" (some id)
            (some (createMetadata type aliasName externalUsername)) world.now })

-- An argument of `update_secret` that may be left out: `none` is the default `...`.
abbrev UpdateField := Option (Option String)

def updateMetadata (secret : UserSecret) (aliasName externalUsername : UpdateField) : UserSecret :=
  { secret with
    aliasName := aliasName.getD secret.aliasName
    externalUsername := externalUsername.getD secret.externalUsername }

def updateLog (aliasName externalUsername secret : UpdateField) : Metadata :=
  [("alias", .ofOption aliasName.join), ("external_username", .ofOption externalUsername.join),
    ("secret_rotated", .flag secret.join.isSome)]

def updateSecret (world : World) (actorId userId secretId : UUID) (sessionId : Option String)
    (aliasName externalUsername secret : UpdateField) (random : SecretRandomness) :
    Except PyError UserSecretReadModel × World :=
  match ownedSecret world.database secretId userId with
  | .error error => (.error error, world)
  | .ok found =>
      let changed := updateMetadata found aliasName externalUsername
      let finish (row : UserSecret) (sessions : VaultSessionStore) :
          Except PyError UserSecretReadModel × World :=
        let stored := { world.database with secrets := world.database.secrets.set secretId row }
        (.ok (mapSecretToDomainReadModel row),
          { world with
            sessions := sessions
            database := stored.log actorId "user_secret.update" (some secretId)
              (some (updateLog aliasName externalUsername secret)) world.now })
      match secret.join with
      | none => finish changed world.sessions
      | some plaintext =>
          match VaultService.requireUserKey world userId sessionId with
          | (.error error, sessions) => (.error error, { world with sessions := sessions })
          | (.ok userKey, sessions) =>
              let encrypted := SecretCryptoService.encryptSecret crypto plaintext userKey random
              finish (changed.setBlob encrypted) sessions

def deleteSecret (world : World) (actorId userId secretId : UUID) : Except PyError Unit × World :=
  match ownedSecret world.database secretId userId with
  | .error error => (.error error, world)
  | .ok _ =>
      let stored := { world.database with secrets := world.database.secrets.erase secretId }
      (.ok (),
        { world with
          database := stored.log actorId "user_secret.delete" (some secretId) none world.now })

def listSecrets (database : Database) (userId : UUID) : List UserSecretReadModel :=
  (database.secrets.values.filter fun secret => secret.userId = userId).map
    mapSecretToDomainReadModel

def getEncryptedBlob (secret : UserSecret) : Except PyError EncryptedSecretBlob :=
  match secret.ciphertext, secret.secretNonce, secret.wrappedDek, secret.wrappedDekNonce,
    secret.cryptoVersion with
  | some ciphertext, some secretNonce, some wrappedDek, some wrappedDekNonce, some version =>
      .ok ⟨ciphertext, secretNonce, wrappedDek, wrappedDekNonce, version⟩
  | _, _, _, _, _ => .error secretDecryptionFailed

-- The plaintext of a row; a ValueError of the decryption becomes a failed decryption.
def openSecret (secret : UserSecret) (userKey : ByteArray) : Except PyError String := do
  let blob ← getEncryptedBlob secret
  match SecretCryptoService.decryptSecret crypto blob userKey with
  | .error (.valueError _) => .error secretDecryptionFailed
  | .error error => .error error
  | .ok plaintext => .ok plaintext

def getSecretForInternalUse (world : World) (secretId userId : UUID) (sessionId : Option String)
    (usageMeta : Option Metadata) : Except PyError UserSecretModel × World :=
  match ownedSecret world.database secretId userId with
  | .error error => (.error error, world)
  | .ok secret =>
      match VaultService.requireUserKey world userId sessionId with
      | (.error error, sessions) => (.error error, { world with sessions := sessions })
      | (.ok userKey, sessions) =>
          match openSecret crypto secret userKey with
          | .error error => (.error error, { world with sessions := sessions })
          | .ok plaintext =>
              let used := secret.markUsed usageMeta world.now
              let stored :=
                { world.database with secrets := world.database.secrets.set secretId used }
              (.ok { mapSecretToDomainReadModel used with secret := plaintext },
                { world with
                  sessions := sessions
                  database := stored.log secret.userId "user_secret.used" (some secret.id)
                    usageMeta world.now })

end UserSecretsService

section Specs

variable (crypto : CryptoLibrary)

def userKeyOf (passphrase : String) (salt : TokenBytes 16) : ByteArray :=
  crypto.hashSecretRaw passphrase.toUTF8 salt defaultKdfParams

theorem newVault_eq (passphrase : String) (salt : TokenBytes 16) (nonce : TokenBytes 12) :
    VaultService.newVault crypto passphrase salt nonce =
      let vaultCheck :=
        SecretCryptoService.createVaultCheck crypto (userKeyOf crypto passphrase salt) nonce
      { kdfSalt := some salt.val, kdfParamsJson := some defaultKdfParams
        vaultCheckCiphertext := some vaultCheck.ciphertext
        vaultCheckNonce := some vaultCheck.nonce } := rfl

theorem deriveUserKey_stored (passphrase : String) (salt freshSalt : TokenBytes 16) :
    SecretCryptoService.deriveUserKey crypto passphrase (some salt) (some defaultKdfParams)
        freshSalt = ⟨userKeyOf crypto passphrase salt, salt, defaultKdfParams⟩ := by
  have nonempty : salt.val.isEmpty = false := by
    simp [ByteArray.isEmpty, salt.property]
  simp [SecretCryptoService.deriveUserKey, nonempty, Option.filter, userKeyOf]

variable {crypto}

theorem checkPassphrase_newVault (lawful : crypto.Lawful) {database : Database} {userId : UUID}
    {chosen entered : String} {salt freshSalt : TokenBytes 16} {nonce : TokenBytes 12}
    {userKey : ByteArray}
    (stored : database.vaults.get? userId = some (VaultService.newVault crypto chosen salt nonce))
    (opened : VaultService.checkPassphrase crypto database userId entered freshSalt = .ok userKey) :
    userKeyOf crypto entered salt = userKey ∧ userKeyOf crypto chosen salt = userKey := by
  have verified := verifyVaultCheck_created lawful (userKeyOf crypto chosen salt)
    (userKeyOf crypto entered salt) nonce
  rw [newVault_eq] at stored
  simp only [VaultService.checkPassphrase, VaultService.getVaultOrRaise, stored,
    VaultService.getKdfParams, VaultService.buildVaultCheck, deriveUserKey_stored, bind,
    Except.bind] at opened
  split at opened
  next passed =>
    have same := verified.mp passed
    have entry := Except.ok.inj opened
    exact ⟨entry, same ▸ entry⟩
  next => cases opened

theorem checkPassphrase_vault {database : Database} {userId : UUID} {entered : String}
    {freshSalt : TokenBytes 16} {userKey : ByteArray}
    (opened : VaultService.checkPassphrase crypto database userId entered freshSalt = .ok userKey) :
    ∃ vault, database.vaults.get? userId = some vault := by
  cases stored : database.vaults.get? userId with
  | some vault => exact ⟨vault, rfl⟩
  | none =>
    simp [VaultService.checkPassphrase, VaultService.getVaultOrRaise, stored, bind,
      Except.bind] at opened

theorem requireUserKey_pruned (world : World) (userId : UUID) (sessionId : Option String) :
    VaultSessionStore.Pruned world.now world.sessions
      (VaultService.requireUserKey world userId sessionId).2 := by
  unfold VaultService.requireUserKey
  cases VaultService.getVaultOrRaise world.database userId with
  | error reason => exact .refl _ _
  | ok vault =>
    cases sessionId with
    | none => exact .refl _ _
    | some session =>
      have pruned := world.sessions.getUserKey_pruned world.now userId session
      cases found : world.sessions.getUserKey world.now userId session with
      | mk userKey sessions =>
        rw [found] at pruned
        cases userKey <;> simpa [found] using pruned

theorem requireUserKey_ok {world : World} {userId : UUID} {sessionId : Option String}
    {userKey : ByteArray} {sessions : VaultSessionStore} :
    VaultService.requireUserKey world userId sessionId = (.ok userKey, sessions) ↔
      (∃ vault, world.database.vaults.get? userId = some vault) ∧
        ∃ session, sessionId = some session ∧
          world.sessions.getUserKey world.now userId session = (some userKey, sessions) := by
  unfold VaultService.requireUserKey VaultService.getVaultOrRaise
  cases world.database.vaults.get? userId with
  | none => simp
  | some vault =>
    cases sessionId with
    | none => simp
    | some session =>
      cases found : world.sessions.getUserKey world.now userId session with
      | mk active remaining => cases active <;> simp [found]

theorem ownedSecret_ok {database : Database} {secretId userId : UUID} {secret : UserSecret} :
    UserSecretsService.ownedSecret database secretId userId = .ok secret ↔
      database.secrets.get? secretId = some secret ∧ secret.userId = userId := by
  unfold UserSecretsService.ownedSecret
  cases database.secrets.get? secretId with
  | none => simp
  | some found =>
    by_cases own : found.userId = userId
    next =>
      simp only [own, ne_eq, not_true_eq_false, if_false, Except.ok.injEq, Option.some.injEq]
      constructor
      · intro same
        exact ⟨same, same ▸ own⟩
      · intro both
        exact both.1
    next =>
      simp only [own, ne_eq, not_false_eq_true, if_true, Option.some.injEq, reduceCtorEq, false_iff]
      rintro ⟨rfl, same⟩
      exact own same

theorem openSecret_encrypted (lawful : crypto.Lawful) {secret : UserSecret} {plaintext : String}
    {userKey : ByteArray} {random : SecretRandomness}
    (blob : UserSecretsService.getEncryptedBlob secret =
      .ok (SecretCryptoService.encryptSecret crypto plaintext userKey random)) :
    UserSecretsService.openSecret crypto secret userKey = .ok plaintext := by
  simp [UserSecretsService.openSecret, blob, bind, Except.bind, decryptSecret_encrypted lawful]

theorem getSecret_ok {world : World} {secretId userId : UUID} {sessionId : Option String}
    {usageMeta : Option Metadata} {plaintext : String} :
    (∃ model after, UserSecretsService.getSecretForInternalUse crypto world secretId userId
        sessionId usageMeta = (.ok model, after) ∧ model.secret = plaintext) ↔
      ∃ secret userKey sessions,
        UserSecretsService.ownedSecret world.database secretId userId = .ok secret ∧
        VaultService.requireUserKey world userId sessionId = (.ok userKey, sessions) ∧
        UserSecretsService.openSecret crypto secret userKey = .ok plaintext := by
  unfold UserSecretsService.getSecretForInternalUse
  cases UserSecretsService.ownedSecret world.database secretId userId with
  | error reason => simp
  | ok secret =>
    cases VaultService.requireUserKey world userId sessionId with
    | mk key sessions =>
      cases key with
      | error reason => simp
      | ok userKey =>
        cases opened : UserSecretsService.openSecret crypto secret userKey with
        | error reason => simp [opened]
        | ok text => simp [opened]

end Specs

end FireflyToolkit.Vault
