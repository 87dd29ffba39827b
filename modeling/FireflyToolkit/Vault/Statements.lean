import FireflyToolkit.Shared.Sessions
import FireflyToolkit.Vault.Services

set_option autoImplicit false

namespace FireflyToolkit.Vault

open OrderedDict Sessions

inductive RequestError
  | raised (error : PyError)
  | integrityError
  | staleDataError
  | objectDeletedError
  deriving DecidableEq, Repr

-- What a call asks of the database session of its request, which `get_db` closes at its end.
abbrev Statements (A : Type) := Program Database RequestError A

namespace UserSecretRepository

-- The flushed INSERT of a new row.
def create (row : UserSecret) (database : Database) : Except RequestError Database :=
  match database.secrets.get? row.id with
  | some _ => .error .integrityError
  | none => .ok { database with secrets := database.secrets.set row.id row }

-- The flushed UPDATE of a row that was read: it sets the columns that were assigned.
def update (secretId : UUID) (columns : UserSecret → UserSecret) (database : Database) :
    Except RequestError Database :=
  match database.secrets.get? secretId with
  | none => .error .staleDataError
  | some row => .ok { database with secrets := database.secrets.set secretId (columns row) }

-- The count is computed from the row as it was read and written as a number.
def markUsed (secretId : UUID) (found : UserSecret) (usageMeta : Option Metadata) (now : Time) :
    Database → Except RequestError Database :=
  update secretId fun row =>
    { row with
      usageCount := found.usageCount + 1
      lastUsedAt := some now
      lastUsedMeta := usageMeta.or row.lastUsedMeta }

def delete (secretId : UUID) (database : Database) : Except RequestError Database :=
  .ok { database with secrets := database.secrets.erase secretId }

end UserSecretRepository

namespace AuditLogRepository

def log {A : Type} (actorId : UUID) (action : String) (targetId : Option UUID)
    (metadata : Option Metadata) (now : Time) (next : Statements A) : Statements A :=
  .write (fun database => .ok (database.log actorId action targetId metadata now)) (.commit next)

end AuditLogRepository

namespace SecretRequests

open UserSecretsService

variable (crypto : CryptoLibrary) (sessions : VaultSessionStore) (now : Time)

def requireUserKey {A : Type} (userId : UUID) (sessionId : Option String)
    (next : ByteArray → Statements A) : Statements A :=
  .query fun view =>
    match (VaultService.requireUserKey ⟨view, sessions, now⟩ userId sessionId).1 with
    | .error error => .finished (.error (.raised error))
    | .ok userKey => next userKey

def ownedSecret {A : Type} (secretId userId : UUID) (next : UserSecret → Statements A) :
    Statements A :=
  .query fun view =>
    match UserSecretsService.ownedSecret view secretId userId with
    | .error error => .finished (.error (.raised error))
    | .ok found => next found

-- The commit expired the row, so that its attributes are read again.
def refreshed {A : Type} (secretId : UUID) (answer : UserSecret → A) : Statements A :=
  .query fun view =>
    match view.secrets.get? secretId with
    | none => .finished (.error .objectDeletedError)
    | some row => .finished (.ok (answer row))

def createSecret (actorId userId : UUID) (sessionId : Option String) (type : SecretType)
    (aliasName externalUsername : Option String) (secret : String) (id : UUID)
    (random : SecretRandomness) : Statements UserSecretReadModel :=
  requireUserKey sessions now userId sessionId fun userKey =>
    let blank : UserSecret :=
      { id := id, userId := userId, type := type, aliasName := aliasName
        externalUsername := externalUsername, ciphertext := none, secretNonce := none
        wrappedDek := none, wrappedDekNonce := none, cryptoVersion := none, usageCount := 0
        lastUsedAt := none, lastUsedMeta := none, createdAt := now }
    let row := blank.setBlob (SecretCryptoService.encryptSecret crypto secret userKey random)
    .write (UserSecretRepository.create row) <|
      AuditLogRepository.log actorId "user_secret.create" (some id)
        (some (createMetadata type aliasName externalUsername)) now <|
        refreshed id mapSecretToDomainReadModel

def updateSecret (actorId userId secretId : UUID) (sessionId : Option String)
    (aliasName externalUsername secret : UpdateField) (random : SecretRandomness) :
    Statements UserSecretReadModel :=
  ownedSecret secretId userId fun _ =>
    let recorded : Statements UserSecretReadModel :=
      AuditLogRepository.log actorId "user_secret.update" (some secretId)
        (some (updateLog aliasName externalUsername secret)) now <|
        refreshed secretId mapSecretToDomainReadModel
    let rotated : Statements UserSecretReadModel :=
      match secret.join with
      | none => recorded
      | some plaintext =>
          requireUserKey sessions now userId sessionId fun userKey =>
            let encrypted := SecretCryptoService.encryptSecret crypto plaintext userKey random
            .write (UserSecretRepository.update secretId (·.setBlob encrypted)) recorded
    if aliasName.isSome ∨ externalUsername.isSome then
      .write
        (UserSecretRepository.update secretId (updateMetadata · aliasName externalUsername)) rotated
    else rotated

def updateAlias (actorId userId secretId : UUID) (aliasName : Option String)
    (random : SecretRandomness) : Statements UserSecretReadModel :=
  updateSecret crypto sessions now actorId userId secretId none (some aliasName) none none random

def deleteSecret (actorId userId secretId : UUID) : Statements Unit :=
  ownedSecret secretId userId fun _ =>
    .write (UserSecretRepository.delete secretId) <|
      AuditLogRepository.log actorId "user_secret.delete" (some secretId) none now <|
        .finished (.ok ())

def getSecretForInternalUse (secretId userId : UUID) (sessionId : Option String)
    (usageMeta : Option Metadata) : Statements UserSecretModel :=
  ownedSecret secretId userId fun found =>
    requireUserKey sessions now userId sessionId fun userKey =>
      match openSecret crypto found userKey with
      | .error error => .finished (.error (.raised error))
      | .ok plaintext =>
          .write (UserSecretRepository.markUsed secretId found usageMeta now) <|
            AuditLogRepository.log found.userId "user_secret.used" (some found.id) usageMeta now <|
              refreshed secretId fun row =>
                { mapSecretToDomainReadModel row with secret := plaintext }

end SecretRequests

end FireflyToolkit.Vault
