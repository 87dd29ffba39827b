import FireflyToolkit.Allegro.Router
import FireflyToolkit.Shared.PyText
import FireflyToolkit.Shared.Responders
import FireflyToolkit.Vault.SessionMap

set_option autoImplicit false

namespace FireflyToolkit.Vault

open OrderedDict PyText
open Allegro (HTTPException User internalServerError requireActiveUser)

def maxSecretAliasLength : Nat := 16

def normalizeAlias (value : Option String) : Option String :=
  (value.map fun text => String.ofList (strip text.toList)).filter (· ≠ "")

-- The length is checked after the normalization; `none` is a refused payload.
def aliasField (value : Option String) : Option (Option String) :=
  let normalized := normalizeAlias value
  if (normalized.getD "").length ≤ maxSecretAliasLength then some normalized else none

structure CreateSecretPayload where
  type : SecretType
  aliasName : Option String
  externalUsername : Option String
  secret : String

def CreateSecretPayload.validate (payload : CreateSecretPayload) : Option CreateSecretPayload :=
  (aliasField payload.aliasName).map fun normalized =>
    { payload with aliasName := normalized, externalUsername := normalizeAlias payload.externalUsername }

structure UpdateSecretPayload where
  aliasName : UserSecretsService.UpdateField
  externalUsername : UserSecretsService.UpdateField
  secret : UserSecretsService.UpdateField

def UpdateSecretPayload.validate (payload : UpdateSecretPayload) : Option UpdateSecretPayload :=
  let username := payload.externalUsername.map normalizeAlias
  match payload.aliasName with
  | none => some { payload with externalUsername := username }
  | some value => (aliasField value).map fun normalized =>
      { payload with aliasName := some normalized, externalUsername := username }

structure SessionHeaders where
  cookie : Option String
  header : Option String

-- `vault_session_cookie or vault_session_header`
def getVaultSessionId (headers : SessionHeaders) : Option String :=
  match headers.cookie with
  | none | some "" => headers.header
  | some cookie => some cookie

-- A request carries the random values that its handler draws.
inductive SecretsRequest
  | setupVault (passphrase : String) (freshSalt : TokenBytes 16) (nonce : TokenBytes 12)
  | unlockVault (passphrase : String) (freshSalt : TokenBytes 16) (sessionId : String)
  | lockVault (headers : SessionHeaders)
  | getVaultStatus (headers : SessionHeaders)
  | createSecret (payload : CreateSecretPayload) (headers : SessionHeaders) (id : UUID)
      (random : SecretRandomness)
  | listSecrets
  | updateSecret (secretId : UUID) (payload : UpdateSecretPayload) (headers : SessionHeaders)
      (random : SecretRandomness)
  | deleteSecret (secretId : UUID)

structure VaultStatus where
  configured : Bool
  unlocked : Bool
  expiresAt : Option Time

inductive CookieChange
  | kept
  | set (value : String) (maxAge : Int)
  | deleted

inductive SecretsReply
  | vaultStatus (status : VaultStatus) (cookie : CookieChange)
  | secret (statusCode : Nat) (secret : UserSecretReadModel)
  | secrets (secrets : List UserSecretReadModel)
  | noContent
  | unprocessableEntity

def userSecretHttpError : ApplicationError → Option HTTPException
  | .secretNotAccessible => some ⟨404, "Secret not found"⟩
  | .vaultAlreadyConfigured => some ⟨409, "Vault already configured"⟩
  | .vaultNotConfigured => some ⟨409, "Vault not configured"⟩
  | .invalidVaultPassphrase => some ⟨401, "Invalid vault passphrase"⟩
  | .vaultLocked => some ⟨423, "Vault is locked"⟩
  | .vaultSessionExpired => some ⟨401, "Vault session expired"⟩
  | .secretDecryptionFailed => some ⟨422, "Secret decryption failed"⟩
  | _ => none

-- What becomes of an exception under an `except` clause for these kinds.
def raised (caught : List ApplicationError) : PyError → HTTPException
  | .application kind _ =>
      if kind ∈ caught then (userSecretHttpError kind).getD internalServerError else internalServerError
  | _ => internalServerError

namespace VaultService

def isConfigured (database : Database) (userId : UUID) : Bool := (database.vaults.get? userId).isSome

end VaultService

section Handlers

variable (crypto : CryptoLibrary) (ttlSeconds : Int)

def setupVault (world : World) (userId : UUID) (passphrase : String) (freshSalt : TokenBytes 16)
    (nonce : TokenBytes 12) : Except HTTPException SecretsReply × World :=
  if passphrase = "" then (.ok .unprocessableEntity, world)
  else
    match VaultService.setupVault crypto world userId passphrase freshSalt nonce with
    | (.error error, next) => (.error (raised [.vaultAlreadyConfigured] error), next)
    | (.ok _, next) => (.ok (.vaultStatus ⟨true, false, none⟩ .kept), next)

def unlockVault (world : World) (userId : UUID) (passphrase : String) (freshSalt : TokenBytes 16)
    (sessionId : String) : Except HTTPException SecretsReply × World :=
  if passphrase = "" then (.ok .unprocessableEntity, world)
  else
    match VaultService.unlockVault crypto ttlSeconds world userId passphrase freshSalt sessionId with
    | (.error error, next) => (.error (raised [.vaultNotConfigured, .invalidVaultPassphrase] error), next)
    | (.ok session, next) =>
        let (expiresAt, sessions) := VaultService.getSessionExpiresAt next userId (some session)
        (.ok (.vaultStatus ⟨true, true, expiresAt⟩ (.set session ttlSeconds)), { next with sessions := sessions })

def lockVault (world : World) (userId : UUID) (session : Option String) :
    Except HTTPException SecretsReply × World :=
  let next := (session.map (VaultService.lockVault world userId)).getD world
  (.ok (.vaultStatus ⟨VaultService.isConfigured next.database userId, false, none⟩ .deleted), next)

-- Both reads of the session are made at one time here.
def getVaultStatus (world : World) (userId : UUID) (session : Option String) :
    Except HTTPException SecretsReply × World :=
  if VaultService.isConfigured world.database userId then
    match VaultService.isUnlocked world userId session with
    | (false, sessions) => (.ok (.vaultStatus ⟨true, false, none⟩ .kept), { world with sessions := sessions })
    | (true, sessions) =>
        let (expiresAt, after) :=
          VaultService.getSessionExpiresAt { world with sessions := sessions } userId session
        (.ok (.vaultStatus ⟨true, true, expiresAt⟩ .kept), { world with sessions := after })
  else (.ok (.vaultStatus ⟨false, false, none⟩ .kept), world)

-- An id that is taken violates the primary key.
def createSecret (world : World) (userId : UUID) (payload : CreateSecretPayload) (session : Option String)
    (id : UUID) (random : SecretRandomness) : Except HTTPException SecretsReply × World :=
  match payload.validate with
  | none => (.ok .unprocessableEntity, world)
  | some valid =>
      match UserSecretsService.createSecret crypto world userId userId session valid.type valid.aliasName
          valid.externalUsername valid.secret id random with
      | (.error error, next) =>
          (.error (raised [.vaultNotConfigured, .vaultLocked, .vaultSessionExpired] error), next)
      | (.ok secret, next) =>
          if (world.database.secrets.get? id).isSome then
            (.error internalServerError, { world with sessions := next.sessions })
          else (.ok (.secret 201 secret), next)

def listSecrets (world : World) (userId : UUID) : Except HTTPException SecretsReply × World :=
  (.ok (.secrets (UserSecretsService.listSecrets world.database userId)), world)

def updateSecret (world : World) (userId secretId : UUID) (payload : UpdateSecretPayload)
    (session : Option String) (random : SecretRandomness) : Except HTTPException SecretsReply × World :=
  match payload.validate with
  | none => (.ok .unprocessableEntity, world)
  | some valid =>
      match UserSecretsService.updateSecret crypto world userId userId secretId session valid.aliasName
          valid.externalUsername valid.secret random with
      | (.error error, next) =>
          (.error (raised [.vaultNotConfigured, .vaultLocked, .vaultSessionExpired, .secretDecryptionFailed,
            .secretNotAccessible] error), next)
      | (.ok secret, next) => (.ok (.secret 200 secret), next)

def deleteSecret (world : World) (userId secretId : UUID) : Except HTTPException SecretsReply × World :=
  match UserSecretsService.deleteSecret world userId userId secretId with
  | (.error error, next) => (.error (raised [.secretNotAccessible] error), next)
  | (.ok _, next) => (.ok .noContent, next)

def handle (world : World) (userId : UUID) : SecretsRequest → Except HTTPException SecretsReply × World
  | .setupVault passphrase freshSalt nonce => setupVault crypto world userId passphrase freshSalt nonce
  | .unlockVault passphrase freshSalt sessionId =>
      unlockVault crypto ttlSeconds world userId passphrase freshSalt sessionId
  | .lockVault headers => lockVault world userId (getVaultSessionId headers)
  | .getVaultStatus headers => getVaultStatus world userId (getVaultSessionId headers)
  | .createSecret payload headers id random =>
      createSecret crypto world userId payload (getVaultSessionId headers) id random
  | .listSecrets => listSecrets world userId
  | .updateSecret secretId payload headers random =>
      updateSecret crypto world userId secretId payload (getVaultSessionId headers) random
  | .deleteSecret secretId => deleteSecret world userId secretId

end Handlers

structure SecretsApi where
  users : Dict UUID User
  world : World

inductive ApiInput
  | request (userId : UUID) (request : SecretsRequest)
  | use (secretId userId : UUID) (session : Option String) (usageMeta : Option Metadata)
  | setActive (userId : UUID) (isActive : Bool)
  | advance (elapsed : Nat)

inductive ApiReply
  | answered (answer : Except HTTPException SecretsReply)
  | used (secret : Except PyError String)
  | nothing

section Service

variable (crypto : CryptoLibrary) (ttlSeconds : Int)

def respond (api : SecretsApi) : ApiInput → ApiReply × SecretsApi
  | .request userId request =>
      match requireActiveUser api.users userId with
      | .error exception => (.answered (.error exception), api)
      | .ok _ =>
          let (answer, world) := handle crypto ttlSeconds api.world userId request
          (.answered answer, { api with world := world })
  | .use secretId userId session usageMeta =>
      let (secret, world) :=
        UserSecretsService.getSecretForInternalUse crypto api.world secretId userId session usageMeta
      (.used (secret.map UserSecretModel.secret), { api with world := world })
  | .setActive userId isActive => (.nothing, { api with users := api.users.set userId ⟨isActive⟩ })
  | .advance elapsed => (.nothing, { api with world := { api.world with now := api.world.now + elapsed } })

def secretsApi : Responder SecretsApi ApiInput ApiReply := ⟨respond crypto ttlSeconds⟩

end Service

def SecretsApi.initial (now : Time) : SecretsApi :=
  ⟨Dict.empty, ⟨⟨Dict.empty, Dict.empty, []⟩, .initial, now⟩⟩

end FireflyToolkit.Vault
