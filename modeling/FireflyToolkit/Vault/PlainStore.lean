import FireflyToolkit.Shared.RelatedDicts
import FireflyToolkit.Vault.Router

set_option autoImplicit false

namespace FireflyToolkit.Vault

open OrderedDict
open Allegro (HTTPException User internalServerError requireActiveUser)

structure PlainSecret where
  owner : UUID
  shown : UserSecretReadModel
  plaintext : String

def PlainSecret.renamed (secret : PlainSecret) (aliasName externalUsername : UserSecretsService.UpdateField) :
    PlainSecret :=
  { secret with shown := { secret.shown with
      aliasName := aliasName.getD secret.shown.aliasName
      externalUsername := externalUsername.getD secret.shown.externalUsername } }

def PlainSecret.used (secret : PlainSecret) (now : Time) : PlainSecret :=
  { secret with shown := { secret.shown with
      usageCount := secret.shown.usageCount + 1, lastUsedAt := some now } }

-- What the service is for: secrets in clear text, behind the passphrases of their owners.
structure PlainStore where
  vaults : Dict UUID (String × TokenBytes 16)
  sessions : Dict (UUID × String) Time
  secrets : Dict UUID PlainSecret
  now : Time

inductive Refusal
  | notConfigured | locked | expired

def Refusal.http : Refusal → HTTPException
  | notConfigured => ⟨409, "Vault not configured"⟩
  | locked => ⟨423, "Vault is locked"⟩
  | expired => ⟨401, "Vault session expired"⟩

def Refusal.error : Refusal → PyError
  | notConfigured => vaultNotConfigured
  | locked => .application .vaultLocked "Vault session missing"
  | expired => .application .vaultSessionExpired "Vault session expired"

namespace PlainStore

def initial (now : Time) : PlainStore := ⟨Dict.empty, Dict.empty, Dict.empty, now⟩

-- `opens entered chosen salt` says whether a passphrase opens a vault; apart from collisions of the
-- key derivation it does when it is the chosen one.
variable (opens : String → String → TokenBytes 16 → Bool) (ttlSeconds : Int)

def live (store : PlainStore) (userId : UUID) (session : Option String) : Option Time :=
  session.bind fun id => (store.sessions.get? (userId, id)).filter (store.now < ·)

def refusal (store : PlainStore) (userId : UUID) (session : Option String) : Option Refusal :=
  if (store.vaults.get? userId).isNone then some .notConfigured
  else if session.isNone then some .locked
  else if (store.live userId session).isNone then some .expired
  else none

def owned (store : PlainStore) (secretId userId : UUID) : Option PlainSecret :=
  (store.secrets.get? secretId).filter (·.owner = userId)

def put (store : PlainStore) (secretId : UUID) (secret : PlainSecret) : PlainStore :=
  { store with secrets := store.secrets.set secretId secret }

def setup (store : PlainStore) (userId : UUID) (passphrase : String) (salt : TokenBytes 16) :
    Except HTTPException SecretsReply × PlainStore :=
  if passphrase = "" then (.ok .unprocessableEntity, store)
  else if (store.vaults.get? userId).isSome then (.error ⟨409, "Vault already configured"⟩, store)
  else (.ok (.vaultStatus ⟨true, false, none⟩ .kept),
    { store with vaults := store.vaults.set userId (passphrase, salt) })

def unlock (store : PlainStore) (userId : UUID) (passphrase sessionId : String) :
    Except HTTPException SecretsReply × PlainStore :=
  if passphrase = "" then (.ok .unprocessableEntity, store)
  else
    match store.vaults.get? userId with
    | none => (.error ⟨409, "Vault not configured"⟩, store)
    | some (chosen, salt) =>
        if opens passphrase chosen salt then
          let next : PlainStore := { store with
            sessions := store.sessions.set (userId, sessionId) (store.now + seconds ttlSeconds) }
          (.ok (.vaultStatus ⟨true, true, next.live userId (some sessionId)⟩ (.set sessionId ttlSeconds)), next)
        else (.error ⟨401, "Invalid vault passphrase"⟩, store)

def lock (store : PlainStore) (userId : UUID) (session : Option String) :
    Except HTTPException SecretsReply × PlainStore :=
  (.ok (.vaultStatus ⟨(store.vaults.get? userId).isSome, false, none⟩ .deleted),
    { store with sessions := (session.map fun id => store.sessions.erase (userId, id)).getD store.sessions })

def status (store : PlainStore) (userId : UUID) (session : Option String) :
    Except HTTPException SecretsReply × PlainStore :=
  let configured := (store.vaults.get? userId).isSome
  let expiresAt := if configured then store.live userId session else none
  (.ok (.vaultStatus ⟨configured, expiresAt.isSome, expiresAt⟩ .kept), store)

def create (store : PlainStore) (userId : UUID) (payload : CreateSecretPayload) (session : Option String)
    (id : UUID) : Except HTTPException SecretsReply × PlainStore :=
  match payload.validate with
  | none => (.ok .unprocessableEntity, store)
  | some valid =>
      match store.refusal userId session with
      | some refusal => (.error refusal.http, store)
      | none =>
          if (store.secrets.get? id).isSome then (.error internalServerError, store)
          else
            let shown : UserSecretReadModel := ⟨id, valid.type, valid.aliasName, valid.externalUsername, 0, none,
              store.now⟩
            (.ok (.secret 201 shown), store.put id ⟨userId, shown, valid.secret⟩)

def list (store : PlainStore) (userId : UUID) : Except HTTPException SecretsReply × PlainStore :=
  (.ok (.secrets ((store.secrets.values.filter (·.owner = userId)).map PlainSecret.shown)), store)

def change (store : PlainStore) (userId secretId : UUID) (valid : UpdateSecretPayload)
    (session : Option String) : Except HTTPException SecretsReply × PlainStore :=
  match store.owned secretId userId with
  | none => (.error ⟨404, "Secret not found"⟩, store)
  | some secret =>
      match valid.secret.join.bind fun _ => store.refusal userId session with
      | some refusal => (.error refusal.http, store)
      | none =>
          let changed := secret.renamed valid.aliasName valid.externalUsername
          (.ok (.secret 200 changed.shown),
            store.put secretId { changed with plaintext := valid.secret.join.getD secret.plaintext })

def update (store : PlainStore) (userId secretId : UUID) (payload : UpdateSecretPayload)
    (session : Option String) : Except HTTPException SecretsReply × PlainStore :=
  match payload.validate with
  | none => (.ok .unprocessableEntity, store)
  | some valid => store.change userId secretId valid session

def delete (store : PlainStore) (userId secretId : UUID) : Except HTTPException SecretsReply × PlainStore :=
  match store.owned secretId userId with
  | none => (.error ⟨404, "Secret not found"⟩, store)
  | some _ => (.ok .noContent, { store with secrets := store.secrets.erase secretId })

def use (store : PlainStore) (secretId userId : UUID) (session : Option String) :
    Except PyError String × PlainStore :=
  match store.owned secretId userId with
  | none => (.error secretNotFound, store)
  | some secret =>
      match store.refusal userId session with
      | some refusal => (.error refusal.error, store)
      | none => (.ok secret.plaintext, store.put secretId (secret.used store.now))

def handle (store : PlainStore) (userId : UUID) : SecretsRequest → Except HTTPException SecretsReply × PlainStore
  | .setupVault passphrase freshSalt _ => store.setup userId passphrase freshSalt
  | .unlockVault passphrase _ sessionId => store.unlock opens ttlSeconds userId passphrase sessionId
  | .lockVault headers => store.lock userId (getVaultSessionId headers)
  | .getVaultStatus headers => store.status userId (getVaultSessionId headers)
  | .createSecret payload headers id _ => store.create userId payload (getVaultSessionId headers) id
  | .listSecrets => store.list userId
  | .updateSecret secretId payload headers _ => store.update userId secretId payload (getVaultSessionId headers)
  | .deleteSecret secretId => store.delete userId secretId

end PlainStore

structure PlainApi where
  users : Dict UUID User
  store : PlainStore

def PlainApi.initial (now : Time) : PlainApi := ⟨Dict.empty, .initial now⟩

section Service

variable (opens : String → String → TokenBytes 16 → Bool) (ttlSeconds : Int)

def PlainApi.respond (api : PlainApi) : ApiInput → ApiReply × PlainApi
  | .request userId request =>
      match requireActiveUser api.users userId with
      | .error exception => (.answered (.error exception), api)
      | .ok _ =>
          let (answer, next) := api.store.handle opens ttlSeconds userId request
          (.answered answer, { api with store := next })
  | .use secretId userId session _ =>
      let (secret, next) := api.store.use secretId userId session
      (.used secret, { api with store := next })
  | .setActive userId isActive => (.nothing, { api with users := api.users.set userId ⟨isActive⟩ })
  | .advance elapsed => (.nothing, { api with store := { api.store with now := api.store.now + elapsed } })

def plainApi : Responder PlainApi ApiInput ApiReply := ⟨PlainApi.respond opens ttlSeconds⟩

end Service

end FireflyToolkit.Vault
