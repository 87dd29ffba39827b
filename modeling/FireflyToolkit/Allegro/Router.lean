import FireflyToolkit.Allegro.Responses
import FireflyToolkit.Shared.Transition
import FireflyToolkit.Vault.Ledger

set_option autoImplicit false

namespace FireflyToolkit.Allegro

open OrderedDict Transition

structure HTTPException where
  statusCode : Nat
  detail : String
  deriving DecidableEq

-- Only `is_active` is read here.
structure User where
  isActive : Bool
  deriving DecidableEq

-- The query parameters in the bounds that FastAPI checks before the handler runs.
abbrev PageLimit := { limit : Int // 1 ≤ limit ∧ limit ≤ 100 }

abbrev PageOffset := { offset : Int // 0 ≤ offset }

abbrev AutoLimit := { limit : Int // 1 ≤ limit ∧ limit ≤ 500 }

def pageOf (limit : PageLimit) (offset : PageOffset) : PageRequest :=
  ⟨limit, offset, Int.lt_of_lt_of_le Int.one_pos limit.property.1, offset.property⟩

-- The secret id is `none` where the path holds no UUID. A request carries what its handler draws
-- (the id of a new job) and what the Allegro service answers it, `none` for any failure.
inductive Request
  | previewMatches (secretId : Option UUID) (limit : PageLimit) (offset : PageOffset)
      (vaultSessionId : Option String) (answer : Option (List AllegroOrderPayment))
  | applyMatches (secretId : Option UUID) (decisions : List MatchDecision) (jobId : UUID)
  | autoApplySingleMatches (secretId : Option UUID) (limit : Option AutoLimit) (jobId : UUID)
  | clearCacheForSecret (secretId : Option UUID) (limit : Option PageLimit)
      (offset : Option PageOffset)

inductive Reply
  | preview (response : AllegroMatchResponse)
  | job (job : ApplyJob)
  | clearedSecret (cleared : Bool)
  | clearedPage (cleared : Bool) (limit : PageLimit) (offset : PageOffset)

structure System where
  users : Dict UUID User
  vault : Vault.World
  store : StateStore
  firefly : FireflyStore
  running : List RunningJob

def requireActiveUser (users : Dict UUID User) (userId : UUID) : Except HTTPException Unit :=
  match users.get? userId with
  | none => .error ⟨401, "Unauthorized"⟩
  | some user => if user.isActive then .ok () else .error ⟨403, "Forbidden"⟩

def invalidSecretId : HTTPException := ⟨400, "Invalid secret_id"⟩

def internalServerError : HTTPException := ⟨500, "Internal Server Error"⟩

def allegroHttpError : PyError → HTTPException
  | .valueError _ => invalidSecretId
  | .application .vaultLocked _ => ⟨423, "Vault is locked"⟩
  | .application .vaultSessionExpired _ => ⟨401, "Vault session expired"⟩
  | .application .vaultNotConfigured _ => ⟨409, "Vault not configured"⟩
  | .application .secretDecryptionFailed _ => ⟨422, "Secret decryption failed"⟩
  | .application .invalidSecretId message => ⟨400, message⟩
  | .application .matchesNotComputed _ => ⟨400, "No match data found"⟩
  | .application .transactionNotFound message => ⟨400, message⟩
  | .application .invalidMatchSelection message => ⟨400, message⟩
  | .application .externalServiceFailed message => ⟨502, message⟩
  | _ => internalServerError

def applyHttpError : PyError → HTTPException
  | .valueError _ => invalidSecretId
  | .application .invalidSecretId message => ⟨400, message⟩
  | .application .invalidFileId message => ⟨400, message⟩
  | .application .matchesNotComputed _ => ⟨400, "No match data found"⟩
  | .application .transactionNotFound message => ⟨400, message⟩
  | .application .invalidMatchSelection message => ⟨400, message⟩
  | .application .externalServiceFailed message => ⟨502, message⟩
  | _ => internalServerError

def autoApplyHttpError : PyError → HTTPException
  | .valueError _ => invalidSecretId
  | .application .matchesNotComputed _ => ⟨400, "No match data found; run preview first"⟩
  | .application .externalServiceFailed message => ⟨502, message⟩
  | _ => internalServerError

section Handlers

variable (settings : Settings) (crypto : Vault.CryptoLibrary)

def fetchAllegroData (vault : Vault.World) (userId secretId : UUID) (vaultSessionId : Option String)
    (answer : Option (List AllegroOrderPayment)) :
    Except PyError (List AllegroOrderPayment) × Vault.World :=
  match Vault.UserSecretsService.getSecretForInternalUse crypto vault secretId userId vaultSessionId
      none with
  | (.error (.application .secretNotAccessible _), next) =>
      (.error (.application .invalidSecretId
        ("Secret with id " ++ secretId.str ++ " not found for user " ++ userId.str)), next)
  | (.error error, next) => (.error error, next)
  | (.ok _, next) =>
      match answer with
      | none =>
          (.error (.application .externalServiceFailed
            ("Failed to fetch allegro data for secret " ++ secretId.str)), next)
      | some payments => (.ok payments, next)

def previewReply (preview : MatchPreview) : Except HTTPException Reply :=
  match mapMatchPreviewToApi preview with
  | .error error => .error (allegroHttpError error)
  | .ok response => .ok (.preview response)

-- The page is cached before the answer is made of it, which can still fail.
def previewMatches (system : System) (userId : UUID) (secretId : Option UUID) (page : PageRequest)
    (vaultSessionId : Option String) (answer : Option (List AllegroOrderPayment)) :
    Except HTTPException Reply × System :=
  match secretId with
  | none => (.error invalidSecretId, system)
  | some secret =>
      match fetchAllegroData crypto system.vault userId secret vaultSessionId answer with
      | (.error error, vault) => (.error (allegroHttpError error), { system with vault := vault })
      | (.ok payments, vault) =>
          match previewPage settings system.store system.firefly secret page payments with
          | .error error => (.error (allegroHttpError error), { system with vault := vault })
          | .ok (store, preview) =>
              (previewReply preview, { system with vault := vault, store := store })

def startedJob (system : System) (httpError : PyError → HTTPException)
    (started : Except PyError (StateStore × RunningJob)) : Except HTTPException Reply × System :=
  match started with
  | .error error => (.error (httpError error), system)
  | .ok (store, task) =>
      (.ok (.job task.job), { system with store := store, running := system.running ++ [task] })

def applyMatches (system : System) (secretId : Option UUID) (decisions : List MatchDecision)
    (jobId : UUID) : Except HTTPException Reply × System :=
  match secretId with
  | none => (.error invalidSecretId, system)
  | some secret =>
      startedJob system applyHttpError
        (startApplyJob system.store secret decisions jobId system.vault.now)

def autoApplySingleMatches (system : System) (secretId : Option UUID) (limit : Option AutoLimit)
    (jobId : UUID) : Except HTTPException Reply × System :=
  match secretId with
  | none => (.error invalidSecretId, system)
  | some secret =>
      startedJob system autoApplyHttpError
        (startAutoApplySingleMatches system.store secret (limit.map Subtype.val) jobId
          system.vault.now)

def clearCacheForSecret (system : System) (secretId : Option UUID) (limit : Option PageLimit)
    (offset : Option PageOffset) : Except HTTPException Reply × System :=
  if limit.isNone ≠ offset.isNone then
    (.error ⟨400, "Provide both limit and offset to clear a single page cache"⟩, system)
  else
    match secretId, limit, offset with
    | none, _, _ => (.error invalidSecretId, system)
    | some secret, some limit, some offset =>
        let (store, cleared) := system.store.invalidatePage secret (pageOf limit offset)
        (.ok (.clearedPage cleared limit offset), { system with store := store })
    | some secret, _, _ =>
        let (store, cleared) := system.store.invalidateSecret secret
        (.ok (.clearedSecret cleared), { system with store := store })

-- Of the handlers only the preview is told who asks.
def handle (system : System) (userId : UUID) : Request → Except HTTPException Reply × System
  | .previewMatches secretId limit offset vaultSessionId answer =>
      previewMatches settings crypto system userId secretId (pageOf limit offset) vaultSessionId
        answer
  | .applyMatches secretId decisions jobId => applyMatches system secretId decisions jobId
  | .autoApplySingleMatches secretId limit jobId =>
      autoApplySingleMatches system secretId limit jobId
  | .clearCacheForSecret secretId limit offset => clearCacheForSecret system secretId limit offset

def respond (system : System) (userId : UUID) (request : Request) :
    Except HTTPException Reply × System :=
  match requireActiveUser system.users userId with
  | .error exception => (.error exception, system)
  | .ok _ => handle settings crypto system userId request

end Handlers

-- Besides the requests: a call of the vault and secret services, an account that is created or
-- switched on or off, a step of an apply job's task, other changes in Firefly, and time.
inductive SystemLabel
  | request (userId : UUID) (request : Request)
  | vaultCall (call : Vault.VaultCall)
  | setActive (userId : UUID) (isActive : Bool)
  | jobStep (task : Nat) (client : FireflyClient)
  | fireflyChanged (firefly : FireflyStore)
  | advance (elapsed : Nat)

def StateStore.putJob (store : StateStore) (job : ApplyJob) : StateStore :=
  { store with jobs := store.jobs.set job.id job }

def stepJob (settings : Settings) (client : FireflyClient) (system : System) (place : Nat)
    (task : RunningJob) : System :=
  match task.decisions with
  | [] =>
      let ended := { task.job with status := .done, finishedAt := some system.vault.now }
      { system with
        store := system.store.putJob ended
        running := system.running.eraseIdx place }
  | decision :: rest =>
      let started : JobRun := ⟨system.firefly, { task.job with status := .running }, []⟩
      let run := applyDecision settings client task.results started decision
      { system with
        store := system.store.putJob run.job
        firefly := run.firefly
        running := system.running.set place { task with job := run.job, decisions := rest } }

def systemStep (settings : Settings) (crypto : Vault.CryptoLibrary) (ttlSeconds : Int)
    (system : System) : SystemLabel → Option System
  | .request userId request => some (respond settings crypto system userId request).2
  | .vaultCall call =>
      if call.idTaken system.vault.database then none
      else some { system with vault := (Vault.perform crypto ttlSeconds system.vault call).2 }
  | .setActive userId isActive =>
      some { system with users := system.users.set userId ⟨isActive⟩ }
  | .jobStep place client =>
      match system.running[place]? with
      | none => none
      | some task => some (stepJob settings client system place task)
  | .fireflyChanged firefly => some { system with firefly := firefly }
  | .advance elapsed =>
      some { system with vault := { system.vault with now := system.vault.now + elapsed } }

def systemMachine (settings : Settings) (crypto : Vault.CryptoLibrary) (ttlSeconds : Int) :
    Machine System SystemLabel :=
  ⟨systemStep settings crypto ttlSeconds⟩

def System.initial (firefly : FireflyStore) (now : Time) : System :=
  { users := Dict.empty, vault := ⟨⟨Dict.empty, Dict.empty, []⟩, .initial, now⟩
    store := .initial, firefly := firefly, running := [] }

end FireflyToolkit.Allegro
