import FireflyToolkit.Vault.Disclosure
import FireflyToolkit.Vault.PlainStore

set_option autoImplicit false

namespace FireflyToolkit.Vault

open OrderedDict
open Allegro (HTTPException User internalServerError requireActiveUser)

namespace VaultSessionStore

def running (store : VaultSessionStore) (now : Time) (userId : UUID) (sessionId : String) :
    Option VaultSession :=
  (store.session? userId sessionId).filter fun session => decide (now < session.expiresAt)

variable {store next : VaultSessionStore} {now : Time}

theorem running_pruned (pruned : Pruned now store next) (userId : UUID) (sessionId : String) :
    next.running now userId sessionId = store.running now userId sessionId := by
  unfold running
  rcases pruned userId sessionId with same | ⟨gone, session, stored, expired⟩
  · rw [same]
  · rw [gone, stored, Option.filter_some, if_neg (by simpa using expired), Option.filter_none]

theorem running_later {later : Time} (passed : now ≤ later) (userId : UUID) (sessionId : String) :
    store.running later userId sessionId =
      (store.running now userId sessionId).filter fun session => decide (later < session.expiresAt) := by
  unfold running
  rw [Option.filter_filter]
  congr 1
  funext session
  rw [Bool.eq_iff_iff, Bool.and_eq_true, decide_eq_true_iff, decide_eq_true_iff, iff_and_self]
  exact Int.lt_of_le_of_lt passed

end VaultSessionStore

-- A row holds a secret under the key of its owner's vault.
structure Seals (crypto : CryptoLibrary) (vaults : Dict UUID (String × TokenBytes 16)) (row : UserSecret)
    (secret : PlainSecret) : Prop where
  owner : row.userId = secret.owner
  shown : mapSecretToDomainReadModel row = secret.shown
  blob : ∃ chosen salt random, vaults.get? secret.owner = some (chosen, salt) ∧
    UserSecretsService.getEncryptedBlob row = .ok (SecretCryptoService.encryptSecret crypto secret.plaintext
      (userKeyOf crypto chosen salt) random)

structure Represents (crypto : CryptoLibrary) (world : World) (store : PlainStore) : Prop where
  now : world.now = store.now
  unconfigured : ∀ userId, store.vaults.get? userId = none → world.database.vaults.get? userId = none
  configured : ∀ userId chosen salt, store.vaults.get? userId = some (chosen, salt) →
    ∃ nonce, world.database.vaults.get? userId = some (VaultService.newVault crypto chosen salt nonce)
  sessions : ∀ userId id, (world.sessions.running world.now userId id).map VaultSession.expiresAt =
    store.live userId (some id)
  keys : ∀ userId id session, world.sessions.running world.now userId id = some session →
    ∃ chosen salt, store.vaults.get? userId = some (chosen, salt) ∧
      session.userKey = userKeyOf crypto chosen salt
  secrets : world.database.secrets.Related (Seals crypto store.vaults) store.secrets

structure Alike {α : Type} (crypto : CryptoLibrary) (left : α × World) (right : α × PlainStore) : Prop where
  answer : left.1 = right.1
  represents : Represents crypto left.2 right.2

def opensBy (crypto : CryptoLibrary) (entered chosen : String) (salt : TokenBytes 16) : Bool :=
  @decide _ (ByteArray.instDecidableEq (userKeyOf crypto entered salt) (userKeyOf crypto chosen salt))

section Refinement

variable {crypto : CryptoLibrary} {ttlSeconds : Int} {world : World} {store : PlainStore}

theorem represents_initial (crypto : CryptoLibrary) (now : Time) :
    Represents crypto (SecretsApi.initial now).world (.initial now) where
  now := rfl
  unconfigured := fun _ _ => rfl
  configured := nofun
  sessions := fun _ _ => rfl
  keys := nofun
  secrets := Dict.related_empty

theorem Represents.pruned (represents : Represents crypto world store) {sessions : VaultSessionStore}
    (pruned : VaultSessionStore.Pruned world.now world.sessions sessions) :
    Represents crypto { world with sessions := sessions } store where
  now := represents.now
  unconfigured := represents.unconfigured
  configured := represents.configured
  sessions := fun userId id => by
    rw [VaultSessionStore.running_pruned pruned]
    exact represents.sessions userId id
  keys := fun userId id session found => by
    rw [VaultSessionStore.running_pruned pruned] at found
    exact represents.keys userId id session found
  secrets := represents.secrets

theorem Represents.isConfigured (represents : Represents crypto world store) (userId : UUID) :
    (world.database.vaults.get? userId).isSome = (store.vaults.get? userId).isSome := by
  cases found : store.vaults.get? userId with
  | none => simp [represents.unconfigured userId found]
  | some vault =>
    obtain ⟨nonce, stored⟩ := represents.configured userId vault.1 vault.2 found
    rw [stored]
    rfl

theorem Represents.live (represents : Represents crypto world store) (userId : UUID) (id : String) :
    (world.sessions.getActiveSession world.now userId id).1.map VaultSession.expiresAt =
      store.live userId (some id) := by
  rw [(world.sessions.getActiveSession_spec world.now userId id).1]
  exact represents.sessions userId id

theorem required_refused (represents : Represents crypto world store) {userId : UUID}
    {session : Option String} {refusal : Refusal} (refused : store.refusal userId session = some refusal) :
    (VaultService.requireUserKey world userId session).1 = .error refusal.error := by
  unfold PlainStore.refusal at refused
  unfold VaultService.requireUserKey VaultService.getVaultOrRaise
  have configured := represents.isConfigured userId
  cases vault : store.vaults.get? userId with
  | none =>
    rw [vault] at refused configured
    obtain rfl := Option.some.inj refused
    rw [Option.isSome_none, Option.isSome_eq_false_iff, Option.isNone_iff_eq_none] at configured
    rw [configured]
    rfl
  | some chosen =>
    rw [vault] at refused configured
    obtain ⟨row, stored⟩ := Option.isSome_iff_exists.mp configured
    rw [stored]
    cases session with
    | none =>
      obtain rfl := Option.some.inj refused
      rfl
    | some id =>
      have live := represents.live userId id
      rw [← live] at refused
      cases active : (world.sessions.getActiveSession world.now userId id).1 with
      | some session => simp [active] at refused
      | none =>
        simp only [active, Option.map_none, Option.isNone_none, Option.isNone_some, Bool.false_eq_true,
          if_false, if_true, Option.some.injEq] at refused
        subst refused
        simp [VaultSessionStore.getUserKey, active, Refusal.error]

theorem required_granted (represents : Represents crypto world store) {userId : UUID}
    {session : Option String} (granted : store.refusal userId session = none) :
    ∃ chosen salt, store.vaults.get? userId = some (chosen, salt) ∧
      (VaultService.requireUserKey world userId session).1 = .ok (userKeyOf crypto chosen salt) := by
  unfold PlainStore.refusal at granted
  split_ifs at granted with unconfigured sessionless ended
  obtain ⟨id, rfl⟩ := Option.ne_none_iff_exists'.mp (by simpa using sessionless)
  have live := represents.sessions userId id
  cases found : world.sessions.running world.now userId id with
  | none => simp [← live, found] at ended
  | some active =>
    obtain ⟨chosen, salt, vault, key⟩ := represents.keys userId id active found
    obtain ⟨nonce, stored⟩ := represents.configured userId chosen salt vault
    refine ⟨chosen, salt, vault, ?_⟩
    have entry := (world.sessions.getActiveSession_spec world.now userId id).1
    rw [show (world.sessions.session? userId id).filter _ = some active from found] at entry
    simp [VaultService.requireUserKey, VaultService.getVaultOrRaise, stored, VaultSessionStore.getUserKey,
      entry, key]

theorem Represents.logged (represents : Represents crypto world store) (actorId : UUID) (action : String)
    (targetId : Option UUID) (metadata : Option Metadata) :
    Represents crypto { world with
      database := world.database.log actorId action targetId metadata world.now } store where
  now := represents.now
  unconfigured := represents.unconfigured
  configured := represents.configured
  sessions := represents.sessions
  keys := represents.keys
  secrets := represents.secrets

theorem Represents.created (represents : Represents crypto world store) {userId : UUID}
    {chosen : String} {salt : TokenBytes 16} (vault : store.vaults.get? userId = some (chosen, salt))
    (ttlSeconds : Int) (id : String) :
    Represents crypto
      { world with
        sessions := world.sessions.create userId (userKeyOf crypto chosen salt) ttlSeconds world.now id }
      { store with sessions := store.sessions.set (userId, id) (store.now + seconds ttlSeconds) } where
  now := represents.now
  unconfigured := represents.unconfigured
  configured := represents.configured
  sessions := fun other otherId => by
    have before := represents.sessions other otherId
    unfold VaultSessionStore.running PlainStore.live at before ⊢
    simp only [VaultSessionStore.session?_create, Option.bind_some, Dict.get?_set, Prod.mk.injEq] at before ⊢
    split_ifs with same
    · rw [Option.filter_some, Option.filter_some, represents.now]
      split_ifs <;> rfl
    · exact before
  keys := fun other otherId session found => by
    unfold VaultSessionStore.running at found
    rw [VaultSessionStore.session?_create] at found
    split_ifs at found with same
    · obtain rfl := Option.some.inj (Option.filter_eq_some_iff.mp found).1
      exact ⟨chosen, salt, same.1 ▸ vault, rfl⟩
    · exact represents.keys other otherId session found
  secrets := represents.secrets

theorem Represents.invalidated (represents : Represents crypto world store) (userId : UUID) (id : String) :
    Represents crypto { world with sessions := world.sessions.invalidate userId id }
      { store with sessions := store.sessions.erase (userId, id) } where
  now := represents.now
  unconfigured := represents.unconfigured
  configured := represents.configured
  sessions := fun other otherId => by
    have before := represents.sessions other otherId
    unfold VaultSessionStore.running PlainStore.live at before ⊢
    simp only [VaultSessionStore.session?_invalidate, Option.bind_some, Dict.get?_erase, Prod.mk.injEq]
      at before ⊢
    split_ifs with same
    · rfl
    · exact before
  keys := fun other otherId session found => by
    unfold VaultSessionStore.running at found
    rw [VaultSessionStore.session?_invalidate] at found
    split_ifs at found with same
    · cases found
    · exact represents.keys other otherId session found
  secrets := represents.secrets

theorem vault_kept {userId other : UUID} {vault entry : String × TokenBytes 16}
    (unset : store.vaults.get? userId = none) (found : store.vaults.get? other = some entry) :
    (store.vaults.set userId vault).get? other = some entry := by
  rw [Dict.get?_set, if_neg, found]
  rintro rfl
  rw [unset] at found
  cases found

theorem setupVault_alike (represents : Represents crypto world store) (userId : UUID) (passphrase : String)
    (freshSalt : TokenBytes 16) (nonce : TokenBytes 12) :
    Alike crypto (setupVault crypto world userId passphrase freshSalt nonce)
      (store.setup userId passphrase freshSalt) := by
  unfold setupVault PlainStore.setup VaultService.setupVault
  have configured := represents.isConfigured userId
  split_ifs with empty taken
  · exact ⟨rfl, represents⟩
  · rw [taken] at configured
    obtain ⟨row, stored⟩ := Option.isSome_iff_exists.mp configured
    rw [stored]
    exact ⟨rfl, represents⟩
  · have unset := Option.not_isSome_iff_eq_none.mp taken
    rw [represents.unconfigured userId unset]
    refine ⟨rfl, represents.now, fun other none => ?_, fun other chosen salt some => ?_, represents.sessions,
      fun other id session found => ?_, represents.secrets.imp fun row secret seals => ?_⟩
    · rw [Dict.get?_set] at none
      split_ifs at none with same
      simpa [Database.log, same] using represents.unconfigured other none
    · rw [Dict.get?_set] at some
      dsimp only [Database.log]
      rw [Dict.get?_set]
      split_ifs at some ⊢ with same
      · obtain ⟨rfl, rfl⟩ := Prod.mk.inj (Option.some.inj some)
        exact ⟨nonce, rfl⟩
      · exact represents.configured other chosen salt some
    · obtain ⟨chosen, salt, vault, key⟩ := represents.keys other id session found
      exact ⟨chosen, salt, vault_kept unset vault, key⟩
    · obtain ⟨chosen, salt, random, vault, blob⟩ := seals.blob
      exact ⟨seals.owner, seals.shown, chosen, salt, random, vault_kept unset vault, blob⟩

theorem opensBy_iff {entered chosen : String} {salt : TokenBytes 16} :
    opensBy crypto entered chosen salt ↔ userKeyOf crypto entered salt = userKeyOf crypto chosen salt := by
  rw [opensBy, decide_eq_true_iff]

theorem checkPassphrase_stored (lawful : crypto.Lawful) {database : Database} {userId : UUID}
    {chosen entered : String} {salt freshSalt : TokenBytes 16} {nonce : TokenBytes 12}
    (stored : database.vaults.get? userId = some (VaultService.newVault crypto chosen salt nonce)) :
    VaultService.checkPassphrase crypto database userId entered freshSalt =
      if opensBy crypto entered chosen salt then .ok (userKeyOf crypto entered salt)
      else .error (.application .invalidVaultPassphrase "Invalid vault passphrase") := by
  have verified := verifyVaultCheck_created lawful (userKeyOf crypto chosen salt)
    (userKeyOf crypto entered salt) nonce
  rw [newVault_eq] at stored
  simp only [VaultService.checkPassphrase, VaultService.getVaultOrRaise, stored, VaultService.getKdfParams,
    VaultService.buildVaultCheck, deriveUserKey_stored, bind, Except.bind]
  by_cases same : userKeyOf crypto entered salt = userKeyOf crypto chosen salt
  · rw [if_pos (verified.mpr same), if_pos (opensBy_iff.mpr same)]
  · rw [if_neg (fun passed => same (verified.mp passed)), if_neg (fun opens => same (opensBy_iff.mp opens))]

def unlockedReply (cookie : CookieChange) (expiresAt : Option Time) : Except HTTPException SecretsReply :=
  .ok (.vaultStatus ⟨true, true, expiresAt⟩ cookie)

theorem unlockVault_alike (lawful : crypto.Lawful) (represents : Represents crypto world store)
    (userId : UUID) (passphrase : String) (freshSalt : TokenBytes 16) (sessionId : String) :
    Alike crypto (unlockVault crypto ttlSeconds world userId passphrase freshSalt sessionId)
      (store.unlock (opensBy crypto) ttlSeconds userId passphrase sessionId) := by
  unfold unlockVault PlainStore.unlock VaultService.unlockVault
  split_ifs with empty
  · exact ⟨rfl, represents⟩
  · cases vault : store.vaults.get? userId with
    | none =>
      have absent := represents.unconfigured userId vault
      have refused : VaultService.checkPassphrase crypto world.database userId passphrase freshSalt =
          .error vaultNotConfigured := by
        simp [VaultService.checkPassphrase, VaultService.getVaultOrRaise, absent, bind, Except.bind]
      rw [refused]
      exact ⟨rfl, represents⟩
    | some entry =>
      obtain ⟨chosen, salt⟩ := entry
      obtain ⟨nonce, stored⟩ := represents.configured userId chosen salt vault
      rw [checkPassphrase_stored lawful stored]
      dsimp only
      split_ifs with opened
      · have key := of_decide_eq_true opened
        have created := (represents.logged userId "vault.unlock" none none).created vault ttlSeconds sessionId
        rw [key]
        refine ⟨congrArg (unlockedReply (.set sessionId ttlSeconds)) (created.live userId sessionId),
          created.pruned ?_⟩
        exact (VaultSessionStore.getActiveSession_spec _ _ _ _).2
      · exact ⟨rfl, represents⟩

theorem lockVault_alike (represents : Represents crypto world store) (userId : UUID)
    (session : Option String) : Alike crypto (lockVault world userId session) (store.lock userId session) := by
  cases session with
  | none =>
    refine ⟨?_, represents⟩
    simp only [lockVault, PlainStore.lock, VaultService.isConfigured, Option.map_none, Option.getD_none,
      represents.isConfigured userId]
  | some id =>
    refine ⟨?_, (represents.logged userId "vault.lock" none none).invalidated userId id⟩
    have configured := represents.isConfigured userId
    simp only [lockVault, PlainStore.lock, VaultService.isConfigured, Option.map_some, Option.getD_some,
      VaultService.lockVault, Database.log, configured]

theorem getVaultStatus_alike (represents : Represents crypto world store) (userId : UUID)
    (session : Option String) :
    Alike crypto (getVaultStatus world userId session) (store.status userId session) := by
  have configured := represents.isConfigured userId
  unfold getVaultStatus PlainStore.status VaultService.isConfigured
  rw [configured]
  split_ifs with set
  · rw [set]
    cases session with
    | none => exact ⟨rfl, represents⟩
    | some id =>
      have kept := represents.pruned (world.sessions.getUserKey_pruned world.now userId id)
      have unlocked : VaultService.isUnlocked world userId (some id) =
          ((store.live userId (some id)).isSome, (world.sessions.getUserKey world.now userId id).2) := by
        rw [← represents.live userId id]
        simp [VaultService.isUnlocked, VaultSessionStore.getUserKey]
      rw [unlocked]
      cases running : store.live userId (some id) with
      | none => exact ⟨rfl, kept⟩
      | some expiresAt =>
        refine ⟨congrArg (unlockedReply .kept) ((kept.live userId id).trans running), kept.pruned ?_⟩
        exact (VaultSessionStore.getActiveSession_spec _ _ _ _).2
  · rw [Bool.not_eq_true] at set
    rw [set]
    exact ⟨rfl, represents⟩

theorem owned_some (represents : Represents crypto world store) {secretId userId : UUID} {secret : PlainSecret}
    (owned : store.owned secretId userId = some secret) :
    ∃ row, UserSecretsService.ownedSecret world.database secretId userId = .ok row ∧
      Seals crypto store.vaults row secret := by
  obtain ⟨found, own⟩ := Option.filter_eq_some_iff.mp owned
  obtain ⟨row, stored, seals⟩ := represents.secrets.find found
  exact ⟨row, ownedSecret_ok.mpr ⟨stored, seals.owner.trans (of_decide_eq_true own)⟩, seals⟩

theorem owned_none (represents : Represents crypto world store) {secretId userId : UUID}
    (unowned : store.owned secretId userId = none) :
    UserSecretsService.ownedSecret world.database secretId userId = .error secretNotFound := by
  unfold UserSecretsService.ownedSecret
  cases found : store.secrets.get? secretId with
  | none => rw [represents.secrets.absent found]
  | some secret =>
    obtain ⟨row, stored, seals⟩ := represents.secrets.find found
    have other : secret.owner ≠ userId := by simpa [PlainStore.owned, found] using unowned
    rw [stored]
    exact if_pos (seals.owner ▸ other)

theorem Represents.put (represents : Represents crypto world store) {sessions : VaultSessionStore}
    (pruned : VaultSessionStore.Pruned world.now world.sessions sessions) {row : UserSecret}
    {secret : PlainSecret} (seals : Seals crypto store.vaults row secret) (secretId : UUID) :
    Represents crypto { world with
      sessions := sessions
      database := { world.database with secrets := world.database.secrets.set secretId row } }
      (store.put secretId secret) where
  now := represents.now
  unconfigured := represents.unconfigured
  configured := represents.configured
  sessions := (represents.pruned pruned).sessions
  keys := (represents.pruned pruned).keys
  secrets := represents.secrets.set seals

theorem createSecret_alike (represents : Represents crypto world store) (userId : UUID)
    (payload : CreateSecretPayload) (session : Option String) (id : UUID) (random : SecretRandomness) :
    Alike crypto (createSecret crypto world userId payload session id random)
      (store.create userId payload session id) := by
  unfold createSecret PlainStore.create UserSecretsService.createSecret
  have pruned := requireUserKey_pruned world userId session
  cases payload.validate with
  | none => exact ⟨rfl, represents⟩
  | some valid =>
    dsimp only
    cases refused : store.refusal userId session with
    | some refusal =>
      have required := required_refused represents refused
      cases answered : VaultService.requireUserKey world userId session with
      | mk key sessions =>
        rw [answered] at required pruned
        obtain rfl : key = .error refusal.error := required
        refine ⟨?_, represents.pruned pruned⟩
        cases refusal <;> rfl
    | none =>
      obtain ⟨chosen, salt, vault, required⟩ := required_granted represents refused
      cases answered : VaultService.requireUserKey world userId session with
      | mk key sessions =>
        rw [answered] at required pruned
        obtain rfl : key = .ok (userKeyOf crypto chosen salt) := required
        cases found : store.secrets.get? id with
        | some secret =>
          obtain ⟨row, stored, -⟩ := represents.secrets.find found
          dsimp only
          rw [stored, Option.isSome_some, Option.isSome_some, if_pos rfl, if_pos rfl]
          exact ⟨rfl, represents.pruned pruned⟩
        | none =>
          dsimp only
          rw [represents.secrets.absent found, Option.isSome_none, Option.isSome_none, if_neg Bool.false_ne_true,
            if_neg Bool.false_ne_true]
          refine ⟨?_, (represents.put pruned ?_ id).logged userId "user_secret.create" _ _⟩
          · rw [← represents.now]
            rfl
          · exact ⟨rfl, by rw [← represents.now]; rfl, chosen, salt, random, vault, rfl⟩

theorem listSecrets_alike (represents : Represents crypto world store) (userId : UUID) :
    Alike crypto (listSecrets world userId) (store.list userId) := by
  refine ⟨?_, represents⟩
  have shown := @Dict.Related.shown _ _ _ _ _ _ _ represents.secrets
    (fun row => decide (row.userId = userId)) (fun secret => decide (secret.owner = userId))
    mapSecretToDomainReadModel PlainSecret.shown fun row secret seals => ⟨by rw [seals.owner], seals.shown⟩
  exact congrArg (fun models => Except.ok (SecretsReply.secrets models)) shown

theorem Seals.renamed {vaults : Dict UUID (String × TokenBytes 16)} {row : UserSecret} {secret : PlainSecret}
    (seals : Seals crypto vaults row secret) (aliasName externalUsername : UserSecretsService.UpdateField) :
    Seals crypto vaults (UserSecretsService.updateMetadata row aliasName externalUsername)
      (secret.renamed aliasName externalUsername) where
  owner := seals.owner
  shown := by
    rw [PlainSecret.renamed, ← seals.shown]
    rfl
  blob := seals.blob

theorem Seals.rotated {vaults : Dict UUID (String × TokenBytes 16)} {row : UserSecret} {secret : PlainSecret}
    (seals : Seals crypto vaults row secret) {chosen : String} {salt : TokenBytes 16}
    (vault : vaults.get? secret.owner = some (chosen, salt)) (plaintext : String) (random : SecretRandomness) :
    Seals crypto vaults (row.setBlob (SecretCryptoService.encryptSecret crypto plaintext
      (userKeyOf crypto chosen salt) random)) { secret with plaintext := plaintext } where
  owner := seals.owner
  shown := seals.shown
  blob := ⟨chosen, salt, random, vault, rfl⟩

def updatedReply (shown : UserSecretReadModel) : Except HTTPException SecretsReply := .ok (.secret 200 shown)

theorem updateSecret_alike (represents : Represents crypto world store) (userId secretId : UUID)
    (payload : UpdateSecretPayload) (session : Option String) (random : SecretRandomness) :
    Alike crypto (updateSecret crypto world userId secretId payload session random)
      (store.update userId secretId payload session) := by
  unfold updateSecret PlainStore.update PlainStore.change UserSecretsService.updateSecret
  have pruned := requireUserKey_pruned world userId session
  cases payload.validate with
  | none => exact ⟨rfl, represents⟩
  | some valid =>
    dsimp only
    cases owned : store.owned secretId userId with
    | none =>
      rw [owned_none represents owned]
      exact ⟨rfl, represents⟩
    | some secret =>
      obtain ⟨row, found, seals⟩ := owned_some represents owned
      have changed := seals.renamed valid.aliasName valid.externalUsername
      rw [found]
      dsimp only
      cases rotates : valid.secret.join with
      | none =>
        exact ⟨congrArg updatedReply changed.shown,
          (represents.put (.refl _ _) changed secretId).logged userId "user_secret.update" _ _⟩
      | some plaintext =>
        rw [Option.bind_some]
        cases refused : store.refusal userId session with
        | some refusal =>
          have required := required_refused represents refused
          cases answered : VaultService.requireUserKey world userId session with
          | mk key sessions =>
            rw [answered] at required pruned
            obtain rfl : key = .error refusal.error := required
            refine ⟨?_, represents.pruned pruned⟩
            cases refusal <;> rfl
        | none =>
          obtain ⟨chosen, salt, vault, required⟩ := required_granted represents refused
          cases answered : VaultService.requireUserKey world userId session with
          | mk key sessions =>
            rw [answered] at required pruned
            obtain rfl : key = .ok (userKeyOf crypto chosen salt) := required
            have own := of_decide_eq_true (Option.filter_eq_some_iff.mp owned).2
            have rotated := changed.rotated (own ▸ vault) plaintext random
            exact ⟨congrArg updatedReply rotated.shown,
              (represents.put pruned rotated secretId).logged userId "user_secret.update" _ _⟩

theorem deleteSecret_alike (represents : Represents crypto world store) (userId secretId : UUID) :
    Alike crypto (deleteSecret world userId secretId) (store.delete userId secretId) := by
  unfold deleteSecret PlainStore.delete UserSecretsService.deleteSecret
  cases owned : store.owned secretId userId with
  | none =>
    rw [owned_none represents owned]
    exact ⟨rfl, represents⟩
  | some secret =>
    obtain ⟨row, found, -⟩ := owned_some represents owned
    rw [found]
    exact ⟨rfl, represents.now, represents.unconfigured, represents.configured, represents.sessions,
      represents.keys, represents.secrets.erase secretId⟩

theorem use_alike (lawful : crypto.Lawful) (represents : Represents crypto world store) (secretId userId : UUID)
    (session : Option String) (usageMeta : Option Metadata) :
    Alike crypto
      (((UserSecretsService.getSecretForInternalUse crypto world secretId userId session usageMeta).1.map
          UserSecretModel.secret),
        (UserSecretsService.getSecretForInternalUse crypto world secretId userId session usageMeta).2)
      (store.use secretId userId session) := by
  unfold UserSecretsService.getSecretForInternalUse PlainStore.use
  have pruned := requireUserKey_pruned world userId session
  cases owned : store.owned secretId userId with
  | none =>
    rw [owned_none represents owned]
    exact ⟨rfl, represents⟩
  | some secret =>
    obtain ⟨row, found, seals⟩ := owned_some represents owned
    rw [found]
    dsimp only
    cases refused : store.refusal userId session with
    | some refusal =>
      have required := required_refused represents refused
      cases answered : VaultService.requireUserKey world userId session with
      | mk key sessions =>
        rw [answered] at required pruned
        obtain rfl : key = .error refusal.error := required
        exact ⟨rfl, represents.pruned pruned⟩
    | none =>
      obtain ⟨chosen, salt, vault, required⟩ := required_granted represents refused
      cases answered : VaultService.requireUserKey world userId session with
      | mk key sessions =>
        rw [answered] at required pruned
        obtain rfl : key = .ok (userKeyOf crypto chosen salt) := required
        obtain ⟨other, salt', random, vault', blob⟩ := seals.blob
        have own := of_decide_eq_true (Option.filter_eq_some_iff.mp owned).2
        obtain ⟨rfl, rfl⟩ := Prod.mk.inj (Option.some.inj ((own ▸ vault').symm.trans vault))
        have used : Seals crypto store.vaults (row.markUsed usageMeta world.now) (secret.used store.now) := by
          refine ⟨seals.owner, ?_, other, salt', random, vault', blob⟩
          rw [PlainSecret.used, ← seals.shown, ← represents.now]
          rfl
        dsimp only
        rw [openSecret_encrypted lawful blob]
        exact ⟨rfl, (represents.put pruned used secretId).logged _ "user_secret.used" _ _⟩

theorem handle_alike (lawful : crypto.Lawful) (represents : Represents crypto world store) (userId : UUID)
    (request : SecretsRequest) :
    Alike crypto (handle crypto ttlSeconds world userId request)
      (store.handle (opensBy crypto) ttlSeconds userId request) := by
  cases request with
  | setupVault passphrase freshSalt nonce => exact setupVault_alike represents userId passphrase freshSalt nonce
  | unlockVault passphrase freshSalt sessionId =>
    exact unlockVault_alike lawful represents userId passphrase freshSalt sessionId
  | lockVault headers => exact lockVault_alike represents userId (getVaultSessionId headers)
  | getVaultStatus headers => exact getVaultStatus_alike represents userId (getVaultSessionId headers)
  | createSecret payload headers id random =>
    exact createSecret_alike represents userId payload (getVaultSessionId headers) id random
  | listSecrets => exact listSecrets_alike represents userId
  | updateSecret secretId payload headers random =>
    exact updateSecret_alike represents userId secretId payload (getVaultSessionId headers) random
  | deleteSecret secretId => exact deleteSecret_alike represents userId secretId

theorem Represents.advanced (represents : Represents crypto world store) (elapsed : Nat) :
    Represents crypto { world with now := world.now + elapsed } { store with now := store.now + elapsed } := by
  have passed : world.now ≤ world.now + elapsed := Int.le_add_of_nonneg_right (Int.natCast_nonneg elapsed)
  constructor
  · exact congrArg (· + (elapsed : Time)) represents.now
  · exact represents.unconfigured
  · exact represents.configured
  · intro userId id
    have before := represents.sessions userId id
    have filtered := @Option.filter_map _ _ (world.sessions.running world.now userId id)
      VaultSession.expiresAt fun expiresAt => decide (world.now + elapsed < expiresAt)
    rw [VaultSessionStore.running_later passed]
    refine filtered.symm.trans ?_
    rw [before, PlainStore.live, PlainStore.live, Option.bind_some, Option.bind_some, Option.filter_filter,
      ← represents.now]
    congr 1
    funext expiresAt
    rw [Bool.eq_iff_iff, Bool.and_eq_true, decide_eq_true_iff, decide_eq_true_iff, and_iff_right_iff_imp]
    exact Int.lt_of_le_of_lt passed
  · intro userId id session found
    rw [VaultSessionStore.running_later passed] at found
    exact represents.keys userId id session (Option.filter_eq_some_iff.mp found).1
  · exact represents.secrets

structure ApiRepresents (crypto : CryptoLibrary) (api : SecretsApi) (plain : PlainApi) : Prop where
  users : api.users = plain.users
  store : Represents crypto api.world plain.store

theorem secretsApi_refines (lawful : crypto.Lawful) :
    (secretsApi crypto ttlSeconds).Refines (plainApi (opensBy crypto) ttlSeconds) (ApiRepresents crypto) := by
  rintro api plain input ⟨users, represents⟩
  cases input with
  | request userId request =>
    have handled := @handle_alike crypto ttlSeconds api.world plain.store lawful represents userId request
    simp only [secretsApi, plainApi, respond, PlainApi.respond, ← users]
    cases requireActiveUser api.users userId with
    | error exception => exact ⟨rfl, users, represents⟩
    | ok user => exact ⟨congrArg ApiReply.answered handled.answer, rfl, handled.represents⟩
  | use secretId userId session usageMeta =>
    have used := use_alike lawful represents secretId userId session usageMeta
    exact ⟨congrArg ApiReply.used used.answer, users, used.represents⟩
  | setActive userId isActive =>
    exact ⟨rfl, congrArg (Dict.set · userId (User.mk isActive)) users, represents⟩
  | advance elapsed => exact ⟨rfl, users, represents.advanced elapsed⟩

end Refinement

-- Whatever is asked of the service, it answers as the store without encryption does.
theorem secrets_answered {crypto : CryptoLibrary} (lawful : crypto.Lawful) (ttlSeconds : Int) (now : Time)
    (inputs : List ApiInput) :
    (secretsApi crypto ttlSeconds).replies (.initial now) inputs =
      (plainApi (opensBy crypto) ttlSeconds).replies (.initial now) inputs :=
  ((secretsApi_refines lawful).replies ⟨rfl, represents_initial crypto now⟩ inputs).1

namespace Sample

def apiInputs : List ApiInput :=
  [.setActive anna true, .request anna (.setupVault "horse" (zeros 16) (zeros 12)),
    .request anna (.unlockVault "horse" (zeros 16) "first"),
    .request anna (.createSecret ⟨.allegro, some " shop ", none, "cookie"⟩ ⟨some "first", none⟩ secretId
      ⟨zeros 32, zeros 12, zeros 12⟩),
    .advance 5, .use secretId anna (some "first") none, .request anna .listSecrets,
    .request anna (.deleteSecret secretId)]

end Sample

theorem secrets_answered_anna : (secretsApi Sample.library 900).replies (.initial 0) Sample.apiInputs =
    (plainApi (opensBy Sample.library) 900).replies (.initial 0) Sample.apiInputs :=
  secrets_answered Sample.library_lawful 900 0 Sample.apiInputs

end FireflyToolkit.Vault
