import FireflyToolkit.Vault.Ledger

set_option autoImplicit false

namespace FireflyToolkit.Vault

open OrderedDict Transition

variable {crypto : CryptoLibrary} {ttlSeconds : Int} {ledger next : Ledger}

-- The passphrase gives the key that the user's vault was set up with.
def Unlocks (crypto : CryptoLibrary) (ledger : Ledger) (userId : UUID) (entered : String)
    (userKey : ByteArray) : Prop :=
  ∃ chosen salt nonce, ledger.world.database.vaults.get? userId =
      some (VaultService.newVault crypto chosen salt nonce) ∧
    ledger.passphrase userId = some chosen ∧ userKeyOf crypto entered salt = userKey ∧
      userKeyOf crypto chosen salt = userKey

def VaultKey (crypto : CryptoLibrary) (ledger : Ledger) (userId : UUID) (userKey : ByteArray) :
    Prop :=
  ∃ entered, Unlocks crypto ledger userId entered userKey

theorem vaultKey_unique {userId : UUID} {userKey other : ByteArray}
    (one : VaultKey crypto ledger userId userKey) (two : VaultKey crypto ledger userId other) :
    userKey = other := by
  rcases one with ⟨_, chosen, salt, nonce, stored, given, _, key⟩
  rcases two with ⟨_, chosen', salt', nonce', stored', given', _, key'⟩
  have passphrase : chosen = chosen' := Option.some.inj (given.symm.trans given')
  have row := Option.some.inj (stored.symm.trans stored')
  have salts : salt.val = salt'.val := by
    have fields := congrArg UserSecretVault.kdfSalt row
    rw [newVault_eq, newVault_eq] at fields
    exact Option.some.inj fields
  rw [← key, ← key', passphrase, Subtype.ext salts]

theorem unlocks_step {userId : UUID} {entered : String} {userKey : ByteArray}
    (effect : VaultsEffect crypto ledger next) (unlocks : Unlocks crypto ledger userId entered userKey) :
    Unlocks crypto next userId entered userKey := by
  rcases unlocks with ⟨chosen, salt, nonce, stored, given, keys⟩
  cases effect with
  | unchanged vaults passphrases =>
    exact ⟨chosen, salt, nonce, by rw [vaults, stored], (passphrases userId).trans given, keys⟩
  | setUp other passphrase freshSalt fresh absent vaults passphrases =>
    have different : userId ≠ other := by
      rintro rfl
      rw [absent] at stored
      cases stored
    have row : next.world.database.vaults.get? userId =
        some (VaultService.newVault crypto chosen salt nonce) := by
      rw [vaults, Dict.get?_set, if_neg different, stored]
    exact ⟨chosen, salt, nonce, row, (passphrases userId).trans ((if_neg different).trans given), keys⟩

structure SessionBound (crypto : CryptoLibrary) (ttlSeconds : Int) (ledger : Ledger) (userId : UUID)
    (sessionId : String) (session : VaultSession) : Prop where
  issued : ∃ issue, ledger.issue userId sessionId = some issue ∧
    session.expiresAt = issue.issuedAt + seconds ttlSeconds ∧
    Unlocks crypto ledger userId issue.passphrase session.userKey

structure SecretBound (crypto : CryptoLibrary) (ledger : Ledger) (secretId : UUID)
    (secret : UserSecret) : Prop where
  creator : ledger.creator secretId = some secret.userId
  blob : ∃ plaintext userKey random, ledger.plaintext secretId = some plaintext ∧
    VaultKey crypto ledger secret.userId userKey ∧
    UserSecretsService.getEncryptedBlob secret =
      .ok (SecretCryptoService.encryptSecret crypto plaintext userKey random)

structure Bound (crypto : CryptoLibrary) (ttlSeconds : Int) (ledger : Ledger) : Prop where
  vaults : ∀ userId vault, ledger.world.database.vaults.get? userId = some vault →
    ∃ userKey, VaultKey crypto ledger userId userKey
  sessions : ∀ userId sessionId session,
    ledger.world.sessions.session? userId sessionId = some session →
    SessionBound crypto ttlSeconds ledger userId sessionId session
  kept : ∀ userId sessionId issue, ledger.issue userId sessionId = some issue →
    ledger.world.now < issue.issuedAt + seconds ttlSeconds →
    ∃ session, ledger.world.sessions.session? userId sessionId = some session
  secrets : ∀ secretId secret, ledger.world.database.secrets.get? secretId = some secret →
    SecretBound crypto ledger secretId secret

theorem vaultKey_of_required (bound : Bound crypto ttlSeconds ledger) {userId : UUID}
    {sessionId : Option String} {userKey : ByteArray} {sessions : VaultSessionStore}
    (required : VaultService.requireUserKey ledger.world userId sessionId = (.ok userKey, sessions)) :
    VaultKey crypto ledger userId userKey := by
  rcases requireUserKey_ok.mp required with ⟨_, session, rfl, active⟩
  rcases VaultSessionStore.getUserKey_eq_some active with ⟨_, stored, found, _, rfl⟩
  rcases (bound.sessions userId session stored found).issued with ⟨issue, _, _, unlocks⟩
  exact ⟨issue.passphrase, unlocks⟩

theorem unlocks_of_checked (lawful : crypto.Lawful) (bound : Bound crypto ttlSeconds ledger)
    {userId : UUID} {entered : String} {freshSalt : TokenBytes 16} {userKey : ByteArray}
    (opened : VaultService.checkPassphrase crypto ledger.world.database userId entered freshSalt =
      .ok userKey) : Unlocks crypto ledger userId entered userKey := by
  rcases checkPassphrase_vault opened with ⟨vault, stored⟩
  rcases bound.vaults userId vault stored with ⟨_, _, chosen, salt, nonce, row, given, _, _⟩
  have keys := checkPassphrase_newVault lawful row opened
  exact ⟨chosen, salt, nonce, row, given, keys⟩

theorem vaults_step (bound : Bound crypto ttlSeconds ledger)
    (effect : VaultsEffect crypto ledger next) (userId : UUID) (vault : UserSecretVault)
    (stored : next.world.database.vaults.get? userId = some vault) :
    ∃ userKey, VaultKey crypto next userId userKey := by
  have older (before : ledger.world.database.vaults.get? userId = some vault) :
      ∃ userKey, VaultKey crypto next userId userKey := by
    rcases bound.vaults userId vault before with ⟨userKey, entered, unlocks⟩
    exact ⟨userKey, entered, unlocks_step effect unlocks⟩
  cases effect with
  | unchanged vaults => exact older (vaults ▸ stored)
  | setUp other passphrase freshSalt nonce absent vaults passphrases =>
    by_cases same : userId = other
    next =>
      subst same
      have row : next.world.database.vaults.get? userId =
          some (VaultService.newVault crypto passphrase freshSalt nonce) := by
        rw [vaults, Dict.get?_set, if_pos rfl]
      exact ⟨_, passphrase, passphrase, freshSalt, nonce, row, by rw [passphrases, if_pos rfl],
        rfl, rfl⟩
    next =>
      rw [vaults, Dict.get?_set, if_neg same] at stored
      exact older stored

theorem sessionBound_later (effect : VaultsEffect crypto ledger next) {userId : UUID}
    {sessionId : String} {session : VaultSession}
    (bound : SessionBound crypto ttlSeconds ledger userId sessionId session)
    (issues : next.issue userId sessionId = ledger.issue userId sessionId) :
    SessionBound crypto ttlSeconds next userId sessionId session := by
  rcases bound.issued with ⟨issue, found, expires, unlocks⟩
  exact ⟨issue, issues.trans found, expires, unlocks_step effect unlocks⟩

theorem sessions_step (lawful : crypto.Lawful) (bound : Bound crypto ttlSeconds ledger)
    (effects : StepEffects crypto ttlSeconds ledger next) (userId : UUID) (sessionId : String)
    (session : VaultSession)
    (stored : next.world.sessions.session? userId sessionId = some session) :
    SessionBound crypto ttlSeconds next userId sessionId session := by
  have older (before : ledger.world.sessions.session? userId sessionId = some session)
      (issues : next.issue userId sessionId = ledger.issue userId sessionId) :
      SessionBound crypto ttlSeconds next userId sessionId session :=
    sessionBound_later effects.vaults (bound.sessions userId sessionId session before) issues
  cases effects.sessions with
  | pruned pruned issues =>
    rcases pruned userId sessionId with same | ⟨gone, _⟩
    · exact older (same ▸ stored) (issues userId sessionId)
    · rw [gone] at stored
      cases stored
  | unlocked user made passphrase freshSalt userKey opened sessions issues =>
    rw [sessions, VaultSessionStore.session?_create] at stored
    by_cases same : userId = user ∧ sessionId = made
    next =>
      rw [if_pos same] at stored
      cases stored
      have unlocks := unlocks_step effects.vaults (unlocks_of_checked lawful bound opened)
      exact ⟨_, (issues userId sessionId).trans (if_pos same), rfl, same.1 ▸ unlocks⟩
    next =>
      rw [if_neg same] at stored
      exact older stored ((issues userId sessionId).trans (if_neg same))
  | locked user taken sessions issues =>
    rw [sessions, VaultSessionStore.session?_invalidate] at stored
    by_cases same : userId = user ∧ sessionId = taken
    next =>
      rw [if_pos same] at stored
      cases stored
    next =>
      rw [if_neg same] at stored
      exact older stored ((issues userId sessionId).trans (if_neg same))

theorem kept_step (bound : Bound crypto ttlSeconds ledger)
    (effects : StepEffects crypto ttlSeconds ledger next) (userId : UUID) (sessionId : String)
    (issue : Issue) (issued : next.issue userId sessionId = some issue)
    (live : next.world.now < issue.issuedAt + seconds ttlSeconds) :
    ∃ session, next.world.sessions.session? userId sessionId = some session := by
  have before := lt_of_le_of_lt effects.time live
  cases effects.sessions with
  | pruned pruned issues =>
    rw [issues] at issued
    rcases bound.kept userId sessionId issue issued before with ⟨session, stored⟩
    rcases pruned userId sessionId with same | ⟨_, dropped, found, expired⟩
    · exact ⟨session, same.trans stored⟩
    · rcases (bound.sessions userId sessionId dropped found).issued with ⟨_, again, expires, _⟩
      rw [issued] at again
      cases again
      rw [expires] at expired
      exact absurd before (Int.not_lt.mpr expired)
  | unlocked user made passphrase freshSalt userKey opened sessions issues =>
    rw [issues] at issued
    rw [sessions, VaultSessionStore.session?_create]
    by_cases same : userId = user ∧ sessionId = made
    next => exact ⟨_, if_pos same⟩
    next =>
      rw [if_neg same] at issued ⊢
      exact bound.kept userId sessionId issue issued before
  | locked user taken sessions issues =>
    rw [issues] at issued
    rw [sessions, VaultSessionStore.session?_invalidate]
    by_cases same : userId = user ∧ sessionId = taken
    next =>
      rw [if_pos same] at issued
      cases issued
    next =>
      rw [if_neg same] at issued ⊢
      exact bound.kept userId sessionId issue issued before

theorem secretBound_later (effect : VaultsEffect crypto ledger next) {secretId : UUID}
    {old row : UserSecret} (bound : SecretBound crypto ledger secretId old)
    (owner : row.userId = old.userId)
    (blob : UserSecretsService.getEncryptedBlob row = UserSecretsService.getEncryptedBlob old)
    (creator : next.creator secretId = ledger.creator secretId)
    (plaintext : next.plaintext secretId = ledger.plaintext secretId) :
    SecretBound crypto next secretId row := by
  rcases bound.blob with ⟨text, userKey, random, stored, ⟨entered, unlocks⟩, encrypted⟩
  have key : VaultKey crypto next row.userId userKey :=
    ⟨entered, owner ▸ unlocks_step effect unlocks⟩
  exact ⟨by rw [creator, bound.creator, owner],
    ⟨text, userKey, random, plaintext.trans stored, key, blob.trans encrypted⟩⟩

theorem secretBound_made (bound : Bound crypto ttlSeconds ledger)
    (effect : VaultsEffect crypto ledger next) {secretId : UUID} {row : UserSecret}
    {plaintext : String} (made : SealedRow crypto ledger.world row plaintext)
    (creator : next.creator secretId = some row.userId)
    (stored : next.plaintext secretId = some plaintext) :
    SecretBound crypto next secretId row := by
  rcases made.blob with ⟨userKey, random, sessionId, sessions, required, blob⟩
  rcases vaultKey_of_required bound required with ⟨entered, unlocks⟩
  exact ⟨creator, ⟨plaintext, userKey, random, stored, ⟨entered, unlocks_step effect unlocks⟩, blob⟩⟩

theorem secrets_step (bound : Bound crypto ttlSeconds ledger)
    (effects : StepEffects crypto ttlSeconds ledger next) (secretId : UUID) (secret : UserSecret)
    (stored : next.world.database.secrets.get? secretId = some secret) :
    SecretBound crypto next secretId secret := by
  have older (before : ledger.world.database.secrets.get? secretId = some secret)
      (creator : next.creator secretId = ledger.creator secretId)
      (plaintext : next.plaintext secretId = ledger.plaintext secretId) :
      SecretBound crypto next secretId secret :=
    secretBound_later effects.vaults (bound.secrets secretId secret before) rfl rfl creator plaintext
  cases effects.secrets with
  | unchanged secrets creators plaintexts =>
    exact older (secrets ▸ stored) (creators secretId) (plaintexts secretId)
  | created id row plaintext made secrets creators plaintexts =>
    rw [secrets, Dict.get?_set] at stored
    by_cases same : secretId = id
    next =>
      rw [if_pos same] at stored
      cases stored
      exact secretBound_made bound effects.vaults made ((creators secretId).trans (if_pos same))
        ((plaintexts secretId).trans (if_pos same))
    next =>
      rw [if_neg same] at stored
      exact older stored ((creators secretId).trans (if_neg same))
        ((plaintexts secretId).trans (if_neg same))
  | rotated id old row plaintext found owner made secrets creators plaintexts =>
    rw [secrets, Dict.get?_set] at stored
    by_cases same : secretId = id
    next =>
      rw [if_pos same] at stored
      have creator : next.creator secretId = some row.userId := by
        rw [creators, same, (bound.secrets id old found).creator, owner]
      rw [← Option.some.inj stored]
      exact secretBound_made bound effects.vaults made creator
        ((plaintexts secretId).trans (if_pos same))
    next =>
      rw [if_neg same] at stored
      exact older stored (creators secretId) ((plaintexts secretId).trans (if_neg same))
  | marked id old row found owner blob secrets creators plaintexts =>
    rw [secrets, Dict.get?_set] at stored
    by_cases same : secretId = id
    next =>
      rw [if_pos same] at stored
      cases stored
      subst same
      exact secretBound_later effects.vaults (bound.secrets secretId old found) owner blob
        (creators secretId) (plaintexts secretId)
    next =>
      rw [if_neg same] at stored
      exact older stored (creators secretId) (plaintexts secretId)
  | deleted id secrets creators plaintexts =>
    rw [secrets, Dict.get?_erase] at stored
    by_cases same : secretId = id
    next =>
      rw [if_pos same] at stored
      cases stored
    next =>
      rw [if_neg same] at stored
      exact older stored (creators secretId) (plaintexts secretId)

theorem bound_run (lawful : crypto.Lawful) {now : Time} {labels : List VaultLabel}
    (reached : (vaultMachine crypto ttlSeconds).run (.initial now) labels = some ledger) :
    Bound crypto ttlSeconds ledger := by
  have preserved : ∀ state label after, Bound crypto ttlSeconds state →
      (vaultMachine crypto ttlSeconds).step state label = some after →
      Bound crypto ttlSeconds after := by
    intro state label after bound stepped
    have effects := effects_step stepped
    exact ⟨vaults_step bound effects.vaults, sessions_step lawful bound effects,
      kept_step bound effects, secrets_step bound effects⟩
  have initially : Bound crypto ttlSeconds (.initial now) := by
    refine ⟨?_, ?_, ?_, ?_⟩
    · intro userId vault stored
      simp [Ledger.initial] at stored
    · intro userId sessionId session stored
      simp [Ledger.initial, VaultSessionStore.session?, VaultSessionStore.initial] at stored
    · intro userId sessionId issue issued
      simp [Ledger.initial, Ledger.issue, latest] at issued
    · intro secretId secret stored
      simp [Ledger.initial] at stored
  exact Machine.invariant_of_run preserved initially reached

structure LiveSession (ttlSeconds : Int) (ledger : Ledger) (userId : UUID) (sessionId : String)
    (issue : Issue) : Prop where
  issued : ledger.issue userId sessionId = some issue
  unexpired : ledger.world.now < issue.issuedAt + seconds ttlSeconds

-- The passphrase derives the key of the vault's setup, so it is the passphrase of the setup unless
-- two passphrases collide.
structure RightPassphrase (crypto : CryptoLibrary) (ledger : Ledger) (userId : UUID)
    (entered : String) : Prop where
  unlocks : ∃ userKey, Unlocks crypto ledger userId entered userKey
  same : crypto.CollisionFree → ledger.passphrase userId = some entered

theorem liveSession_of_active (bound : Bound crypto ttlSeconds ledger) {userId : UUID}
    {sessionId : String} {userKey : ByteArray} {sessions : VaultSessionStore}
    (active : ledger.world.sessions.getUserKey ledger.world.now userId sessionId =
      (some userKey, sessions)) :
    ∃ issue, LiveSession ttlSeconds ledger userId sessionId issue ∧
      RightPassphrase crypto ledger userId issue.passphrase := by
  rcases VaultSessionStore.getUserKey_eq_some active with ⟨_, session, found, live, _⟩
  rcases (bound.sessions userId sessionId session found).issued with ⟨issue, issued, expires, unlocks⟩
  refine ⟨issue, ⟨issued, expires ▸ live⟩, ⟨session.userKey, unlocks⟩, ?_⟩
  intro collisionFree
  rcases unlocks with ⟨chosen, salt, nonce, _, given, entry, key⟩
  have same : issue.passphrase = chosen :=
    collisionFree salt defaultKdfParams _ _ (entry.trans key.symm)
  rw [same, given]

theorem requireUserKey_of_live (bound : Bound crypto ttlSeconds ledger) {userId : UUID}
    {sessionId : String} {issue : Issue}
    (live : LiveSession ttlSeconds ledger userId sessionId issue) :
    ∃ userKey sessions, VaultKey crypto ledger userId userKey ∧
      VaultService.requireUserKey ledger.world userId (some sessionId) = (.ok userKey, sessions) := by
  rcases bound.kept userId sessionId issue live.issued live.unexpired with ⟨session, stored⟩
  rcases (bound.sessions userId sessionId session stored).issued with
    ⟨again, found, expires, unlocks⟩
  have same : issue = again := Option.some.inj (live.issued.symm.trans found)
  have active : ledger.world.now < session.expiresAt := by
    rw [expires, ← same]
    exact live.unexpired
  have key := VaultSessionStore.getUserKey_of_active stored active
  rcases unlocks with ⟨given, salt, nonce, row, rest⟩
  refine ⟨session.userKey, _, ⟨again.passphrase, given, salt, nonce, row, rest⟩,
    requireUserKey_ok.mpr ⟨⟨_, row⟩, sessionId, rfl, Prod.ext key rfl⟩⟩

theorem getSecret_guarantees (lawful : crypto.Lawful) {now : Time} {labels : List VaultLabel}
    (reached : (vaultMachine crypto ttlSeconds).run (.initial now) labels = some ledger)
    (secretId userId : UUID) (sessionId : Option String) (usageMeta : Option Metadata) :
    (∀ model after, UserSecretsService.getSecretForInternalUse crypto ledger.world secretId userId
        sessionId usageMeta = (.ok model, after) →
      ledger.creator secretId = some userId ∧
      (∃ session issue, sessionId = some session ∧
        LiveSession ttlSeconds ledger userId session issue ∧
        RightPassphrase crypto ledger userId issue.passphrase) ∧
      ledger.plaintext secretId = some model.secret) ∧
    (∀ secret session issue, ledger.world.database.secrets.get? secretId = some secret →
      secret.userId = userId → sessionId = some session →
      LiveSession ttlSeconds ledger userId session issue →
      ∃ model after, UserSecretsService.getSecretForInternalUse crypto ledger.world secretId userId
        sessionId usageMeta = (.ok model, after)) := by
  have bound := bound_run lawful reached
  constructor
  · intro model after returned
    rcases getSecret_ok.mp ⟨model, after, returned, rfl⟩ with
      ⟨secret, userKey, sessions, owned, required, opened⟩
    have listed := ownedSecret_ok.mp owned
    have secretBound := bound.secrets secretId secret listed.1
    rcases secretBound.blob with ⟨plaintext, vaultKey, random, stored, key, blob⟩
    have sameKey : vaultKey = userKey :=
      vaultKey_unique key (listed.2 ▸ vaultKey_of_required bound required)
    rw [sameKey] at blob
    have disclosed := (openSecret_encrypted lawful blob).symm.trans opened
    rcases requireUserKey_ok.mp required with ⟨_, session, given, active⟩
    rcases liveSession_of_active bound active with ⟨issue, live, right⟩
    exact ⟨listed.2 ▸ secretBound.creator, ⟨session, issue, given, live, right⟩,
      stored.trans (congrArg some (Except.ok.inj disclosed))⟩
  · intro secret session issue stored own given live
    rcases requireUserKey_of_live bound live with ⟨userKey, sessions, key, required⟩
    rcases (bound.secrets secretId secret stored).blob with ⟨plaintext, vaultKey, random, _, made, blob⟩
    have sameKey : vaultKey = userKey := vaultKey_unique (own ▸ made) key
    rw [sameKey] at blob
    rcases getSecret_ok.mpr ⟨secret, userKey, sessions, ownedSecret_ok.mpr ⟨stored, own⟩,
      given ▸ required, openSecret_encrypted lawful blob⟩ with ⟨model, after, returned, _⟩
    exact ⟨model, after, returned⟩

namespace Sample

-- A library of the required kind: a ciphertext starts with its key, each byte marked by a 1.
def header : List UInt8 → List UInt8
  | [] => [0]
  | byte :: rest => 1 :: byte :: header rest

def library : CryptoLibrary where
  hashSecretRaw secret salt _ := salt ++ secret
  aesGcmEncrypt key _ plaintext := ⟨(header key.data.toList ++ plaintext.data.toList).toArray⟩
  aesGcmDecrypt key _ ciphertext :=
    if header key.data.toList <+: ciphertext.data.toList then
      some ⟨(ciphertext.data.toList.drop (header key.data.toList).length).toArray⟩
    else none

theorem header_prefix {key other rest : List UInt8}
    (starts : header other <+: header key ++ rest) : other = key := by
  induction other generalizing key with
  | nil =>
    cases key with
    | nil => rfl
    | cons byte key => simp [header] at starts
  | cons byte other ih =>
    cases key with
    | nil => simp [header] at starts
    | cons first key =>
      simp only [header, List.cons_append, List.cons_prefix_cons] at starts
      rw [starts.2.1, ih starts.2.2]

theorem library_lawful : library.Lawful := by
  constructor
  · intro key nonce plaintext
    simp [library]
  · intro key other nonce plaintext different
    have apart : ¬ header other.data.toList <+: header key.data.toList ++ plaintext.data.toList := by
      intro starts
      have same := header_prefix starts
      exact different (ByteArray.ext (Array.ext' same))
    simp [library, apart]

def zeros (count : Nat) : TokenBytes count :=
  ⟨⟨Array.replicate count 0⟩, by simp [ByteArray.size]⟩

def anna : UUID := ⟨1⟩

def secretId : UUID := ⟨7⟩

def labels : List VaultLabel :=
  [.call (.setupVault anna "horse" (zeros 16) (zeros 12)),
    .call (.unlockVault anna "horse" (zeros 16) "first"),
    .call (.createSecret anna anna (some "first") .allegro none none "cookie" secretId
      ⟨zeros 32, zeros 12, zeros 12⟩),
    .call (.lockVault anna "first"),
    .advance 5,
    .call (.unlockVault anna "horse" (zeros 16) "second")]

def afterLabels : Ledger :=
  ((vaultMachine library 900).run (.initial 0) labels).getD (.initial 0)

end Sample

theorem getSecret_guarantees_twoSessions :
    (vaultMachine Sample.library 900).run (.initial 0) Sample.labels = some Sample.afterLabels ∧
      ∃ model after, UserSecretsService.getSecretForInternalUse Sample.library
        Sample.afterLabels.world Sample.secretId Sample.anna (some "second") none =
          (.ok model, after) ∧ model.secret = "cookie" := by
  have reached : (vaultMachine Sample.library 900).run (.initial 0) Sample.labels =
      some Sample.afterLabels := rfl
  have guarantees := getSecret_guarantees Sample.library_lawful reached Sample.secretId Sample.anna
    (some "second") none
  have live : LiveSession 900 Sample.afterLabels Sample.anna "second" ⟨"horse", 5⟩ :=
    ⟨rfl, by decide⟩
  rcases guarantees.2 _ "second" _ rfl rfl rfl live with ⟨model, after, returned⟩
  have stored : Sample.afterLabels.plaintext Sample.secretId = some model.secret :=
    (guarantees.1 model after returned).2.2
  exact ⟨reached, model, after, returned, (Option.some.inj stored).symm⟩

end FireflyToolkit.Vault
