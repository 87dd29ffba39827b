import FireflyToolkit.Vault.Refinement

set_option autoImplicit false

namespace FireflyToolkit.Vault

open OrderedDict
open Allegro (HTTPException requireActiveUser)

-- The same input, apart from the plaintext that it stores.
inductive Veils : ApiInput → ApiInput → Prop
  | same (input : ApiInput) : Veils input input
  | create (userId : UUID) (payload : CreateSecretPayload) (headers : SessionHeaders) (id : UUID)
      (random random' : SecretRandomness) (other : String) :
      Veils (.request userId (.createSecret payload headers id random))
        (.request userId (.createSecret { payload with secret := other } headers id random'))
  | update (userId secretId : UUID) (payload : UpdateSecretPayload) (headers : SessionHeaders)
      (random random' : SecretRandomness) (plaintext other : String)
      (rotates : payload.secret = some (some plaintext)) :
      Veils (.request userId (.updateSecret secretId payload headers random))
        (.request userId (.updateSecret secretId { payload with secret := some (some other) } headers random'))

def ApiReply.veiled : ApiReply → ApiReply
  | .used (.ok _) => .used (.ok "")
  | reply => reply

structure VeiledSecret (left right : PlainSecret) : Prop where
  owner : left.owner = right.owner
  shown : left.shown = right.shown

structure VeiledStore (left right : PlainStore) : Prop where
  vaults : left.vaults = right.vaults
  sessions : left.sessions = right.sessions
  secrets : left.secrets.Related VeiledSecret right.secrets
  now : left.now = right.now

structure SeenAlike (left right : Except HTTPException SecretsReply × PlainStore) : Prop where
  answer : left.1 = right.1
  stores : VeiledStore left.2 right.2

section Veiled

variable {left right : PlainStore} {opens : String → String → TokenBytes 16 → Bool} {ttlSeconds : Int}

theorem VeiledStore.live (veiled : VeiledStore left right) (userId : UUID) (session : Option String) :
    left.live userId session = right.live userId session := by
  rw [PlainStore.live, PlainStore.live, veiled.sessions, veiled.now]

theorem VeiledStore.refusal (veiled : VeiledStore left right) (userId : UUID) (session : Option String) :
    left.refusal userId session = right.refusal userId session := by
  rw [PlainStore.refusal, PlainStore.refusal, veiled.vaults, veiled.live]

theorem VeiledStore.owned_none (veiled : VeiledStore left right) {secretId userId : UUID}
    (absent : right.owned secretId userId = none) : left.owned secretId userId = none := by
  cases found : right.secrets.get? secretId with
  | none => simp [PlainStore.owned, veiled.secrets.absent found]
  | some secret =>
    obtain ⟨own, stored, alike⟩ := veiled.secrets.find found
    have other : secret.owner ≠ userId := by simpa [PlainStore.owned, found] using absent
    simp [PlainStore.owned, stored, alike.owner, other]

theorem VeiledStore.owned_some (veiled : VeiledStore left right) {secretId userId : UUID} {secret : PlainSecret}
    (owned : right.owned secretId userId = some secret) :
    ∃ own, left.owned secretId userId = some own ∧ VeiledSecret own secret := by
  obtain ⟨found, theirs⟩ := Option.filter_eq_some_iff.mp owned
  obtain ⟨own, stored, alike⟩ := veiled.secrets.find found
  refine ⟨own, ?_, alike⟩
  rw [PlainStore.owned, stored, Option.filter_some, if_pos]
  rw [alike.owner]
  exact theirs

theorem VeiledStore.put (veiled : VeiledStore left right) {secret other : PlainSecret}
    (alike : VeiledSecret secret other) (secretId : UUID) :
    VeiledStore (left.put secretId secret) (right.put secretId other) :=
  ⟨veiled.vaults, veiled.sessions, veiled.secrets.set alike, veiled.now⟩

theorem create_veiled (veiled : VeiledStore left right) (userId : UUID) (payload : CreateSecretPayload)
    (other : String) (session : Option String) (id : UUID) :
    SeenAlike (left.create userId payload session id)
      (right.create userId { payload with secret := other } session id) := by
  unfold PlainStore.create CreateSecretPayload.validate
  dsimp only
  cases aliasField payload.aliasName with
  | none => exact ⟨rfl, veiled⟩
  | some normalized =>
    dsimp only [Option.map_some]
    rw [veiled.refusal]
    cases right.refusal userId session with
    | some refusal => exact ⟨rfl, veiled⟩
    | none =>
      cases found : right.secrets.get? id with
      | some taken =>
        obtain ⟨own, stored, -⟩ := veiled.secrets.find found
        rw [stored]
        exact ⟨rfl, veiled⟩
      | none =>
        rw [veiled.secrets.absent found]
        have shown : (⟨id, payload.type, normalized, normalizeAlias payload.externalUsername, 0, none,
            left.now⟩ : UserSecretReadModel) = ⟨id, payload.type, normalized,
              normalizeAlias payload.externalUsername, 0, none, right.now⟩ := by rw [veiled.now]
        exact ⟨congrArg (fun shown => Except.ok (SecretsReply.secret 201 shown)) shown,
          @VeiledStore.put _ _ veiled ⟨userId, _, payload.secret⟩ ⟨userId, _, other⟩ ⟨rfl, shown⟩ id⟩

theorem change_veiled (veiled : VeiledStore left right) (userId secretId : UUID)
    (aliasName externalUsername : UserSecretsService.UpdateField) {plaintext other : UserSecretsService.UpdateField}
    (rotates : plaintext.join.isSome = other.join.isSome) (session : Option String) :
    SeenAlike (left.change userId secretId ⟨aliasName, externalUsername, plaintext⟩ session)
      (right.change userId secretId ⟨aliasName, externalUsername, other⟩ session) := by
  unfold PlainStore.change
  cases owned : right.owned secretId userId with
  | none =>
    rw [veiled.owned_none owned]
    exact ⟨rfl, veiled⟩
  | some secret =>
    obtain ⟨own, found, alike⟩ := veiled.owned_some owned
    have refused : (plaintext.join.bind fun _ => left.refusal userId session) =
        other.join.bind fun _ => right.refusal userId session := by
      rw [veiled.refusal]
      revert rotates
      cases plaintext.join <;> cases other.join <;> simp
    rw [found]
    dsimp only
    rw [refused]
    cases other.join.bind fun _ => right.refusal userId session with
    | some refusal => exact ⟨rfl, veiled⟩
    | none =>
      have shown : (own.renamed aliasName externalUsername).shown =
          (secret.renamed aliasName externalUsername).shown := by
        rw [PlainSecret.renamed, PlainSecret.renamed, alike.shown]
      exact ⟨congrArg updatedReply shown, @VeiledStore.put _ _ veiled
        { own.renamed aliasName externalUsername with plaintext := plaintext.join.getD own.plaintext }
        { secret.renamed aliasName externalUsername with plaintext := other.join.getD secret.plaintext }
        ⟨alike.owner, shown⟩ secretId⟩

theorem update_veiled (veiled : VeiledStore left right) (userId secretId : UUID)
    (aliasName externalUsername : UserSecretsService.UpdateField) {plaintext other : UserSecretsService.UpdateField}
    (rotates : plaintext.join.isSome = other.join.isSome) (session : Option String) :
    SeenAlike (left.update userId secretId ⟨aliasName, externalUsername, plaintext⟩ session)
      (right.update userId secretId ⟨aliasName, externalUsername, other⟩ session) := by
  unfold PlainStore.update UpdateSecretPayload.validate
  cases aliasName with
  | none => exact change_veiled veiled userId secretId _ _ rotates session
  | some value =>
    dsimp only
    cases aliasField value with
    | none => exact ⟨rfl, veiled⟩
    | some normalized => exact change_veiled veiled userId secretId _ _ rotates session

theorem delete_veiled (veiled : VeiledStore left right) (userId secretId : UUID) :
    SeenAlike (left.delete userId secretId) (right.delete userId secretId) := by
  unfold PlainStore.delete
  cases owned : right.owned secretId userId with
  | none =>
    rw [veiled.owned_none owned]
    exact ⟨rfl, veiled⟩
  | some secret =>
    obtain ⟨own, found, -⟩ := veiled.owned_some owned
    rw [found]
    exact ⟨rfl, veiled.vaults, veiled.sessions, veiled.secrets.erase secretId, veiled.now⟩

theorem setup_veiled (veiled : VeiledStore left right) (userId : UUID) (passphrase : String)
    (salt : TokenBytes 16) :
    SeenAlike (left.setup userId passphrase salt) (right.setup userId passphrase salt) := by
  unfold PlainStore.setup
  rw [veiled.vaults]
  split_ifs
  · exact ⟨rfl, veiled⟩
  · exact ⟨rfl, veiled⟩
  · exact ⟨rfl, rfl, veiled.sessions, veiled.secrets, veiled.now⟩

theorem unlock_veiled (veiled : VeiledStore left right) (userId : UUID) (passphrase sessionId : String) :
    SeenAlike (left.unlock opens ttlSeconds userId passphrase sessionId)
      (right.unlock opens ttlSeconds userId passphrase sessionId) := by
  unfold PlainStore.unlock
  rw [veiled.vaults]
  split_ifs
  · exact ⟨rfl, veiled⟩
  · split
    · exact ⟨rfl, veiled⟩
    · split_ifs
      · have unlocked : VeiledStore
            { left with sessions := left.sessions.set (userId, sessionId) (left.now + seconds ttlSeconds) }
            { right with sessions := right.sessions.set (userId, sessionId) (right.now + seconds ttlSeconds) } :=
          ⟨veiled.vaults, by rw [veiled.sessions, veiled.now], veiled.secrets, veiled.now⟩
        exact ⟨congrArg (unlockedReply (.set sessionId ttlSeconds)) (unlocked.live userId (some sessionId)),
          rfl, unlocked.sessions, unlocked.secrets, unlocked.now⟩
      · exact ⟨rfl, veiled⟩

theorem handle_veiled (veiled : VeiledStore left right) (userId : UUID) (request : SecretsRequest) :
    SeenAlike (left.handle opens ttlSeconds userId request) (right.handle opens ttlSeconds userId request) := by
  cases request with
  | setupVault passphrase freshSalt nonce => exact setup_veiled veiled userId passphrase freshSalt
  | unlockVault passphrase freshSalt sessionId => exact unlock_veiled veiled userId passphrase sessionId
  | lockVault headers =>
    refine ⟨?_, veiled.vaults, ?_, veiled.secrets, veiled.now⟩
    · simp only [PlainStore.handle, PlainStore.lock, veiled.vaults]
    · simp only [PlainStore.handle, PlainStore.lock, veiled.sessions]
  | getVaultStatus headers =>
    refine ⟨?_, veiled⟩
    simp only [PlainStore.handle, PlainStore.status, veiled.vaults, veiled.live]
  | createSecret payload headers id random =>
    exact create_veiled veiled userId payload payload.secret (getVaultSessionId headers) id
  | listSecrets =>
    refine ⟨?_, veiled⟩
    have shown := @Dict.Related.shown _ _ _ _ _ _ _ veiled.secrets
      (fun secret => decide (secret.owner = userId)) (fun secret => decide (secret.owner = userId))
      PlainSecret.shown PlainSecret.shown fun secret other alike => ⟨by rw [alike.owner], alike.shown⟩
    exact congrArg (fun models => Except.ok (SecretsReply.secrets models)) shown
  | updateSecret secretId payload headers random =>
    exact update_veiled veiled userId secretId _ _ rfl (getVaultSessionId headers)
  | deleteSecret secretId => exact delete_veiled veiled userId secretId

structure VeiledApi (left right : PlainApi) : Prop where
  users : left.users = right.users
  store : VeiledStore left.store right.store

theorem use_veiled (veiled : VeiledStore left right) (secretId userId : UUID) (session : Option String) :
    (ApiReply.used (left.use secretId userId session).1).veiled =
        (ApiReply.used (right.use secretId userId session).1).veiled ∧
      VeiledStore (left.use secretId userId session).2 (right.use secretId userId session).2 := by
  unfold PlainStore.use
  cases owned : right.owned secretId userId with
  | none =>
    rw [veiled.owned_none owned]
    exact ⟨rfl, veiled⟩
  | some secret =>
    obtain ⟨own, found, alike⟩ := veiled.owned_some owned
    rw [found]
    dsimp only
    rw [veiled.refusal]
    cases right.refusal userId session with
    | some refusal => exact ⟨rfl, veiled⟩
    | none =>
      have used : VeiledSecret (own.used left.now) (secret.used right.now) :=
        ⟨alike.owner, by rw [PlainSecret.used, PlainSecret.used, alike.shown, veiled.now]⟩
      exact ⟨rfl, veiled.put used secretId⟩

theorem respond_veiled {api other : PlainApi} (veiled : VeiledApi api other) {input input' : ApiInput}
    (alike : Veils input input') :
    ((plainApi opens ttlSeconds).respond api input).1.veiled =
        ((plainApi opens ttlSeconds).respond other input').1.veiled ∧
      VeiledApi ((plainApi opens ttlSeconds).respond api input).2
        ((plainApi opens ttlSeconds).respond other input').2 := by
  have answered : ∀ userId request request',
      SeenAlike (api.store.handle opens ttlSeconds userId request)
        (other.store.handle opens ttlSeconds userId request') →
      ((plainApi opens ttlSeconds).respond api (.request userId request)).1.veiled =
          ((plainApi opens ttlSeconds).respond other (.request userId request')).1.veiled ∧
        VeiledApi ((plainApi opens ttlSeconds).respond api (.request userId request)).2
          ((plainApi opens ttlSeconds).respond other (.request userId request')).2 := by
    intro userId request request' seen
    simp only [plainApi, PlainApi.respond, ← veiled.users]
    cases requireActiveUser api.users userId with
    | error exception => exact ⟨rfl, veiled⟩
    | ok user => exact ⟨congrArg (fun answer => ApiReply.veiled (.answered answer)) seen.answer, rfl, seen.stores⟩
  cases alike with
  | same =>
    cases input with
    | request userId request => exact answered userId request request (handle_veiled veiled.store userId request)
    | use secretId userId session usageMeta =>
      obtain ⟨reply, stores⟩ := use_veiled veiled.store secretId userId session
      exact ⟨reply, veiled.users, stores⟩
    | setActive userId isActive =>
      refine ⟨rfl, ?_, veiled.store⟩
      exact congrArg (Dict.set · userId (Allegro.User.mk isActive)) veiled.users
    | advance elapsed =>
      exact ⟨rfl, veiled.users, veiled.store.vaults, veiled.store.sessions, veiled.store.secrets,
        congrArg (· + (elapsed : Time)) veiled.store.now⟩
  | create userId payload headers id random random' plaintext =>
    exact answered userId _ _ (create_veiled veiled.store userId payload plaintext (getVaultSessionId headers) id)
  | update userId secretId payload headers random random' plaintext replaced rotates =>
    refine answered userId _ _ (update_veiled veiled.store userId secretId _ _ ?_ (getVaultSessionId headers))
    rw [rotates]
    rfl

theorem replies_veiled {api other : PlainApi} (veiled : VeiledApi api other) {inputs others : List ApiInput}
    (alike : List.Forall₂ Veils inputs others) :
    ((plainApi opens ttlSeconds).replies api inputs).map ApiReply.veiled =
      ((plainApi opens ttlSeconds).replies other others).map ApiReply.veiled := by
  induction alike generalizing api other with
  | nil => rfl
  | cons first rest ih =>
    obtain ⟨reply, later⟩ := @respond_veiled opens ttlSeconds _ _ veiled _ _ first
    rw [Responder.replies, Responder.replies, List.map_cons, List.map_cons, reply, ih later]

end Veiled

-- No answer of the service tells anything of a plaintext that was stored.
theorem plaintexts_hidden {crypto : CryptoLibrary} (lawful : crypto.Lawful) (ttlSeconds : Int) (now : Time)
    {inputs others : List ApiInput} (alike : List.Forall₂ Veils inputs others) :
    ((secretsApi crypto ttlSeconds).replies (.initial now) inputs).map ApiReply.veiled =
      ((secretsApi crypto ttlSeconds).replies (.initial now) others).map ApiReply.veiled := by
  have start : VeiledApi (.initial now) (.initial now) := ⟨rfl, rfl, rfl, Dict.related_empty, rfl⟩
  have represented : ApiRepresents crypto (.initial now) (.initial now) := ⟨rfl, represents_initial crypto now⟩
  rw [((secretsApi_refines lawful).replies represented inputs).1,
    ((secretsApi_refines lawful).replies represented others).1]
  exact replies_veiled start alike

namespace Sample

def otherInputs : List ApiInput :=
  [.setActive anna true, .request anna (.setupVault "horse" (zeros 16) (zeros 12)),
    .request anna (.unlockVault "horse" (zeros 16) "first"),
    .request anna (.createSecret ⟨.allegro, some " shop ", none, "another"⟩ ⟨some "first", none⟩ secretId
      ⟨zeros 32, zeros 12, zeros 12⟩),
    .advance 5, .use secretId anna (some "first") none, .request anna .listSecrets,
    .request anna (.deleteSecret secretId)]

end Sample

theorem plaintexts_hidden_anna :
    ((secretsApi Sample.library 900).replies (.initial 0) Sample.apiInputs).map ApiReply.veiled =
      ((secretsApi Sample.library 900).replies (.initial 0) Sample.otherInputs).map ApiReply.veiled :=
  plaintexts_hidden Sample.library_lawful 900 0 <|
    .cons (.same _) <| .cons (.same _) <| .cons (.same _) <|
      .cons (.create Sample.anna ⟨.allegro, some " shop ", none, "cookie"⟩ ⟨some "first", none⟩ Sample.secretId
        ⟨Sample.zeros 32, Sample.zeros 12, Sample.zeros 12⟩ ⟨Sample.zeros 32, Sample.zeros 12, Sample.zeros 12⟩
        "another") <|
      .cons (.same _) <| .cons (.same _) <| .cons (.same _) <| .cons (.same _) .nil

end FireflyToolkit.Vault
