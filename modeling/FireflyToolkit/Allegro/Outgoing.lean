import FireflyToolkit.Allegro.Client
import FireflyToolkit.Allegro.Router
import FireflyToolkit.Vault.Disclosure

set_option autoImplicit false

namespace FireflyToolkit.Allegro

open OrderedDict Transition
open Vault (CryptoLibrary Ledger LiveSession RightPassphrase VaultCall VaultLabel)

section Handlers

variable (settings : Settings) (crypto : CryptoLibrary) (library : AllegroLibrary)

structure Exchange (α σ : Type) where
  sent : List HttpRequest
  answer : α
  after : σ

def fetchFromAllegro (vault : Vault.World) (userId secretId : UUID) (vaultSessionId : Option String)
    (page : PageRequest) (transport : Transport) :
    Exchange (Except PyError (List AllegroOrderPayment)) Vault.World :=
  match Vault.UserSecretsService.getSecretForInternalUse crypto vault secretId userId vaultSessionId
      none with
  | (.error (.application .secretNotAccessible _), next) =>
      ⟨[], .error (.application .invalidSecretId
        ("Secret with id " ++ secretId.str ++ " not found for user " ++ userId.str)), next⟩
  | (.error error, next) => ⟨[], .error error, next⟩
  | (.ok secret, next) =>
      match fetch library transport ⟨secret.id, secret.secret, none⟩ page.limit page.offset with
      | (sent, .ok payments) => ⟨sent, .ok payments, next⟩
      | (sent, .error _) =>
          ⟨sent, .error (.application .externalServiceFailed
            ("Failed to fetch allegro data for secret " ++ secretId.str)), next⟩

def previewOverWire (system : System) (userId : UUID) (secretId : Option UUID) (page : PageRequest)
    (vaultSessionId : Option String) (transport : Transport) :
    Exchange (Except HTTPException Reply) System :=
  match secretId with
  | none => ⟨[], .error invalidSecretId, system⟩
  | some secret =>
      let fetched := fetchFromAllegro crypto library system.vault userId secret vaultSessionId page
        transport
      let vaulted := { system with vault := fetched.after }
      match fetched.answer with
      | .error error => ⟨fetched.sent, .error (allegroHttpError error), vaulted⟩
      | .ok payments =>
          match previewPage settings system.store system.firefly secret page payments with
          | .error error => ⟨fetched.sent, .error (allegroHttpError error), vaulted⟩
          | .ok (store, preview) =>
              ⟨fetched.sent, previewReply preview, { vaulted with store := store }⟩

def respondPreview (system : System) (userId : UUID) (secretId : Option UUID) (limit : PageLimit)
    (offset : PageOffset) (vaultSessionId : Option String) (transport : Transport) :
    Exchange (Except HTTPException Reply) System :=
  match requireActiveUser system.users userId with
  | .error exception => ⟨[], .error exception, system⟩
  | .ok _ =>
      previewOverWire settings crypto library system userId secretId (pageOf limit offset)
        vaultSessionId transport

def answerOf (system : System) (userId : UUID) (secretId : Option UUID) (page : PageRequest)
    (vaultSessionId : Option String) (transport : Transport) : Option (List AllegroOrderPayment) := do
  let secret ← secretId
  (fetchFromAllegro crypto library system.vault userId secret vaultSessionId page transport).answer.toOption

end Handlers

section Refinement

variable {settings : Settings} {crypto : CryptoLibrary} {library : AllegroLibrary}

theorem fetchFromAllegro_eq (vault : Vault.World) (userId secretId : UUID) (vaultSessionId : Option String)
    (page : PageRequest) (transport : Transport) :
    let fetched := fetchFromAllegro crypto library vault userId secretId vaultSessionId page transport
    (fetched.answer, fetched.after) =
      fetchAllegroData crypto vault userId secretId vaultSessionId fetched.answer.toOption := by
  dsimp only
  unfold fetchFromAllegro fetchAllegroData
  cases got : Vault.UserSecretsService.getSecretForInternalUse crypto vault secretId userId
      vaultSessionId none with
  | mk result next =>
    cases result with
    | error error =>
      cases error with
      | application kind message => cases kind <;> rfl
      | _ => rfl
    | ok secret =>
      dsimp only
      split <;> rfl

theorem respondPreview_refines (system : System) (userId : UUID) (secretId : Option UUID)
    (limit : PageLimit) (offset : PageOffset) (vaultSessionId : Option String) (transport : Transport) :
    let answered := respondPreview settings crypto library system userId secretId limit offset
      vaultSessionId transport
    (answered.answer, answered.after) = respond settings crypto system userId
      (.previewMatches secretId limit offset vaultSessionId
        (answerOf crypto library system userId secretId (pageOf limit offset) vaultSessionId transport)) := by
  dsimp only
  unfold respondPreview respond
  cases requireActiveUser system.users userId with
  | error exception => rfl
  | ok admitted =>
    dsimp only [handle]
    cases secretId with
    | none => rfl
    | some secret =>
      have same := @fetchFromAllegro_eq crypto library system.vault userId secret vaultSessionId
        (pageOf limit offset) transport
      rw [previewMatches, answerOf, previewOverWire]
      dsimp only [Option.bind_eq_bind, Option.bind_some]
      rw [← same]
      cases (fetchFromAllegro crypto library system.vault userId secret vaultSessionId
        (pageOf limit offset) transport).answer with
      | error error => rfl
      | ok payments =>
        dsimp only
        cases previewPage settings system.store system.firefly secret (pageOf limit offset) payments with
        | error error => rfl
        | ok previewed => rfl

end Refinement

structure Watched where
  system : System
  returned : List (VaultCall × Time)

def Watched.ledger (watched : Watched) : Ledger := ⟨watched.system.vault, watched.returned⟩

inductive WatchedLabel
  | preview (userId : UUID) (secretId : Option UUID) (limit : PageLimit) (offset : PageOffset)
      (vaultSessionId : Option String) (transport : Transport)
  | other (label : SystemLabel)

def SystemLabel.isPreview : SystemLabel → Bool
  | .request _ (.previewMatches ..) => true
  | _ => false

def vaultLabel (system : System) : WatchedLabel → Option VaultLabel
  | .preview userId secretId _ _ vaultSessionId _ =>
      match requireActiveUser system.users userId, secretId with
      | .ok _, some secret => some (.call (.getSecretForInternalUse secret userId vaultSessionId none))
      | _, _ => none
  | .other (.vaultCall call) => some (.call call)
  | .other (.advance elapsed) => some (.advance elapsed)
  | .other _ => none

section Watching

variable (settings : Settings) (crypto : CryptoLibrary) (ttlSeconds : Int) (library : AllegroLibrary)

def systemAfter (system : System) : WatchedLabel → Option System
  | .preview userId secretId limit offset vaultSessionId transport =>
      some (respondPreview settings crypto library system userId secretId limit offset vaultSessionId
        transport).after
  | .other label => if label.isPreview then none else systemStep settings crypto ttlSeconds system label

def watchedStep (watched : Watched) (label : WatchedLabel) : Option Watched :=
  (systemAfter settings crypto ttlSeconds library watched.system label).map fun next =>
    let recorded := (vaultLabel watched.system label).bind (Vault.ledgerStep crypto ttlSeconds watched.ledger)
    { system := next, returned := (recorded.map Ledger.returned).getD watched.returned }

def watchedMachine : Machine Watched WatchedLabel := ⟨watchedStep settings crypto ttlSeconds library⟩

def Watched.initial (firefly : FireflyStore) (now : Time) : Watched := ⟨.initial firefly now, []⟩

end Watching

section Vaults

variable {settings : Settings} {crypto : CryptoLibrary} {ttlSeconds : Int} {library : AllegroLibrary}
  {watched next : Watched} {label : WatchedLabel}

theorem vault_fetchFromAllegro (vault : Vault.World) (userId secretId : UUID) (vaultSessionId : Option String)
    (page : PageRequest) (transport : Transport) :
    (fetchFromAllegro crypto library vault userId secretId vaultSessionId page transport).after =
      (Vault.perform crypto ttlSeconds vault
        (.getSecretForInternalUse secretId userId vaultSessionId none)).2 := by
  unfold fetchFromAllegro
  rw [Vault.perform, Vault.outcome]
  split
  next got => rw [got]
  next got => rw [got]
  next got =>
    rw [got]
    split <;> rfl

theorem vault_previewOverWire (system : System) (userId secret : UUID) (page : PageRequest)
    (vaultSessionId : Option String) (transport : Transport) :
    (previewOverWire settings crypto library system userId (some secret) page vaultSessionId
        transport).after.vault =
      (Vault.perform crypto ttlSeconds system.vault
        (.getSecretForInternalUse secret userId vaultSessionId none)).2 := by
  rw [← @vault_fetchFromAllegro crypto ttlSeconds library system.vault userId secret vaultSessionId page
    transport]
  unfold previewOverWire
  dsimp only
  split
  · rfl
  · split <;> rfl

theorem vault_respond (system : System) (userId : UUID) {request : Request}
    (other : SystemLabel.isPreview (.request userId request) = false) :
    (respond settings crypto system userId request).2.vault = system.vault := by
  have started : ∀ httpError attempt, (startedJob system httpError attempt).2.vault = system.vault := by
    intro httpError attempt
    unfold startedJob
    split <;> rfl
  unfold respond
  split
  · rfl
  · cases request with
    | previewMatches => cases other
    | applyMatches secretId decisions jobId =>
      cases secretId with
      | none => rfl
      | some secret => exact started _ _
    | autoApplySingleMatches secretId limit jobId =>
      cases secretId with
      | none => rfl
      | some secret => exact started _ _
    | clearCacheForSecret secretId limit offset =>
      unfold handle clearCacheForSecret
      dsimp only
      split_ifs
      · rfl
      · split <;> rfl

theorem record_world (ledger : Ledger) (call : VaultCall) (performed : Except PyError Unit × Vault.World) :
    (ledger.record call performed).world = performed.2 := by
  obtain ⟨outcome, world⟩ := performed
  cases outcome <;> rfl

structure VaultMoves (crypto : CryptoLibrary) (ttlSeconds : Int) (system after : System)
    (label : WatchedLabel) : Prop where
  kept : vaultLabel system label = none → after.vault = system.vault
  moved : ∀ call, vaultLabel system label = some call → ∀ returned, ∃ ledger,
    Vault.ledgerStep crypto ttlSeconds ⟨system.vault, returned⟩ call = some ledger ∧
      ledger.world = after.vault

theorem vaultMoves {system after : System}
    (advanced : systemAfter settings crypto ttlSeconds library system label = some after) :
    VaultMoves crypto ttlSeconds system after label := by
  have idle : vaultLabel system label = none → after.vault = system.vault →
      VaultMoves crypto ttlSeconds system after label := by
    refine fun none same => ⟨fun _ => same, fun call some => ?_⟩
    rw [none] at some
    cases some
  cases label with
  | preview userId secretId limit offset vaultSessionId transport =>
    obtain rfl := Option.some.inj advanced
    cases admitted : requireActiveUser system.users userId with
    | error exception => exact idle (by simp only [vaultLabel, admitted]) (by rw [respondPreview, admitted])
    | ok user =>
      cases secretId with
      | none =>
        refine idle (by simp only [vaultLabel, admitted]) ?_
        rw [respondPreview, admitted]
        rfl
      | some secret =>
        have own : vaultLabel system (.preview userId (some secret) limit offset vaultSessionId transport) =
            some (.call (.getSecretForInternalUse secret userId vaultSessionId none)) := by
          simp only [vaultLabel, admitted]
        refine ⟨fun none => absurd (own.symm.trans none) (by simp), fun call some returned => ?_⟩
        obtain rfl := Option.some.inj (own.symm.trans some)
        refine ⟨_, rfl, ?_⟩
        rw [record_world, respondPreview, admitted]
        exact (vault_previewOverWire system userId secret _ vaultSessionId transport).symm
  | other label =>
    rw [systemAfter] at advanced
    split_ifs at advanced with previews
    cases label with
    | request userId request =>
      obtain rfl := Option.some.inj advanced
      exact idle rfl (vault_respond system userId (Bool.eq_false_of_not_eq_true previews))
    | vaultCall call =>
      rw [systemStep] at advanced
      split_ifs at advanced with taken
      obtain rfl := Option.some.inj advanced
      refine ⟨fun none => absurd none (Option.some_ne_none _), fun made some returned => ?_⟩
      obtain rfl := Option.some.inj some
      exact ⟨_, if_neg taken, record_world _ _ _⟩
    | setActive userId isActive => exact idle rfl (by obtain rfl := Option.some.inj advanced; rfl)
    | jobStep place client =>
      refine idle rfl ?_
      rw [systemStep] at advanced
      cases found : system.running[place]? with
      | none => simp [found] at advanced
      | some task =>
        rw [found] at advanced
        obtain rfl := Option.some.inj advanced
        unfold stepJob
        split <;> rfl
    | fireflyChanged firefly => exact idle rfl (by obtain rfl := Option.some.inj advanced; rfl)
    | advance elapsed =>
      obtain rfl := Option.some.inj advanced
      refine ⟨fun none => absurd none (Option.some_ne_none _), fun made some returned => ?_⟩
      obtain rfl := Option.some.inj some
      exact ⟨_, rfl, rfl⟩

theorem ledger_step (stepped : watchedStep settings crypto ttlSeconds library watched label = some next) :
    next.ledger = watched.ledger ∨
      ∃ call, (Vault.vaultMachine crypto ttlSeconds).step watched.ledger call = some next.ledger := by
  obtain ⟨after, advanced, rfl⟩ := Option.map_eq_some_iff.mp stepped
  have moves := vaultMoves advanced
  cases own : vaultLabel watched.system label with
  | none => exact .inl (congrArg (Ledger.mk · watched.returned) (moves.kept own))
  | some call =>
    obtain ⟨ledger, recorded, same⟩ := moves.moved call own watched.returned
    refine .inr ⟨call, recorded.trans (congrArg some ?_)⟩
    have found : Vault.ledgerStep crypto ttlSeconds watched.ledger call = some ledger := recorded
    simp only [Watched.ledger, Option.bind_some] at found ⊢
    rw [found, ← same]
    rfl

theorem ledger_run {firefly : FireflyStore} {now : Time} {labels : List WatchedLabel}
    (reached : (watchedMachine settings crypto ttlSeconds library).run (.initial firefly now) labels =
      some watched) :
    ∃ calls, (Vault.vaultMachine crypto ttlSeconds).run (.initial now) calls = some watched.ledger := by
  have preserved : ∀ state label after,
      (∃ calls, (Vault.vaultMachine crypto ttlSeconds).run (.initial now) calls = some state.ledger) →
      (watchedMachine settings crypto ttlSeconds library).step state label = some after →
      ∃ calls, (Vault.vaultMachine crypto ttlSeconds).run (.initial now) calls = some after.ledger := by
    rintro state label after ⟨calls, ran⟩ stepped
    rcases ledger_step stepped with same | ⟨call, taken⟩
    · exact ⟨calls, same ▸ ran⟩
    · exact ⟨calls ++ [call], Machine.run_snoc.mpr ⟨_, ran, taken⟩⟩
  exact @Machine.invariant_of_run _ _ (watchedMachine settings crypto ttlSeconds library)
    (fun state => ∃ calls, (Vault.vaultMachine crypto ttlSeconds).run (.initial now) calls =
      some state.ledger)
    preserved _ _ _ ⟨[], rfl⟩ reached

end Vaults

section Sent

variable {settings : Settings} {crypto : CryptoLibrary} {ttlSeconds : Int} {library : AllegroLibrary}

structure Authorized (crypto : CryptoLibrary) (ttlSeconds : Int) (ledger : Ledger)
    (userId secretId : UUID) (vaultSessionId : Option String) (cookie : String) : Prop where
  creator : ledger.creator secretId = some userId
  session : ∃ session issue, vaultSessionId = some session ∧
    LiveSession ttlSeconds ledger userId session issue ∧
    RightPassphrase crypto ledger userId issue.passphrase
  plaintext : ledger.plaintext secretId = some cookie

theorem authorized_of_got (lawful : crypto.Lawful) {ledger : Ledger}
    (bound : Vault.Bound crypto ttlSeconds ledger) {userId secretId : UUID}
    {vaultSessionId : Option String} {secret : Vault.UserSecretModel} {after : Vault.World}
    (got : Vault.UserSecretsService.getSecretForInternalUse crypto ledger.world secretId userId
      vaultSessionId none = (.ok secret, after)) :
    Authorized crypto ttlSeconds ledger userId secretId vaultSessionId secret.secret := by
  obtain ⟨row, userKey, sessions, owned, required, opened⟩ := Vault.getSecret_ok.mp ⟨secret, after, got, rfl⟩
  obtain ⟨stored, rfl⟩ := Vault.ownedSecret_ok.mp owned
  have secretBound := bound.secrets secretId row stored
  obtain ⟨plaintext, vaultKey, random, said, key, blob⟩ := secretBound.blob
  obtain rfl := Vault.vaultKey_unique key (Vault.vaultKey_of_required bound required)
  have disclosed := (Vault.openSecret_encrypted lawful blob).symm.trans opened
  obtain ⟨-, session, given, active⟩ := Vault.requireUserKey_ok.mp required
  obtain ⟨issue, live, right⟩ := Vault.liveSession_of_active bound active
  exact ⟨secretBound.creator, ⟨session, issue, given, live, right⟩,
    said.trans (congrArg some (Except.ok.inj disclosed))⟩

theorem sent_fetchFromAllegro (vault : Vault.World) (userId secretId : UUID) (vaultSessionId : Option String)
    (page : PageRequest) (transport : Transport) :
    (fetchFromAllegro crypto library vault userId secretId vaultSessionId page transport).sent = [] ∨
      ∃ secret after, Vault.UserSecretsService.getSecretForInternalUse crypto vault secretId userId
          vaultSessionId none = (.ok secret, after) ∧
        (fetchFromAllegro crypto library vault userId secretId vaultSessionId page transport).sent <+:
          [AllegroApiClient.usersRequest ⟨secret.secret, transport⟩,
            AllegroApiClient.ordersRequest ⟨secret.secret, transport⟩ page.limit page.offset] := by
  unfold fetchFromAllegro
  split
  next => exact .inl rfl
  next => exact .inl rfl
  next secret after got =>
    have sent := sent_fetch library transport secret.id secret.secret page.limit page.offset
    refine .inr ⟨secret, after, got, ?_⟩
    split
    next fetched => rwa [fetched] at sent
    next fetched => rwa [fetched] at sent

theorem sent_previewOverWire (system : System) (userId secretId : UUID) (page : PageRequest)
    (vaultSessionId : Option String) (transport : Transport) :
    (previewOverWire settings crypto library system userId (some secretId) page vaultSessionId
        transport).sent =
      (fetchFromAllegro crypto library system.vault userId secretId vaultSessionId page transport).sent := by
  unfold previewOverWire
  dsimp only
  split
  · rfl
  · split <;> rfl

-- Whatever has happened before, a preview sends nothing, or only requests with the cookie that its
-- user stored last under the secret and has unlocked.
theorem requests_authorized (lawful : crypto.Lawful) {firefly : FireflyStore} {now : Time}
    {labels : List WatchedLabel} {watched : Watched}
    (reached : (watchedMachine settings crypto ttlSeconds library).run (.initial firefly now) labels =
      some watched)
    (userId : UUID) (secretId : Option UUID) (limit : PageLimit) (offset : PageOffset)
    (vaultSessionId : Option String) (transport : Transport) :
    (respondPreview settings crypto library watched.system userId secretId limit offset vaultSessionId
        transport).sent = [] ∨
      ∃ secret cookie, secretId = some secret ∧ requireActiveUser watched.system.users userId = .ok () ∧
        Authorized crypto ttlSeconds watched.ledger userId secret vaultSessionId cookie ∧
        (respondPreview settings crypto library watched.system userId secretId limit offset vaultSessionId
          transport).sent <+:
            [⟨"GET", "https://api.allegro.pl/users", [("Cookie", "QXLSESSID=" ++ cookie),
                ("Accept", "application/vnd.allegro.public.v2+json"), ("Referer", "https://allegro.pl/")]⟩,
              ⟨"GET", "https://api.allegro.pl/myorder-api/myorders?limit=" ++ toString limit.val ++
                "&offset=" ++ toString offset.val, [("Cookie", "QXLSESSID=" ++ cookie),
                ("Accept", "application/vnd.allegro.public.v3+json"), ("Referer", "https://allegro.pl/")]⟩] := by
  obtain ⟨calls, ran⟩ := ledger_run reached
  have bound := Vault.bound_run lawful ran
  unfold respondPreview
  split
  next => exact .inl rfl
  next admitted =>
    cases secretId with
    | none => exact .inl rfl
    | some secret =>
      rw [sent_previewOverWire]
      rcases @sent_fetchFromAllegro crypto library watched.system.vault userId secret vaultSessionId
          (pageOf limit offset) transport with nothing | ⟨model, after, got, sent⟩
      · exact .inl nothing
      · exact .inr ⟨secret, model.secret, rfl, admitted, authorized_of_got lawful bound got, sent⟩

end Sent

namespace Sample

def library : AllegroLibrary where
  modelValidate _ := some []
  titles := ⟨fun _ => true, id, id⟩
  shown _ := "anna"
  shortId := id

def watchedLabels : List WatchedLabel :=
  .other (.setActive Vault.Sample.anna true) :: Vault.Sample.labels.map fun
    | .call call => .other (.vaultCall call)
    | .advance elapsed => .other (.advance elapsed)

def emptyFirefly : FireflyStore := ⟨[], [], List.nodup_nil⟩

def afterWatched : Watched :=
  ((watchedMachine FireflyToolkit.Sample.settings Vault.Sample.library 900 library).run (.initial emptyFirefly 0)
    watchedLabels).getD (.initial emptyFirefly 0)

end Sample

theorem requests_authorized_second :
    let answered := respondPreview Sample.settings Vault.Sample.library Sample.library
      Sample.afterWatched.system Vault.Sample.anna (some Vault.Sample.secretId) ⟨25, by decide⟩
      ⟨0, by decide⟩ (some "second") fun _ => .timeout
    answered.sent.length = 1 ∧ ∃ cookie, Authorized Vault.Sample.library 900 Sample.afterWatched.ledger
      Vault.Sample.anna Vault.Sample.secretId (some "second") cookie := by
  have reached : (watchedMachine Sample.settings Vault.Sample.library 900 Sample.library).run
      (.initial Sample.emptyFirefly 0) Sample.watchedLabels = some Sample.afterWatched := rfl
  have one : (respondPreview Sample.settings Vault.Sample.library Sample.library
      Sample.afterWatched.system Vault.Sample.anna (some Vault.Sample.secretId) ⟨25, by decide⟩
      ⟨0, by decide⟩ (some "second") fun _ => .timeout).sent.length = 1 := rfl
  rcases requests_authorized Vault.Sample.library_lawful reached Vault.Sample.anna
      (some Vault.Sample.secretId) ⟨25, by decide⟩ ⟨0, by decide⟩ (some "second") fun _ => .timeout with
    nothing | ⟨secret, cookie, named, -, authorized, -⟩
  · rw [nothing] at one
    cases one
  · obtain rfl := Option.some.inj named
    exact ⟨one, cookie, authorized⟩

end FireflyToolkit.Allegro
