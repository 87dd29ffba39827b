import FireflyToolkit.Allegro.CachedPages
import FireflyToolkit.Allegro.Router
import FireflyToolkit.Vault.Disclosure

set_option autoImplicit false

namespace FireflyToolkit.Allegro

open OrderedDict Transition

def Request.secretId : Request → Option UUID
  | .previewMatches secretId _ _ _ _ => secretId
  | .applyMatches secretId _ _ => secretId
  | .autoApplySingleMatches secretId _ _ => secretId
  | .clearCacheForSecret secretId _ _ => secretId

def Request.isApply : Request → Bool
  | .applyMatches _ _ _ | .autoApplySingleMatches _ _ _ => true
  | _ => false

def Forbidden (system : System) (userId : UUID) (request : Request) : Bool :=
  (system.users.get? userId).any User.isActive &&
    match request.secretId with
    | none => false
    | some secret =>
        match system.vault.database.secrets.get? secret with
        | none => request.isApply
        | some row => row.userId ≠ userId

def ForbiddenLabel (system : System) : SystemLabel → Bool
  | .request userId request => Forbidden system userId request
  | _ => false

def NothingCached (store : StateStore) (secretId : UUID) : Prop :=
  ∀ entry ∈ store.pages secretId, entry.results = []

-- The handlers refuse a preview by the owner of the secret, an apply job when there is nothing to
-- apply, and a clearing when only half a page is named.
def RefusedAnyway (store : StateStore) : Request → Prop
  | .previewMatches _ _ _ _ _ => True
  | .applyMatches secretId _ _ | .autoApplySingleMatches secretId _ _ =>
      ∀ secret, secretId = some secret → NothingCached store secret
  | .clearCacheForSecret _ limit offset => limit.isNone ≠ offset.isNone

section Requests

variable {settings : Settings} {crypto : Vault.CryptoLibrary} {ttlSeconds : Int}
  {system : System} {userId : UUID} {request : Request}

theorem getAllMatches_eq_nil {store : StateStore} {secretId : UUID} :
    store.getAllMatches secretId = [] ↔ NothingCached store secretId := by
  simp [StateStore.getAllMatches, NothingCached, List.flatMap_eq_nil_iff]

theorem startApplyJob_spec (store : StateStore) (secret : UUID) (decisions : List MatchDecision)
    (jobId : UUID) (now : Time) :
    (NothingCached store secret ∧ startApplyJob store secret decisions jobId now =
        .error (.application .matchesNotComputed "")) ∨
      (¬ NothingCached store secret ∧
        ∃ started, startApplyJob store secret decisions jobId now = .ok started) := by
  unfold startApplyJob
  by_cases nothing : store.getAllMatches secret = []
  next => exact .inl ⟨getAllMatches_eq_nil.mp nothing, if_pos nothing⟩
  next => exact .inr ⟨fun empty => nothing (getAllMatches_eq_nil.mpr empty), _, if_neg nothing⟩

theorem startAutoApply_spec (store : StateStore) (secret : UUID) (limit : Option Int)
    (jobId : UUID) (now : Time) :
    (NothingCached store secret ∧ startAutoApplySingleMatches store secret limit jobId now =
        .error (.application .matchesNotComputed "")) ∨
      (¬ NothingCached store secret ∧
        ∃ started, startAutoApplySingleMatches store secret limit jobId now = .ok started) := by
  unfold startAutoApplySingleMatches
  by_cases nothing : store.getAllMatches secret = []
  next => exact .inl ⟨getAllMatches_eq_nil.mp nothing, if_pos nothing⟩
  next =>
    rcases startApplyJob_spec store secret ((selections (limitTo limit
      (singleMatches (store.getAllMatches secret)))).map decisionOf) jobId now with
      ⟨empty, _⟩ | ⟨cached, started, accepted⟩
    · exact absurd (getAllMatches_eq_nil.mpr empty) nothing
    · exact .inr ⟨cached, started, (if_neg nothing).trans accepted⟩

structure Settled (settings : Settings) (crypto : Vault.CryptoLibrary) (system : System)
    (userId : UUID) (request : Request) : Prop where
  refused : RefusedAnyway system.store request →
    ∃ exception, handle settings crypto system userId request = (.error exception, system)
  served : ¬ RefusedAnyway system.store request →
    ∃ reply after, handle settings crypto system userId request = (.ok reply, after)

theorem settled_startedJob {httpError : PyError → HTTPException} {secret : UUID}
    {started : Except PyError (StateStore × RunningJob)}
    (spec : (NothingCached system.store secret ∧
        started = .error (.application .matchesNotComputed "")) ∨
      (¬ NothingCached system.store secret ∧ ∃ accepted, started = .ok accepted))
    (handled : handle settings crypto system userId request = startedJob system httpError started)
    (asked : RefusedAnyway system.store request ↔ NothingCached system.store secret) :
    Settled settings crypto system userId request := by
  rcases spec with ⟨nothing, failed⟩ | ⟨cached, accepted, ran⟩
  · refine ⟨fun _ => ?_, fun served => absurd (asked.mpr nothing) served⟩
    rw [handled, failed]
    exact ⟨_, rfl⟩
  · refine ⟨fun refused => absurd (asked.mp refused) cached, fun _ => ?_⟩
    rw [handled, ran]
    exact ⟨_, _, rfl⟩

theorem settled_clear (secret : UUID) (limit : Option PageLimit) (offset : Option PageOffset) :
    Settled settings crypto system userId (.clearCacheForSecret (some secret) limit offset) := by
  constructor
  · intro half
    exact ⟨_, if_pos half⟩
  · intro whole
    cases limit with
    | none =>
      cases offset with
      | none => exact ⟨_, _, rfl⟩
      | some offset => exact absurd Bool.noConfusion whole
    | some limit =>
      cases offset with
      | none => exact absurd Bool.noConfusion whole
      | some offset => exact ⟨_, _, rfl⟩

-- The ownership check comes first in the preview, so not even a session is looked at.
theorem settled_preview {secret : UUID} {row : Vault.UserSecret}
    (stored : system.vault.database.secrets.get? secret = some row) (other : row.userId ≠ userId)
    (limit : PageLimit) (offset : PageOffset) (vaultSessionId : Option String)
    (answer : Option (List AllegroOrderPayment)) :
    Settled settings crypto system userId
      (.previewMatches (some secret) limit offset vaultSessionId answer) := by
  refine ⟨fun _ => ?_, fun served => absurd trivial served⟩
  have unowned : Vault.UserSecretsService.ownedSecret system.vault.database secret userId =
      .error Vault.secretNotFound := by
    simp [Vault.UserSecretsService.ownedSecret, stored, other]
  simp [handle, previewMatches, fetchAllegroData,
    Vault.UserSecretsService.getSecretForInternalUse, unowned, Vault.secretNotFound]

theorem forbidden_settled (forbidden : Forbidden system userId request = true) :
    Settled settings crypto system userId request := by
  cases request with
  | previewMatches secretId limit offset vaultSessionId answer =>
    cases secretId with
    | none => simp [Forbidden, Request.secretId] at forbidden
    | some secret =>
      cases stored : system.vault.database.secrets.get? secret with
      | none => simp [Forbidden, Request.secretId, Request.isApply, stored] at forbidden
      | some row =>
        simp only [Forbidden, Request.secretId, stored, Bool.and_eq_true, decide_eq_true_eq]
          at forbidden
        exact settled_preview stored forbidden.2 limit offset vaultSessionId answer
  | applyMatches secretId decisions jobId =>
    cases secretId with
    | none => simp [Forbidden, Request.secretId] at forbidden
    | some secret =>
      exact settled_startedJob (startApplyJob_spec system.store secret decisions jobId _) rfl
        (by simp [RefusedAnyway])
  | autoApplySingleMatches secretId limit jobId =>
    cases secretId with
    | none => simp [Forbidden, Request.secretId] at forbidden
    | some secret =>
      exact settled_startedJob (startAutoApply_spec system.store secret _ jobId _) rfl
        (by simp [RefusedAnyway])
  | clearCacheForSecret secretId limit offset =>
    cases secretId with
    | none => simp [Forbidden, Request.secretId] at forbidden
    | some secret => exact settled_clear secret limit offset

theorem respond_forbidden (forbidden : Forbidden system userId request = true) :
    respond settings crypto system userId request =
      handle settings crypto system userId request := by
  simp only [Forbidden, Bool.and_eq_true, Option.any_eq_true] at forbidden
  rcases forbidden.1 with ⟨user, found, active⟩
  simp [respond, requireActiveUser, found, active]

structure Protected (settings : Settings) (crypto : Vault.CryptoLibrary) (ttlSeconds : Int)
    (system : System) (userId : UUID) (request : Request) : Prop where
  refused : ∃ exception after,
    respond settings crypto system userId request = (.error exception, after)
  unharmed : ∀ rest final, (systemMachine settings crypto ttlSeconds).run
      (respond settings crypto system userId request).2 rest = some final →
    ∃ plain, (systemMachine settings crypto ttlSeconds).run system rest = some plain ∧
      plain.store = final.store ∧ plain.firefly = final.firefly

theorem protected_iff (forbidden : Forbidden system userId request = true) :
    Protected settings crypto ttlSeconds system userId request ↔
      RefusedAnyway system.store request := by
  have settled : Settled settings crypto system userId request := forbidden_settled forbidden
  have same : respond settings crypto system userId request = _ := respond_forbidden forbidden
  constructor
  · intro guarded
    by_contra served
    rcases settled.served served with ⟨reply, after, answered⟩
    rcases guarded.refused with ⟨exception, left, refused⟩
    rw [same, answered] at refused
    cases refused
  · intro refused
    rcases settled.refused refused with ⟨exception, answered⟩
    rw [← same] at answered
    refine ⟨⟨exception, system, answered⟩, fun rest final reached => ?_⟩
    rw [answered] at reached
    exact ⟨final, reached, rfl, rfl⟩

end Requests

def ProtectedLabel (settings : Settings) (crypto : Vault.CryptoLibrary) (ttlSeconds : Int)
    (system : System) : SystemLabel → Prop
  | .request userId request => Forbidden system userId request = true →
      Protected settings crypto ttlSeconds system userId request
  | _ => True

def RefusedAnywayLabel (system : System) : SystemLabel → Prop
  | .request userId request => Forbidden system userId request = true →
      RefusedAnyway system.store request
  | _ => True

theorem forbidden_protected_iff (settings : Settings) (crypto : Vault.CryptoLibrary)
    (ttlSeconds : Int) (start : System) (labels : List SystemLabel) :
    ((systemMachine settings crypto ttlSeconds).Meets
        (ProtectedLabel settings crypto ttlSeconds) start labels ↔
      (systemMachine settings crypto ttlSeconds).Meets RefusedAnywayLabel start labels) ∧
    ((systemMachine settings crypto ttlSeconds).Meets RefusedAnywayLabel start labels →
      ∀ final, (systemMachine settings crypto ttlSeconds).run start labels = some final →
        (systemMachine settings crypto ttlSeconds).run start
          ((systemMachine settings crypto ttlSeconds).without ForbiddenLabel start labels) =
            some final) := by
  constructor
  · apply Machine.Meets.congr
    intro system label
    cases label with
    | request userId request =>
      constructor
      · intro guarded forbidden
        exact (protected_iff forbidden).mp (guarded forbidden)
      · intro refused forbidden
        exact (protected_iff forbidden).mpr (refused forbidden)
    | vaultCall | setActive | jobStep | fireflyChanged | advance => exact Iff.rfl
  · intro meets final reached
    refine Machine.run_without (meets.imp ?_) reached
    intro system label refused forbidden next stepped
    cases label with
    | request userId request =>
      rcases (forbidden_settled forbidden).refused (refused forbidden) with ⟨exception, answered⟩
      have response : respond settings crypto system userId request = (.error exception, system) :=
        (respond_forbidden forbidden).trans answered
      have result : some (respond settings crypto system userId request).2 = some next := stepped
      rw [response] at result
      exact (Option.some.inj result).symm
    | vaultCall | setActive | jobStep | fireflyChanged | advance => cases forbidden

namespace Sample

open FireflyToolkit.Sample FireflyToolkit.Vault.Sample

def ben : UUID := ⟨2⟩

def pageLimit : PageLimit := ⟨25, by decide⟩

def pageOffset : PageOffset :=
  ⟨PageRequest.default.offset, PageRequest.default.offset_nonnegative⟩

def previewedByAnna : List SystemLabel :=
  [.setActive anna true, .setActive ben true,
    .vaultCall (.setupVault anna "horse" (zeros 16) (zeros 12)),
    .vaultCall (.unlockVault anna "horse" (zeros 16) "first"),
    .vaultCall (.createSecret anna anna (some "first") .allegro none none "cookie" secretId
      ⟨zeros 32, zeros 12, zeros 12⟩),
    .request anna (.previewMatches (some secretId) pageLimit pageOffset (some "first")
      (some [early]))]

def applyEarly : Request := .applyMatches (some secretId) [decision] ⟨9⟩

def machine : Machine System SystemLabel := systemMachine settings library 900

def afterPreview : System :=
  (machine.run (.initial account 0) previewedByAnna).getD (.initial account 0)

def deletion : SystemLabel := .vaultCall (.deleteSecret anna anna secretId)

def afterDeletion : System := (machine.run afterPreview [deletion]).getD afterPreview

def clearAll : Request := .clearCacheForSecret (some secretId) none none

theorem earlyEntry_cached {system : System}
    (pages : system.store.pages secretId = [earlyEntry]) :
    ¬ NothingCached system.store secretId := by
  intro nothing
  have listed : earlyEntry.results = [] := nothing earlyEntry (by simp [pages])
  cases listed

end Sample

-- Ben applies Anna's decision or clears her pages, and she applies it after her secret is gone.
theorem forbidden_accepted :
    Sample.machine.run (.initial Sample.account 0) Sample.previewedByAnna =
        some Sample.afterPreview ∧
      (Forbidden Sample.afterPreview Sample.ben Sample.applyEarly = true ∧
        ¬ Protected Sample.settings Vault.Sample.library 900 Sample.afterPreview Sample.ben
          Sample.applyEarly) ∧
      (Forbidden Sample.afterPreview Sample.ben Sample.clearAll = true ∧
        ¬ Protected Sample.settings Vault.Sample.library 900 Sample.afterPreview Sample.ben
          Sample.clearAll) ∧
      Sample.machine.run Sample.afterPreview [Sample.deletion] = some Sample.afterDeletion ∧
      (Forbidden Sample.afterDeletion Vault.Sample.anna Sample.applyEarly = true ∧
        ¬ Protected Sample.settings Vault.Sample.library 900 Sample.afterDeletion
          Vault.Sample.anna Sample.applyEarly) := by
  have cached : ¬ NothingCached Sample.afterPreview.store Vault.Sample.secretId :=
    Sample.earlyEntry_cached (by decide)
  have stillCached : ¬ NothingCached Sample.afterDeletion.store Vault.Sample.secretId :=
    Sample.earlyEntry_cached (by decide)
  have applies : Forbidden Sample.afterPreview Sample.ben Sample.applyEarly = true := by decide
  have clears : Forbidden Sample.afterPreview Sample.ben Sample.clearAll = true := by decide
  have appliesLate : Forbidden Sample.afterDeletion Vault.Sample.anna Sample.applyEarly = true := by
    decide
  refine ⟨rfl, ⟨applies, ?_⟩, ⟨clears, ?_⟩, rfl, ⟨appliesLate, ?_⟩⟩
  · rw [protected_iff applies]
    intro refused
    exact cached (refused _ rfl)
  · rw [protected_iff clears]
    intro half
    exact half rfl
  · rw [protected_iff appliesLate]
    intro refused
    exact stillCached (refused _ rfl)

end FireflyToolkit.Allegro
