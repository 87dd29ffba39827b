import FireflyToolkit.Vault.Services
import Mathlib.Data.List.Induction

set_option autoImplicit false

namespace FireflyToolkit.Vault

open OrderedDict

namespace VaultSessionStore

def getExpiresAt (store : VaultSessionStore) (now : Time) (userId : UUID) (sessionId : String) :
    Option Time × VaultSessionStore :=
  let (session, next) := store.getActiveSession now userId sessionId
  (session.map VaultSession.expiresAt, next)

def invalidateAllForUser (store : VaultSessionStore) (userId : UUID) : VaultSessionStore :=
  ⟨store.sessions.erase userId⟩

theorem session?_invalidateAllForUser (store : VaultSessionStore) (userId other : UUID)
    (otherId : String) :
    (store.invalidateAllForUser userId).session? other otherId =
      if other = userId then none else store.session? other otherId := by
  by_cases same : other = userId <;> simp [invalidateAllForUser, session?, same]

end VaultSessionStore

namespace VaultService

def isUnlocked (world : World) (userId : UUID) (sessionId : Option String) :
    Bool × VaultSessionStore :=
  match sessionId with
  | none => (false, world.sessions)
  | some session =>
      let (userKey, sessions) := world.sessions.getUserKey world.now userId session
      (userKey.isSome, sessions)

def getSessionExpiresAt (world : World) (userId : UUID) (sessionId : Option String) :
    Option Time × VaultSessionStore :=
  match sessionId with
  | none => (none, world.sessions)
  | some session => world.sessions.getExpiresAt world.now userId session

end VaultService

inductive StoreCall
  | create (userId : UUID) (userKey : ByteArray) (ttlSeconds : Int) (sessionId : String)
  | getUserKey (userId : UUID) (sessionId : String)
  | getExpiresAt (userId : UUID) (sessionId : String)
  | invalidate (userId : UUID) (sessionId : String)
  | invalidateAllForUser (userId : UUID)

structure TimedCall where
  call : StoreCall
  now : Time

namespace StoreCall

def userId : StoreCall → UUID
  | create userId _ _ _ => userId
  | getUserKey userId _ => userId
  | getExpiresAt userId _ => userId
  | invalidate userId _ => userId
  | invalidateAllForUser userId => userId

def created : StoreCall → Option String
  | create _ _ _ sessionId => some sessionId
  | _ => none

def Ends (userId : UUID) (sessionId : String) : StoreCall → Prop
  | invalidate user session => userId = user ∧ sessionId = session
  | invalidateAllForUser user => userId = user
  | _ => False

end StoreCall

namespace VaultSessionStore

def perform (store : VaultSessionStore) (timed : TimedCall) : VaultSessionStore :=
  match timed.call with
  | .create userId userKey ttlSeconds sessionId =>
      store.create userId userKey ttlSeconds timed.now sessionId
  | .getUserKey userId sessionId => (store.getUserKey timed.now userId sessionId).2
  | .getExpiresAt userId sessionId => (store.getExpiresAt timed.now userId sessionId).2
  | .invalidate userId sessionId => store.invalidate userId sessionId
  | .invalidateAllForUser userId => store.invalidateAllForUser userId

def after (calls : List TimedCall) : VaultSessionStore := calls.foldl perform initial

theorem after_snoc (calls : List TimedCall) (timed : TimedCall) :
    after (calls ++ [timed]) = (after calls).perform timed := by
  simp [after]

end VaultSessionStore

-- A `create` call returned the session, and no later call invalidated it.
def Lives (calls : List TimedCall) (userId : UUID) (sessionId : String) (session : VaultSession) :
    Prop :=
  ∃ before opened later ttlSeconds, calls = before ++ opened :: later ∧
    opened.call = .create userId session.userKey ttlSeconds sessionId ∧
    session.expiresAt = opened.now + seconds ttlSeconds ∧
    ∀ timed ∈ later, ¬ timed.call.Ends userId sessionId

def Active (calls : List TimedCall) (now : Time) (userId : UUID) (sessionId : String)
    (session : VaultSession) : Prop :=
  Lives calls userId sessionId session ∧ now < session.expiresAt

abbrev SessionMap := UUID → String → Option VaultSession

namespace SessionMap

def initial : SessionMap := fun _ _ => none

def perform (map : SessionMap) (timed : TimedCall) : SessionMap :=
  match timed.call with
  | .create userId userKey ttlSeconds sessionId => fun other otherId =>
      if other = userId ∧ otherId = sessionId then
        some ⟨userKey, timed.now + seconds ttlSeconds⟩
      else map other otherId
  | .invalidate userId sessionId => fun other otherId =>
      if other = userId ∧ otherId = sessionId then none else map other otherId
  | .invalidateAllForUser userId => fun other otherId =>
      if other = userId then none else map other otherId
  | .getUserKey _ _ => map
  | .getExpiresAt _ _ => map

def after (calls : List TimedCall) : SessionMap := calls.foldl perform initial

theorem after_snoc (calls : List TimedCall) (timed : TimedCall) :
    after (calls ++ [timed]) = (after calls).perform timed := by
  simp [after]

end SessionMap

-- The store holds what the map holds, except that it may have dropped what has expired.
def Simulates (now : Time) (map : SessionMap) (store : VaultSessionStore) : Prop :=
  ∀ userId sessionId, store.session? userId sessionId = map userId sessionId ∨
    store.session? userId sessionId = none ∧
      ∃ session, map userId sessionId = some session ∧ session.expiresAt ≤ now

namespace Simulates

variable {now : Time} {map : SessionMap} {store : VaultSessionStore}

theorem later (simulates : Simulates now map store) {time : Time} (passed : now ≤ time) :
    Simulates time map store := by
  intro userId sessionId
  rcases simulates userId sessionId with same | ⟨dropped, session, stored, expired⟩
  · exact .inl same
  · exact .inr ⟨dropped, session, stored, Int.le_trans expired passed⟩

theorem pruned (simulates : Simulates now map store) {next : VaultSessionStore}
    (pruned : VaultSessionStore.Pruned now store next) : Simulates now map next := by
  intro userId sessionId
  rcases pruned userId sessionId with kept | ⟨dropped, session, stored, expired⟩
  · rw [kept]
    exact simulates userId sessionId
  · rcases simulates userId sessionId with same | ⟨missing, -⟩
    · exact .inr ⟨dropped, session, same ▸ stored, expired⟩
    · rw [missing] at stored
      cases stored

theorem updated (simulates : Simulates now map store) {map' : SessionMap}
    {store' : VaultSessionStore} (changed : UUID → String → Prop)
    (written : ∀ userId sessionId, changed userId sessionId →
      store'.session? userId sessionId = map' userId sessionId)
    (kept : ∀ userId sessionId, ¬ changed userId sessionId →
      store'.session? userId sessionId = store.session? userId sessionId ∧
        map' userId sessionId = map userId sessionId) : Simulates now map' store' := by
  intro userId sessionId
  by_cases touched : changed userId sessionId
  next => exact .inl (written userId sessionId touched)
  next =>
    rw [(kept userId sessionId touched).1, (kept userId sessionId touched).2]
    exact simulates userId sessionId

theorem perform (simulates : Simulates now map store) {timed : TimedCall}
    (passed : now ≤ timed.now) : Simulates timed.now (map.perform timed) (store.perform timed) := by
  obtain ⟨call, time⟩ := timed
  have current := simulates.later passed
  cases call with
  | create userId userKey ttlSeconds sessionId =>
    refine current.updated (fun other otherId => other = userId ∧ otherId = sessionId) ?_ ?_ <;>
      intro other otherId touched <;>
      simp [VaultSessionStore.perform, SessionMap.perform, VaultSessionStore.session?_create, touched]
  | getUserKey userId sessionId =>
    exact current.pruned (store.getUserKey_pruned time userId sessionId)
  | getExpiresAt userId sessionId =>
    exact current.pruned (store.getActiveSession_spec time userId sessionId).2
  | invalidate userId sessionId =>
    refine current.updated (fun other otherId => other = userId ∧ otherId = sessionId) ?_ ?_ <;>
      intro other otherId touched <;>
      simp [VaultSessionStore.perform, SessionMap.perform, VaultSessionStore.session?_invalidate,
        touched]
  | invalidateAllForUser userId =>
    refine current.updated (fun other _ => other = userId) ?_ ?_ <;>
      intro other otherId touched <;>
      simp [VaultSessionStore.perform, SessionMap.perform,
        VaultSessionStore.session?_invalidateAllForUser, touched]

theorem active (simulates : Simulates now map store) (userId : UUID) (sessionId : String) :
    (store.getActiveSession now userId sessionId).1 =
      (map userId sessionId).filter (fun session => decide (now < session.expiresAt)) := by
  rw [(store.getActiveSession_spec now userId sessionId).1]
  rcases simulates userId sessionId with same | ⟨dropped, session, stored, expired⟩
  · rw [same]
  · rw [dropped, stored]
    simp [Option.filter, Int.not_lt.mpr expired]

end Simulates

theorem simulates_after {calls : List TimedCall}
    (ordered : calls.Pairwise fun earlier later => earlier.now ≤ later.now) {now : Time}
    (passed : ∀ timed ∈ calls, timed.now ≤ now) :
    Simulates now (SessionMap.after calls) (VaultSessionStore.after calls) := by
  induction calls using List.reverseRecOn generalizing now with
  | nil => exact fun _ _ => .inl rfl
  | append_singleton calls timed ih =>
    rw [List.pairwise_append] at ordered
    rw [SessionMap.after_snoc, VaultSessionStore.after_snoc]
    have before := @ih ordered.1 timed.now fun earlier member =>
      ordered.2.2 earlier member timed (by simp)
    exact (before.perform (le_refl timed.now)).later (passed timed (by simp))

theorem lives_nil {userId : UUID} {sessionId : String} {session : VaultSession} :
    ¬ Lives [] userId sessionId session := by
  rintro ⟨before, opened, later, ttlSeconds, split, -⟩
  simp at split

theorem lives_snoc {calls : List TimedCall} {timed : TimedCall} {userId : UUID}
    {sessionId : String} {session : VaultSession} :
    Lives (calls ++ [timed]) userId sessionId session ↔
      (∃ ttlSeconds, timed.call = .create userId session.userKey ttlSeconds sessionId ∧
        session.expiresAt = timed.now + seconds ttlSeconds) ∨
      Lives calls userId sessionId session ∧ ¬ timed.call.Ends userId sessionId := by
  constructor
  · rintro ⟨before, opened, later, ttlSeconds, split, call, expires, open_⟩
    induction later using List.reverseRecOn with
    | nil =>
      obtain ⟨-, same⟩ := List.append_inj' split rfl
      rw [List.singleton_inj] at same
      exact .inl ⟨ttlSeconds, same ▸ call, same ▸ expires⟩
    | append_singleton later last _ =>
      rw [← List.cons_append, ← List.append_assoc] at split
      obtain ⟨same, final⟩ := List.append_inj' split rfl
      rw [List.singleton_inj] at final
      refine .inr ⟨⟨before, opened, later, ttlSeconds, same, call, expires, fun ended member =>
        open_ ended (List.mem_append_left _ member)⟩, final ▸ open_ last (by simp)⟩
  · rintro (⟨ttlSeconds, call, expires⟩ | ⟨⟨before, opened, later, ttlSeconds, split, call, expires,
      open_⟩, kept⟩)
    · exact ⟨calls, timed, [], ttlSeconds, rfl, call, expires, by simp⟩
    · refine ⟨before, opened, later ++ [timed], ttlSeconds, by simp [split], call, expires, ?_⟩
      intro ended member
      rcases List.mem_append.mp member with earlier | last
      · exact open_ ended earlier
      · exact List.mem_singleton.mp last ▸ kept

def sessionIds (calls : List TimedCall) : List String := calls.filterMap fun timed => timed.call.created

theorem lives_created {calls : List TimedCall} {userId : UUID} {sessionId : String}
    {session : VaultSession} (lives : Lives calls userId sessionId session) :
    sessionId ∈ sessionIds calls := by
  obtain ⟨before, opened, later, ttlSeconds, split, call, -⟩ := lives
  exact List.mem_filterMap.mpr ⟨opened, by simp [split], by rw [call]; rfl⟩

theorem sessionMap_after {calls : List TimedCall} (fresh : (sessionIds calls).Nodup)
    (userId : UUID) (sessionId : String) (session : VaultSession) :
    SessionMap.after calls userId sessionId = some session ↔
      Lives calls userId sessionId session := by
  induction calls using List.reverseRecOn with
  | nil => simp [SessionMap.after, SessionMap.initial, lives_nil]
  | append_singleton calls timed ih =>
    obtain ⟨call, time⟩ := timed
    rw [sessionIds, List.filterMap_append] at fresh
    have known := ih (List.nodup_append.mp fresh).1
    rw [SessionMap.after_snoc, lives_snoc, ← known]
    cases call with
    | create user userKey ttlSeconds id =>
      by_cases same : userId = user ∧ sessionId = id
      next =>
        obtain ⟨rfl, rfl⟩ := same
        -- The new id was never returned before.
        have unknown : SessionMap.after calls userId sessionId ≠ some session := by
          intro stored
          have earlier := lives_created (known.mp stored)
          exact (List.nodup_append.mp fresh).2.2 sessionId earlier sessionId
            (by simp [StoreCall.created]) rfl
        obtain ⟨key, expiresAt⟩ := session
        simp [SessionMap.perform, unknown, eq_comm]
      next =>
        have another : ¬ ∃ ttl, StoreCall.create user userKey ttlSeconds id =
            .create userId session.userKey ttl sessionId ∧
              session.expiresAt = time + seconds ttl := by
          rintro ⟨ttl, call, -⟩
          cases call
          exact same ⟨rfl, rfl⟩
        rw [or_iff_right another]
        simp [SessionMap.perform, same, StoreCall.Ends]
    | getUserKey user id => simp [SessionMap.perform, StoreCall.Ends]
    | getExpiresAt user id => simp [SessionMap.perform, StoreCall.Ends]
    | invalidate user id =>
      by_cases same : userId = user ∧ sessionId = id <;>
        simp [SessionMap.perform, StoreCall.Ends, same]
    | invalidateAllForUser user =>
      by_cases same : userId = user <;> simp [SessionMap.perform, StoreCall.Ends, same]

theorem active_iff {calls : List TimedCall} (fresh : (sessionIds calls).Nodup) (now : Time)
    (userId : UUID) (sessionId : String) (session : VaultSession) :
    (SessionMap.after calls userId sessionId).filter
        (fun session => decide (now < session.expiresAt)) = some session ↔
      Active calls now userId sessionId session := by
  rw [Option.filter_eq_some_iff, sessionMap_after fresh, decide_eq_true_eq, Active]

def NoEmptyTable (store : VaultSessionStore) : Prop :=
  ∀ userId sessions, store.sessions.get? userId = some sessions → sessions.entries ≠ []

structure Confined (userId : UUID) (store next : VaultSessionStore) : Prop where
  others : ∀ other, other ≠ userId → next.sessions.get? other = store.sessions.get? other
  own : next.sessions.get? userId = store.sessions.get? userId ∨
    ∀ sessions, next.sessions.get? userId = some sessions → sessions.entries ≠ []

namespace Confined

theorem refl (userId : UUID) (store : VaultSessionStore) : Confined userId store store :=
  ⟨fun _ _ => rfl, .inl rfl⟩

theorem noEmptyTable {userId : UUID} {store next : VaultSessionStore}
    (confined : Confined userId store next) (before : NoEmptyTable store) : NoEmptyTable next := by
  intro other sessions found
  by_cases same : other = userId
  next =>
    subst same
    rcases confined.own with kept | own
    · exact before other sessions (kept ▸ found)
    · exact own sessions found
  next => exact before other sessions (confined.others other same ▸ found)

theorem pop (store : VaultSessionStore) (userId : UUID) (sessions : Dict String VaultSession)
    (sessionId : String) : Confined userId store (store.pop userId sessions sessionId) := by
  unfold VaultSessionStore.pop
  by_cases emptied : (sessions.erase sessionId).entries = []
  next =>
    rw [if_pos emptied]
    exact ⟨fun other differs => by simp [differs], .inr (by simp)⟩
  next =>
    rw [if_neg emptied]
    refine ⟨fun other differs => by simp [differs], .inr ?_⟩
    simpa using emptied

theorem create (store : VaultSessionStore) (userId : UUID) (userKey : ByteArray)
    (ttlSeconds : Int) (now : Time) (sessionId : String) :
    Confined userId store (store.create userId userKey ttlSeconds now sessionId) := by
  refine ⟨fun other differs => by simp [VaultSessionStore.create, differs], .inr ?_⟩
  intro sessions found
  simp only [VaultSessionStore.create, Dict.get?_set, if_true, Option.some.injEq] at found
  rw [← found]
  exact setEntry_ne_nil sessionId _ _

theorem getActiveSession (store : VaultSessionStore) (now : Time) (userId : UUID)
    (sessionId : String) : Confined userId store (store.getActiveSession now userId sessionId).2 := by
  unfold VaultSessionStore.getActiveSession
  cases store.sessions.get? userId with
  | none => exact .refl userId store
  | some sessions =>
    cases entry : sessions.get? sessionId with
    | none => simpa [entry] using refl userId store
    | some session =>
      by_cases expired : session.expiresAt ≤ now
      next => simpa [entry, expired] using pop store userId sessions sessionId
      next => simpa [entry, expired] using refl userId store

theorem invalidate (store : VaultSessionStore) (userId : UUID) (sessionId : String) :
    Confined userId store (store.invalidate userId sessionId) := by
  unfold VaultSessionStore.invalidate
  cases store.sessions.get? userId with
  | none => exact .refl userId store
  | some sessions => exact pop store userId sessions sessionId

theorem perform (store : VaultSessionStore) (timed : TimedCall) :
    Confined timed.call.userId store (store.perform timed) := by
  obtain ⟨call, time⟩ := timed
  cases call with
  | create userId userKey ttlSeconds sessionId => exact create ..
  | getUserKey userId sessionId => exact getActiveSession ..
  | getExpiresAt userId sessionId => exact getActiveSession ..
  | invalidate userId sessionId => exact invalidate ..
  | invalidateAllForUser userId =>
    exact ⟨fun other differs => by
      simp_all [VaultSessionStore.perform, VaultSessionStore.invalidateAllForUser,
        StoreCall.userId], .inr (by
      simp [VaultSessionStore.perform, VaultSessionStore.invalidateAllForUser, StoreCall.userId])⟩

end Confined

theorem noEmptyTable_after (calls : List TimedCall) :
    NoEmptyTable (VaultSessionStore.after calls) := by
  induction calls using List.reverseRecOn with
  | nil =>
    intro userId sessions found
    cases found
  | append_singleton calls timed ih =>
    rw [VaultSessionStore.after_snoc]
    exact (Confined.perform _ timed).noEmptyTable ih

structure ReadsAgree (calls : List TimedCall) (now : Time) (userId : UUID) (sessionId : String) :
    Prop where
  userKey : ∀ userKey,
    ((VaultSessionStore.after calls).getUserKey now userId sessionId).1 = some userKey ↔
      ∃ expiresAt, Active calls now userId sessionId ⟨userKey, expiresAt⟩
  expiresAt : ∀ expiresAt,
    ((VaultSessionStore.after calls).getExpiresAt now userId sessionId).1 = some expiresAt ↔
      ∃ userKey, Active calls now userId sessionId ⟨userKey, expiresAt⟩
  sameCases : ((VaultSessionStore.after calls).getExpiresAt now userId sessionId).1.isSome =
    ((VaultSessionStore.after calls).getUserKey now userId sessionId).1.isSome

structure VaultAgrees (calls : List TimedCall) (world : World) (userId : UUID)
    (sessionId : Option String) : Prop where
  unlocked : (VaultService.isUnlocked world userId sessionId).1 = true ↔
    ∃ id session, sessionId = some id ∧ Active calls world.now userId id session
  expiresAt : (VaultService.getSessionExpiresAt world userId sessionId).1.isSome =
    (VaultService.isUnlocked world userId sessionId).1
  userKey : (∃ userKey, (VaultService.requireUserKey world userId sessionId).1 = .ok userKey) ↔
    (VaultService.isUnlocked world userId sessionId).1 = true
  sessions : (VaultService.getSessionExpiresAt world userId sessionId).2 =
      (VaultService.isUnlocked world userId sessionId).2 ∧
    (VaultService.requireUserKey world userId sessionId).2 =
      (VaultService.isUnlocked world userId sessionId).2

theorem field_read {calls : List TimedCall}
    (ordered : calls.Pairwise fun earlier later => earlier.now ≤ later.now)
    (fresh : (sessionIds calls).Nodup) {now : Time} (passed : ∀ timed ∈ calls, timed.now ≤ now)
    (userId : UUID) (sessionId : String) {Field : Type} (field : VaultSession → Field)
    (value : Field) :
    ((VaultSessionStore.after calls).getActiveSession now userId sessionId).1.map field =
        some value ↔
      ∃ session, Active calls now userId sessionId session ∧ field session = value := by
  have read := (simulates_after ordered passed).active userId sessionId
  have known := active_iff fresh now userId sessionId
  simp only [read, Option.map_eq_some_iff, known]

theorem readsAgree {calls : List TimedCall}
    (ordered : calls.Pairwise fun earlier later => earlier.now ≤ later.now)
    (fresh : (sessionIds calls).Nodup) {now : Time} (passed : ∀ timed ∈ calls, timed.now ≤ now)
    (userId : UUID) (sessionId : String) : ReadsAgree calls now userId sessionId := by
  constructor
  · intro userKey
    rw [VaultSessionStore.getUserKey, field_read ordered fresh passed]
    constructor
    · rintro ⟨⟨key, expiresAt⟩, active, rfl⟩
      exact ⟨expiresAt, active⟩
    · rintro ⟨expiresAt, active⟩
      exact ⟨_, active, rfl⟩
  · intro expiresAt
    rw [VaultSessionStore.getExpiresAt, field_read ordered fresh passed]
    constructor
    · rintro ⟨⟨key, expires⟩, active, rfl⟩
      exact ⟨key, active⟩
    · rintro ⟨key, active⟩
      exact ⟨_, active, rfl⟩
  · simp [VaultSessionStore.getUserKey, VaultSessionStore.getExpiresAt]

theorem vaultAgrees {calls : List TimedCall} {world : World} {userId : UUID}
    {vault : UserSecretVault} (configured : world.database.vaults.get? userId = some vault)
    (stored : world.sessions = VaultSessionStore.after calls)
    (reads : ∀ id, ReadsAgree calls world.now userId id) (sessionId : Option String) :
    VaultAgrees calls world userId sessionId := by
  cases sessionId with
  | none =>
    constructor <;>
      simp [VaultService.isUnlocked, VaultService.getSessionExpiresAt, VaultService.requireUserKey,
        VaultService.getVaultOrRaise, configured]
  | some id =>
    have unlocked : (VaultService.isUnlocked world userId (some id)).1 =
        (world.sessions.getUserKey world.now userId id).1.isSome := rfl
    constructor
    · rw [unlocked, Option.isSome_iff_exists, stored]
      constructor
      · rintro ⟨userKey, found⟩
        obtain ⟨expiresAt, active⟩ := ((reads id).userKey userKey).mp found
        exact ⟨id, _, rfl, active⟩
      · rintro ⟨other, session, same, active⟩
        cases same
        exact ⟨session.userKey, ((reads id).userKey _).mpr ⟨session.expiresAt, active⟩⟩
    · rw [unlocked, stored, ← (reads id).sameCases, VaultService.getSessionExpiresAt, stored]
    · rw [unlocked, Option.isSome_iff_exists]
      constructor
      · rintro ⟨userKey, returned⟩
        obtain ⟨-, session, same, found⟩ := requireUserKey_ok.mp (Prod.ext returned rfl)
        cases same
        exact ⟨userKey, congrArg Prod.fst found⟩
      · rintro ⟨userKey, found⟩
        exact ⟨userKey, congrArg Prod.fst
          (requireUserKey_ok.mpr ⟨⟨vault, configured⟩, id, rfl, Prod.ext found rfl⟩)⟩
    · refine ⟨rfl, ?_⟩
      unfold VaultService.requireUserKey VaultService.getVaultOrRaise VaultService.isUnlocked
      rw [configured]
      cases found : world.sessions.getUserKey world.now userId id with
      | mk userKey sessions => cases userKey <;> simp [found]

structure SessionsKept (calls : List TimedCall) : Prop where
  reads : ∀ now userId sessionId, (∀ timed ∈ calls, timed.now ≤ now) →
    ReadsAgree calls now userId sessionId
  vault : ∀ (world : World) userId vault sessionId,
    world.sessions = VaultSessionStore.after calls →
    (∀ timed ∈ calls, timed.now ≤ world.now) → world.database.vaults.get? userId = some vault →
    VaultAgrees calls world userId sessionId
  apart : ∀ before timed later other, calls = before ++ timed :: later →
    other ≠ timed.call.userId →
    (VaultSessionStore.after (before ++ [timed])).sessions.get? other =
      (VaultSessionStore.after before).sessions.get? other
  noEmptyTable : NoEmptyTable (VaultSessionStore.after calls)

theorem sessions_kept (calls : List TimedCall)
    (ordered : calls.Pairwise fun earlier later => earlier.now ≤ later.now)
    (fresh : (sessionIds calls).Nodup) : SessionsKept calls where
  reads := fun _ userId sessionId passed => readsAgree ordered fresh passed userId sessionId
  vault := fun _ userId _ sessionId stored passed configured =>
    vaultAgrees configured stored (fun id => readsAgree ordered fresh passed userId id) sessionId
  apart := by
    intro before timed later other _ differs
    rw [VaultSessionStore.after_snoc]
    exact (Confined.perform _ timed).others other differs
  noEmptyTable := noEmptyTable_after calls

namespace Sample

def storeCalls : List TimedCall :=
  [⟨.create ⟨1⟩ ⟨#[1]⟩ 10 "a", 0⟩, ⟨.create ⟨1⟩ ⟨#[2]⟩ 60 "b", seconds 1⟩,
    ⟨.create ⟨2⟩ ⟨#[3]⟩ 60 "c", seconds 2⟩, ⟨.getUserKey ⟨1⟩ "a", seconds 11⟩,
    ⟨.invalidate ⟨2⟩ "b", seconds 12⟩]

end Sample

theorem sessions_kept_three : SessionsKept Sample.storeCalls :=
  sessions_kept Sample.storeCalls (by decide) (by decide)

end FireflyToolkit.Vault
