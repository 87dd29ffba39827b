import FireflyToolkit.Domain.Values
import FireflyToolkit.Shared.OrderedDict

set_option autoImplicit false

namespace FireflyToolkit.Vault

open OrderedDict

structure VaultSession where
  userKey : ByteArray
  expiresAt : Time

-- The sessions of a user, by session id; a user without sessions has no entry.
structure VaultSessionStore where
  sessions : Dict UUID (Dict String VaultSession)

namespace VaultSessionStore

def initial : VaultSessionStore := ⟨Dict.empty⟩

def create (store : VaultSessionStore) (userId : UUID) (userKey : ByteArray) (ttlSeconds : Int)
    (now : Time) (sessionId : String) : VaultSessionStore :=
  let sessions := (store.sessions.get? userId).getD Dict.empty
  ⟨store.sessions.set userId (sessions.set sessionId ⟨userKey, now + seconds ttlSeconds⟩)⟩

-- `sessions.pop(session_id, None)`, and the user's entry goes with its last session.
def pop (store : VaultSessionStore) (userId : UUID) (sessions : Dict String VaultSession)
    (sessionId : String) : VaultSessionStore :=
  let remaining := sessions.erase sessionId
  if remaining.entries = [] then ⟨store.sessions.erase userId⟩
  else ⟨store.sessions.set userId remaining⟩

def getActiveSession (store : VaultSessionStore) (now : Time) (userId : UUID) (sessionId : String) :
    Option VaultSession × VaultSessionStore :=
  match store.sessions.get? userId with
  | none => (none, store)
  | some sessions =>
      match sessions.get? sessionId with
      | none => (none, store)
      | some session =>
          if session.expiresAt ≤ now then (none, store.pop userId sessions sessionId)
          else (some session, store)

def getUserKey (store : VaultSessionStore) (now : Time) (userId : UUID) (sessionId : String) :
    Option ByteArray × VaultSessionStore :=
  let (session, next) := store.getActiveSession now userId sessionId
  (session.map VaultSession.userKey, next)

def invalidate (store : VaultSessionStore) (userId : UUID) (sessionId : String) :
    VaultSessionStore :=
  match store.sessions.get? userId with
  | none => store
  | some sessions => store.pop userId sessions sessionId

def session? (store : VaultSessionStore) (userId : UUID) (sessionId : String) :
    Option VaultSession :=
  (store.sessions.get? userId).bind (·.get? sessionId)

theorem session?_create (store : VaultSessionStore) (userId other : UUID) (userKey : ByteArray)
    (ttlSeconds : Int) (now : Time) (sessionId otherId : String) :
    (store.create userId userKey ttlSeconds now sessionId).session? other otherId =
      if other = userId ∧ otherId = sessionId then some ⟨userKey, now + seconds ttlSeconds⟩
      else store.session? other otherId := by
  by_cases user : other = userId
  next =>
    subst user
    cases found : store.sessions.get? other <;> simp [create, session?, found]
  next => simp [create, session?, user]

theorem session?_pop {store : VaultSessionStore} {userId : UUID}
    {sessions : Dict String VaultSession} (found : store.sessions.get? userId = some sessions)
    (sessionId : String) (other : UUID) (otherId : String) :
    (store.pop userId sessions sessionId).session? other otherId =
      if other = userId ∧ otherId = sessionId then none else store.session? other otherId := by
  by_cases user : other = userId
  next =>
    subst user
    have erased : (sessions.erase sessionId).get? otherId =
        if otherId = sessionId then none else sessions.get? otherId := Dict.get?_erase ..
    by_cases emptied : (sessions.erase sessionId).entries = []
    next =>
      rw [show sessions.erase sessionId = Dict.empty from Dict.eq_of_entries emptied] at erased
      simp [pop, emptied, session?, found, ← erased]
    next => simp [pop, emptied, session?, found]
  next => by_cases emptied : (sessions.erase sessionId).entries = [] <;>
      simp [pop, emptied, session?, user]

theorem session?_invalidate (store : VaultSessionStore) (userId other : UUID)
    (sessionId otherId : String) :
    (store.invalidate userId sessionId).session? other otherId =
      if other = userId ∧ otherId = sessionId then none else store.session? other otherId := by
  unfold invalidate
  cases found : store.sessions.get? userId with
  | some sessions => exact session?_pop found sessionId other otherId
  | none =>
    by_cases same : other = userId ∧ otherId = sessionId
    next =>
      rw [if_pos same, same.1, session?, found]
      rfl
    next => rw [if_neg same]

def Pruned (now : Time) (before after : VaultSessionStore) : Prop :=
  ∀ userId sessionId, after.session? userId sessionId = before.session? userId sessionId ∨
    after.session? userId sessionId = none ∧
      ∃ session, before.session? userId sessionId = some session ∧ session.expiresAt ≤ now

theorem Pruned.refl (now : Time) (store : VaultSessionStore) : Pruned now store store :=
  fun _ _ => .inl rfl

theorem getActiveSession_spec (store : VaultSessionStore) (now : Time) (userId : UUID)
    (sessionId : String) :
    (store.getActiveSession now userId sessionId).1 =
        (store.session? userId sessionId).filter (fun session => decide (now < session.expiresAt)) ∧
      Pruned now store (store.getActiveSession now userId sessionId).2 := by
  cases found : store.sessions.get? userId with
  | none =>
    have missed : store.getActiveSession now userId sessionId = (none, store) := by
      simp [getActiveSession, found]
    rw [missed]
    exact ⟨by simp [session?, found], .refl now store⟩
  | some sessions =>
    have stored : store.session? userId sessionId = sessions.get? sessionId := by
      simp [session?, found]
    cases entry : sessions.get? sessionId with
    | none =>
      have missed : store.getActiveSession now userId sessionId = (none, store) := by
        simp [getActiveSession, found, entry]
      rw [missed]
      exact ⟨by simp [stored, entry], .refl now store⟩
    | some session =>
      by_cases expired : session.expiresAt ≤ now
      next =>
        have dropped : store.getActiveSession now userId sessionId =
            (none, store.pop userId sessions sessionId) := by
          simp [getActiveSession, found, entry, expired]
        rw [dropped]
        refine ⟨by simp [stored, entry, Option.filter, Int.not_lt.mpr expired], ?_⟩
        intro other otherId
        rw [session?_pop found]
        by_cases same : other = userId ∧ otherId = sessionId
        next =>
          rw [if_pos same, same.1, same.2]
          exact .inr ⟨rfl, session, stored.trans entry, expired⟩
        next =>
          rw [if_neg same]
          exact .inl rfl
      next =>
        have kept : store.getActiveSession now userId sessionId = (some session, store) := by
          simp [getActiveSession, found, entry, expired]
        rw [kept]
        exact ⟨by simp [stored, entry, Option.filter, Int.not_le.mp expired], .refl now store⟩

theorem getUserKey_eq_some {store next : VaultSessionStore} {now : Time} {userId : UUID}
    {sessionId : String} {userKey : ByteArray}
    (active : store.getUserKey now userId sessionId = (some userKey, next)) :
    Pruned now store next ∧ ∃ session, store.session? userId sessionId = some session ∧
      now < session.expiresAt ∧ session.userKey = userKey := by
  have spec := store.getActiveSession_spec now userId sessionId
  simp only [getUserKey, Prod.mk.injEq, Option.map_eq_some_iff] at active
  rcases active with ⟨⟨session, found, key⟩, rfl⟩
  rw [spec.1, Option.filter_eq_some_iff, decide_eq_true_eq] at found
  exact ⟨spec.2, session, found.1, found.2, key⟩

theorem getUserKey_of_active {store : VaultSessionStore} {now : Time} {userId : UUID}
    {sessionId : String} {session : VaultSession}
    (stored : store.session? userId sessionId = some session) (active : now < session.expiresAt) :
    (store.getUserKey now userId sessionId).1 = some session.userKey := by
  have spec := (store.getActiveSession_spec now userId sessionId).1
  simp [getUserKey, spec, stored, active]

theorem getUserKey_pruned (store : VaultSessionStore) (now : Time) (userId : UUID)
    (sessionId : String) : Pruned now store (store.getUserKey now userId sessionId).2 :=
  (store.getActiveSession_spec now userId sessionId).2

end VaultSessionStore

end FireflyToolkit.Vault
