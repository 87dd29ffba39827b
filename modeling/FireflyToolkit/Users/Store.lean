import FireflyToolkit.Vault.Services

set_option autoImplicit false

namespace FireflyToolkit.Users

open Vault (AuditLog Metadata)

section Rows

variable {Row Key : Type} {column : Row → Key} {rows : List Row}

theorem find?_column [DecidableEq Key] (distinct : (rows.map column).Nodup) {key : Key} {row : Row} :
    rows.find? (fun row => column row = key) = some row ↔ row ∈ rows ∧ column row = key := by
  constructor
  · intro found
    exact ⟨List.mem_of_find?_eq_some found, by simpa using List.find?_some found⟩
  · rintro ⟨member, same⟩
    cases found : rows.find? (fun row => column row = key) with
    | none => exact absurd same (by simpa using List.find?_eq_none.mp found row member)
    | some other =>
      have otherSame : column other = key := by simpa using List.find?_some found
      have identical := List.inj_on_of_nodup_map distinct (List.mem_of_find?_eq_some found) member
        (otherSame.trans same.symm)
      rw [identical]

theorem map_column_update {change : Row → Row} (keeps : ∀ row, column (change row) = column row)
    (selected : Row → Prop) [DecidablePred selected] :
    (rows.map fun row => if selected row then change row else row).map column = rows.map column := by
  rw [List.map_map]
  apply List.map_congr_left
  intro row _
  by_cases changes : selected row <;> simp [changes, keeps]

theorem nodup_column_update {change : Row → Row} (keeps : ∀ row, column (change row) = column row)
    (selected : Row → Prop) [DecidablePred selected] (distinct : (rows.map column).Nodup) :
    ((rows.map fun row => if selected row then change row else row).map column).Nodup := by
  rwa [map_column_update keeps selected]

theorem nodup_column_append {row : Row} (distinct : (rows.map column).Nodup)
    (fresh : column row ∉ rows.map column) : ((rows ++ [row]).map column).Nodup := by
  rw [List.map_append]
  exact List.Nodup.append distinct (List.nodup_singleton _) (by simpa using fresh)

end Rows

-- A row of `users`; the id is a 128-bit number.
@[ext] structure User where
  id : UUID
  username : String
  passwordHash : String
  isSuperuser : Bool
  isActive : Bool
  mustChangePassword : Bool
  passwordChangedAt : Option Time
  idFits : id.value < 2 ^ 128
  deriving DecidableEq

structure PasswordSetToken where
  id : UUID
  userId : UUID
  tokenHash : String
  expiresAt : Time
  usedAt : Option Time
  deriving DecidableEq

-- The constraints are those that the tables declare unique.
@[ext] structure Database where
  users : List User
  tokens : List PasswordSetToken
  auditLog : List AuditLog
  userIds : (users.map User.id).Nodup
  usernames : (users.map User.username).Nodup
  tokenIds : (tokens.map PasswordSetToken.id).Nodup
  tokenHashes : (tokens.map PasswordSetToken.tokenHash).Nodup

inductive Failure
  | http (status : Nat) (detail : Option String)
  | noResultFound
  | integrityError
  | invalidRequest
  deriving DecidableEq

namespace UserRepository

def getByUsername (database : Database) (username : String) : Option User :=
  database.users.find? fun user => user.username = username

def getById (database : Database) (userId : UUID) : Option User :=
  database.users.find? fun user => user.id = userId

def countUsers (database : Database) : Nat := database.users.length

def isSuperuser (database : Database) (userId : UUID) : Bool :=
  let rows := database.users.filter fun user =>
    decide (user.id = userId) && user.isSuperuser && user.isActive
  decide (rows.length > 0)

theorem getByUsername_eq_some {database : Database} {username : String} {user : User} :
    getByUsername database username = some user ↔
      user ∈ database.users ∧ user.username = username :=
  find?_column database.usernames

theorem getById_eq_some {database : Database} {userId : UUID} {user : User} :
    getById database userId = some user ↔ user ∈ database.users ∧ user.id = userId :=
  find?_column database.userIds

theorem getById_eq_none {database : Database} {userId : UUID} :
    getById database userId = none ↔ ∀ user ∈ database.users, user.id ≠ userId := by
  simp [getById]

theorem isSuperuser_iff {database : Database} {userId : UUID} :
    isSuperuser database userId = true ↔
      ∃ user ∈ database.users, user.id = userId ∧ user.isSuperuser = true ∧ user.isActive = true := by
  simp [isSuperuser, List.length_pos_iff, and_assoc]

theorem same_user {database : Database} {user other : User} (member : user ∈ database.users)
    (otherMember : other ∈ database.users) (same : user.id = other.id) : user = other :=
  List.inj_on_of_nodup_map database.userIds member otherMember same

-- The constraints are checked when the new row is flushed.
def add (row : User) (database : Database) : Except Failure Database :=
  if fresh : row.id ∉ database.users.map User.id ∧ row.username ∉ database.users.map User.username then
    .ok { database with
          users := database.users ++ [row]
          userIds := nodup_column_append database.userIds fresh.1
          usernames := nodup_column_append database.usernames fresh.2 }
  else .error .integrityError

def create (id : UUID) (idFits : id.value < 2 ^ 128) (username passwordHash : String)
    (isSuperuser mustChangePassword : Bool) (passwordChangedAt : Option Time) (now : Time) :
    Database → Except Failure Database :=
  add
    { id := id, username := username, passwordHash := passwordHash, isSuperuser := isSuperuser
      isActive := true, mustChangePassword := mustChangePassword
      passwordChangedAt :=
        if passwordChangedAt = none ∧ mustChangePassword = false then some now
        else passwordChangedAt
      idFits := idFits }

structure Update where
  apply : User → User
  id : ∀ user, (apply user).id = user.id
  username : ∀ user, (apply user).username = user.username

-- The row is read with `.one()` and written by the flush that follows.
def updateOne (userId : UUID) (update : Update) (database : Database) : Except Failure Database :=
  match getById database userId with
  | none => .error .noResultFound
  | some _ =>
      .ok { database with
            users := database.users.map fun user =>
              if user.id = userId then update.apply user else user
            userIds := nodup_column_update update.id (fun user => user.id = userId) database.userIds
            usernames :=
              nodup_column_update update.username (fun user => user.id = userId)
                database.usernames }

def setPassword (userId : UUID) (passwordHash : String) (mustChangePassword : Bool)
    (passwordChangedAt : Time) : Database → Except Failure Database :=
  updateOne userId
    ⟨fun user => { user with
        passwordHash := passwordHash
        mustChangePassword := mustChangePassword
        passwordChangedAt := some passwordChangedAt }, fun _ => rfl, fun _ => rfl⟩

def markPasswordResetRequired (userId : UUID) (passwordHash : String) :
    Database → Except Failure Database :=
  updateOne userId
    ⟨fun user => { user with
        passwordHash := passwordHash, mustChangePassword := true, passwordChangedAt := none },
      fun _ => rfl, fun _ => rfl⟩

def promoteToSuperuser (userId : UUID) : Database → Except Failure Database :=
  updateOne userId ⟨fun user => { user with isSuperuser := true }, fun _ => rfl, fun _ => rfl⟩

def demoteFromSuperuser (userId : UUID) : Database → Except Failure Database :=
  updateOne userId ⟨fun user => { user with isSuperuser := false }, fun _ => rfl, fun _ => rfl⟩

def disable (userId : UUID) : Database → Except Failure Database :=
  updateOne userId ⟨fun user => { user with isActive := false }, fun _ => rfl, fun _ => rfl⟩

def enable (userId : UUID) : Database → Except Failure Database :=
  updateOne userId ⟨fun user => { user with isActive := true }, fun _ => rfl, fun _ => rfl⟩

-- The user's password-set tokens go with the row.
def delete (userId : UUID) (database : Database) : Except Failure Database :=
  match getById database userId with
  | none => .error .noResultFound
  | some _ =>
      .ok { database with
            users := database.users.filter fun user => decide (user.id ≠ userId)
            tokens := database.tokens.filter fun token => decide (token.userId ≠ userId)
            userIds := database.userIds.sublist (List.filter_sublist.map _)
            usernames := database.usernames.sublist (List.filter_sublist.map _)
            tokenIds := database.tokenIds.sublist (List.filter_sublist.map _)
            tokenHashes := database.tokenHashes.sublist (List.filter_sublist.map _) }

end UserRepository

def AuditLogRepository.log (actorId : UUID) (action : String) (targetId : Option UUID)
    (metadata : Option Metadata) (now : Time) (database : Database) : Except Failure Database :=
  .ok { database with auditLog := database.auditLog ++ [⟨actorId, action, targetId, metadata, now⟩] }

namespace PasswordSetTokenRepository

def getByHash (database : Database) (tokenHash : String) : Option PasswordSetToken :=
  database.tokens.find? fun token => token.tokenHash = tokenHash

theorem getByHash_eq_some {database : Database} {tokenHash : String} {token : PasswordSetToken} :
    getByHash database tokenHash = some token ↔
      token ∈ database.tokens ∧ token.tokenHash = tokenHash :=
  find?_column database.tokenHashes

theorem getByHash_eq_none {database : Database} {tokenHash : String} :
    getByHash database tokenHash = none ↔ ∀ token ∈ database.tokens, token.tokenHash ≠ tokenHash := by
  simp [getByHash]

def add (row : PasswordSetToken) (database : Database) : Except Failure Database :=
  if fresh : row.id ∉ database.tokens.map PasswordSetToken.id ∧
      row.tokenHash ∉ database.tokens.map PasswordSetToken.tokenHash then
    .ok { database with
          tokens := database.tokens ++ [row]
          tokenIds := nodup_column_append database.tokenIds fresh.1
          tokenHashes := nodup_column_append database.tokenHashes fresh.2 }
  else .error .integrityError

def createToken (id userId : UUID) (tokenHash : String) (expiresAt : Time) :
    Database → Except Failure Database :=
  add ⟨id, userId, tokenHash, expiresAt, none⟩

def use (usedAt : Time) (token : PasswordSetToken) : PasswordSetToken :=
  { token with usedAt := some usedAt }

def markUsed (selected : PasswordSetToken → Prop) [DecidablePred selected] (usedAt : Time)
    (database : Database) : Database :=
  { database with
    tokens := database.tokens.map fun token => if selected token then use usedAt token else token
    tokenIds :=
      @nodup_column_update _ _ _ _ (use usedAt) (fun _ => rfl) selected _ database.tokenIds
    tokenHashes :=
      @nodup_column_update _ _ _ _ (use usedAt) (fun _ => rfl) selected _ database.tokenHashes }

def invalidatePrevious (userId : UUID) (invalidatedAt : Time) (database : Database) :
    Except Failure Database :=
  .ok (markUsed (fun token => token.userId = userId ∧ token.usedAt = none) invalidatedAt database)

def consume (tokenId : UUID) (usedAt : Time) (database : Database) : Except Failure Database :=
  match database.tokens.find? fun token => token.id = tokenId with
  | none => .error .noResultFound
  | some _ => .ok (markUsed (fun token => token.id = tokenId) usedAt database)

end PasswordSetTokenRepository

theorem bind_ok {α β : Type} {first : Except Failure α} {next : α → Except Failure β} {last : β}
    (bound : (first >>= next) = .ok last) : ∃ middle, first = .ok middle ∧ next middle = .ok last := by
  cases first with
  | error failure => cases bound
  | ok middle => exact ⟨middle, rfl, bound⟩

section Written

variable {database next : Database}

theorem add_ok {row : User} (added : UserRepository.add row database = .ok next) :
    (∀ user ∈ database.users, user.id ≠ row.id) ∧ next.users = database.users ++ [row] ∧
      next.tokens = database.tokens ∧ next.auditLog = database.auditLog := by
  unfold UserRepository.add at added
  split at added
  next fresh =>
    rw [← Except.ok.inj added]
    exact ⟨fun user member same => fresh.1 (List.mem_map.mpr ⟨user, member, same⟩), rfl, rfl, rfl⟩
  next => cases added

theorem add_error {row : User} {failure : Failure}
    (refused : UserRepository.add row database = .error failure) : failure = .integrityError := by
  unfold UserRepository.add at refused
  split at refused
  next => cases refused
  next => exact (Except.error.inj refused).symm

theorem updateOne_ok {userId : UUID} {update : UserRepository.Update}
    (updated : UserRepository.updateOne userId update database = .ok next) :
    (∃ user ∈ database.users, user.id = userId) ∧ next.tokens = database.tokens ∧
      next.auditLog = database.auditLog ∧
      next.users = database.users.map fun user =>
        if user.id = userId then update.apply user else user := by
  unfold UserRepository.updateOne at updated
  cases found : UserRepository.getById database userId with
  | none => simp [found] at updated
  | some user =>
    simp only [found] at updated
    rw [← Except.ok.inj updated]
    exact ⟨⟨user, UserRepository.getById_eq_some.mp found⟩, rfl, rfl, rfl⟩

theorem updateOne_ids {userId : UUID} {update : UserRepository.Update}
    (updated : UserRepository.updateOne userId update database = .ok next) :
    next.users.map User.id = database.users.map User.id := by
  rw [(updateOne_ok updated).2.2.2]
  exact map_column_update update.id fun user => user.id = userId

theorem updateOne_mem {userId : UUID} {update : UserRepository.Update} {user : User}
    (updated : UserRepository.updateOne userId update database = .ok next)
    (member : user ∈ database.users) (named : user.id = userId) : update.apply user ∈ next.users := by
  rw [(updateOne_ok updated).2.2.2]
  exact List.mem_map.mpr ⟨user, member, if_pos named⟩

theorem setPassword_stored {userId : UUID} {passwordHash : String} {mustChangePassword : Bool}
    {passwordChangedAt : Time}
    (stores : UserRepository.setPassword userId passwordHash mustChangePassword passwordChangedAt
      database = .ok next) :
    ∃ user ∈ next.users, user.id = userId ∧ user.passwordHash = passwordHash ∧
      user.mustChangePassword = mustChangePassword := by
  obtain ⟨⟨user, member, named⟩, -⟩ := updateOne_ok stores
  exact ⟨_, updateOne_mem stores member named, named, rfl, rfl⟩

theorem markPasswordResetRequired_stored {userId : UUID} {passwordHash : String}
    (marks : UserRepository.markPasswordResetRequired userId passwordHash database = .ok next) :
    ∃ user ∈ next.users, user.id = userId ∧ user.passwordHash = passwordHash := by
  obtain ⟨⟨user, member, named⟩, -⟩ := updateOne_ok marks
  exact ⟨_, updateOne_mem marks member named, named, rfl⟩

theorem updateOne_exists {userId : UUID} (update : UserRepository.Update)
    (held : ∃ user ∈ database.users, user.id = userId) :
    ∃ next, UserRepository.updateOne userId update database = .ok next := by
  obtain ⟨user, member, same⟩ := held
  unfold UserRepository.updateOne
  rw [UserRepository.getById_eq_some.mpr ⟨member, same⟩]
  exact ⟨_, rfl⟩

theorem delete_ok {userId : UUID} (deleted : UserRepository.delete userId database = .ok next) :
    (∃ user ∈ database.users, user.id = userId) ∧ next.auditLog = database.auditLog ∧
      (next.users = database.users.filter fun user => decide (user.id ≠ userId)) ∧
      next.tokens = database.tokens.filter fun token => decide (token.userId ≠ userId) := by
  unfold UserRepository.delete at deleted
  cases found : UserRepository.getById database userId with
  | none => simp [found] at deleted
  | some user =>
    simp only [found] at deleted
    rw [← Except.ok.inj deleted]
    exact ⟨⟨user, UserRepository.getById_eq_some.mp found⟩, rfl, rfl, rfl⟩

theorem createToken_ok {id userId : UUID} {tokenHash : String} {expiresAt : Time}
    (created : PasswordSetTokenRepository.createToken id userId tokenHash expiresAt database =
      .ok next) :
    next.users = database.users ∧ next.auditLog = database.auditLog ∧
      next.tokens = database.tokens ++ [⟨id, userId, tokenHash, expiresAt, none⟩] := by
  unfold PasswordSetTokenRepository.createToken PasswordSetTokenRepository.add at created
  split at created
  next =>
    rw [← Except.ok.inj created]
    exact ⟨rfl, rfl, rfl⟩
  next => cases created

theorem markUsed_column {Key : Type} (column : PasswordSetToken → Key)
    (keeps : ∀ usedAt token, column (PasswordSetTokenRepository.use usedAt token) = column token)
    (selected : PasswordSetToken → Prop) [DecidablePred selected] (usedAt : Time) :
    (PasswordSetTokenRepository.markUsed selected usedAt database).tokens.map column =
      database.tokens.map column :=
  map_column_update (keeps usedAt) selected

theorem mem_markUsed {selected : PasswordSetToken → Prop} [DecidablePred selected] {usedAt : Time}
    {token : PasswordSetToken} :
    token ∈ (PasswordSetTokenRepository.markUsed selected usedAt database).tokens ↔
      ∃ old ∈ database.tokens, (selected old ∧ token = PasswordSetTokenRepository.use usedAt old) ∨
        (¬ selected old ∧ token = old) := by
  simp only [PasswordSetTokenRepository.markUsed, List.mem_map]
  refine exists_congr fun old => and_congr_right fun _ => ?_
  by_cases selects : selected old <;> simp [selects, eq_comm]

theorem consume_ok {tokenId : UUID} {usedAt : Time}
    (consumed : PasswordSetTokenRepository.consume tokenId usedAt database = .ok next) :
    (∃ token ∈ database.tokens, token.id = tokenId) ∧
      next = PasswordSetTokenRepository.markUsed (fun token => token.id = tokenId) usedAt database := by
  unfold PasswordSetTokenRepository.consume at consumed
  cases found : database.tokens.find? (fun token => token.id = tokenId) with
  | none => simp [found] at consumed
  | some token =>
    simp only [found] at consumed
    exact ⟨⟨token, (find?_column database.tokenIds).mp found⟩, (Except.ok.inj consumed).symm⟩

theorem consume_exists {tokenId : UUID} (usedAt : Time)
    (held : ∃ token ∈ database.tokens, token.id = tokenId) :
    ∃ next, PasswordSetTokenRepository.consume tokenId usedAt database = .ok next := by
  obtain ⟨token, member⟩ := held
  unfold PasswordSetTokenRepository.consume
  rw [(find?_column database.tokenIds).mpr member]
  exact ⟨_, rfl⟩

end Written

end FireflyToolkit.Users
