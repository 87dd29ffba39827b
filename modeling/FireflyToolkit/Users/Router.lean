import FireflyToolkit.Users.Store
import FireflyToolkit.Shared.Sessions

set_option autoImplicit false

namespace FireflyToolkit.Users

open Sessions Vault PyBuiltins

-- What the endpoints use of the settings: password hashing with a salt, the keyed hash of
-- password-set tokens, the time these are valid for and the address of the invitations.
structure AuthConfig where
  hashPassword : TokenBytes 16 → String → String
  verifyPassword : String → String → Bool
  hashPasswordSetToken : String → String
  passwordSetTokenExpireHours : Int
  appPublicUrl : Option String

structure AuthConfig.Lawful (config : AuthConfig) : Prop where
  verifies : ∀ salt password,
    config.verifyPassword password (config.hashPassword salt password) = true
  injective : Function.Injective config.hashPasswordSetToken

structure UserCreateRequest where
  username : String
  isSuperuser : Bool := false
  deriving DecidableEq

structure NewUser extends UserCreateRequest where
  userId : UUID
  idFits : userId.value < 2 ^ 128

-- What is generated for an invitation: the token and its row's id, and the password that nobody is
-- told.
structure FreshInvite where
  plainToken : String
  tokenId : UUID
  placeholder : String
  salt : TokenBytes 16

structure SetPasswordRequest where
  token : String
  newPassword : String
  tokenLength : 1 ≤ token.length
  passwordLength : 8 ≤ newPassword.length ∧ newPassword.length ≤ 255

structure BootstrapPayload where
  username : String
  password : String

structure UserCreateResponse where
  id : UUID
  username : String
  isSuperuser : Bool
  isActive : Bool
  mustChangePassword : Bool
  inviteUrl : Option String
  token : String
  expiresAt : Time
  deriving DecidableEq

structure InviteResponse where
  inviteUrl : Option String
  token : String
  expiresAt : Time
  deriving DecidableEq

inductive Response
  | created (body : UserCreateResponse)
  | invited (body : InviteResponse)
  | noContent
  | bootstrapped
  deriving DecidableEq

abbrev Endpoint := Program Database Failure Response

def getPasswordSetExpiry (config : AuthConfig) (now : Time) : Time :=
  now + seconds (config.passwordSetTokenExpireHours * 3600)

def buildInviteUrl (config : AuthConfig) (token : String) : Option String :=
  match config.appPublicUrl with
  | none => none
  | some url =>
      if url = "" then none
      else some (String.ofList (url.toList.reverse.dropWhile (· = '/')).reverse ++
        "/set-password?token=" ++ token)

def generatePlaceholderPasswordHash (config : AuthConfig) (fresh : FreshInvite) : String :=
  config.hashPassword fresh.salt fresh.placeholder

section Administration

variable (config : AuthConfig) (adminId : UUID) (now : Time)

def createUser (user : NewUser) (fresh : FreshInvite) : Endpoint :=
  let expiresAt := getPasswordSetExpiry config now
  .write (UserRepository.create user.userId user.idFits user.username
    (generatePlaceholderPasswordHash config fresh) user.isSuperuser true none now) <|
  .write (PasswordSetTokenRepository.createToken fresh.tokenId user.userId
    (config.hashPasswordSetToken fresh.plainToken) expiresAt) <|
  .write (AuditLogRepository.log adminId "user.create" (some user.userId) none now) <|
  .commit <|
  .finished (.ok (.created
    { id := user.userId, username := user.username, isSuperuser := user.isSuperuser
      isActive := true, mustChangePassword := true
      inviteUrl := buildInviteUrl config fresh.plainToken
      token := fresh.plainToken, expiresAt := expiresAt }))

def inviteUser (userId : UUID) (fresh : FreshInvite) : Endpoint :=
  .query fun database =>
    match UserRepository.getById database userId with
    | none => .finished (.error (.http 404 (some "User not found")))
    | some _ =>
        let expiresAt := getPasswordSetExpiry config now
        .write (UserRepository.markPasswordResetRequired userId
          (generatePlaceholderPasswordHash config fresh)) <|
        .write (PasswordSetTokenRepository.invalidatePrevious userId now) <|
        .write (PasswordSetTokenRepository.createToken fresh.tokenId userId
          (config.hashPasswordSetToken fresh.plainToken) expiresAt) <|
        .write (AuditLogRepository.log adminId "user.invite" (some userId) none now) <|
        .commit <|
        .finished (.ok (.invited
          ⟨buildInviteUrl config fresh.plainToken, fresh.plainToken, expiresAt⟩))

-- The repository commits the change and the audit log commits its entry.
def changeUser (change : Database → Except Failure Database) (action : String) (userId : UUID) :
    Endpoint :=
  .write change <|
  .commit <|
  .write (AuditLogRepository.log adminId action (some userId) none now) <|
  .commit <|
  .finished (.ok .noContent)

def disableUser (userId : UUID) : Endpoint :=
  changeUser adminId now (UserRepository.disable userId) "user.disable" userId

def enableUser (userId : UUID) : Endpoint :=
  changeUser adminId now (UserRepository.enable userId) "user.enable" userId

def promoteUser (userId : UUID) : Endpoint :=
  changeUser adminId now (UserRepository.promoteToSuperuser userId) "user.promote" userId

def demoteUser (userId : UUID) : Endpoint :=
  changeUser adminId now (UserRepository.demoteFromSuperuser userId) "user.demote" userId

def deleteUser (userId : UUID) : Endpoint :=
  changeUser adminId now (UserRepository.delete userId) "user.delete" userId

end Administration

inductive Operation
  | createUser (user : NewUser) (fresh : FreshInvite)
  | inviteUser (userId : UUID) (fresh : FreshInvite)
  | disableUser (userId : UUID)
  | enableUser (userId : UUID)
  | promoteUser (userId : UUID)
  | demoteUser (userId : UUID)
  | deleteUser (userId : UUID)

def Operation.program (config : AuthConfig) (adminId : UUID) (now : Time) : Operation → Endpoint
  | createUser user fresh => Users.createUser config adminId now user fresh
  | inviteUser userId fresh => Users.inviteUser config adminId now userId fresh
  | disableUser userId => Users.disableUser adminId now userId
  | enableUser userId => Users.enableUser adminId now userId
  | promoteUser userId => Users.promoteUser adminId now userId
  | demoteUser userId => Users.demoteUser adminId now userId
  | deleteUser userId => Users.deleteUser adminId now userId

-- The database part of the guard of every endpoint under `/api/users`.
def checkSuperuser (database : Database) (userId : UUID) : Except Failure UUID :=
  if UserRepository.isSuperuser database userId then .ok userId else .error (.http 403 none)

structure AdminRequest where
  adminId : UUID
  operation : Operation
  now : Time

def AdminRequest.program (config : AuthConfig) (request : AdminRequest) : Endpoint :=
  .query fun database =>
    match checkSuperuser database request.adminId with
    | .error failure => .finished (.error failure)
    | .ok adminId => request.operation.program config adminId request.now

def systemActorId : UUID := ⟨0⟩

def invalidOrExpired : Failure := .http 400 (some "Invalid or expired token")

section SetPassword

variable (config : AuthConfig) (payload : SetPasswordRequest) (salt : TokenBytes 16) (now : Time)

-- The writes once the token and its user are accepted.
def storePassword (token : PasswordSetToken) : Endpoint :=
  .write (UserRepository.setPassword token.userId (config.hashPassword salt payload.newPassword)
    false now) <|
  .write (PasswordSetTokenRepository.consume token.id now) <|
  .write (AuditLogRepository.log systemActorId "user.password.set" (some token.userId)
    (some [("by_token", .flag true)]) now) <|
  .commit <|
  .finished (.ok .noContent)

def readUser (token : PasswordSetToken) : Endpoint :=
  .query fun database =>
    match UserRepository.getById database token.userId with
    | none => .finished (.error invalidOrExpired)
    | some user =>
        if user.isActive = false then .finished (.error invalidOrExpired)
        else storePassword config payload salt now token

def setPassword : Endpoint :=
  .query fun database =>
    match PasswordSetTokenRepository.getByHash database
        (config.hashPasswordSetToken payload.token) with
    | none => .finished (.error invalidOrExpired)
    | some token =>
        if token.usedAt ≠ none ∨ token.expiresAt < now then .finished (.error invalidOrExpired)
        else readUser config payload salt now token

end SetPassword

-- After its commit the repository reads the new row back.
def refreshRow (userId : UUID) : Endpoint :=
  .query fun database =>
    match UserRepository.getById database userId with
    | none => .finished (.error .invalidRequest)
    | some _ => .finished (.ok .bootstrapped)

def insertSuperuser (config : AuthConfig) (payload : BootstrapPayload) (userId : UUID)
    (idFits : userId.value < 2 ^ 128) (salt : TokenBytes 16) (now : Time) : Endpoint :=
  .write (UserRepository.create userId idFits payload.username
    (config.hashPassword salt payload.password) true false none now) <|
  .commit <|
  refreshRow userId

def bootstrapSystem (config : AuthConfig) (payload : BootstrapPayload) (userId : UUID)
    (idFits : userId.value < 2 ^ 128) (salt : TokenBytes 16) (now : Time) : Endpoint :=
  .query fun database =>
    if UserRepository.countUsers database > 0 then
      .finished (.error (.http 409 (some "System already bootstrapped")))
    else insertSuperuser config payload userId idFits salt now

namespace Sample

def config : AuthConfig where
  hashPassword _ password := "$argon2id$" ++ password
  verifyPassword password passwordHash := decide (passwordHash = "$argon2id$" ++ password)
  hashPasswordSetToken token := "hmac-" ++ token
  passwordSetTokenExpireHours := 24
  appPublicUrl := some "https://app.example"

theorem config_lawful : config.Lawful := by
  constructor
  · intro salt password
    simp [config]
  · intro left right same
    have letters := congrArg String.toList same
    simpa [config, String.toList_append, String.toList_inj] using letters

def salt : TokenBytes 16 := ⟨⟨Array.replicate 16 0⟩, rfl⟩

def admin : User := ⟨⟨1⟩, "admin", "$argon2id$first", true, true, false, none, by decide⟩

def member : User := ⟨⟨2⟩, "member", "$argon2id$second", false, true, false, none, by decide⟩

def store : Database := ⟨[admin, member], [], [], by decide, by decide, List.nodup_nil, List.nodup_nil⟩

def invite (name : String) (tokenId : UUID) : FreshInvite := ⟨name, tokenId, "unknown-" ++ name, salt⟩

theorem token_length : 1 ≤ "token".length := by decide

theorem passwordOne_length : 8 ≤ "password one".length ∧ "password one".length ≤ 255 := by decide

end Sample

end FireflyToolkit.Users
