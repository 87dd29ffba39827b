import FireflyToolkit.Domain.Identifiers
import FireflyToolkit.Users.Router

set_option autoImplicit false

namespace FireflyToolkit.Users

open Vault

structure Claims where
  sub : String
  typ : String
  exp : Time
  deriving DecidableEq

structure TokenPayload where
  sub : Option String
  typ : Option String
  deriving DecidableEq

inductive JwtError
  | expiredSignature
  | invalidToken
  deriving DecidableEq

structure JwtConfig where
  encode : Claims → String
  decode : Time → String → Except JwtError TokenPayload
  accessTokenExpireMinutes : Nat
  refreshTokenExpireDays : Nat

-- The expiry is written in whole seconds.
def wholeSeconds (time : Time) : Time := time / 1000000 * 1000000

-- A token that was signed with the key decodes to its claims until it expires.
structure JwtConfig.Lawful (jwt : JwtConfig) : Prop where
  decodes : ∀ now claims, jwt.decode now (jwt.encode claims) =
    if now < wholeSeconds claims.exp then .ok ⟨some claims.sub, some claims.typ⟩
    else .error .expiredSignature

theorem wholeSeconds_le (time : Time) : wholeSeconds time ≤ time :=
  Int.ediv_mul_le time (by decide)

section Tokens

variable (jwt : JwtConfig) (now : Time)

def accessTokenLifetime : Time := seconds (jwt.accessTokenExpireMinutes * 60)

def refreshTokenLifetime : Time := seconds (jwt.refreshTokenExpireDays * 86400)

-- `expires_delta or default`: a delta of zero counts as none.
def expiresIn (expiresDelta : Option Time) (default : Time) : Time :=
  match expiresDelta with
  | none => default
  | some delta => if delta = 0 then default else delta

def createAccessToken (subject : String) (expiresDelta : Option Time) : String :=
  jwt.encode ⟨subject, "access", now + expiresIn expiresDelta (accessTokenLifetime jwt)⟩

def createRefreshToken (subject : String) (expiresDelta : Option Time) : String :=
  jwt.encode ⟨subject, "refresh", now + expiresIn expiresDelta (refreshTokenLifetime jwt)⟩

def decodeToken (token : String) : Except Failure TokenPayload :=
  match jwt.decode now token with
  | .ok payload => .ok payload
  | .error .expiredSignature => .error (.http 401 (some "Token expired"))
  | .error .invalidToken => .error (.http 401 (some "Invalid token"))

structure PasswordForm where
  username : String
  password : String

structure LoginResponse where
  accessToken : String
  refreshToken : String

def incorrectPassword : Failure := .http 401 (some "Incorrect username or password")

def loginForAccessToken (config : AuthConfig) (database : Database) (form : PasswordForm) :
    Except Failure LoginResponse :=
  match UserRepository.getByUsername database form.username with
  | none => .error incorrectPassword
  | some user =>
      if user.isActive = false then .error incorrectPassword
      else if config.verifyPassword form.password user.passwordHash = false then
        .error incorrectPassword
      else .ok ⟨createAccessToken jwt now user.id.str none, createRefreshToken jwt now user.id.str none⟩

def refreshAccessToken (cookie : Option String) : Except Failure String :=
  let token := cookie.getD ""
  if token = "" then .error (.http 401 (some "Missing refresh token"))
  else
    match decodeToken jwt now token with
    | .error failure => .error failure
    | .ok payload =>
        if payload.typ ≠ some "refresh" then .error (.http 401 (some "Invalid refresh token"))
        else
          let subject := payload.sub.getD ""
          if subject = "" then .error (.http 401 (some "Invalid refresh token"))
          else .ok (createAccessToken jwt now subject none)

structure Credentials where
  bearer : Option String
  accessTokenCookie : Option String

def Credentials.token (credentials : Credentials) : Option String :=
  match credentials.bearer with
  | some token => some token
  | none => credentials.accessTokenCookie

def unauthorized : Failure := .http 401 none

def decodeAccessToken (token : String) : Except Failure String :=
  match jwt.decode now token with
  | .error _ => .error unauthorized
  | .ok payload =>
      if payload.typ ≠ some "access" then .error unauthorized
      else
        match payload.sub with
        | none => .error unauthorized
        | some sub => if sub = "" then .error unauthorized else .ok sub

def getCurrentUser (credentials : Credentials) : Except Failure String :=
  match credentials.token with
  | none => .error unauthorized
  | some token => decodeAccessToken jwt now token

def parseUserId (userId : String) : Except Failure UUID :=
  match UUID.parse userId with
  | none => .error unauthorized
  | some userUuid => .ok userUuid

def requireSuperuser (database : Database) (credentials : Credentials) : Except Failure UUID := do
  let userId ← getCurrentUser jwt now credentials
  let userUuid ← parseUserId userId
  checkSuperuser database userUuid

def checkActiveUser (database : Database) (userId : UUID) : Except Failure UUID :=
  match UserRepository.getById database userId with
  | none => .error unauthorized
  | some user => if user.isActive = false then .error (.http 403 none) else .ok userId

def requireActiveUser (database : Database) (credentials : Credentials) : Except Failure UUID := do
  let userId ← getCurrentUser jwt now credentials
  let userUuid ← parseUserId userId
  checkActiveUser database userUuid

end Tokens

section Accepted

variable {jwt : JwtConfig} {now : Time} {database : Database}

theorem loginForAccessToken_ok {config : AuthConfig} {form : PasswordForm} {response : LoginResponse}
    (answered : loginForAccessToken jwt now config database form = .ok response) :
    ∃ user ∈ database.users, user.username = form.username ∧ user.isActive = true ∧
      config.verifyPassword form.password user.passwordHash = true ∧
      response = ⟨createAccessToken jwt now user.id.str none,
        createRefreshToken jwt now user.id.str none⟩ := by
  unfold loginForAccessToken at answered
  cases found : UserRepository.getByUsername database form.username with
  | none =>
    rw [found] at answered
    cases answered
  | some user =>
    obtain ⟨member, named⟩ := UserRepository.getByUsername_eq_some.mp found
    simp only [found] at answered
    split_ifs at answered with inactive wrong
    exact ⟨user, member, named, by simpa using inactive, by simpa using wrong,
      (Except.ok.inj answered).symm⟩

theorem decodeToken_ok {token : String} {payload : TokenPayload}
    (decoded : decodeToken jwt now token = .ok payload) : jwt.decode now token = .ok payload := by
  unfold decodeToken at decoded
  split at decoded
  next result => rw [result, Except.ok.inj decoded]
  all_goals cases decoded

theorem refreshAccessToken_ok {cookie : Option String} {accessToken : String}
    (answered : refreshAccessToken jwt now cookie = .ok accessToken) :
    ∃ token payload subject, cookie = some token ∧ jwt.decode now token = .ok payload ∧
      payload.typ = some "refresh" ∧ payload.sub = some subject ∧
      accessToken = createAccessToken jwt now subject none := by
  unfold refreshAccessToken at answered
  cases cookie with
  | none => cases answered
  | some token =>
    dsimp only [Option.getD_some] at answered
    split_ifs at answered
    cases decoded : decodeToken jwt now token with
    | error failure =>
      rw [decoded] at answered
      cases answered
    | ok payload =>
      simp only [decoded] at answered
      split_ifs at answered with other empty
      cases subject : payload.sub with
      | none => simp [subject] at empty
      | some sub =>
        rw [subject, Option.getD_some, Except.ok.injEq] at answered
        exact ⟨token, payload, sub, rfl, decodeToken_ok decoded, not_not.mp other, subject, answered.symm⟩

theorem getCurrentUser_ok {credentials : Credentials} {sub : String}
    (accepted : getCurrentUser jwt now credentials = .ok sub) :
    ∃ token, credentials.token = some token ∧
      jwt.decode now token = .ok ⟨some sub, some "access"⟩ := by
  unfold getCurrentUser at accepted
  cases presented : credentials.token with
  | none =>
    rw [presented] at accepted
    cases accepted
  | some token =>
    simp only [presented, decodeAccessToken] at accepted
    cases decoded : jwt.decode now token with
    | error reason =>
      rw [decoded] at accepted
      cases accepted
    | ok payload =>
      obtain ⟨payloadSub, typ⟩ := payload
      simp only [decoded] at accepted
      split_ifs at accepted with other
      cases payloadSub with
      | none => cases accepted
      | some given =>
        dsimp only at accepted
        split_ifs at accepted with empty
        rw [not_not.mp other, Except.ok.inj accepted] at decoded
        exact ⟨token, rfl, decoded⟩

theorem parseUserId_ok {userId : String} {userUuid : UUID}
    (parsed : parseUserId userId = .ok userUuid) : UUID.parse userId = some userUuid := by
  unfold parseUserId at parsed
  cases result : UUID.parse userId with
  | none =>
    rw [result] at parsed
    cases parsed
  | some id =>
    rw [result] at parsed
    rw [Except.ok.inj parsed]

theorem requireSuperuser_ok {credentials : Credentials} {userId : UUID}
    (admitted : requireSuperuser jwt now database credentials = .ok userId) :
    ∃ sub, getCurrentUser jwt now credentials = .ok sub ∧ UUID.parse sub = some userId ∧
      ∃ user ∈ database.users, user.id = userId ∧ user.isSuperuser = true ∧ user.isActive = true := by
  obtain ⟨sub, current, rest⟩ := bind_ok admitted
  obtain ⟨userUuid, parsed, checked⟩ := bind_ok rest
  unfold checkSuperuser at checked
  split_ifs at checked with superuser
  rw [Except.ok.inj checked] at parsed superuser
  exact ⟨sub, current, parseUserId_ok parsed, UserRepository.isSuperuser_iff.mp superuser⟩

theorem requireActiveUser_ok {credentials : Credentials} {userId : UUID}
    (admitted : requireActiveUser jwt now database credentials = .ok userId) :
    ∃ sub, getCurrentUser jwt now credentials = .ok sub ∧ UUID.parse sub = some userId ∧
      ∃ user ∈ database.users, user.id = userId ∧ user.isActive = true := by
  obtain ⟨sub, current, rest⟩ := bind_ok admitted
  obtain ⟨userUuid, parsed, checked⟩ := bind_ok rest
  unfold checkActiveUser at checked
  cases found : UserRepository.getById database userUuid with
  | none =>
    rw [found] at checked
    cases checked
  | some user =>
    simp only [found] at checked
    split_ifs at checked with inactive
    rw [Except.ok.inj checked] at parsed found
    obtain ⟨member, named⟩ := UserRepository.getById_eq_some.mp found
    exact ⟨sub, current, parseUserId_ok parsed, user, member, named, by simpa using inactive⟩

end Accepted

end FireflyToolkit.Users
