import FireflyToolkit.Users.Tokens

set_option autoImplicit false

namespace FireflyToolkit.Users

open Sessions Transition Vault

structure AccessState where
  requests : State Endpoint Database Failure Response
  now : Time
  issued : List String

def AccessState.database (state : AccessState) : Database := state.requests.database

-- A guarded request is admitted in one step and then acts on the database step by step.
inductive AccessLabel
  | login (form : PasswordForm)
  | refresh (cookie : Option String)
  | administer (credentials : Credentials) (operation : Operation)
  | setPassword (payload : SetPasswordRequest) (salt : TokenBytes 16)
  | advance (place : Nat)
  | sleep (elapsed : Nat)

def loginTokens : Except Failure LoginResponse → List String
  | .ok response => [response.accessToken, response.refreshToken]
  | .error _ => []

def refreshTokens : Except Failure String → List String
  | .ok accessToken => [accessToken]
  | .error _ => []

section Machine

variable (jwt : JwtConfig) (config : AuthConfig)

def AccessState.request (state : AccessState) (label : Sessions.Label Endpoint) :
    Option AccessState :=
  (Sessions.step id state.requests label).map fun requests => { state with requests := requests }

def accessStep (state : AccessState) : AccessLabel → Option AccessState
  | .login form =>
      let answer := loginForAccessToken jwt state.now config state.database form
      some { state with issued := state.issued ++ loginTokens answer }
  | .refresh cookie =>
      let answer := refreshAccessToken jwt state.now cookie
      some { state with issued := state.issued ++ refreshTokens answer }
  | .administer credentials operation =>
      match requireSuperuser jwt state.now state.database credentials with
      | .error _ => some state
      | .ok adminId => state.request (.start (operation.program config adminId state.now))
  | .setPassword payload salt =>
      state.request (.start (setPassword config payload salt state.now))
  | .advance place => state.request (.advance place)
  | .sleep elapsed => some { state with now := state.now + (elapsed : Int) }

def accessMachine : Machine AccessState AccessLabel := ⟨accessStep jwt config⟩

def Genuine (state : AccessState) (presented : Option String) : Prop :=
  ∀ token payload, presented = some token → jwt.decode state.now token = .ok payload →
    token ∈ state.issued

def Unforged (state : AccessState) : AccessLabel → Prop
  | .refresh cookie => Genuine jwt state cookie
  | .administer credentials _ => Genuine jwt state credentials.token
  | _ => True

def LoggedIn (start : AccessState) (labels : List AccessLabel) (userId : UUID) (time : Time) : Prop :=
  ∃ before form after state response, labels = before ++ .login form :: after ∧
    (accessMachine jwt config).run start before = some state ∧ state.now = time ∧
    loginForAccessToken jwt state.now config state.database form = .ok response ∧
    ∃ user ∈ state.database.users, user.id = userId ∧ user.username = form.username ∧
      user.isActive = true ∧ config.verifyPassword form.password user.passwordHash = true

-- The token goes back to a login, at once or by way of a refresh token.
def Minted (start : AccessState) (labels : List AccessLabel) (token : String) : Prop :=
  ∃ userId time typ exp, userId.value < 2 ^ 128 ∧ token = jwt.encode ⟨userId.str, typ, exp⟩ ∧
    LoggedIn jwt config start labels userId time ∧
    ((typ = "refresh" ∧ exp = time + refreshTokenLifetime jwt) ∨
      (typ = "access" ∧ exp ≤ time + refreshTokenLifetime jwt + accessTokenLifetime jwt))

end Machine

section Runs

variable {jwt : JwtConfig} {config : AuthConfig} {start state next : AccessState}
  {labels : List AccessLabel} {label : AccessLabel}

theorem refreshLifetime_nonneg : 0 ≤ refreshTokenLifetime jwt := by
  change (0 : Int) ≤ (jwt.refreshTokenExpireDays : Int) * 86400 * 1000000
  omega

theorem LoggedIn.later {userId : UUID} {time : Time}
    (loggedIn : LoggedIn jwt config start labels userId time) :
    LoggedIn jwt config start (labels ++ [label]) userId time := by
  obtain ⟨before, form, after, state, response, split, facts⟩ := loggedIn
  exact ⟨before, form, after ++ [label], state, response, by simp [split], facts⟩

theorem Minted.later {token : String} (minted : Minted jwt config start labels token) :
    Minted jwt config start (labels ++ [label]) token := by
  obtain ⟨userId, time, typ, exp, fits, encoded, loggedIn, bound⟩ := minted
  exact ⟨userId, time, typ, exp, fits, encoded, loggedIn.later, bound⟩

theorem request_issued {request : Sessions.Label Endpoint}
    (stepped : state.request request = some next) : next.issued = state.issued := by
  obtain ⟨requests, -, rfl⟩ := Option.map_eq_some_iff.mp stepped
  rfl

theorem issued_step {token : String} (stepped : (accessMachine jwt config).step state label = some next)
    (issued : token ∈ next.issued) :
    token ∈ state.issued ∨
      (∃ form response, label = .login form ∧
        loginForAccessToken jwt state.now config state.database form = .ok response ∧
        (token = response.accessToken ∨ token = response.refreshToken)) ∨
      ∃ cookie, label = .refresh cookie ∧ refreshAccessToken jwt state.now cookie = .ok token := by
  change accessStep jwt config state label = some next at stepped
  cases label with
  | login form =>
    rw [← Option.some.inj stepped] at issued
    rcases List.mem_append.mp issued with old | new
    · exact .inl old
    · cases answered : loginForAccessToken jwt state.now config state.database form with
      | error failure =>
        rw [answered] at new
        cases new
      | ok response =>
        rw [answered] at new
        exact .inr (.inl ⟨form, response, rfl, answered, by simpa [loginTokens] using new⟩)
  | refresh cookie =>
    rw [← Option.some.inj stepped] at issued
    rcases List.mem_append.mp issued with old | new
    · exact .inl old
    · cases answered : refreshAccessToken jwt state.now cookie with
      | error failure =>
        rw [answered] at new
        cases new
      | ok accessToken =>
        rw [answered] at new
        rw [List.mem_singleton.mp new]
        exact .inr (.inr ⟨cookie, rfl, answered⟩)
  | administer credentials operation =>
    rw [accessStep] at stepped
    split at stepped
    next =>
      rw [Option.some.inj stepped]
      exact .inl issued
    next => exact .inl (request_issued stepped ▸ issued)
  | setPassword payload salt =>
    rw [accessStep] at stepped
    exact .inl (request_issued stepped ▸ issued)
  | advance place =>
    rw [accessStep] at stepped
    exact .inl (request_issued stepped ▸ issued)
  | sleep elapsed =>
    rw [← Option.some.inj stepped] at issued
    exact .inl issued

theorem login_minted {form : PasswordForm} {response : LoginResponse} {token : String}
    (reached : (accessMachine jwt config).run start labels = some state)
    (answered : loginForAccessToken jwt state.now config state.database form = .ok response)
    (given : token = response.accessToken ∨ token = response.refreshToken) :
    Minted jwt config start (labels ++ [.login form]) token := by
  obtain ⟨user, member, named, active, verified, tokens⟩ := loginForAccessToken_ok answered
  have loggedIn : LoggedIn jwt config start (labels ++ [.login form]) user.id state.now :=
    ⟨labels, form, [], state, response, rfl, reached, rfl, answered, user, member, rfl, named, active,
      verified⟩
  rw [tokens] at given
  rcases given with access | refresh
  · refine ⟨user.id, state.now, "access", _, user.idFits, access, loggedIn, .inr ⟨rfl, ?_⟩⟩
    exact Int.add_le_add_right (Int.le_add_of_nonneg_right refreshLifetime_nonneg) _
  · exact ⟨user.id, state.now, "refresh", _, user.idFits, refresh, loggedIn, .inl ⟨rfl, rfl⟩⟩

theorem refresh_minted {cookie : Option String} {accessToken : String} (lawful : jwt.Lawful)
    (minted : ∀ token ∈ state.issued, Minted jwt config start labels token)
    (genuine : Genuine jwt state cookie)
    (answered : refreshAccessToken jwt state.now cookie = .ok accessToken) :
    Minted jwt config start labels accessToken := by
  obtain ⟨token, payload, subject, presented, decoded, typ, sub, created⟩ :=
    refreshAccessToken_ok answered
  obtain ⟨userId, time, mintedTyp, exp, fits, encoded, loggedIn, bound⟩ :=
    minted token (genuine token payload presented decoded)
  rw [encoded, lawful.decodes] at decoded
  split_ifs at decoded with live
  rw [← Except.ok.inj decoded] at typ sub
  have subjectIs : subject = userId.str := (Option.some.inj sub).symm
  have typIs : mintedTyp = "refresh" := Option.some.inj typ
  rw [typIs] at bound
  have expires : exp = time + refreshTokenLifetime jwt :=
    bound.elim And.right fun access => absurd access.1 (by decide)
  have unexpired : state.now < exp := lt_of_lt_of_le live (wholeSeconds_le exp)
  rw [subjectIs] at created
  rw [expires] at unexpired
  exact ⟨userId, time, "access", _, fits, created, loggedIn,
    .inr ⟨rfl, Int.add_le_add_right unexpired.le _⟩⟩

theorem minted_step (lawful : jwt.Lawful)
    (reached : (accessMachine jwt config).run start labels = some state)
    (minted : ∀ token ∈ state.issued, Minted jwt config start labels token)
    (unforged : Unforged jwt state label)
    (stepped : (accessMachine jwt config).step state label = some next) :
    ∀ token ∈ next.issued, Minted jwt config start (labels ++ [label]) token := by
  intro token issued
  rcases issued_step stepped issued with
    old | ⟨form, response, rfl, answered, given⟩ | ⟨cookie, rfl, answered⟩
  · exact (minted token old).later
  · exact login_minted reached answered given
  · exact (refresh_minted lawful minted unforged answered).later

theorem minted_run {final : AccessState} (lawful : jwt.Lawful) (none : start.issued = [])
    (meets : (accessMachine jwt config).Meets (Unforged jwt) start labels)
    (reached : (accessMachine jwt config).run start labels = some final) :
    ∀ token ∈ final.issued, Minted jwt config start labels token := by
  refine @Machine.trace_invariant_of_meets _ _ (accessMachine jwt config) (Unforged jwt)
    (fun labels state => ∀ token ∈ state.issued, Minted jwt config start labels token) start
    (fun past state label next reached minted unforged stepped =>
      minted_step lawful reached minted unforged stepped) ?_ final labels meets reached
  intro token issued
  rw [none] at issued
  cases issued

end Runs

structure Admitted (jwt : JwtConfig) (config : AuthConfig) (start : AccessState)
    (labels : List AccessLabel) (final : AccessState) (credentials : Credentials) (userId : UUID) :
    Prop where
  access : ∃ token, credentials.token = some token ∧
    jwt.decode final.now token = .ok ⟨some userId.str, some "access"⟩
  login : ∃ time, LoggedIn jwt config start labels userId time ∧
    final.now ≤ time + refreshTokenLifetime jwt + accessTokenLifetime jwt

structure Guarded (jwt : JwtConfig) (config : AuthConfig) (start : AccessState)
    (labels : List AccessLabel) (final : AccessState) : Prop where
  superuser : ∀ credentials userId, Genuine jwt final credentials.token →
    requireSuperuser jwt final.now final.database credentials = .ok userId →
    Admitted jwt config start labels final credentials userId ∧
      ∃ user ∈ final.database.users, user.id = userId ∧ user.isSuperuser = true ∧ user.isActive = true
  activeUser : ∀ credentials userId, Genuine jwt final credentials.token →
    requireActiveUser jwt final.now final.database credentials = .ok userId →
    Admitted jwt config start labels final credentials userId ∧
      ∃ user ∈ final.database.users, user.id = userId ∧ user.isActive = true
  refreshRefused : ∀ credentials time subject expiresDelta,
    credentials.token = some (createRefreshToken jwt time subject expiresDelta) →
    requireSuperuser jwt final.now final.database credentials = .error unauthorized ∧
      requireActiveUser jwt final.now final.database credentials = .error unauthorized
  accessRefused : ∀ time subject expiresDelta, ∃ failure,
    refreshAccessToken jwt final.now (some (createAccessToken jwt time subject expiresDelta)) =
      .error failure

section Guards

variable {jwt : JwtConfig} {config : AuthConfig} {start final : AccessState} {labels : List AccessLabel}

theorem current_admitted {credentials : Credentials} {sub : String} {userId : UUID}
    (lawful : jwt.Lawful) (minted : ∀ token ∈ final.issued, Minted jwt config start labels token)
    (genuine : Genuine jwt final credentials.token)
    (current : getCurrentUser jwt final.now credentials = .ok sub)
    (parsed : UUID.parse sub = some userId) :
    Admitted jwt config start labels final credentials userId := by
  obtain ⟨token, presented, decoded⟩ := getCurrentUser_ok current
  obtain ⟨subjectId, time, typ, exp, fits, encoded, loggedIn, bound⟩ :=
    minted token (genuine token _ presented decoded)
  have payload := decoded
  rw [encoded, lawful.decodes] at payload
  split_ifs at payload with live
  simp only [Except.ok.injEq, TokenPayload.mk.injEq, Option.some.injEq] at payload
  rw [← payload.1, UUID.parse_str fits, Option.some.injEq] at parsed
  rw [← payload.1, parsed] at decoded
  rw [payload.2] at bound
  have expires : exp ≤ time + refreshTokenLifetime jwt + accessTokenLifetime jwt :=
    bound.elim (fun refresh => absurd refresh.1 (by decide)) And.right
  have unexpired : final.now < exp := lt_of_lt_of_le live (wholeSeconds_le exp)
  exact ⟨⟨token, presented, decoded⟩, time, parsed ▸ loggedIn, (unexpired.trans_le expires).le⟩

theorem refresh_unauthorized {credentials : Credentials} {now time : Time} {subject : String}
    {expiresDelta : Option Time} (lawful : jwt.Lawful)
    (presented : credentials.token = some (createRefreshToken jwt time subject expiresDelta)) :
    getCurrentUser jwt now credentials = .error unauthorized := by
  simp only [getCurrentUser, presented, decodeAccessToken, createRefreshToken, lawful.decodes]
  split
  next => rfl
  next payload decoded =>
    split_ifs at decoded
    rw [← Except.ok.inj decoded]
    exact if_pos (fun same => absurd (Option.some.inj same) (by decide))

theorem access_notRefreshed {now time : Time} {subject : String} {expiresDelta : Option Time}
    (lawful : jwt.Lawful) : ∃ failure,
      refreshAccessToken jwt now (some (createAccessToken jwt time subject expiresDelta)) =
        .error failure := by
  cases answered : refreshAccessToken jwt now
      (some (createAccessToken jwt time subject expiresDelta)) with
  | error failure => exact ⟨failure, rfl⟩
  | ok accessToken =>
    obtain ⟨token, payload, sub, presented, decoded, typ, -, -⟩ := refreshAccessToken_ok answered
    rw [← Option.some.inj presented, createAccessToken, lawful.decodes] at decoded
    split_ifs at decoded
    rw [← Except.ok.inj decoded] at typ
    have same : "access" = "refresh" := Option.some.inj typ
    exact absurd same (by decide)

end Guards

theorem access_guarded {jwt : JwtConfig} {config : AuthConfig} {start : Database} {now : Time}
    {labels : List AccessLabel} {final : AccessState} (lawful : jwt.Lawful)
    (meets : (accessMachine jwt config).Meets (Unforged jwt) ⟨⟨start, []⟩, now, []⟩ labels)
    (reached : (accessMachine jwt config).run ⟨⟨start, []⟩, now, []⟩ labels = some final) :
    Guarded jwt config ⟨⟨start, []⟩, now, []⟩ labels final := by
  have minted := minted_run lawful rfl meets reached
  refine ⟨?_, ?_, ?_, fun time subject expiresDelta => access_notRefreshed lawful⟩
  · intro credentials userId genuine admitted
    obtain ⟨sub, current, parsed, user⟩ := requireSuperuser_ok admitted
    exact ⟨current_admitted lawful minted genuine current parsed, user⟩
  · intro credentials userId genuine admitted
    obtain ⟨sub, current, parsed, user⟩ := requireActiveUser_ok admitted
    exact ⟨current_admitted lawful minted genuine current parsed, user⟩
  · intro credentials time subject expiresDelta presented
    have refused := @refresh_unauthorized jwt credentials final.now time subject expiresDelta lawful presented
    exact ⟨by rw [requireSuperuser, refused]; rfl, by rw [requireActiveUser, refused]; rfl⟩

namespace Sample

-- A text is written with a mark before each character and a dot at its end.
def writeText (text : List Char) : List Char := text.flatMap (fun character => ['x', character]) ++ ['.']

def readText : List Char → Option (List Char × List Char)
  | 'x' :: character :: rest =>
      (readText rest).map fun result => (character :: result.1, result.2)
  | '.' :: rest => some ([], rest)
  | _ => none

theorem readText_writeText (text rest : List Char) :
    readText (writeText text ++ rest) = some (text, rest) := by
  induction text with
  | nil => rfl
  | cons character text ih =>
    have unfolded : writeText (character :: text) ++ rest =
        'x' :: character :: (writeText text ++ rest) := rfl
    rw [unfolded, readText, ih]
    rfl

def writeSeconds : Int → List Char
  | .ofNat count => '+' :: Nat.toDigits 10 count
  | .negSucc count => '-' :: Nat.toDigits 10 count

def readSeconds : List Char → Option Int
  | '+' :: digits => some (.ofNat (Nat.ofDigitChars 10 digits 0))
  | '-' :: digits => some (.negSucc (Nat.ofDigitChars 10 digits 0))
  | _ => none

theorem readSeconds_writeSeconds (count : Int) : readSeconds (writeSeconds count) = some count := by
  cases count with
  | ofNat count => simp [writeSeconds, readSeconds]
  | negSucc count => simp [writeSeconds, readSeconds]

def readToken (token : String) : Option (String × String × Int) := do
  let (sub, afterSub) ← readText token.toList
  let (typ, afterTyp) ← readText afterSub
  let expiry ← readSeconds afterTyp
  return (String.ofList sub, String.ofList typ, expiry)

def writeToken (claims : Claims) : String :=
  String.ofList
    (writeText claims.sub.toList ++ (writeText claims.typ.toList ++ writeSeconds (claims.exp / 1000000)))

theorem readToken_writeToken (claims : Claims) :
    readToken (writeToken claims) = some (claims.sub, claims.typ, claims.exp / 1000000) := by
  simp [readToken, writeToken, readText_writeText, readSeconds_writeSeconds]

def jwt : JwtConfig where
  encode := writeToken
  decode now token :=
    match readToken token with
    | none => .error .invalidToken
    | some (sub, typ, expiry) =>
        if now < seconds expiry then .ok ⟨some sub, some typ⟩ else .error .expiredSignature
  accessTokenExpireMinutes := 60
  refreshTokenExpireDays := 30

theorem jwt_lawful : jwt.Lawful := by
  constructor
  intro now claims
  simp only [jwt, readToken_writeToken, wholeSeconds, seconds]
  rfl

def loginForm : PasswordForm := ⟨"admin", "first"⟩

def refreshedLater : List AccessLabel :=
  [.login loginForm, .sleep 7200000000, .refresh (some (createRefreshToken jwt 0 admin.id.str none))]

def refreshed : Credentials := ⟨some (createAccessToken jwt 7200000000 admin.id.str none), none⟩

end Sample

theorem access_guarded_refreshedLater :
    ∃ final, (accessMachine Sample.jwt Sample.config).run ⟨⟨Sample.store, []⟩, 0, []⟩
        Sample.refreshedLater = some final ∧
      requireSuperuser Sample.jwt final.now final.database Sample.refreshed = .ok Sample.admin.id ∧
      Guarded Sample.jwt Sample.config ⟨⟨Sample.store, []⟩, 0, []⟩ Sample.refreshedLater final := by
  have meets : (accessMachine Sample.jwt Sample.config).Meets (Unforged Sample.jwt)
      ⟨⟨Sample.store, []⟩, 0, []⟩ Sample.refreshedLater := by
    refine ⟨trivial, fun loggedIn first => ⟨trivial, fun later second => ⟨?_, fun _ _ => trivial⟩⟩⟩
    intro token payload presented _
    rw [← Option.some.inj second, ← Option.some.inj first, ← Option.some.inj presented]
    exact List.mem_cons_of_mem _ (List.mem_singleton_self _)
  exact ⟨_, rfl, rfl, access_guarded Sample.jwt_lawful meets rfl⟩

end FireflyToolkit.Users
