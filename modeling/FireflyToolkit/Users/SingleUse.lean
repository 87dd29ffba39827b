import FireflyToolkit.Users.Router

set_option autoImplicit false

namespace FireflyToolkit.Users

open Sessions Transition Vault

structure PresentedRequest (token : String) where
  payload : SetPasswordRequest
  salt : TokenBytes 16
  now : Time
  presents : payload.token = token

def PresentedRequest.program {token : String} (config : AuthConfig)
    (request : PresentedRequest token) : Endpoint :=
  setPassword config request.payload request.salt request.now

abbrev TokenSession (token : String) := Session (PresentedRequest token) Database Failure Response

abbrev TokenState (token : String) := State (PresentedRequest token) Database Failure Response

def tokenMachine (config : AuthConfig) (token : String) :
    Machine (TokenState token) (Label (PresentedRequest token)) :=
  Sessions.machine (PresentedRequest.program config)

def Succeeded {token : String} (state : TokenState token) (place : Nat) : Prop :=
  ∃ session, state.sessions[place]? = some session ∧ session.program = .finished (.ok .noContent)

structure UsedOnce {token : String} (state : TokenState token) : Prop where
  once : ∀ first second, Succeeded state first → Succeeded state second → first = second
  refused : ∀ session ∈ state.sessions, ∀ answer, session.program = .finished answer →
    answer = .ok .noContent ∨ answer = .error invalidOrExpired

def Unused (config : AuthConfig) (token : String) (database : Database) : Prop :=
  ∃ row, PasswordSetTokenRepository.getByHash database (config.hashPasswordSetToken token) = some row ∧
    row.usedAt = none

-- A request commits only while the committed row of the token is still unused.
def CommitsUnused (config : AuthConfig) (token : String) (state : TokenState token)
    (label : Label (PresentedRequest token)) : Prop :=
  ∀ place session next, label = .advance place → state.sessions[place]? = some session →
    session.program = .commit next → Unused config token state.database

instance (config : AuthConfig) (token : String) (database : Database) :
    Decidable (Unused config token database) :=
  match found : PasswordSetTokenRepository.getByHash database
      (config.hashPasswordSetToken token) with
  | none => isFalse fun unused => by
      obtain ⟨row, held, -⟩ := unused
      rw [found] at held
      cases held
  | some row => decidable_of_iff (row.usedAt = none)
      ⟨fun fresh => ⟨row, found, fresh⟩, fun unused => by
        obtain ⟨other, held, fresh⟩ := unused
        rw [found] at held
        exact Option.some.inj held ▸ fresh⟩

instance (config : AuthConfig) (token : String) (state : TokenState token)
    (label : Label (PresentedRequest token)) : Decidable (CommitsUnused config token state label) :=
  match label with
  | .start _ => isTrue fun _ _ _ same => by cases same
  | .advance place =>
      decidable_of_iff
        (∀ session ∈ state.sessions[place]?, session.program.isCommit = true →
          Unused config token state.database)
        ⟨fun holds other session next same found commits => by
            cases same
            exact holds session found ((Program.isCommit_iff _).mpr ⟨next, commits⟩),
          fun holds session found commits => by
            obtain ⟨next, isNext⟩ := (Program.isCommit_iff _).mp commits
            exact holds place session next rfl found isNext⟩

def tokenKey (row : PasswordSetToken) : UUID × String := (row.id, row.tokenHash)

structure SameKeys (before after : Database) : Prop where
  users : after.users.map User.id = before.users.map User.id
  tokens : after.tokens.map tokenKey = before.tokens.map tokenKey

theorem SameKeys.refl (database : Database) : SameKeys database database := ⟨rfl, rfl⟩

theorem SameKeys.trans {first second third : Database} (left : SameKeys first second)
    (right : SameKeys second third) : SameKeys first third :=
  ⟨right.users.trans left.users, right.tokens.trans left.tokens⟩

section Request

variable {config : AuthConfig} {token : String}

structure Held (config : AuthConfig) (token : String) (row : PasswordSetToken)
    (database : Database) : Prop where
  tokenRow : (row.id, config.hashPasswordSetToken token) ∈ database.tokens.map tokenKey
  userRow : row.userId ∈ database.users.map User.id

theorem Held.same {row : PasswordSetToken} {before after : Database}
    (held : Held config token row before) (same : SameKeys before after) :
    Held config token row after :=
  ⟨by rw [same.tokens]; exact held.tokenRow, by rw [same.users]; exact held.userRow⟩

variable (config) (request : PresentedRequest token) (row : PasswordSetToken)

def passwordWrite : Database → Except Failure Database :=
  UserRepository.setPassword row.userId
    (config.hashPassword request.salt request.payload.newPassword) false request.now

def tokenWrite : Database → Except Failure Database :=
  PasswordSetTokenRepository.consume row.id request.now

def entryWrite : Database → Except Failure Database :=
  AuditLogRepository.log systemActorId "user.password.set" (some row.userId)
    (some [("by_token", .flag true)]) request.now

def lastCommit : Endpoint := .commit (.finished (.ok .noContent))

variable {config request row}

theorem passwordWrite_same {database : Database} (held : Held config token row database) :
    ∃ next, passwordWrite config request row database = .ok next ∧ SameKeys database next := by
  obtain ⟨user, member, named⟩ := List.mem_map.mp held.userRow
  obtain ⟨next, written⟩ : ∃ next, passwordWrite config request row database = .ok next :=
    updateOne_exists _ ⟨user, member, named⟩
  exact ⟨next, written, updateOne_ids written, by rw [(updateOne_ok written).2.1]⟩

theorem tokenWrite_same {database : Database} (held : Held config token row database) :
    ∃ next, tokenWrite request row database = .ok next ∧ SameKeys database next ∧
      ∀ current ∈ next.tokens, current.id = row.id → current.usedAt ≠ none := by
  obtain ⟨current, member, keyed⟩ := List.mem_map.mp held.tokenRow
  have named : current.id = row.id := congrArg Prod.fst keyed
  obtain ⟨next, written⟩ := consume_exists request.now ⟨current, member, named⟩
  have marked := (consume_ok written).2
  refine ⟨next, written, ⟨by rw [marked]; rfl, ?_⟩, ?_⟩
  · rw [marked]
    exact markUsed_column tokenKey (fun _ _ => rfl) _ _
  · rw [marked]
    intro used usedMember usedNamed
    obtain ⟨old, -, ⟨-, rewritten⟩ | ⟨unselected, same⟩⟩ := mem_markUsed.mp usedMember
    · rw [rewritten]
      exact Option.some_ne_none _
    · exact absurd (same ▸ usedNamed) unselected

theorem entryWrite_same (database : Database) :
    ∃ next, entryWrite request row database = .ok next ∧ SameKeys database next ∧
      next.tokens = database.tokens :=
  ⟨_, rfl, ⟨rfl, rfl⟩, rfl⟩

-- Where a request is: its program, what it has written, and what the database still holds.
inductive Stage (config : AuthConfig) (request : PresentedRequest token) (database : Database) :
    Endpoint → (Database → Except Failure Database) → Prop
  | reading : Stage config request database (request.program config) .ok
  | accepted (row : PasswordSetToken)
      (tokenRow : (row.id, config.hashPasswordSetToken token) ∈ database.tokens.map tokenKey) :
      Stage config request database
        (readUser config request.payload request.salt request.now row) .ok
  | storing (row : PasswordSetToken) (held : Held config token row database) :
      Stage config request database
        (.write (passwordWrite config request row) (.write (tokenWrite request row)
          (.write (entryWrite request row) lastCommit))) .ok
  | consuming (row : PasswordSetToken) (held : Held config token row database) :
      Stage config request database
        (.write (tokenWrite request row) (.write (entryWrite request row) lastCommit))
        (andThen .ok (passwordWrite config request row))
  | recording (row : PasswordSetToken) (held : Held config token row database) :
      Stage config request database (.write (entryWrite request row) lastCommit)
        (andThen (andThen .ok (passwordWrite config request row)) (tokenWrite request row))
  | committing (row : PasswordSetToken) (held : Held config token row database) :
      Stage config request database lastCommit
        (andThen (andThen (andThen .ok (passwordWrite config request row)) (tokenWrite request row))
          (entryWrite request row))
  | finished (answer : Except Failure Response) (pending : Database → Except Failure Database)
      (known : answer = .ok .noContent ∨ answer = .error invalidOrExpired) :
      Stage config request database (.finished answer) pending

theorem Stage.same {before after : Database} {program : Endpoint}
    {pending : Database → Except Failure Database}
    (stage : Stage config request before program pending) (same : SameKeys before after) :
    Stage config request after program pending := by
  cases stage with
  | reading => exact .reading
  | accepted row tokenRow => exact .accepted row (by rw [same.tokens]; exact tokenRow)
  | storing row held => exact .storing row (held.same same)
  | consuming row held => exact .consuming row (held.same same)
  | recording row held => exact .recording row (held.same same)
  | committing row held => exact .committing row (held.same same)
  | finished answer pending known => exact .finished answer pending known

theorem pending_writes {database : Database} (held : Held config token row database) :
    (∃ next, andThen .ok (passwordWrite config request row) database = .ok next) ∧
    (∃ next, andThen (andThen .ok (passwordWrite config request row)) (tokenWrite request row)
      database = .ok next) ∧
    ∃ next, andThen (andThen (andThen .ok (passwordWrite config request row))
        (tokenWrite request row)) (entryWrite request row) database = .ok next ∧
      SameKeys database next ∧ ∀ current ∈ next.tokens, current.id = row.id → current.usedAt ≠ none := by
  obtain ⟨stored, storedOk, storedSame⟩ := @passwordWrite_same config token request row database held
  obtain ⟨consumed, consumedOk, consumedSame, used⟩ :=
    @tokenWrite_same config token request row stored (held.same storedSame)
  obtain ⟨recorded, recordedOk, recordedSame, tokens⟩ := @entryWrite_same token request row consumed
  have first : andThen .ok (passwordWrite config request row) database = .ok stored := storedOk
  have second : andThen (andThen .ok (passwordWrite config request row)) (tokenWrite request row)
      database = .ok consumed := by
    rw [andThen, first]
    exact consumedOk
  have third : andThen (andThen (andThen .ok (passwordWrite config request row))
      (tokenWrite request row)) (entryWrite request row) database = .ok recorded := by
    rw [andThen, second]
    exact recordedOk
  exact ⟨⟨stored, first⟩, ⟨consumed, second⟩, recorded, third,
    (storedSame.trans consumedSame).trans recordedSame, by rwa [tokens]⟩

theorem not_unused {database : Database} (held : Held config token row database)
    (used : ∀ current ∈ database.tokens, current.id = row.id → current.usedAt ≠ none) :
    ¬ Unused config token database := by
  rintro ⟨found, byHash, fresh⟩
  obtain ⟨member, hashed⟩ := PasswordSetTokenRepository.getByHash_eq_some.mp byHash
  obtain ⟨current, currentMember, keyed⟩ := List.mem_map.mp held.tokenRow
  have sameHash : current.tokenHash = found.tokenHash := (congrArg Prod.snd keyed).trans hashed.symm
  have same : current = found :=
    List.inj_on_of_nodup_map database.tokenHashes currentMember member sameHash
  exact used found member (same ▸ congrArg Prod.fst keyed) fresh

inductive Advanced (config : AuthConfig) (token : String) (database : Database)
    (session : TokenSession token) : Database × TokenSession token → Prop
  | kept (next : TokenSession token)
      (stage : Stage config next.request database next.program next.pending)
      (earlier : next.program = .finished (.ok .noContent) →
        session.program = .finished (.ok .noContent)) :
      Advanced config token database session (database, next)
  | committed (after : Database) (next : TokenSession token)
      (commits : session.program = lastCommit) (same : SameKeys database after)
      (used : ¬ Unused config token after) (succeeded : next.program = .finished (.ok .noContent)) :
      Advanced config token database session (after, next)

theorem finished_ne_ok {failure : Failure}
    (same : (Program.finished (.error failure) : Endpoint) = .finished (.ok .noContent)) : False := by
  cases same

theorem stage_advance {database : Database} (session : TokenSession token)
    (stage : Stage config session.request database session.program session.pending) :
    Advanced config token database session (session.advance database) := by
  obtain ⟨request, program, pending⟩ := session
  replace stage : Stage config request database program pending := stage
  have refused : ∀ pending, Stage config request database (.finished (.error invalidOrExpired)) pending :=
    fun pending => .finished _ pending (.inr rfl)
  cases stage with
  | reading =>
    simp only [Session.advance, PresentedRequest.program, setPassword]
    cases found : PasswordSetTokenRepository.getByHash database
        (config.hashPasswordSetToken request.payload.token) with
    | none => exact .kept _ (refused _) fun same => (finished_ne_ok same).elim
    | some row =>
      simp only
      split_ifs
      · exact .kept _ (refused _) fun same => (finished_ne_ok same).elim
      · obtain ⟨member, hashed⟩ := PasswordSetTokenRepository.getByHash_eq_some.mp found
        rw [request.presents] at hashed
        have tokenRow : (row.id, config.hashPasswordSetToken token) ∈ database.tokens.map tokenKey :=
          List.mem_map.mpr ⟨row, member, by rw [tokenKey, hashed]⟩
        exact .kept _ (.accepted row tokenRow) fun same => by cases same
  | accepted row tokenRow =>
    simp only [Session.advance, readUser]
    cases found : UserRepository.getById database row.userId with
    | none => exact .kept _ (refused _) fun same => (finished_ne_ok same).elim
    | some user =>
      simp only
      split_ifs
      · exact .kept _ (refused _) fun same => (finished_ne_ok same).elim
      · have userRow := List.mem_map.mpr ⟨user, UserRepository.getById_eq_some.mp found⟩
        exact .kept _ (.storing row ⟨tokenRow, userRow⟩) fun same => by cases same
  | storing row held =>
    obtain ⟨⟨next, written⟩, -⟩ := @pending_writes config token request row database held
    simp only [Session.advance, written]
    exact .kept _ (.consuming row held) fun same => by cases same
  | consuming row held =>
    obtain ⟨-, ⟨next, written⟩, -⟩ := @pending_writes config token request row database held
    simp only [Session.advance, written]
    exact .kept _ (.recording row held) fun same => by cases same
  | recording row held =>
    obtain ⟨-, -, next, written, -⟩ := @pending_writes config token request row database held
    simp only [Session.advance, written]
    exact .kept _ (.committing row held) fun same => by cases same
  | committing row held =>
    obtain ⟨-, -, next, written, same, used⟩ :=
      @pending_writes config token request row database held
    simp only [Session.advance, lastCommit, written]
    exact .committed next _ rfl same (not_unused (held.same same) used) rfl
  | finished answer pending known =>
    exact .kept _ (.finished answer pending known) id

structure Consistent (config : AuthConfig) (state : TokenState token) : Prop where
  stages : ∀ session ∈ state.sessions,
    Stage config session.request state.database session.program session.pending
  spent : ∀ place, Succeeded state place → ¬ Unused config token state.database
  once : ∀ first second, Succeeded state first → Succeeded state second → first = second

theorem Consistent.kept {state next : TokenState token} (consistent : Consistent config state)
    (database : next.database = state.database)
    (stages : ∀ session ∈ next.sessions,
      Stage config session.request next.database session.program session.pending)
    (earlier : ∀ place, Succeeded next place → Succeeded state place) : Consistent config next := by
  refine ⟨stages, ?_, ?_⟩
  · rw [database]
    exact fun place succeeded => consistent.spent place (earlier place succeeded)
  · exact fun first second left right =>
      consistent.once first second (earlier first left) (earlier second right)

theorem consistent_step {state next : TokenState token} {label : Label (PresentedRequest token)}
    (consistent : Consistent config state) (allowed : CommitsUnused config token state label)
    (stepped : (tokenMachine config token).step state label = some next) :
    Consistent config next := by
  rcases step_cases stepped with
    ⟨request, -, database, sessions⟩ | ⟨place, session, acts, found, database, sessions⟩
  · apply consistent.kept database
    · rw [database, sessions]
      intro session member
      rcases List.mem_append.mp member with old | new
      · exact consistent.stages session old
      · rw [List.mem_singleton.mp new]
        exact .reading
    · intro place succeeded
      rw [Succeeded, sessions] at succeeded
      refine held_append (fun finished => ?_) succeeded
      cases finished
  · have stage := consistent.stages session (List.mem_of_getElem? found)
    have advanced := stage_advance session stage
    generalize session.advance state.database = result at advanced database sessions
    cases advanced with
    | kept moved stage earlier =>
      apply consistent.kept database
      · rw [database, sessions]
        intro other member
        rcases List.mem_or_eq_of_mem_set member with old | new
        · exact consistent.stages other old
        · rw [new]
          exact stage
      · intro other succeeded
        rw [Succeeded, sessions] at succeeded
        exact held_set found earlier succeeded
    | committed after moved commits same used succeeded =>
      have unspent : ∀ other, ¬ Succeeded state other :=
        fun other spent => consistent.spent other spent (allowed place session _ acts found commits)
      have here : ∀ other, Succeeded next other → other = place := by
        rintro other ⟨current, placed, finished⟩
        rw [sessions] at placed
        rcases placed_set placed with ⟨isPlace, -⟩ | ⟨-, old⟩
        · exact isPlace
        · exact absurd ⟨current, old, finished⟩ (unspent other)
      refine ⟨?_, ?_, ?_⟩
      · rw [database, sessions]
        intro other member
        rcases List.mem_or_eq_of_mem_set member with old | new
        · exact (consistent.stages other old).same same
        · rw [new, succeeded]
          exact .finished _ _ (.inl rfl)
      · rw [database]
        exact fun _ _ => used
      · exact fun first second left right => (here first left).trans (here second right).symm

theorem consistent_run {labels : List (Label (PresentedRequest token))} {start : Database}
    {final : TokenState token}
    (meets : (tokenMachine config token).Meets (CommitsUnused config token) ⟨start, []⟩ labels)
    (reached : (tokenMachine config token).run ⟨start, []⟩ labels = some final) :
    Consistent config final := by
  have initially : Consistent config (⟨start, []⟩ : TokenState token) := by
    refine ⟨fun session member => absurd member List.not_mem_nil, ?_, ?_⟩
    · rintro place ⟨session, placed, -⟩
      cases placed
    · rintro first second ⟨session, placed, -⟩
      cases placed
  exact Machine.invariant_of_meets (fun _ _ _ consistent allowed stepped =>
    consistent_step consistent allowed stepped) initially meets reached

end Request

theorem presented_usedOnce {config : AuthConfig} {token : String}
    {labels : List (Label (PresentedRequest token))} {start : Database} {final : TokenState token}
    (meets : (tokenMachine config token).Meets (CommitsUnused config token) ⟨start, []⟩ labels)
    (reached : (tokenMachine config token).run ⟨start, []⟩ labels = some final) : UsedOnce final := by
  have consistent := consistent_run meets reached
  refine ⟨consistent.once, ?_⟩
  intro session member answer finished
  have stage := consistent.stages session member
  rw [finished] at stage
  generalize session.pending = pending at stage
  generalize ended : (Program.finished answer : Endpoint) = program at stage
  cases stage with
  | finished given pending known =>
    cases ended
    exact known
  | _ => cases ended

namespace Sample

def invited : Database :=
  { store with
    tokens := [⟨⟨10⟩, ⟨2⟩, "hmac-token", seconds 86400, none⟩]
    tokenIds := by decide
    tokenHashes := by decide }

def presented (password : String) (long : 8 ≤ password.length ∧ password.length ≤ 255) :
    PresentedRequest "token" :=
  ⟨⟨"token", password, token_length, long⟩, salt, 60, rfl⟩

def firstRequest : PresentedRequest "token" := presented "password one" passwordOne_length

def secondRequest : PresentedRequest "token" := presented "password two" (by decide)

def oneAfterTheOther : List (Label (PresentedRequest "token")) :=
  .start firstRequest :: List.replicate 6 (.advance 0) ++
    .start secondRequest :: List.replicate 6 (.advance 1)

-- Both requests read the token before one of them commits.
def bothReadFirst : List (Label (PresentedRequest "token")) :=
  [.start firstRequest, .start secondRequest, .advance 0, .advance 1] ++
    List.replicate 5 (.advance 0) ++ List.replicate 5 (.advance 1)

end Sample

theorem presented_usedOnce_oneAfterTheOther :
    ∃ final, (tokenMachine Sample.config "token").run ⟨Sample.invited, []⟩ Sample.oneAfterTheOther =
        some final ∧ Succeeded final 0 ∧ UsedOnce final := by
  have meets : (tokenMachine Sample.config "token").Meets (CommitsUnused Sample.config "token")
      ⟨Sample.invited, []⟩ Sample.oneAfterTheOther := by decide
  exact ⟨_, rfl, ⟨_, rfl, rfl⟩, presented_usedOnce meets rfl⟩

theorem bothReadFirst_succeed :
    ∃ final, (tokenMachine Sample.config "token").run ⟨Sample.invited, []⟩ Sample.bothReadFirst =
        some final ∧ Succeeded final 0 ∧ Succeeded final 1 ∧ ¬ UsedOnce final := by
  refine ⟨_, rfl, ⟨_, rfl, rfl⟩, ⟨_, rfl, rfl⟩, fun usedOnce => ?_⟩
  exact absurd (usedOnce.once 0 1 ⟨_, rfl, rfl⟩ ⟨_, rfl, rfl⟩) (by decide)

end FireflyToolkit.Users
