import FireflyToolkit.Users.InviteHistory

set_option autoImplicit false

namespace FireflyToolkit.Users

open Sessions Transition Vault

section Interleaved

variable {config : AuthConfig} {state next : InviteHistory}

theorem step_interleaved {label : InviteLabel}
    (stepped : (inviteMachine config).step state label = some next)
    (sessions : List (Session PrivilegedRequest Database Failure Response)) :
    ∃ steps later, (machine (PrivilegedRequest.program config)).run ⟨state.database, sessions⟩ steps =
      some ⟨next.database, later⟩ := by
  have alone : ∀ request : PrivilegedRequest,
      next.database = ((request.program config).perform state.database).1 →
      ∃ steps later, (machine (PrivilegedRequest.program config)).run ⟨state.database, sessions⟩
        steps = some ⟨next.database, later⟩ := by
    intro request same
    obtain ⟨count, rest, ran⟩ :=
      @perform_run _ _ _ _ (PrivilegedRequest.program config) state.database sessions request
    rw [← same] at ran
    exact ⟨_, _, ran⟩
  cases label with
  | administer adminId operation =>
    exact alone (.administer ⟨adminId, operation, state.now⟩) (by rw [← Option.some.inj stepped]; rfl)
  | setPassword payload salt =>
    exact alone (.setPassword payload salt state.now) (by rw [← Option.some.inj stepped]; rfl)
  | sleep elapsed =>
    rw [← Option.some.inj stepped]
    exact ⟨[], sessions, rfl⟩

-- A run of requests one after the other is a run in which each session moves to its end alone.
theorem run_interleaved {labels : List InviteLabel} {final : InviteHistory}
    (reached : (inviteMachine config).run state labels = some final)
    (sessions : List (Session PrivilegedRequest Database Failure Response)) :
    ∃ steps later, (machine (PrivilegedRequest.program config)).run ⟨state.database, sessions⟩ steps =
      some ⟨final.database, later⟩ := by
  induction labels generalizing state sessions with
  | nil =>
    rw [← Option.some.inj reached]
    exact ⟨[], sessions, rfl⟩
  | cons label rest ih =>
    obtain ⟨next, stepped, onward⟩ := Machine.run_cons.mp reached
    obtain ⟨steps, middle, first⟩ := step_interleaved stepped sessions
    obtain ⟨others, later, second⟩ := ih onward middle
    exact ⟨steps ++ others, later, Machine.run_append.mpr ⟨_, first, second⟩⟩

end Interleaved

-- The token is the latest of its user, not consumed and not expired, and the user is active.
def Redeemable (state : InviteHistory) (token : String) : Prop :=
  ∃ issue, lastIssue state.issued issue.userId = some issue ∧ issue.token = token ∧
    token ∉ state.consumed ∧ state.now ≤ issue.expiresAt ∧
    ∃ user ∈ state.database.users, user.id = issue.userId ∧ user.isActive = true

def SetsPassword (config : AuthConfig) (state : InviteHistory) (payload : SetPasswordRequest)
    (salt : TokenBytes 16) : Prop :=
  (redeem config state payload salt).2 = .ok .noContent

structure LifeCycle (config : AuthConfig) (known : String → Prop) (state : InviteHistory) : Prop where
  single : ∀ first ∈ state.database.tokens, ∀ second ∈ state.database.tokens,
    first.usedAt = none → second.usedAt = none → first.userId = second.userId → first = second
  accepts : ∀ payload salt, SetsPassword config state payload salt ↔ Redeemable state payload.token
  refuses : ∀ payload salt, ¬ SetsPassword config state payload salt →
    redeem config state payload salt = (state.database, .error invalidOrExpired)
  stores : ∀ payload salt next, SetsPassword config state payload salt →
    (inviteMachine config).step state (.setPassword payload salt) = some next →
    ∃ issue ∈ state.issued, issue.token = payload.token ∧
      ∃ user ∈ next.database.users, user.id = issue.userId ∧ user.mustChangePassword = false ∧
        config.verifyPassword payload.newPassword user.passwordHash = true
  spends : ∀ payload salt next later labels, SetsPassword config state payload salt →
    (inviteMachine config).step state (.setPassword payload salt) = some next →
    (inviteMachine config).Meets (Generated config known) next labels →
    (inviteMachine config).run next labels = some later →
    ∀ again anotherSalt, again.token = payload.token → ¬ SetsPassword config later again anotherSalt
  replaces : ∀ adminId userId fresh next body,
    Generated config known state (.administer adminId (.inviteUser userId fresh)) →
    (administer config state adminId (.inviteUser userId fresh)).2 = .ok (.invited body) →
    (inviteMachine config).step state (.administer adminId (.inviteUser userId fresh)) = some next →
    ∃ user ∈ next.database.users, user.id = userId ∧
      ∀ password, known password → config.verifyPassword password user.passwordHash = false

section LifeCycle

variable {config : AuthConfig} {known : String → Prop} {state next : InviteHistory}

theorem setsPassword_iff {payload : SetPasswordRequest} {salt : TokenBytes 16} :
    SetsPassword config state payload salt ↔
      ∃ row user, Acceptable config state.database state.now payload.token row user := by
  rw [SetsPassword, redeem]
  rcases setPassword_performed payload salt with ⟨none, refused⟩ | ⟨row, user, acceptable, done⟩
  · rw [refused]
    constructor
    · intro answered
      cases answered
    · rintro ⟨row, user, acceptable⟩
      exact absurd acceptable (none row user)
  · obtain ⟨stored, -, performed⟩ :=
      storePassword_performed acceptable.member ⟨user, acceptable.held, acceptable.owner⟩
    rw [done, performed]
    exact iff_of_true rfl ⟨row, user, acceptable⟩

theorem acceptable_iff {token : String} (lawful : config.Lawful)
    (matched : Matches config state.database state.issued state.consumed) :
    (∃ row user, Acceptable config state.database state.now token row user) ↔
      Redeemable state token := by
  constructor
  · rintro ⟨row, user, acceptable⟩
    obtain ⟨issue, last, hash, expires, unspent⟩ := matched.unused row acceptable.member acceptable.unused
    have same : issue.token = token := lawful.injective (hash.symm.trans acceptable.presented)
    have target : issue.userId = row.userId := (lastIssue_mem last).2
    refine ⟨issue, target ▸ last, same, same ▸ unspent, expires ▸ acceptable.unexpired, user,
      acceptable.held, target ▸ acceptable.owner, acceptable.active⟩
  · rintro ⟨issue, last, rfl, unspent, unexpired, user, held, owner, active⟩
    obtain ⟨row, member, target, unused, hash⟩ := matched.kept issue.userId
      (List.mem_map.mpr ⟨user, held, owner⟩) issue last unspent
    obtain ⟨latest, lastRow, -, expires, -⟩ := matched.unused row member unused
    rw [target, last, Option.some.injEq] at lastRow
    rw [← lastRow] at expires
    exact ⟨row, user, member, hash, unused, expires ▸ unexpired, held, owner.trans target.symm, active⟩

theorem matches_single
    (matched : Matches config state.database state.issued state.consumed)
    {first second : PasswordSetToken} (firstMember : first ∈ state.database.tokens)
    (secondMember : second ∈ state.database.tokens) (firstUnused : first.usedAt = none)
    (secondUnused : second.usedAt = none) (same : first.userId = second.userId) : first = second := by
  obtain ⟨issue, last, hash, -, -⟩ := matched.unused first firstMember firstUnused
  obtain ⟨other, lastOther, otherHash, -, -⟩ := matched.unused second secondMember secondUnused
  rw [same, lastOther, Option.some.injEq] at last
  rw [last, ← hash] at otherHash
  exact List.inj_on_of_nodup_map state.database.tokenHashes firstMember secondMember otherHash.symm

theorem setsPassword_stores {payload : SetPasswordRequest} {salt : TokenBytes 16}
    (lawful : config.Lawful)
    (matched : Matches config state.database state.issued state.consumed)
    (sets : SetsPassword config state payload salt)
    (stepped : (inviteMachine config).step state (.setPassword payload salt) = some next) :
    payload.token ∈ next.consumed ∧ ∃ issue ∈ state.issued, issue.token = payload.token ∧
      ∃ user ∈ next.database.users, user.id = issue.userId ∧ user.mustChangePassword = false ∧
        config.verifyPassword payload.newPassword user.passwordHash = true := by
  rw [← Option.some.inj stepped]
  rcases setPassword_performed payload salt with ⟨-, refused⟩ | ⟨row, user, acceptable, done⟩
  · rw [SetsPassword, redeem, refused] at sets
    cases sets
  · obtain ⟨stored, stores, performed⟩ :=
      storePassword_performed acceptable.member ⟨user, acceptable.held, acceptable.owner⟩
    obtain ⟨issue, last, hash, -, -⟩ := matched.unused row acceptable.member acceptable.unused
    obtain ⟨issued, target⟩ := lastIssue_mem last
    refine ⟨?_, issue, issued, lawful.injective (hash.symm.trans acceptable.presented), ?_⟩
    · dsimp only
      rw [redeem, done, performed]
      exact List.mem_append_right _ (List.mem_singleton_self _)
    · dsimp only
      rw [redeem, done, performed]
      obtain ⟨holder, held, named, hashed, changed⟩ := setPassword_stored stores
      refine ⟨holder, held, named.trans target.symm, changed, ?_⟩
      rw [hashed]
      exact lawful.verifies salt payload.newPassword

theorem consumed_refused {payload : SetPasswordRequest} {salt : TokenBytes 16} (lawful : config.Lawful)
    (matched : Matches config state.database state.issued state.consumed)
    (consumed : payload.token ∈ state.consumed) : ¬ SetsPassword config state payload salt := by
  rw [setsPassword_iff, acceptable_iff lawful matched]
  rintro ⟨issue, -, -, unspent, -⟩
  exact unspent consumed

theorem consumed_run {labels : List InviteLabel} {token : String} (consumed : token ∈ state.consumed)
    (reached : (inviteMachine config).run state labels = some next) : token ∈ next.consumed :=
  @Machine.invariant_of_run _ _ (inviteMachine config) (fun state => token ∈ state.consumed)
    (fun _ _ _ consumed stepped => consumed_step consumed stepped) _ _ _ consumed reached

theorem invited_replaces {adminId userId : UUID} {fresh : FreshInvite} {body : InviteResponse}
    (generated : Generated config known state (.administer adminId (.inviteUser userId fresh)))
    (answered : (administer config state adminId (.inviteUser userId fresh)).2 = .ok (.invited body))
    (stepped : (inviteMachine config).step state (.administer adminId (.inviteUser userId fresh)) =
      some next) :
    ∃ user ∈ next.database.users, user.id = userId ∧
      ∀ password, known password → config.verifyPassword password user.passwordHash = false := by
  rw [← Option.some.inj stepped]
  dsimp only
  rcases administer_performed ⟨adminId, .inviteUser userId fresh, state.now⟩ with
    ⟨failure, refused⟩ | ⟨changed, response, changes, -, done⟩
  · rw [administer, refused] at answered
    cases answered
  · obtain ⟨marked, made, rest⟩ := bind_ok changes
    obtain ⟨invalidated, used, added⟩ := bind_ok rest
    obtain ⟨user, held, named, hashed⟩ := markPasswordResetRequired_stored made
    have kept : changed.users = marked.users := by
      rw [(createToken_ok added).1, ← Except.ok.inj used]
      rfl
    rw [administer, done]
    refine ⟨user, ?_, named, fun password knows => ?_⟩
    · rw [← kept] at held
      exact held
    · rw [hashed]
      exact generated.2 password knows

theorem lifeCycle_of_matches (lawful : config.Lawful)
    (matched : Matches config state.database state.issued state.consumed) :
    LifeCycle config known state := by
  refine ⟨?_, ?_, ?_, ?_, ?_, ?_⟩
  · exact fun first firstMember second secondMember => matches_single matched firstMember secondMember
  · exact fun payload salt => setsPassword_iff.trans (acceptable_iff lawful matched)
  · intro payload salt refused
    rw [setsPassword_iff] at refused
    rcases setPassword_performed payload salt with ⟨-, performed⟩ | ⟨row, user, acceptable, -⟩
    · exact performed
    · exact absurd ⟨row, user, acceptable⟩ refused
  · exact fun payload salt next sets stepped => (setsPassword_stores lawful matched sets stepped).2
  · intro payload salt next later labels sets stepped meets reached again anotherSalt same
    have consumed := (setsPassword_stores lawful matched sets stepped).1
    have matchedNext :=
      @matches_step config known state next (.setPassword payload salt) lawful matched trivial stepped
    have matchedLater := matches_run lawful matchedNext meets reached
    refine consumed_refused lawful matchedLater ?_
    rw [same]
    exact consumed_run consumed reached
  · exact fun adminId userId fresh next body => invited_replaces

end LifeCycle

theorem passwordSet_lifeCycle {config : AuthConfig} {known : String → Prop} {start : Database}
    {now : Time} {labels : List InviteLabel} {final : InviteHistory} (lawful : config.Lawful)
    (noTokens : start.tokens = [])
    (meets : (inviteMachine config).Meets (Generated config known) ⟨start, now, [], []⟩ labels)
    (reached : (inviteMachine config).run ⟨start, now, [], []⟩ labels = some final) :
    LifeCycle config known final :=
  lifeCycle_of_matches lawful (matches_run lawful (matches_initially noTokens) meets reached)

namespace Sample

def choosing : SetPasswordRequest := ⟨"token", "password one", token_length, passwordOne_length⟩

def invitedThenSet : List InviteLabel :=
  [.administer ⟨1⟩ (.inviteUser ⟨2⟩ (invite "token" ⟨10⟩)), .sleep 3600000000, .setPassword choosing salt]

end Sample

theorem passwordSet_lifeCycle_invitedThenSet :
    ∃ final, (inviteMachine Sample.config).run ⟨Sample.store, 0, [], []⟩ Sample.invitedThenSet =
        some final ∧ final.consumed = ["token"] ∧
      LifeCycle Sample.config (fun password => password = "password one") final := by
  have meets : (inviteMachine Sample.config).Meets
      (Generated Sample.config fun password => password = "password one")
      ⟨Sample.store, 0, [], []⟩ Sample.invitedThenSet := by
    refine ⟨⟨fun issue member => absurd member List.not_mem_nil, fun password same => ?_⟩,
      fun _ _ => ⟨trivial, fun _ _ => ⟨trivial, fun _ _ => trivial⟩⟩⟩
    rw [same]
    decide
  exact ⟨_, rfl, by decide, passwordSet_lifeCycle Sample.config_lawful rfl meets rfl⟩

end FireflyToolkit.Users
