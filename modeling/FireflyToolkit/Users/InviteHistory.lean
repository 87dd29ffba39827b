import FireflyToolkit.Users.Auditing

set_option autoImplicit false

namespace FireflyToolkit.Users

open Sessions Transition Vault

structure InviteHistory where
  database : Database
  now : Time
  issued : List Issue
  consumed : List String

inductive InviteLabel
  | administer (adminId : UUID) (operation : Operation)
  | setPassword (payload : SetPasswordRequest) (salt : TokenBytes 16)
  | sleep (elapsed : Nat)

def consumedBy (payload : SetPasswordRequest) : Except Failure Response → List String
  | .ok .noContent => [payload.token]
  | _ => []

section Machine

variable (config : AuthConfig)

def administer (state : InviteHistory) (adminId : UUID) (operation : Operation) :
    Database × Except Failure Response :=
  ((⟨adminId, operation, state.now⟩ : AdminRequest).program config).perform state.database

def redeem (state : InviteHistory) (payload : SetPasswordRequest) (salt : TokenBytes 16) :
    Database × Except Failure Response :=
  (setPassword config payload salt state.now).perform state.database

def inviteStep (state : InviteHistory) : InviteLabel → Option InviteHistory
  | .administer adminId operation =>
      let result := administer config state adminId operation
      some ⟨result.1, state.now, state.issued ++ issuedBy operation result.2, state.consumed⟩
  | .setPassword payload salt =>
      let result := redeem config state payload salt
      some ⟨result.1, state.now, state.issued, state.consumed ++ consumedBy payload result.2⟩
  | .sleep elapsed =>
      some { state with now := state.now + (elapsed : Int) }

def inviteMachine : Machine InviteHistory InviteLabel := ⟨inviteStep config⟩

-- What is generated for an invitation: a token that was not handed out before, and a password
-- whose hash verifies none that anybody knows.
def FreshInvite.Secret (fresh : FreshInvite) (known : String → Prop) (issued : List Issue) : Prop :=
  (∀ issue ∈ issued, issue.token ≠ fresh.plainToken) ∧
    ∀ password, known password →
      config.verifyPassword password (generatePlaceholderPasswordHash config fresh) = false

def Generated (known : String → Prop) (state : InviteHistory) : InviteLabel → Prop
  | .administer _ (.createUser _ fresh) => fresh.Secret config known state.issued
  | .administer _ (.inviteUser _ fresh) => fresh.Secret config known state.issued
  | _ => True

end Machine

def lastIssue (issued : List Issue) (userId : UUID) : Option Issue :=
  (issued.filter fun issue => issue.userId = userId).getLast?

section LastIssue

variable {issued : List Issue} {issue : Issue} {userId : UUID}

theorem lastIssue_mem (last : lastIssue issued userId = some issue) :
    issue ∈ issued ∧ issue.userId = userId := by
  have member := List.mem_of_getLast? last
  simpa using member

theorem lastIssue_append_self : lastIssue (issued ++ [issue]) issue.userId = some issue := by
  simp [lastIssue]

theorem lastIssue_append_other (other : userId ≠ issue.userId) :
    lastIssue (issued ++ [issue]) userId = lastIssue issued userId := by
  simp [lastIssue, List.filter_append, Ne.symm other]

end LastIssue

structure Acceptable (config : AuthConfig) (database : Database) (now : Time) (token : String)
    (row : PasswordSetToken) (user : User) : Prop where
  member : row ∈ database.tokens
  presented : row.tokenHash = config.hashPasswordSetToken token
  unused : row.usedAt = none
  unexpired : now ≤ row.expiresAt
  held : user ∈ database.users
  owner : user.id = row.userId
  active : user.isActive = true

def Administered (config : AuthConfig) (adminId : UUID) (now : Time) (operation : Operation)
    (database : Database) (result : Database × Except Failure Response) : Prop :=
  (∃ failure, result = (database, .error failure)) ∨
    ∃ changed response, operation.change config now database = .ok changed ∧
      issuedBy operation (.ok response) = operation.issues config now ∧
      result = (changed.record ⟨adminId, operation.action, some operation.target, none, now⟩,
        .ok response)

section Performed

variable {config : AuthConfig} {adminId : UUID} {now : Time} {database : Database}

theorem once_performed {operation : Operation} {program : Endpoint} {response : Response}
    (issues : issuedBy operation (.ok response) = operation.issues config now)
    (once : CommitsOnce program database (operation.change config now database)
      ⟨adminId, operation.action, some operation.target, none, now⟩ response) :
    Administered config adminId now operation database (program.perform database) := by
  rcases once with ⟨failure, refused, -⟩ | ⟨changed, changes, performed, -⟩
  · exact .inl ⟨failure, refused⟩
  · exact .inr ⟨changed, response, changes, issues, performed⟩

theorem changeUser_performed {operation : Operation}
    (twice : operation.program config adminId now =
      changeUser adminId now (operation.change config now) operation.action operation.target)
    (nothing : operation.issues config now = []) :
    Administered config adminId now operation database
      ((operation.program config adminId now).perform database) := by
  rw [twice]
  simp only [Administered, changeUser, Program.perform, Program.execute]
  cases changes : operation.change config now database with
  | error failure => exact .inl ⟨failure, rfl⟩
  | ok changed => exact .inr ⟨changed, .noContent, rfl, nothing.symm, rfl⟩

theorem administer_performed (request : AdminRequest) :
    Administered config request.adminId request.now request.operation database
      ((request.program config).perform database) := by
  obtain ⟨adminId, operation, now⟩ := request
  simp only [AdminRequest.program, Program.perform, Program.execute, checkSuperuser]
  cases UserRepository.isSuperuser database adminId with
  | false => exact .inl ⟨_, rfl⟩
  | true =>
    cases operation with
    | createUser user fresh =>
      obtain ⟨response, issues, once⟩ := createUser_once adminId now user fresh
      exact once_performed issues once
    | inviteUser userId fresh =>
      obtain ⟨response, issues, once⟩ := inviteUser_once adminId userId now fresh
      exact once_performed issues once
    | disableUser userId => exact changeUser_performed rfl rfl
    | enableUser userId => exact changeUser_performed rfl rfl
    | promoteUser userId => exact changeUser_performed rfl rfl
    | demoteUser userId => exact changeUser_performed rfl rfl
    | deleteUser userId => exact changeUser_performed rfl rfl

theorem storePassword_performed {payload : SetPasswordRequest} {salt : TokenBytes 16}
    {row : PasswordSetToken} (member : row ∈ database.tokens)
    (held : ∃ user ∈ database.users, user.id = row.userId) :
    ∃ stored, UserRepository.setPassword row.userId (config.hashPassword salt payload.newPassword)
        false now database = .ok stored ∧
      (storePassword config payload salt now row).perform database =
        ((PasswordSetTokenRepository.markUsed (fun token => token.id = row.id) now stored).record
          ⟨systemActorId, "user.password.set", some row.userId, some [("by_token", .flag true)], now⟩,
          .ok .noContent) := by
  obtain ⟨stored, stores⟩ : ∃ stored, UserRepository.setPassword row.userId
      (config.hashPassword salt payload.newPassword) false now database = .ok stored :=
    updateOne_exists _ held
  have kept : row ∈ stored.tokens := by
    rw [(updateOne_ok stores).2.1]
    exact member
  obtain ⟨consumed, used⟩ := @consume_exists stored row.id now ⟨row, kept, rfl⟩
  refine ⟨stored, stores, ?_⟩
  simp only [storePassword, Program.perform, Program.execute, stores, used, AuditLogRepository.log,
    (consume_ok used).2]
  rfl

theorem setPassword_performed (payload : SetPasswordRequest) (salt : TokenBytes 16) :
    ((∀ row user, ¬ Acceptable config database now payload.token row user) ∧
        (setPassword config payload salt now).perform database = (database, .error invalidOrExpired)) ∨
      ∃ row user, Acceptable config database now payload.token row user ∧
        (setPassword config payload salt now).perform database =
          (storePassword config payload salt now row).perform database := by
  simp only [setPassword, Program.perform, Program.execute]
  cases found : PasswordSetTokenRepository.getByHash database
      (config.hashPasswordSetToken payload.token) with
  | none =>
    refine .inl ⟨fun row user acceptable => ?_, rfl⟩
    exact PasswordSetTokenRepository.getByHash_eq_none.mp found row acceptable.member
      acceptable.presented
  | some row =>
    obtain ⟨member, presented⟩ := PasswordSetTokenRepository.getByHash_eq_some.mp found
    have only : ∀ other user, Acceptable config database now payload.token other user → other = row := by
      intro other user acceptable
      exact List.inj_on_of_nodup_map database.tokenHashes acceptable.member member
        (acceptable.presented.trans presented.symm)
    by_cases rejected : row.usedAt ≠ none ∨ row.expiresAt < now
    next =>
      refine .inl ⟨fun other user acceptable => ?_, by simp [rejected, Program.execute]⟩
      have same := only other user acceptable
      rcases rejected with used | expired
      · exact used (same ▸ acceptable.unused)
      · exact absurd (same ▸ acceptable.unexpired) (not_le.mpr expired)
    next =>
      simp only [rejected, if_false, readUser, Program.execute]
      cases holder : UserRepository.getById database row.userId with
      | none =>
        refine .inl ⟨fun other user acceptable => ?_, rfl⟩
        have owner := acceptable.owner
        rw [only other user acceptable] at owner
        exact UserRepository.getById_eq_none.mp holder user acceptable.held owner
      | some user =>
        obtain ⟨held, owner⟩ := UserRepository.getById_eq_some.mp holder
        by_cases inactive : user.isActive = false
        next =>
          refine .inl ⟨fun other holding acceptable => ?_, by simp [inactive, Program.execute]⟩
          have owned := acceptable.owner
          rw [only other holding acceptable] at owned
          have same := UserRepository.same_user acceptable.held held (owned.trans owner.symm)
          have active := acceptable.active
          rw [same, inactive] at active
          cases active
        next =>
          obtain ⟨unused, unexpired⟩ := not_or.mp rejected
          refine .inr ⟨row, user, ⟨member, presented, not_not.mp unused, not_lt.mp unexpired, held,
            owner, by simpa using inactive⟩, ?_⟩
          simp only [inactive]
          rfl

end Performed

-- The unused tokens in the database are the latest of their users, as they were handed out, and no
-- request has consumed them.
structure Matches (config : AuthConfig) (database : Database) (issued : List Issue)
    (consumed : List String) : Prop where
  owned : ∀ row ∈ database.tokens, row.userId ∈ database.users.map User.id
  unused : ∀ row ∈ database.tokens, row.usedAt = none →
    ∃ issue, lastIssue issued row.userId = some issue ∧
      row.tokenHash = config.hashPasswordSetToken issue.token ∧ row.expiresAt = issue.expiresAt ∧
      issue.token ∉ consumed
  kept : ∀ userId ∈ database.users.map User.id, ∀ issue, lastIssue issued userId = some issue →
    issue.token ∉ consumed →
    ∃ row ∈ database.tokens, row.userId = userId ∧ row.usedAt = none ∧
      row.tokenHash = config.hashPasswordSetToken issue.token
  known : ∀ token ∈ consumed, ∃ issue ∈ issued, issue.token = token
  fresh : (issued.map Issue.token).Nodup

section Matches

variable {config : AuthConfig} {database next : Database} {issued : List Issue}
  {consumed : List String}

theorem matches_initially (tokens : database.tokens = []) :
    Matches config database [] [] := by
  refine ⟨?_, ?_, ?_, ?_, List.nodup_nil⟩
  · simp [tokens]
  · simp [tokens]
  · intro userId _ issue last
    cases last
  · exact fun token member => absurd member List.not_mem_nil

theorem matches_update (matched : Matches config database issued consumed)
    (users : next.users.map User.id = database.users.map User.id)
    (tokens : next.tokens = database.tokens) : Matches config next issued consumed := by
  refine ⟨?_, ?_, ?_, matched.known, matched.fresh⟩
  · rw [users, tokens]
    exact matched.owned
  · rw [tokens]
    exact matched.unused
  · rw [users, tokens]
    exact matched.kept

theorem matches_delete {userId : UUID} (matched : Matches config database issued consumed)
    (deleted : UserRepository.delete userId database = .ok next) :
    Matches config next issued consumed := by
  obtain ⟨-, -, users, tokens⟩ := delete_ok deleted
  have remains : ∀ other, other ∈ next.users.map User.id ↔
      other ∈ database.users.map User.id ∧ other ≠ userId := by
    intro other
    rw [users]
    simp only [List.mem_map, List.mem_filter, decide_eq_true_eq]
    constructor
    · rintro ⟨user, ⟨member, differs⟩, rfl⟩
      exact ⟨⟨user, member, rfl⟩, differs⟩
    · rintro ⟨⟨user, member, rfl⟩, differs⟩
      exact ⟨user, ⟨member, differs⟩, rfl⟩
  have left : ∀ row, row ∈ next.tokens ↔ row ∈ database.tokens ∧ row.userId ≠ userId := by
    intro row
    simp [tokens]
  refine ⟨?_, ?_, ?_, matched.known, matched.fresh⟩
  · intro row member
    obtain ⟨old, differs⟩ := (left row).mp member
    exact (remains _).mpr ⟨matched.owned row old, differs⟩
  · intro row member
    exact matched.unused row ((left row).mp member).1
  · intro other held issue last unspent
    obtain ⟨old, differs⟩ := (remains other).mp held
    obtain ⟨row, member, owner, unused, hash⟩ := matched.kept other old issue last unspent
    exact ⟨row, (left row).mpr ⟨member, owner ▸ differs⟩, owner, unused, hash⟩

theorem matches_issue {issue : Issue} {tokenId : UUID} {rest : List PasswordSetToken}
    (matched : Matches config database issued consumed)
    (unheard : ∀ other ∈ issued, other.token ≠ issue.token)
    (users : ∀ userId, userId ∈ next.users.map User.id ↔
      userId ∈ database.users.map User.id ∨ userId = issue.userId)
    (tokens : next.tokens = rest ++
      [⟨tokenId, issue.userId, config.hashPasswordSetToken issue.token, issue.expiresAt, none⟩])
    (owned : ∀ row ∈ rest, row.userId ∈ database.users.map User.id)
    (others : ∀ row ∈ rest, row.usedAt = none → row ∈ database.tokens ∧ row.userId ≠ issue.userId)
    (remaining : ∀ row ∈ database.tokens, row.userId ≠ issue.userId → row ∈ rest) :
    Matches config next (issued ++ [issue]) consumed := by
  have unspent : issue.token ∉ consumed := by
    intro spent
    obtain ⟨other, member, same⟩ := matched.known issue.token spent
    exact unheard other member same
  refine ⟨?_, ?_, ?_, ?_, ?_⟩
  · intro row member
    rw [tokens] at member
    rcases List.mem_append.mp member with old | new
    · exact (users _).mpr (.inl (owned row old))
    · rw [List.mem_singleton.mp new]
      exact (users _).mpr (.inr rfl)
  · intro row member unused
    rw [tokens] at member
    rcases List.mem_append.mp member with old | new
    · obtain ⟨before, other⟩ := others row old unused
      rw [lastIssue_append_other other]
      exact matched.unused row before unused
    · rw [List.mem_singleton.mp new]
      exact ⟨issue, lastIssue_append_self, rfl, rfl, unspent⟩
  · intro userId held other last otherUnspent
    rw [tokens]
    by_cases target : userId = issue.userId
    next =>
      rw [target, lastIssue_append_self, Option.some.injEq] at last
      rw [← last]
      exact ⟨_, List.mem_append_right _ (List.mem_singleton_self _), target.symm, rfl, rfl⟩
    next =>
      rw [lastIssue_append_other target] at last
      have existed := ((users userId).mp held).resolve_right target
      obtain ⟨row, member, owner, found⟩ := matched.kept userId existed other last otherUnspent
      exact ⟨row, List.mem_append_left _ (remaining row member (owner ▸ target)), owner, found⟩
  · intro token spent
    obtain ⟨other, member, same⟩ := matched.known token spent
    exact ⟨other, List.mem_append_left _ member, same⟩
  · rw [List.map_append]
    refine List.Nodup.append matched.fresh (List.nodup_singleton _) ?_
    intro token old new
    obtain ⟨other, member, same⟩ := List.mem_map.mp old
    exact unheard other member (same.trans (List.mem_singleton.mp new))

theorem matches_create {now : Time} {user : NewUser} {fresh : FreshInvite}
    (matched : Matches config database issued consumed)
    (unheard : ∀ other ∈ issued, other.token ≠ fresh.plainToken)
    (changes : (Operation.createUser user fresh).change config now database = .ok next) :
    Matches config next (issued ++ (Operation.createUser user fresh).issues config now) consumed := by
  obtain ⟨created, made, added⟩ := bind_ok changes
  obtain ⟨newId, users, sameTokens, -⟩ := add_ok made
  obtain ⟨sameUsers, -, tokens⟩ := createToken_ok added
  have absent : user.userId ∉ database.users.map User.id := by
    intro held
    obtain ⟨holder, member, same⟩ := List.mem_map.mp held
    exact newId holder member same
  rw [sameTokens] at tokens
  refine matches_issue matched unheard ?_ tokens matched.owned ?_ fun row member _ => member
  · intro userId
    rw [sameUsers, users]
    simp
  · intro row member _
    refine ⟨member, fun same : row.userId = user.userId => absent ?_⟩
    rw [← same]
    exact matched.owned row member

theorem matches_invite {userId : UUID} {now : Time} {fresh : FreshInvite}
    (matched : Matches config database issued consumed)
    (unheard : ∀ other ∈ issued, other.token ≠ fresh.plainToken)
    (changes : (Operation.inviteUser userId fresh).change config now database = .ok next) :
    Matches config next (issued ++ (Operation.inviteUser userId fresh).issues config now) consumed := by
  obtain ⟨marked, made, rest⟩ := bind_ok changes
  obtain ⟨invalidated, used, added⟩ := bind_ok rest
  obtain ⟨⟨holder, held, named⟩, sameTokens, -, -⟩ := updateOne_ok made
  obtain ⟨sameUsers, -, tokens⟩ := createToken_ok added
  have marks : marked.users.map User.id = database.users.map User.id := updateOne_ids made
  have invalidates := (Except.ok.inj used).symm
  have rows : ∀ row, row ∈ invalidated.tokens ↔ ∃ old ∈ database.tokens,
      ((old.userId = userId ∧ old.usedAt = none) ∧ row = PasswordSetTokenRepository.use now old) ∨
        (¬ (old.userId = userId ∧ old.usedAt = none) ∧ row = old) := by
    intro row
    rw [invalidates, mem_markUsed, sameTokens]
  refine matches_issue matched unheard ?_ tokens ?_ ?_ ?_
  · intro other
    have ids : next.users.map User.id = database.users.map User.id := by
      rw [sameUsers, invalidates]
      exact marks
    rw [ids]
    refine ⟨.inl, fun either => either.elim id ?_⟩
    rintro rfl
    exact List.mem_map.mpr ⟨holder, held, named⟩
  · intro row member
    obtain ⟨old, oldMember, ⟨-, rfl⟩ | ⟨-, rfl⟩⟩ := (rows row).mp member
    · exact matched.owned old oldMember
    · exact matched.owned row oldMember
  · intro row member unused
    obtain ⟨old, oldMember, ⟨-, rfl⟩ | ⟨left, rfl⟩⟩ := (rows row).mp member
    · cases unused
    · exact ⟨oldMember, fun same => left ⟨same, unused⟩⟩
  · intro row member other
    exact (rows row).mpr ⟨row, member, .inr ⟨fun selected => other selected.1, rfl⟩⟩

theorem matches_setPassword {token : String} {row : PasswordSetToken} {user : User} {now : Time}
    {stored : Database} {passwordHash : String} (lawful : config.Lawful)
    (matched : Matches config database issued consumed)
    (acceptable : Acceptable config database now token row user)
    (stores : UserRepository.setPassword row.userId passwordHash false now database = .ok stored) :
    Matches config (PasswordSetTokenRepository.markUsed (fun token => token.id = row.id) now stored)
      issued (consumed ++ [token]) := by
  have ids : stored.users.map User.id = database.users.map User.id := updateOne_ids stores
  obtain ⟨-, sameTokens, -, -⟩ := updateOne_ok stores
  have rows : ∀ other, other ∈ (PasswordSetTokenRepository.markUsed
        (fun token => token.id = row.id) now stored).tokens ↔ ∃ old ∈ database.tokens,
      (old.id = row.id ∧ other = PasswordSetTokenRepository.use now old) ∨
        (¬ old.id = row.id ∧ other = old) := by
    intro other
    rw [mem_markUsed, sameTokens]
  obtain ⟨issue, last, hash, -, -⟩ := matched.unused row acceptable.member acceptable.unused
  have same : issue.token = token := lawful.injective (hash.symm.trans acceptable.presented)
  refine ⟨?_, ?_, ?_, ?_, matched.fresh⟩
  · intro other member
    have owned : other.userId ∈ database.users.map User.id := by
      obtain ⟨old, oldMember, ⟨-, rfl⟩ | ⟨-, rfl⟩⟩ := (rows other).mp member
      · exact matched.owned old oldMember
      · exact matched.owned other oldMember
    exact ids ▸ owned
  · intro other member unused
    obtain ⟨old, oldMember, ⟨-, rfl⟩ | ⟨differs, rfl⟩⟩ := (rows other).mp member
    · cases unused
    · obtain ⟨latest, lastOther, otherHash, expires, unspent⟩ := matched.unused other oldMember unused
      refine ⟨latest, lastOther, otherHash, expires, fun spent => ?_⟩
      rcases List.mem_append.mp spent with before | now
      · exact unspent before
      · rw [List.mem_singleton.mp now, ← acceptable.presented] at otherHash
        have identical := List.inj_on_of_nodup_map database.tokenHashes oldMember acceptable.member
          otherHash
        exact differs (congrArg PasswordSetToken.id identical)
  · intro userId held latest lastOther unspent
    have heldBefore : userId ∈ database.users.map User.id := ids ▸ held
    obtain ⟨other, member, owner, unused, otherHash⟩ := matched.kept userId heldBefore latest lastOther
      fun spent => unspent (List.mem_append_left _ spent)
    refine ⟨other, (rows other).mpr ⟨other, member, .inr ⟨fun sameId => ?_, rfl⟩⟩, owner, unused, otherHash⟩
    have identical := List.inj_on_of_nodup_map database.tokenIds member acceptable.member sameId
    rw [identical, acceptable.presented] at otherHash
    have spent := lawful.injective otherHash
    exact unspent (List.mem_append_right _ (by simp [spent]))
  · intro other spent
    rcases List.mem_append.mp spent with before | now
    · exact matched.known other before
    · exact ⟨issue, (lastIssue_mem last).1, same.trans (List.mem_singleton.mp now).symm⟩

end Matches

section Runs

variable {config : AuthConfig} {known : String → Prop} {state next : InviteHistory}

theorem matches_change {adminId : UUID} {operation : Operation} {changed : Database}
    (matched : Matches config state.database state.issued state.consumed)
    (generated : Generated config known state (.administer adminId operation))
    (changes : operation.change config state.now state.database = .ok changed) :
    Matches config changed (state.issued ++ operation.issues config state.now) state.consumed := by
  have updates : ∀ {userId update}, UserRepository.updateOne userId update state.database = .ok changed →
      Matches config changed (state.issued ++ []) state.consumed := by
    intro userId update updated
    rw [List.append_nil]
    exact matches_update matched (updateOne_ids updated) (updateOne_ok updated).2.1
  cases operation with
  | createUser user fresh => exact matches_create matched generated.1 changes
  | inviteUser userId fresh => exact matches_invite matched generated.1 changes
  | disableUser userId => exact updates changes
  | enableUser userId => exact updates changes
  | promoteUser userId => exact updates changes
  | demoteUser userId => exact updates changes
  | deleteUser userId =>
    have same := matches_delete matched changes
    rwa [← List.append_nil state.issued] at same

theorem matches_step {label : InviteLabel} (lawful : config.Lawful)
    (matched : Matches config state.database state.issued state.consumed)
    (generated : Generated config known state label)
    (stepped : (inviteMachine config).step state label = some next) :
    Matches config next.database next.issued next.consumed := by
  cases label with
  | administer adminId operation =>
    rw [← Option.some.inj stepped]
    dsimp only
    rcases administer_performed ⟨adminId, operation, state.now⟩ with
      ⟨failure, refused⟩ | ⟨changed, response, changes, issues, done⟩
    · rw [administer, refused]
      simpa [issuedBy] using matched
    · rw [administer, done, issues]
      exact matches_update (matches_change matched generated changes) rfl rfl
  | setPassword payload salt =>
    rw [← Option.some.inj stepped]
    dsimp only
    rcases setPassword_performed payload salt with ⟨-, refused⟩ | ⟨row, user, acceptable, done⟩
    · rw [redeem, refused]
      simpa [consumedBy] using matched
    · obtain ⟨stored, stores, performed⟩ :=
        storePassword_performed acceptable.member ⟨user, acceptable.held, acceptable.owner⟩
      rw [redeem, done, performed]
      exact matches_update (matches_setPassword lawful matched acceptable stores) rfl rfl
  | sleep elapsed =>
    rw [← Option.some.inj stepped]
    exact matched

theorem matches_run {labels : List InviteLabel} {start : InviteHistory} (lawful : config.Lawful)
    (matched : Matches config start.database start.issued start.consumed)
    (meets : (inviteMachine config).Meets (Generated config known) start labels)
    (reached : (inviteMachine config).run start labels = some state) :
    Matches config state.database state.issued state.consumed :=
  @Machine.invariant_of_meets _ _ (inviteMachine config) (Generated config known)
    (fun state => Matches config state.database state.issued state.consumed)
    (fun _ _ _ matched generated stepped => matches_step lawful matched generated stepped)
    _ _ _ matched meets reached

theorem consumed_step {label : InviteLabel} {token : String} (consumed : token ∈ state.consumed)
    (stepped : (inviteMachine config).step state label = some next) : token ∈ next.consumed := by
  cases label with
  | administer adminId operation => exact Option.some.inj stepped ▸ consumed
  | setPassword payload salt =>
    rw [← Option.some.inj stepped]
    exact List.mem_append_left _ consumed
  | sleep elapsed => exact Option.some.inj stepped ▸ consumed

end Runs

end FireflyToolkit.Users
