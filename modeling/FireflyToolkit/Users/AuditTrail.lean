import FireflyToolkit.Shared.Paging
import FireflyToolkit.Shared.Sorting
import FireflyToolkit.Users.Auditing
import FireflyToolkit.Users.Bootstrap

set_option autoImplicit false

namespace FireflyToolkit.Users

open Paging Sessions Transition Vault

structure AuditQuery where
  actorId : Option UUID
  targetId : Option UUID
  action : Option String
  createdFrom : Option Time
  createdTo : Option Time
  metaContains : Option String

-- What the database does of a select: the test of a pattern on the text of a JSON column, and the
-- order of the rows.
structure SelectLibrary where
  ilike : Option Metadata → String → Bool
  newestFirst : List AuditLog → List AuditLog

-- Rows of the same time may come in any order.
structure SelectLibrary.Lawful (library : SelectLibrary) : Prop where
  rows : ∀ rows, (library.newestFirst rows).Perm rows
  ordered : ∀ rows, (library.newestFirst rows).Pairwise fun first second =>
    second.createdAt ≤ first.createdAt

section Listing

variable (library : SelectLibrary)

-- An empty text is no filter.
def AuditQuery.filters (query : AuditQuery) : List (AuditLog → Bool) :=
  [query.actorId.map fun actorId row => decide (row.actorId = actorId),
    query.targetId.map fun targetId row => decide (row.targetId = some targetId),
    query.action.map fun action row => decide (row.action = action),
    query.createdFrom.map fun createdFrom row => decide (createdFrom ≤ row.createdAt),
    query.createdTo.map fun createdTo row => decide (row.createdAt ≤ createdTo),
    (query.metaContains.filter (· ≠ "")).map fun text row => library.ilike row.metadata text].filterMap id

def AuditQuery.selects (query : AuditQuery) (row : AuditLog) : Bool :=
  (query.filters library).all fun test => test row

abbrev ListLimit := { limit : Nat // 1 ≤ limit ∧ limit ≤ 200 }

structure AuditLogResponse where
  items : List AuditLog
  limit : Nat
  offset : Nat

def listAuditLog (database : Database) (adminId : UUID) (query : AuditQuery) (limit : ListLimit)
    (offset : Nat) : Except Failure AuditLogResponse :=
  match checkSuperuser database adminId with
  | .error failure => .error failure
  | .ok _ =>
      let rows := library.newestFirst (database.auditLog.filter (query.selects library))
      .ok ⟨page rows offset limit, limit, offset⟩

end Listing

inductive TrailRequest
  | system (request : SystemRequest)
  | setPassword (payload : SetPasswordRequest) (salt : TokenBytes 16) (now : Time)

def TrailRequest.program (config : AuthConfig) : TrailRequest → Endpoint
  | system request => request.program config
  | setPassword payload salt now => Users.setPassword config payload salt now

abbrev TrailState := State TrailRequest Database Failure Response

inductive TrailLabel
  | session (label : Label TrailRequest)
  | entered (entry : AuditLog)

def trailStep (config : AuthConfig) (state : TrailState) : TrailLabel → Option TrailState
  | .session label => (Sessions.machine (TrailRequest.program config)).step state label
  | .entered entry => some { state with database := state.database.record entry }

def trailMachine (config : AuthConfig) : Machine TrailState TrailLabel := ⟨trailStep config⟩

def LogGrows (before after : Database) : Prop := before.auditLog <+: after.auditLog

section Grows

variable {config : AuthConfig}

theorem logGrows_refl (database : Database) : LogGrows database database := List.prefix_refl _

theorem logGrows_trans (first second third : Database) (left : LogGrows first second)
    (right : LogGrows second third) : LogGrows first third := List.IsPrefix.trans left right

theorem logGrows_same {change : Database → Except Failure Database}
    (same : ∀ before after, change before = .ok after → after.auditLog = before.auditLog) :
    Respects LogGrows change := by
  intro before after changed
  rw [LogGrows, same before after changed]

theorem log_grows (actorId : UUID) (action : String) (targetId : Option UUID)
    (metadata : Option Metadata) (now : Time) :
    Respects LogGrows (AuditLogRepository.log actorId action targetId metadata now) := by
  intro before after logged
  rw [← Except.ok.inj logged]
  exact List.prefix_append _ _

theorem updateOne_grows (userId : UUID) (update : UserRepository.Update) :
    Respects LogGrows (UserRepository.updateOne userId update) :=
  logGrows_same fun _ _ updated => (updateOne_ok updated).2.2.1

theorem create_grows (userId : UUID) (idFits : userId.value < 2 ^ 128) (username passwordHash : String)
    (isSuperuser mustChange : Bool) (changedAt : Option Time) (now : Time) :
    Respects LogGrows (UserRepository.create userId idFits username passwordHash isSuperuser mustChange
      changedAt now) :=
  logGrows_same fun _ _ created => (add_ok created).2.2.2

theorem createToken_grows (id userId : UUID) (tokenHash : String) (expiresAt : Time) :
    Respects LogGrows (PasswordSetTokenRepository.createToken id userId tokenHash expiresAt) :=
  logGrows_same fun _ _ created => (createToken_ok created).2.1

theorem invalidatePrevious_grows (userId : UUID) (invalidatedAt : Time) :
    Respects LogGrows (PasswordSetTokenRepository.invalidatePrevious userId invalidatedAt) :=
  logGrows_same fun _ _ invalidated => Except.ok.inj invalidated ▸ rfl

theorem consume_grows (tokenId : UUID) (usedAt : Time) :
    Respects LogGrows (PasswordSetTokenRepository.consume tokenId usedAt) :=
  logGrows_same fun _ _ consumed => by rw [(consume_ok consumed).2]; rfl

theorem delete_grows (userId : UUID) : Respects LogGrows (UserRepository.delete userId) :=
  logGrows_same fun _ _ deleted => (delete_ok deleted).2.1

theorem changeUser_grows (adminId : UUID) (now : Time) {change : Database → Except Failure Database}
    (action : String) (userId : UUID) (grows : Respects LogGrows change) :
    (changeUser adminId now change action userId).Respects LogGrows :=
  ⟨grows, log_grows _ _ _ _ _, trivial⟩

theorem operation_grows (adminId : UUID) (now : Time) (operation : Operation) :
    (operation.program config adminId now).Respects LogGrows := by
  cases operation with
  | createUser user fresh =>
    exact ⟨create_grows _ _ _ _ _ _ _ _, createToken_grows _ _ _ _, log_grows _ _ _ _ _, trivial⟩
  | inviteUser userId fresh =>
    intro database
    dsimp only
    cases UserRepository.getById database userId with
    | none => trivial
    | some user =>
      exact ⟨updateOne_grows _ _, invalidatePrevious_grows _ _, createToken_grows _ _ _ _,
        log_grows _ _ _ _ _, trivial⟩
  | disableUser userId => exact changeUser_grows _ _ _ _ (updateOne_grows _ _)
  | enableUser userId => exact changeUser_grows _ _ _ _ (updateOne_grows _ _)
  | promoteUser userId => exact changeUser_grows _ _ _ _ (updateOne_grows _ _)
  | demoteUser userId => exact changeUser_grows _ _ _ _ (updateOne_grows _ _)
  | deleteUser userId => exact changeUser_grows _ _ _ _ (delete_grows userId)

theorem setPassword_grows (payload : SetPasswordRequest) (salt : TokenBytes 16) (now : Time) :
    (setPassword config payload salt now).Respects LogGrows := by
  intro database
  dsimp only
  split
  · trivial
  · split_ifs
    · trivial
    · intro later
      dsimp only
      split
      · trivial
      · split_ifs
        · trivial
        · exact ⟨updateOne_grows _ _, consume_grows _ _, log_grows _ _ _ _ _, trivial⟩

theorem program_grows (request : TrailRequest) : (request.program config).Respects LogGrows := by
  cases request with
  | setPassword payload salt now => exact setPassword_grows payload salt now
  | system request =>
    cases request with
    | bootstrap payload userId idFits salt now =>
      intro database
      dsimp only
      split_ifs
      · trivial
      · refine ⟨create_grows _ _ _ _ _ _ _ _, fun later => ?_⟩
        dsimp only
        cases UserRepository.getById later userId <;> trivial
    | administer request =>
      intro database
      dsimp only
      cases checkSuperuser database request.adminId with
      | error failure => trivial
      | ok adminId => exact operation_grows adminId request.now request.operation

end Grows

def Growers (state : TrailState) : Prop := ∀ session ∈ state.sessions, session.Respects LogGrows

def readPage (library : SelectLibrary) (adminId : UUID) (query : AuditQuery) (limit : ListLimit)
    (state : TrailState) (offset : Nat) : Option (List AuditLog) :=
  match listAuditLog library state.database adminId query limit offset with
  | .ok response => some response.items
  | .error _ => none

def Onward (config : AuthConfig) (state later : TrailState) : Prop :=
  ∃ labels, (trailMachine config).run state labels = some later

def TimesApart (state : TrailState) : Prop := (state.database.auditLog.map AuditLog.createdAt).Nodup

def listing (library : SelectLibrary) (query : AuditQuery) (state : TrailState) : List AuditLog :=
  library.newestFirst (state.database.auditLog.filter (query.selects library))

section Readings

variable {config : AuthConfig} {library : SelectLibrary} {query : AuditQuery} {state later : TrailState}

theorem growers_step {label : TrailLabel} (growers : Growers state)
    (stepped : trailStep config state label = some later) :
    Growers later ∧ LogGrows state.database later.database := by
  cases label with
  | entered entry =>
    obtain rfl := Option.some.inj stepped
    exact ⟨growers, List.prefix_append _ _⟩
  | session label =>
    refine ⟨?_, ?_⟩
    · refine @sessions_step _ _ _ _ _ (fun _ session => session.Respects LogGrows) state later label
        (fun _ request => ⟨program_grows request, respects_ok logGrows_refl⟩) ?_ (fun _ _ _ held => held)
        growers stepped
      intro session member respects
      exact (Session.advance_respects logGrows_refl logGrows_trans respects state.database).2
    · rcases step_cases stepped with ⟨request, -, database, -⟩ | ⟨place, session, -, found, database, -⟩
      · rw [database]
        exact logGrows_refl _
      · rw [database]
        exact (Session.advance_respects logGrows_refl logGrows_trans
          (growers session (List.mem_of_getElem? found)) state.database).1

theorem growers_run {labels : List TrailLabel} (growers : Growers state)
    (reached : (trailMachine config).run state labels = some later) :
    Growers later ∧ LogGrows state.database later.database := by
  refine @Machine.invariant_of_run _ _ (trailMachine config)
    (fun now => Growers now ∧ LogGrows state.database now.database) ?_ state later labels
    ⟨growers, logGrows_refl _⟩ reached
  rintro middle label next ⟨held, grown⟩ stepped
  obtain ⟨after, more⟩ := growers_step held stepped
  exact ⟨after, logGrows_trans _ _ _ grown more⟩

theorem listing_descends (lawful : library.Lawful) (apart : TimesApart state) :
    (listing library query state).Pairwise fun first second => second.createdAt < first.createdAt := by
  have rows := lawful.rows (state.database.auditLog.filter (query.selects library))
  have times : ((listing library query state).map AuditLog.createdAt).Nodup :=
    (rows.map _).nodup_iff.mpr (apart.sublist (List.filter_sublist.map _))
  have different := List.pairwise_map.mp times
  exact (different.and (lawful.ordered _)).imp fun both => lt_of_le_of_ne both.2 (Ne.symm both.1)

theorem listing_sublist (lawful : library.Lawful) (grown : LogGrows state.database later.database)
    (apart : TimesApart later) :
    TimesApart state ∧ (listing library query state).Sublist (listing library query later) := by
  have earlier : TimesApart state := apart.sublist (grown.sublist.map _)
  have rows := lawful.rows (state.database.auditLog.filter (query.selects library))
  have laterRows := lawful.rows (later.database.auditLog.filter (query.selects library))
  have antisymm : Std.Antisymm fun first second : AuditLog => second.createdAt < first.createdAt :=
    ⟨fun first second above below => absurd above (lt_asymm below)⟩
  have inside : (listing library query state).Subperm (listing library query later) :=
    (rows.subperm.trans (grown.sublist.filter _).subperm).trans laterRows.symm.subperm
  exact ⟨earlier, List.sublist_of_subperm_of_pairwise inside (listing_descends lawful earlier)
    (listing_descends lawful apart)⟩

theorem growing_listing (lawful : library.Lawful) :
    Growing (Onward config) Growers TimesApart (listing library query) where
  forward := fun ⟨_, reached⟩ growers => (growers_run growers reached).1
  backward := fun ⟨_, reached⟩ growers apart =>
    (@listing_sublist library query _ _ lawful (growers_run growers reached).2 apart).1
  grows := fun ⟨_, reached⟩ growers apart => (listing_sublist lawful (growers_run growers reached).2 apart).2

theorem readPage_page {adminId : UUID} {limit : ListLimit} {offset : Nat} {items : List AuditLog}
    (answered : readPage library adminId query limit state offset = some items) :
    items = page (listing library query state) offset limit := by
  unfold readPage listAuditLog at answered
  split at answered
  next response listed =>
    split at listed
    · cases listed
    · rw [← Option.some.inj answered, ← Except.ok.inj listed]
      rfl
  next => cases answered

theorem mem_listing (lawful : library.Lawful) {entry : AuditLog} :
    entry ∈ listing library query state ↔
      entry ∈ state.database.auditLog ∧ query.selects library entry = true := by
  rw [listing, (lawful.rows _).mem_iff, List.mem_filter]

-- A superuser who reads page after page meets every entry that was there when the reading began,
-- whatever goes on meanwhile, and each once if nothing is logged.
theorem auditLog_read (lawful : library.Lawful) {start : Database} {before : List TrailLabel}
    {first final : TrailState} (begun : (trailMachine config).run ⟨start, []⟩ before = some first)
    {adminId : UUID} {limit : ListLimit} {pages : List (List AuditLog)}
    (reads : Reads (Onward config) (readPage library adminId query limit) limit first 0 pages final)
    (apart : TimesApart final) :
    (∀ entry ∈ first.database.auditLog, query.selects library entry = true → entry ∈ pages.flatten) ∧
      (∀ entry ∈ pages.flatten, entry ∈ final.database.auditLog ∧ query.selects library entry = true) ∧
      (final.database.auditLog = first.database.auditLog →
        pages.flatten.Perm (first.database.auditLog.filter (query.selects library)) ∧
          pages.flatten.Pairwise fun newer older => older.createdAt < newer.createdAt) := by
  have growing := @growing_listing config library query lawful
  have growers : Growers first := (growers_run (by intro session member; cases member) begun).1
  have paged : ∀ state offset items, readPage library adminId query limit state offset = some items →
      items = page (listing library query state) offset limit := fun _ _ _ => readPage_page
  refine ⟨fun entry listed selected => ?_, fun entry listed => ?_, fun same => ?_⟩
  · exact reads.covers paged growing growers apart ((mem_listing lawful).mpr ⟨listed, selected⟩)
  · exact (mem_listing lawful).mp (reads.sound paged growing growers apart listed)
  · have equal : listing library query final = listing library query first := by
      rw [listing, same, listing]
    rw [reads.whole paged growing growers apart equal, List.drop_zero]
    exact ⟨lawful.rows _, listing_descends lawful (reads.intact_before growing growers apart)⟩

end Readings

namespace Sample

def plainSelects : SelectLibrary where
  ilike _ _ := true
  newestFirst := Sorting.sortBy fun entry => -entry.createdAt

theorem plainSelects_lawful : plainSelects.Lawful := by
  constructor
  · exact fun rows => Sorting.sortBy_perm _ rows
  · exact fun rows => (Sorting.sortBy_pairwise _ rows).imp fun below => neg_le_neg_iff.mp below

def allEntries : AuditQuery := ⟨none, none, none, none, none, some ""⟩

def singlePage : ListLimit := ⟨1, by decide⟩

def disablingLabels : List TrailLabel :=
  .session (.start (.system (.administer ⟨⟨1⟩, .disableUser ⟨2⟩, 5⟩))) ::
    List.replicate 5 (.session (.advance 0))

def afterDisabling : TrailState :=
  ((trailMachine config).run ⟨store, []⟩ disablingLabels).getD ⟨store, []⟩

def laterEntry : AuditLog := ⟨⟨3⟩, "user_secret.created", some ⟨4⟩, none, 7⟩

def afterLater : TrailState :=
  { afterDisabling with database := afterDisabling.database.record laterEntry }

end Sample

-- The entry that comes in between puts the one that was read on the next page as well.
theorem auditLog_read_disabled :
    Sample.disabledEntry ∈ Sample.afterDisabling.database.auditLog ∧
      Sample.disabledEntry ∈ [[Sample.disabledEntry], [Sample.disabledEntry], []].flatten := by
  have between : Onward Sample.config Sample.afterDisabling Sample.afterLater :=
    ⟨[.entered Sample.laterEntry], rfl⟩
  have nothing : Onward Sample.config Sample.afterLater Sample.afterLater := ⟨[], rfl⟩
  have reads : Reads (Onward Sample.config)
      (readPage Sample.plainSelects ⟨1⟩ Sample.allEntries Sample.singlePage) 1 Sample.afterDisabling 0
      [[Sample.disabledEntry], [Sample.disabledEntry], []] Sample.afterLater :=
    .next (by decide) rfl between (.next (by decide) rfl nothing (.last (by decide) (by decide)))
  have begun : (trailMachine Sample.config).run ⟨Sample.store, []⟩ Sample.disablingLabels =
      some Sample.afterDisabling := rfl
  have apart : (Sample.afterLater.database.auditLog.map AuditLog.createdAt).Nodup := by decide
  have logged : Sample.disabledEntry ∈ Sample.afterDisabling.database.auditLog := by decide
  exact ⟨logged, (auditLog_read Sample.plainSelects_lawful begun reads apart).1 _ logged rfl⟩

end FireflyToolkit.Users
