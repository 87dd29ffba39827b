import FireflyToolkit.Shared.Transition

set_option autoImplicit false

namespace Sessions

open Transition

/-- What a request does in its own database session, as the database steps it takes. -/
inductive Program (D E A : Type) where
  | finished (answer : Except E A)
  | query (next : D → Program D E A)
  | write (change : D → Except E D) (next : Program D E A)
  | commit (next : Program D E A)

variable {D E A R : Type}

namespace Program

/-- The committed database at the end and the answer. What was not committed is rolled back. -/
def execute : Program D E A → D → D → D × Except E A
  | finished answer, committed, _ => (committed, answer)
  | query next, committed, view => execute (next view) committed view
  | write change next, committed, view =>
      match change view with
      | .ok changed => execute next committed changed
      | .error failure => (committed, .error failure)
  | commit next, _, view => execute next view view

def perform (program : Program D E A) (database : D) : D × Except E A :=
  program.execute database database

/-- The committed database at every point where the request can stop or its next commit can fail:
before each commit and at the end. -/
def stops : Program D E A → D → D → List D
  | finished _, committed, _ => [committed]
  | query next, committed, view => stops (next view) committed view
  | write change next, committed, view =>
      match change view with
      | .ok changed => stops next committed changed
      | .error _ => [committed]
  | commit next, committed, view => committed :: stops next view view

theorem stops_getLast (program : Program D E A) (committed view : D) :
    (program.stops committed view).getLast? = some (program.execute committed view).1 := by
  induction program generalizing committed view with
  | finished answer => rfl
  | query next ih => exact ih view committed view
  | write change next ih =>
    rw [stops, execute]
    cases change view with
    | ok changed => exact ih committed changed
    | error failure => rfl
  | commit next ih =>
    rw [stops, execute, List.getLast?_cons, ih view view]
    rfl

end Program

namespace Program

def isCommit : Program D E A → Bool
  | commit _ => true
  | _ => false

theorem isCommit_iff (program : Program D E A) :
    program.isCommit = true ↔ ∃ next, program = .commit next := by
  cases program <;> simp [isCommit]

end Program

/-- A session keeps what it wrote until it commits. Its reads see the committed database, as it is
when they are made, with these writes on top of it. -/
structure Session (R D E A : Type) where
  request : R
  program : Program D E A
  pending : D → Except E D

def andThen (pending change : D → Except E D) (database : D) : Except E D :=
  (pending database).bind change

namespace Session

def start (programOf : R → Program D E A) (request : R) : Session R D E A :=
  ⟨request, programOf request, .ok⟩

def raise (session : Session R D E A) (failure : E) : Session R D E A :=
  ⟨session.request, .finished (.error failure), .ok⟩

def advance (session : Session R D E A) (database : D) : D × Session R D E A :=
  match session.program with
  | .finished _ => (database, session)
  | .query next =>
      match session.pending database with
      | .ok view => (database, { session with program := next view })
      | .error failure => (database, session.raise failure)
  | .write change next =>
      match andThen session.pending change database with
      | .ok _ => (database, ⟨session.request, next, andThen session.pending change⟩)
      | .error failure => (database, session.raise failure)
  | .commit next =>
      match session.pending database with
      | .ok changed => (changed, ⟨session.request, next, .ok⟩)
      | .error failure => (database, session.raise failure)

@[simp] theorem advance_request (session : Session R D E A) (database : D) :
    (session.advance database).2.request = session.request := by
  unfold advance
  split
  · rfl
  all_goals split <;> rfl

theorem advance_database {session : Session R D E A} (database : D)
    (reads : ∀ next, session.program ≠ .commit next) : (session.advance database).1 = database := by
  obtain ⟨request, program, pending⟩ := session
  cases program with
  | finished answer => rfl
  | query next => simp only [advance]; split <;> rfl
  | write change next => simp only [advance]; split <;> rfl
  | commit next => exact absurd rfl (reads next)

end Session

structure State (R D E A : Type) where
  database : D
  sessions : List (Session R D E A)

inductive Label (R : Type)
  | start (request : R)
  | advance (place : Nat)

variable {programOf : R → Program D E A}

def step (programOf : R → Program D E A) (state : State R D E A) :
    Label R → Option (State R D E A)
  | .start request =>
      some { state with sessions := state.sessions ++ [Session.start programOf request] }
  | .advance place =>
      state.sessions[place]?.map fun session =>
        ⟨(session.advance state.database).1,
          state.sessions.set place (session.advance state.database).2⟩

def machine (programOf : R → Program D E A) : Machine (State R D E A) (Label R) :=
  ⟨step programOf⟩

theorem step_cases {state next : State R D E A} {label : Label R}
    (stepped : (machine programOf).step state label = some next) :
    (∃ request, label = .start request ∧ next.database = state.database ∧
      next.sessions = state.sessions ++ [Session.start programOf request]) ∨
    (∃ place session, label = .advance place ∧ state.sessions[place]? = some session ∧
      next.database = (session.advance state.database).1 ∧
      next.sessions = state.sessions.set place (session.advance state.database).2) := by
  cases label with
  | start request =>
    have same := Option.some.inj stepped
    exact .inl ⟨request, rfl, by rw [← same], by rw [← same]⟩
  | advance place =>
    obtain ⟨session, found, same⟩ := Option.map_eq_some_iff.mp stepped
    exact .inr ⟨place, session, rfl, found, by rw [← same], by rw [← same]⟩

theorem placed_append {sessions : List (Session R D E A)} {new session : Session R D E A}
    {place : Nat} (placed : (sessions ++ [new])[place]? = some session) :
    sessions[place]? = some session ∨ session = new := by
  rw [List.getElem?_append] at placed
  split at placed
  next => exact .inl placed
  next => exact .inr (List.mem_singleton.mp (List.mem_of_getElem? placed))

theorem placed_set {sessions : List (Session R D E A)} {next session : Session R D E A}
    {place other : Nat} (placed : (sessions.set place next)[other]? = some session) :
    (other = place ∧ session = next) ∨ (other ≠ place ∧ sessions[other]? = some session) := by
  by_cases same : other = place
  next =>
    rw [same] at placed
    have held : place < sessions.length := by
      simpa using (List.getElem?_eq_some_iff.mp placed).1
    rw [List.getElem?_set_self held] at placed
    exact .inl ⟨same, (Option.some.inj placed).symm⟩
  next =>
    rw [List.getElem?_set_ne (Ne.symm same)] at placed
    exact .inr ⟨same, placed⟩

theorem held_append {holds : Session R D E A → Prop} {sessions : List (Session R D E A)}
    {new : Session R D E A} {place : Nat} (lacks : ¬ holds new)
    (held : ∃ session, (sessions ++ [new])[place]? = some session ∧ holds session) :
    ∃ session, sessions[place]? = some session ∧ holds session := by
  obtain ⟨session, placed, holding⟩ := held
  rcases placed_append placed with old | same
  · exact ⟨session, old, holding⟩
  · exact absurd (same ▸ holding) lacks

theorem held_set {holds : Session R D E A → Prop} {sessions : List (Session R D E A)}
    {session next : Session R D E A} {place other : Nat} (found : sessions[place]? = some session)
    (earlier : holds next → holds session)
    (held : ∃ current, (sessions.set place next)[other]? = some current ∧ holds current) :
    ∃ current, sessions[other]? = some current ∧ holds current := by
  obtain ⟨current, placed, holding⟩ := held
  rcases placed_set placed with ⟨same, isNext⟩ | ⟨-, old⟩
  · rw [isNext] at holding
    exact ⟨session, same ▸ found, earlier holding⟩
  · exact ⟨current, old, holding⟩

def alone (database : D) (session : Session R D E A) : Nat → D × Session R D E A
  | 0 => (database, session)
  | count + 1 => alone (session.advance database).1 (session.advance database).2 count

theorem alone_executes (request : R) (program : Program D E A) (pending : D → Except E D)
    (committed view : D) (sees : pending committed = .ok view) :
    ∃ count rest, alone committed ⟨request, program, pending⟩ count =
      ((program.execute committed view).1,
        ⟨request, .finished (program.execute committed view).2, rest⟩) := by
  induction program generalizing pending committed view with
  | finished answer => exact ⟨0, pending, rfl⟩
  | query next ih =>
    obtain ⟨count, rest, ended⟩ := ih view pending committed view sees
    refine ⟨count + 1, rest, ?_⟩
    simp only [alone, Session.advance, sees, Program.execute]
    exact ended
  | write change next ih =>
    cases changing : change view with
    | error failure =>
      refine ⟨1, .ok, ?_⟩
      simp only [alone, Session.advance, andThen, sees, Except.bind, changing, Session.raise,
        Program.execute]
    | ok changed =>
      have seesChange : andThen pending change committed = .ok changed := by
        rw [andThen, sees]
        exact changing
      obtain ⟨count, rest, ended⟩ :=
        ih (andThen pending change) committed changed seesChange
      refine ⟨count + 1, rest, ?_⟩
      simp only [alone, Session.advance, seesChange, Program.execute, changing]
      exact ended
  | commit next ih =>
    obtain ⟨count, rest, ended⟩ := ih .ok view view rfl
    refine ⟨count + 1, rest, ?_⟩
    simp only [alone, Session.advance, sees, Program.execute]
    exact ended

theorem alone_finished (database : D) (request : R) (answer : Except E A) (pending : D → Except E D)
    (count : Nat) :
    alone database ⟨request, .finished answer, pending⟩ count =
      (database, ⟨request, .finished answer, pending⟩) := by
  induction count with
  | zero => rfl
  | succ count ih => exact ih

theorem exists_alone_iff (database : D) (session : Session R D E A) (passed : D) :
    (∃ count, (alone database session count).1 = passed) ↔
      database = passed ∨ ∃ count,
        (alone (session.advance database).1 (session.advance database).2 count).1 = passed := by
  constructor
  · rintro ⟨count, reached⟩
    cases count with
    | zero => exact .inl reached
    | succ earlier => exact .inr ⟨earlier, reached⟩
  · rintro (here | ⟨count, reached⟩)
    · exact ⟨0, here⟩
    · exact ⟨count + 1, reached⟩

-- The databases where a request can stop are the committed ones that the lone session passes.
theorem mem_stops_iff (request : R) (program : Program D E A) (pending : D → Except E D)
    (committed view : D) (sees : pending committed = .ok view) (database : D) :
    database ∈ program.stops committed view ↔
      ∃ count, (alone committed ⟨request, program, pending⟩ count).1 = database := by
  induction program generalizing pending committed view with
  | finished answer => simp [Program.stops, alone_finished, eq_comm]
  | query next ih =>
    have moved : (⟨request, .query next, pending⟩ : Session R D E A).advance committed =
        (committed, ⟨request, next view, pending⟩) := by simp only [Session.advance, sees]
    rw [exists_alone_iff, moved, Program.stops, ih view pending committed view sees]
    exact (or_iff_right_of_imp fun same => ⟨0, same⟩).symm
  | write change next ih =>
    rw [exists_alone_iff]
    cases changing : change view with
    | error failure =>
      have refused : andThen pending change committed = .error failure := by
        rw [andThen, sees]
        exact changing
      simp [Program.stops, changing, Session.advance, refused, Session.raise, alone_finished, eq_comm]
    | ok changed =>
      have seesChange : andThen pending change committed = .ok changed := by
        rw [andThen, sees]
        exact changing
      have moved : (⟨request, .write change next, pending⟩ : Session R D E A).advance committed =
          (committed, ⟨request, next, andThen pending change⟩) := by
        simp only [Session.advance, seesChange]
      simp only [Program.stops, changing]
      rw [moved, ih (andThen pending change) committed changed seesChange]
      exact (or_iff_right_of_imp fun same => ⟨0, same⟩).symm
  | commit next ih =>
    have moved : (⟨request, .commit next, pending⟩ : Session R D E A).advance committed =
        (view, ⟨request, next, .ok⟩) := by simp only [Session.advance, sees]
    rw [exists_alone_iff, moved, Program.stops, List.mem_cons, ih .ok view view rfl, eq_comm]

theorem run_alone {before after : List (Session R D E A)} (database : D) (session : Session R D E A)
    (count : Nat) :
    (machine programOf).run ⟨database, before ++ session :: after⟩
        (List.replicate count (.advance before.length)) =
      some ⟨(alone database session count).1, before ++ (alone database session count).2 :: after⟩ := by
  induction count generalizing database session with
  | zero => rfl
  | succ count ih =>
    rw [List.replicate_succ, Machine.run_cons]
    refine ⟨⟨(session.advance database).1, before ++ (session.advance database).2 :: after⟩, ?_, ih _ _⟩
    simp [machine, step]

theorem perform_run (database : D) (sessions : List (Session R D E A)) (request : R) :
    ∃ count rest,
      (machine programOf).run ⟨database, sessions⟩
          (.start request :: List.replicate count (.advance sessions.length)) =
        some ⟨((programOf request).perform database).1,
          sessions ++ [⟨request, .finished ((programOf request).perform database).2, rest⟩]⟩ := by
  obtain ⟨count, rest, ended⟩ :=
    alone_executes request (programOf request) .ok database database rfl
  refine ⟨count, rest, Machine.run_cons.mpr ⟨_, rfl, ?_⟩⟩
  have ran := @run_alone D E A R programOf sessions [] database (Session.start programOf request) count
  rw [show alone database (Session.start programOf request) count = _ from ended] at ran
  exact ran

section Respects

variable {related : D → D → Prop}

def Respects (related : D → D → Prop) (change : D → Except E D) : Prop :=
  ∀ before after, change before = .ok after → related before after

def Program.Respects (related : D → D → Prop) : Program D E A → Prop
  | .finished _ => True
  | .query next => ∀ view, Program.Respects related (next view)
  | .write change next => Sessions.Respects related change ∧ Program.Respects related next
  | .commit next => Program.Respects related next

def Session.Respects (related : D → D → Prop) (session : Session R D E A) : Prop :=
  session.program.Respects related ∧ Sessions.Respects related session.pending

theorem respects_ok (refl : ∀ database, related database database) :
    Respects related (Except.ok : D → Except E D) := by
  intro before after same
  cases same
  exact refl before

theorem respects_andThen (trans : ∀ first second third, related first second →
      related second third → related first third) {pending change : D → Except E D}
    (first : Respects related pending) (second : Respects related change) :
    Respects related (andThen pending change) := by
  intro before after changed
  rw [andThen] at changed
  cases held : pending before with
  | error failure => simp [held, Except.bind] at changed
  | ok middle =>
    have later : change middle = .ok after := by simpa [held, Except.bind] using changed
    exact trans _ _ _ (first before middle held) (second middle after later)

theorem Session.advance_respects (refl : ∀ database, related database database)
    (trans : ∀ first second third, related first second → related second third →
      related first third)
    {session : Session R D E A} (respects : session.Respects related) (database : D) :
    related database (session.advance database).1 ∧
      (session.advance database).2.Respects related := by
  obtain ⟨request, program, pending⟩ := session
  obtain ⟨programRespects, pendingRespects⟩ := respects
  have raised : ∀ failure, (raise ⟨request, program, pending⟩ failure).Respects related :=
    fun failure => ⟨trivial, respects_ok refl⟩
  cases program with
  | finished answer => exact ⟨refl database, trivial, pendingRespects⟩
  | query next =>
    simp only [advance]
    cases pending database with
    | ok view => exact ⟨refl database, programRespects view, pendingRespects⟩
    | error failure => exact ⟨refl database, raised failure⟩
  | write change next =>
    simp only [advance]
    cases andThen pending change database with
    | ok changed =>
      exact ⟨refl database, programRespects.2, respects_andThen trans pendingRespects programRespects.1⟩
    | error failure => exact ⟨refl database, raised failure⟩
  | commit next =>
    simp only [advance]
    cases held : pending database with
    | ok changed =>
      exact ⟨pendingRespects database changed held, programRespects, respects_ok refl⟩
    | error failure => exact ⟨refl database, raised failure⟩

end Respects

-- A property of every session against the committed database: it holds when a session starts, the
-- session keeps it in its own steps, and so do the steps of the others.
theorem sessions_step {holds : D → Session R D E A → Prop} {state next : State R D E A}
    {label : Label R}
    (starts : ∀ database request, holds database (Session.start programOf request))
    (own : ∀ session ∈ state.sessions, holds state.database session →
      holds (session.advance state.database).1 (session.advance state.database).2)
    (others : ∀ session ∈ state.sessions, ∀ other, holds state.database other →
      holds (session.advance state.database).1 other)
    (held : ∀ session ∈ state.sessions, holds state.database session)
    (stepped : (machine programOf).step state label = some next) :
    ∀ session ∈ next.sessions, holds next.database session := by
  rcases step_cases stepped with
    ⟨request, -, database, sessions⟩ | ⟨place, session, -, found, database, sessions⟩
  · rw [database, sessions]
    intro session member
    rcases List.mem_append.mp member with old | new
    · exact held session old
    · rw [List.mem_singleton.mp new]
      exact starts state.database request
  · rw [database, sessions]
    have acting := List.mem_of_getElem? found
    intro other member
    rcases List.mem_or_eq_of_mem_set member with old | new
    · exact others session acting other (held other old)
    · rw [new]
      exact own session acting (held session acting)

end Sessions
