import FireflyToolkit.Shared.Transition

set_option autoImplicit false

namespace Transition

/-- A task that works on its items in order: preparing an item may raise, and an item that is
prepared waits for the answer to its request. An exception that the loop catches is noted like an
answer, any other one ends the task. -/
structure AwaitLoop (Item Request Error Memory Time : Type) where
  start : Memory → Memory
  prepare : Item → Except Error Request
  catches : Error → Bool
  note : Memory → Item → Option Error → Memory
  finish : Memory → Time → Memory
  abort : Memory → Error → Time → Memory

structure Handled (Item Request Error : Type) where
  item : Item
  request : Option Request
  failure : Option Error

def Handled.Records {Item Request Error : Type} (done : Handled Item Request Error) :
    Except Error Request → Prop
  | .ok request => done.request = some request
  | .error failure => done.request = none ∧ done.failure = some failure

inductive LoopStage (Item Request : Type)
  | spawned (items : List Item)
  | waiting (item : Item) (request : Request) (rest : List Item)
  | ended

structure LoopState (Item Request Error Memory : Type) where
  memory : Memory
  handled : List (Handled Item Request Error)
  stage : LoopStage Item Request

/-- The task is scheduled: the answer to the request it waits for, and the clock. -/
structure Resumed (Error Time : Type) where
  answer : Option Error
  now : Time

namespace AwaitLoop

variable {Item Request Error Memory Time : Type}
  (loop : AwaitLoop Item Request Error Memory Time)

def proceed (now : Time) : Memory → List (Handled Item Request Error) → List Item →
    LoopState Item Request Error Memory
  | memory, handled, [] => ⟨loop.finish memory now, handled, .ended⟩
  | memory, handled, item :: rest =>
      match loop.prepare item with
      | .ok request => ⟨memory, handled, .waiting item request rest⟩
      | .error failure =>
          if loop.catches failure then
            proceed now (loop.note memory item (some failure))
              (handled ++ [⟨item, none, some failure⟩]) rest
          else ⟨loop.abort memory failure now, handled, .ended⟩

def resume (state : LoopState Item Request Error Memory) (resumed : Resumed Error Time) :
    Option (LoopState Item Request Error Memory) :=
  match state.stage with
  | .spawned items => some (loop.proceed resumed.now (loop.start state.memory) state.handled items)
  | .waiting item request rest =>
      match resumed.answer with
      | none =>
          some (loop.proceed resumed.now (loop.note state.memory item none)
            (state.handled ++ [⟨item, some request, none⟩]) rest)
      | some failure =>
          if loop.catches failure then
            some (loop.proceed resumed.now (loop.note state.memory item (some failure))
              (state.handled ++ [⟨item, some request, some failure⟩]) rest)
          else some ⟨loop.abort state.memory failure resumed.now, state.handled, .ended⟩
  | .ended => none

def machine : Machine (LoopState Item Request Error Memory) (Resumed Error Time) := ⟨loop.resume⟩

def spawn (memory : Memory) (items : List Item) : LoopState Item Request Error Memory :=
  ⟨memory, [], .spawned items⟩

def noted (memory : Memory) (handled : List (Handled Item Request Error)) : Memory :=
  handled.foldl (fun memory done => loop.note memory done.item done.failure) memory

structure Reaches (memory : Memory) (items : List Item) (handled : List (Handled Item Request Error))
    (current : Memory) (left : List Item) : Prop where
  split : handled.map Handled.item ++ left = items
  current : current = loop.noted (loop.start memory) handled
  recorded : ∀ done ∈ handled, done.Records (loop.prepare done.item)

def Progress (memory : Memory) (items : List Item) (state : LoopState Item Request Error Memory) :
    Prop :=
  match state.stage with
  | .spawned left => left = items ∧ state.memory = memory ∧ state.handled = []
  | .waiting item request rest =>
      loop.Reaches memory items state.handled state.memory (item :: rest) ∧
        loop.prepare item = .ok request
  | .ended => ∃ current now, loop.Reaches memory items state.handled current [] ∧
      state.memory = loop.finish current now

variable {loop} {memory : Memory} {items : List Item}

theorem reaches_next (done : Handled Item Request Error)
    {handled : List (Handled Item Request Error)} {current : Memory} {rest : List Item}
    (reaches : loop.Reaches memory items handled current (done.item :: rest))
    (recorded : done.Records (loop.prepare done.item)) :
    loop.Reaches memory items (handled ++ [done]) (loop.note current done.item done.failure) rest where
  split := by simpa using reaches.split
  current := by rw [noted, List.foldl_append, reaches.current]; rfl
  recorded := by
    intro other member
    rcases List.mem_append.mp member with earlier | latest
    · exact reaches.recorded other earlier
    · exact List.mem_singleton.mp latest ▸ recorded

theorem proceed_progress (catches : ∀ failure, loop.catches failure = true) (now : Time)
    {handled : List (Handled Item Request Error)} {current : Memory} {left : List Item}
    (reaches : loop.Reaches memory items handled current left) :
    loop.Progress memory items (loop.proceed now current handled left) := by
  induction left generalizing handled current with
  | nil => exact ⟨current, now, reaches, rfl⟩
  | cons item rest ih =>
    rw [proceed]
    cases prepared : loop.prepare item with
    | ok request => exact ⟨reaches, prepared⟩
    | error failure =>
      simp only [catches failure, if_true]
      refine ih (reaches_next ⟨item, none, some failure⟩ reaches ?_)
      rw [prepared]
      exact ⟨rfl, rfl⟩

theorem resume_progress (catches : ∀ failure, loop.catches failure = true)
    {state next : LoopState Item Request Error Memory} {resumed : Resumed Error Time}
    (progress : loop.Progress memory items state) (stepped : loop.resume state resumed = some next) :
    loop.Progress memory items next := by
  obtain ⟨current, handled, stage⟩ := state
  cases stage with
  | spawned left =>
    obtain ⟨rfl, rfl, rfl⟩ := progress
    rw [← Option.some.inj stepped]
    exact proceed_progress catches resumed.now ⟨rfl, rfl, by simp⟩
  | ended => cases stepped
  | waiting item request rest =>
    obtain ⟨reaches, prepared⟩ := progress
    have recorded : ∀ failure : Option Error,
        (⟨item, some request, failure⟩ : Handled Item Request Error).Records (loop.prepare item) := by
      intro failure
      rw [prepared]
      rfl
    cases answered : resumed.answer with
    | none =>
      simp only [resume, answered, Option.some.injEq] at stepped
      rw [← stepped]
      exact proceed_progress catches resumed.now
        (reaches_next ⟨item, some request, none⟩ reaches (recorded none))
    | some failure =>
      simp only [resume, answered, catches failure, if_true, Option.some.injEq] at stepped
      rw [← stepped]
      exact proceed_progress catches resumed.now
        (reaches_next ⟨item, some request, some failure⟩ reaches (recorded (some failure)))

theorem run_progress (catches : ∀ failure, loop.catches failure = true)
    {state : LoopState Item Request Error Memory} {labels : List (Resumed Error Time)}
    (reached : loop.machine.run (spawn memory items) labels = some state) :
    loop.Progress memory items state :=
  Machine.invariant_of_run (fun _ _ _ => resume_progress catches)
    (show loop.Progress memory items (spawn memory items) from ⟨rfl, rfl, rfl⟩) reached

def remaining : LoopStage Item Request → Nat
  | .spawned items => items.length + 1
  | .waiting _ _ rest => rest.length + 1
  | .ended => 0

theorem proceed_remaining (now : Time) (handled : List (Handled Item Request Error)) (current : Memory)
    (left : List Item) : remaining (loop.proceed now current handled left).stage ≤ left.length := by
  induction left generalizing handled current with
  | nil => exact Nat.le_refl 0
  | cons item rest ih =>
    rw [proceed]
    cases loop.prepare item with
    | ok request => exact Nat.le_refl _
    | error failure =>
      dsimp only
      split_ifs
      · exact Nat.le_succ_of_le (ih _ _)
      · exact Nat.zero_le _

theorem resume_remaining (loop : AwaitLoop Item Request Error Memory Time)
    (state : LoopState Item Request Error Memory) (resumed : Resumed Error Time)
    (working : state.stage ≠ .ended) :
    ∃ next, loop.resume state resumed = some next ∧
      remaining next.stage < remaining state.stage := by
  obtain ⟨current, handled, stage⟩ := state
  cases stage with
  | spawned left => exact ⟨_, rfl, Nat.lt_succ_of_le (proceed_remaining _ _ _ _)⟩
  | ended => exact absurd rfl working
  | waiting item request rest =>
    cases answered : resumed.answer with
    | none =>
      exact ⟨_, by simp only [resume, answered]; rfl, Nat.lt_succ_of_le (proceed_remaining _ _ _ _)⟩
    | some failure =>
      by_cases caught : loop.catches failure = true
      next =>
        exact ⟨_, by simp only [resume, answered, caught, if_true]; rfl,
          Nat.lt_succ_of_le (proceed_remaining _ _ _ _)⟩
      next =>
        refine ⟨_, by simp only [resume, answered, caught]; rfl, ?_⟩
        exact Nat.succ_pos _

theorem run_ends {state : LoopState Item Request Error Memory} {labels : List (Resumed Error Time)}
    (enough : remaining state.stage ≤ labels.length) :
    ∃ count final, loop.machine.run state (labels.take count) = some final ∧ final.stage = .ended := by
  induction labels generalizing state with
  | nil =>
    refine ⟨0, state, rfl, ?_⟩
    cases stage : state.stage <;> simp_all [remaining]
  | cons resumed rest ih =>
    by_cases working : state.stage = .ended
    next => exact ⟨0, state, rfl, working⟩
    next =>
      obtain ⟨next, stepped, fewer⟩ := resume_remaining loop state resumed working
      obtain ⟨count, final, onward, ended⟩ := @ih next (by simp at enough; omega)
      exact ⟨count + 1, final, Machine.run_cons.mpr ⟨next, stepped, onward⟩, ended⟩

section Answers

variable {World : Type} (respond : World → Request → World × Option Error)

def sweep (loop : AwaitLoop Item Request Error Memory Time) :
    World → Memory → List Item → World × Memory
  | world, memory, [] => (world, memory)
  | world, memory, item :: rest =>
      match loop.prepare item with
      | .error failure => sweep loop world (loop.note memory item (some failure)) rest
      | .ok request =>
          sweep loop (respond world request).1
            (loop.note memory item (respond world request).2) rest

theorem proceed_sweep (catches : ∀ failure, loop.catches failure = true) (now : Time) (world : World)
    (current : Memory) (handled : List (Handled Item Request Error)) (left : List Item) :
    ∃ labels final, loop.machine.run (loop.proceed now current handled left) labels = some final ∧
      final.stage = .ended ∧ final.memory = loop.finish (loop.sweep respond world current left).2 now := by
  induction left generalizing world current handled with
  | nil => exact ⟨[], _, rfl, rfl, rfl⟩
  | cons item rest ih =>
    rw [proceed, sweep]
    cases prepared : loop.prepare item with
    | error failure =>
      simp only [catches failure, if_true]
      exact ih _ _ _
    | ok request =>
      obtain ⟨labels, final, onward, ended⟩ := ih (respond world request).1
        (loop.note current item (respond world request).2)
        (handled ++ [⟨item, some request, (respond world request).2⟩])
      refine ⟨⟨(respond world request).2, now⟩ :: labels, final, Machine.run_cons.mpr ⟨_, ?_, onward⟩,
        ended⟩
      cases answered : (respond world request).2 with
      | none => simp only [machine, resume]
      | some failure => simp only [machine, resume, catches failure, if_true]

theorem run_sweep (loop : AwaitLoop Item Request Error Memory Time)
    (catches : ∀ failure, loop.catches failure = true) (now : Time) (world : World) (memory : Memory)
    (items : List Item) :
    ∃ labels final, loop.machine.run (spawn memory items) labels = some final ∧
      final.stage = .ended ∧
      final.memory = loop.finish (loop.sweep respond world (loop.start memory) items).2 now := by
  obtain ⟨labels, final, onward, ended⟩ :=
    proceed_sweep respond catches now world (loop.start memory) [] items
  exact ⟨⟨none, now⟩ :: labels, final, Machine.run_cons.mpr ⟨_, rfl, onward⟩, ended⟩

end Answers

end AwaitLoop

end Transition
