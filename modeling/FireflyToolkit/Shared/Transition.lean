import Mathlib.Data.List.Induction

set_option autoImplicit false

namespace Transition

/-- A machine whose labels resolve every choice: a label either cannot be taken in a state or leads
to exactly one state. -/
structure Machine (State Label : Type) where
  step : State → Label → Option State

namespace Machine

variable {State Label : Type} (machine : Machine State Label)

def run : State → List Label → Option State
  | state, [] => some state
  | state, label :: rest => (machine.step state label).bind (run · rest)

def Meets (allowed : State → Label → Prop) : State → List Label → Prop
  | _, [] => True
  | state, label :: rest =>
      allowed state label ∧ ∀ next, machine.step state label = some next → Meets allowed next rest

instance decidableMeets (allowed : State → Label → Prop)
    [decision : ∀ state label, Decidable (allowed state label)] :
    ∀ (state : State) (labels : List Label), Decidable (machine.Meets allowed state labels)
  | _, [] => isTrue trivial
  | state, label :: rest =>
      match stepped : machine.step state label with
      | none =>
          decidable_of_iff (allowed state label)
            ⟨fun holds => ⟨holds, fun next taken => by rw [stepped] at taken; cases taken⟩, And.left⟩
      | some next =>
          have := decidableMeets allowed next rest
          decidable_of_iff (allowed state label ∧ machine.Meets allowed next rest)
            ⟨fun holds => ⟨holds.1, fun other taken => by
                rw [stepped] at taken
                exact Option.some.inj taken ▸ holds.2⟩,
              fun holds => ⟨holds.1, holds.2 next stepped⟩⟩

variable {machine}

@[simp] theorem run_nil (state : State) : machine.run state [] = some state := rfl

theorem run_cons {state final : State} {label : Label} {rest : List Label} :
    machine.run state (label :: rest) = some final ↔
      ∃ next, machine.step state label = some next ∧ machine.run next rest = some final := by
  simp [run, Option.bind_eq_some_iff]

theorem run_append {state final : State} {before after : List Label} :
    machine.run state (before ++ after) = some final ↔
      ∃ middle, machine.run state before = some middle ∧ machine.run middle after = some final := by
  induction before generalizing state with
  | nil => simp
  | cons label rest ih =>
    rw [List.cons_append, run_cons]
    simp only [ih, run_cons]
    constructor
    · rintro ⟨next, stepped, middle, first, second⟩
      exact ⟨middle, ⟨next, stepped, first⟩, second⟩
    · rintro ⟨middle, ⟨next, stepped, first⟩, second⟩
      exact ⟨next, stepped, middle, first, second⟩

theorem run_snoc {state final : State} {labels : List Label} {label : Label} :
    machine.run state (labels ++ [label]) = some final ↔
      ∃ middle, machine.run state labels = some middle ∧ machine.step middle label = some final := by
  simp [run_append, run_cons]

theorem meets_append {allowed : State → Label → Prop} {state middle : State}
    {before after : List Label} (reached : machine.run state before = some middle)
    (meets : machine.Meets allowed state (before ++ after)) :
    machine.Meets allowed state before ∧ machine.Meets allowed middle after := by
  induction before generalizing state with
  | nil =>
    rw [run_nil] at reached
    exact ⟨trivial, Option.some.inj reached ▸ meets⟩
  | cons label rest ih =>
    obtain ⟨next, stepped, onward⟩ := run_cons.mp reached
    obtain ⟨first, later⟩ := meets
    refine ⟨⟨first, fun other taken => ?_⟩, (ih onward (later next stepped)).2⟩
    rw [stepped] at taken
    exact Option.some.inj taken ▸ (ih onward (later next stepped)).1

theorem meets_of_append {allowed : State → Label → Prop} {state : State} {before after : List Label}
    (first : machine.Meets allowed state before)
    (later : ∀ middle, machine.run state before = some middle → machine.Meets allowed middle after) :
    machine.Meets allowed state (before ++ after) := by
  induction before generalizing state with
  | nil => exact later state rfl
  | cons label rest ih =>
    refine ⟨first.1, fun next stepped => ih (first.2 next stepped) fun middle onward => ?_⟩
    exact later middle (run_cons.mpr ⟨next, stepped, onward⟩)

theorem meets_of_forall {allowed : State → Label → Prop} {state : State} {labels : List Label}
    (free : ∀ label ∈ labels, ∀ state, allowed state label) : machine.Meets allowed state labels := by
  induction labels generalizing state with
  | nil => trivial
  | cons label rest ih =>
    exact ⟨free label List.mem_cons_self state,
      fun next _ => ih fun other member => free other (List.mem_cons_of_mem label member)⟩

theorem meets_cons {allowed : State → Label → Prop} {state next : State} {label : Label}
    {rest : List Label} (stepped : machine.step state label = some next)
    (holds : allowed state label) (later : machine.Meets allowed next rest) :
    machine.Meets allowed state (label :: rest) := by
  refine ⟨holds, fun other taken => ?_⟩
  rw [stepped] at taken
  exact Option.some.inj taken ▸ later

theorem Meets.imp {strong weak : State → Label → Prop}
    (weaker : ∀ state label, strong state label → weak state label) {state : State}
    {labels : List Label} (meets : machine.Meets strong state labels) :
    machine.Meets weak state labels := by
  induction labels generalizing state with
  | nil => trivial
  | cons label rest ih => exact ⟨weaker _ _ meets.1, fun next taken => ih (meets.2 next taken)⟩

theorem invariant_of_meets {allowed : State → Label → Prop} {invariant : State → Prop}
    (preserved : ∀ state label next, invariant state → allowed state label →
      machine.step state label = some next → invariant next)
    {state final : State} {labels : List Label} (initially : invariant state)
    (meets : machine.Meets allowed state labels)
    (reached : machine.run state labels = some final) : invariant final := by
  induction labels generalizing state with
  | nil => exact Option.some.inj reached ▸ initially
  | cons label rest ih =>
    obtain ⟨next, stepped, onward⟩ := run_cons.mp reached
    exact ih (preserved _ _ _ initially meets.1 stepped) (meets.2 next stepped) onward

theorem invariant_of_run {invariant : State → Prop}
    (preserved : ∀ state label next, invariant state →
      machine.step state label = some next → invariant next)
    {state final : State} {labels : List Label} (initially : invariant state)
    (reached : machine.run state labels = some final) : invariant final := by
  induction labels generalizing state with
  | nil => exact Option.some.inj reached ▸ initially
  | cons label rest ih =>
    obtain ⟨next, stepped, onward⟩ := run_cons.mp reached
    exact ih (preserved _ _ _ initially stepped) onward

-- As `invariant_of_run`, for a property of the state together with the labels taken so far.
theorem trace_invariant {invariant : List Label → State → Prop} {start : State}
    (preserved : ∀ past state label next, invariant past state →
      machine.step state label = some next → invariant (past ++ [label]) next)
    (initially : invariant [] start) {final : State} {labels : List Label}
    (reached : machine.run start labels = some final) : invariant labels final := by
  induction labels using List.reverseRecOn generalizing final with
  | nil => exact Option.some.inj reached ▸ initially
  | append_singleton past label ih =>
    obtain ⟨middle, first, stepped⟩ := run_snoc.mp reached
    exact preserved past middle label final (ih first) stepped

theorem trace_invariant_of_meets {allowed : State → Label → Prop}
    {invariant : List Label → State → Prop} {start : State}
    (preserved : ∀ past state label next, machine.run start past = some state →
      invariant past state → allowed state label → machine.step state label = some next →
      invariant (past ++ [label]) next)
    (initially : invariant [] start) {final : State} {labels : List Label}
    (meets : machine.Meets allowed start labels)
    (reached : machine.run start labels = some final) : invariant labels final := by
  induction labels using List.reverseRecOn generalizing final with
  | nil => exact Option.some.inj reached ▸ initially
  | append_singleton past label ih =>
    obtain ⟨middle, first, stepped⟩ := run_snoc.mp reached
    obtain ⟨before, last⟩ := meets_append first meets
    exact preserved past middle label final first (ih before first) last.1 stepped

/-- A step of the run is the event, in the state it is taken from and after the steps before it. -/
def Happened (machine : Machine State Label) (event : List Label → State → Label → Prop)
    (start : State) (labels : List Label) : Prop :=
  ∃ before label after state, labels = before ++ label :: after ∧
    machine.run start before = some state ∧ event before state label

theorem Happened.later {event : List Label → State → Label → Prop} {start : State} {past : List Label}
    (happened : machine.Happened event start past) (more : List Label) :
    machine.Happened event start (past ++ more) := by
  obtain ⟨before, label, after, state, rfl, reached, holds⟩ := happened
  exact ⟨before, label, after ++ more, state, by simp, reached, holds⟩

theorem happened_last {event : List Label → State → Label → Prop} {start state : State}
    {past : List Label} {label : Label} (reached : machine.run start past = some state)
    (holds : event past state label) : machine.Happened event start (past ++ [label]) :=
  ⟨past, label, [], state, rfl, reached, holds⟩

def Segments (machine : Machine State Label) (related : State → State → Prop) (start : State)
    (labels : List Label) : Prop :=
  ∀ before middle after early late, labels = before ++ middle ++ after →
    machine.run start before = some early → machine.run early middle = some late →
    related early late

theorem segments_iff_meets {related : State → State → Prop} (refl : ∀ state, related state state)
    (trans : ∀ {first second third}, related first second → related second third →
      related first third) {start : State} {labels : List Label} :
    machine.Segments related start labels ↔
      machine.Meets (fun state label => ∀ next, machine.step state label = some next →
        related state next) start labels := by
  constructor
  · intro segments
    induction labels generalizing start with
    | nil => trivial
    | cons label rest ih =>
      refine ⟨fun next stepped => ?_, fun next stepped => ih ?_⟩
      · exact segments [] [label] rest start next rfl rfl (run_cons.mpr ⟨next, stepped, rfl⟩)
      · intro before middle after early late split reached onward
        exact segments (label :: before) middle after early late (by rw [split]; rfl)
          (run_cons.mpr ⟨next, stepped, reached⟩) onward
  · intro meets before middle after early late split reached onward
    rw [split, List.append_assoc] at meets
    have later := (meets_append reached meets).2
    have first := (meets_append onward later).1
    exact @invariant_of_meets _ _ machine _ (related early)
      (fun state label next before allowed stepped => trans before (allowed next stepped))
      early late middle (refl early) first onward

theorem segments_of_invariant {invariant : State → Prop} {related : State → State → Prop}
    (refl : ∀ state, related state state)
    (trans : ∀ {first second third}, related first second → related second third →
      related first third)
    (preserved : ∀ state label next, invariant state →
      machine.step state label = some next → invariant next)
    (respected : ∀ state label next, invariant state →
      machine.step state label = some next → related state next)
    {start : State} {labels : List Label} (initially : invariant start) :
    machine.Segments related start labels := by
  intro before middle after early late _ reached onward
  have held := invariant_of_run preserved initially reached
  have both := @invariant_of_run _ _ machine (fun state => invariant state ∧ related early state)
    (fun state label next holds stepped =>
      ⟨preserved state label next holds.1 stepped,
        trans holds.2 (respected state label next holds.1 stepped)⟩)
    early late middle ⟨held, refl early⟩ onward
  exact both.2

-- Forward simulation: where every allowed step is matched by the step of a translated label, a
-- run of allowed steps is matched by the run of the translated labels.
theorem simulation_of_meets {State' Label' : Type} {other : Machine State' Label'}
    {allowed : State → Label → Prop} {translate : Label → Label'}
    {matched : State → State' → Prop}
    (step_matched : ∀ state state' label next, matched state state' → allowed state label →
      machine.step state label = some next →
      ∃ next', other.step state' (translate label) = some next' ∧ matched next next')
    {state final : State} {state' : State'} {labels : List Label} (initially : matched state state')
    (meets : machine.Meets allowed state labels)
    (reached : machine.run state labels = some final) :
    ∃ final', other.run state' (labels.map translate) = some final' ∧ matched final final' := by
  induction labels generalizing state state' with
  | nil => exact ⟨state', rfl, Option.some.inj reached ▸ initially⟩
  | cons label rest ih =>
    obtain ⟨next, stepped, onward⟩ := run_cons.mp reached
    obtain ⟨next', taken, related⟩ := step_matched _ _ _ _ initially meets.1 stepped
    obtain ⟨final', arrived, last⟩ := ih related (meets.2 next stepped) onward
    exact ⟨final', run_cons.mpr ⟨next', taken, arrived⟩, last⟩

def without (machine : Machine State Label) (dropped : State → Label → Bool) :
    State → List Label → List Label
  | _, [] => []
  | state, label :: rest =>
      let onward := without machine dropped ((machine.step state label).getD state) rest
      if dropped state label then onward else label :: onward

theorem run_without {dropped : State → Label → Bool} {state final : State} {labels : List Label}
    (idle : machine.Meets (fun state label => dropped state label = true →
      ∀ next, machine.step state label = some next → next = state) state labels)
    (reached : machine.run state labels = some final) :
    machine.run state (machine.without dropped state labels) = some final := by
  induction labels generalizing state with
  | nil => exact reached
  | cons label rest ih =>
    obtain ⟨next, stepped, onward⟩ := run_cons.mp reached
    have later := ih (idle.2 next stepped) onward
    rw [without, stepped, Option.getD_some]
    cases drop : dropped state label with
    | true =>
      have same := idle.1 drop next stepped
      rw [same] at later ⊢
      exact later
    | false => exact run_cons.mpr ⟨next, stepped, later⟩

def Always (machine : Machine State Label) (holds : State → Prop) (start : State)
    (labels : List Label) : Prop :=
  ∀ before after reached, labels = before ++ after → machine.run start before = some reached →
    holds reached

theorem always_nil {holds : State → Prop} {state : State} :
    machine.Always holds state [] ↔ holds state := by
  constructor
  · exact fun always => always [] [] state rfl rfl
  · intro now before after reached split ran
    obtain ⟨rfl, -⟩ := List.append_eq_nil_iff.mp split.symm
    exact Option.some.inj ran ▸ now

theorem always_cons {holds : State → Prop} {state : State} {label : Label} {rest : List Label} :
    machine.Always holds state (label :: rest) ↔
      holds state ∧ ∀ next, machine.step state label = some next →
        machine.Always holds next rest := by
  constructor
  · intro always
    refine ⟨always [] (label :: rest) state rfl rfl, ?_⟩
    intro next stepped before after reached split ran
    exact always (label :: before) after reached (by rw [split]; rfl)
      (run_cons.mpr ⟨next, stepped, ran⟩)
  · rintro ⟨now, later⟩ before after reached split ran
    cases before with
    | nil => exact Option.some.inj ran ▸ now
    | cons first before =>
      obtain ⟨rfl, rfl⟩ := List.cons.inj split
      obtain ⟨next, stepped, onward⟩ := run_cons.mp ran
      exact later next stepped before after reached rfl onward

instance decidableAlways (holds : State → Prop) [decision : ∀ state, Decidable (holds state)] :
    ∀ (state : State) (labels : List Label), Decidable (machine.Always holds state labels)
  | state, [] => decidable_of_iff (holds state) always_nil.symm
  | state, label :: rest =>
      match stepped : machine.step state label with
      | none =>
          decidable_of_iff (holds state)
            ⟨fun now => always_cons.mpr ⟨now, fun next taken => by rw [stepped] at taken; cases taken⟩,
              fun always => (always_cons.mp always).1⟩
      | some next =>
          have := decidableAlways holds next rest
          decidable_of_iff (holds state ∧ machine.Always holds next rest)
            ⟨fun both => always_cons.mpr ⟨both.1, fun other taken => by
                rw [stepped] at taken
                exact Option.some.inj taken ▸ both.2⟩,
              fun always =>
                ⟨(always_cons.mp always).1, (always_cons.mp always).2 next stepped⟩⟩

-- Where a step keeps a property exactly when it is allowed, the property holds all along a run
-- exactly when all its steps are.
theorem always_iff_meets {invariant holds : State → Prop} {allowed : State → Label → Prop}
    (preserved : ∀ state label next, invariant state →
      machine.step state label = some next → invariant next)
    (idle : ∀ state label, machine.step state label = none → allowed state label)
    (keeps : ∀ state label next, invariant state → holds state →
      machine.step state label = some next → (holds next ↔ allowed state label))
    {state : State} {labels : List Label} (initially : invariant state) (now : holds state) :
    machine.Always holds state labels ↔ machine.Meets allowed state labels := by
  induction labels generalizing state with
  | nil => exact iff_of_true (always_nil.mpr now) trivial
  | cons label rest ih =>
    rw [always_cons, Meets]
    cases stepped : machine.step state label with
    | none => simp [now, idle state label stepped]
    | some next =>
      have exactly := keeps state label next initially now stepped
      have inner := preserved state label next initially stepped
      simp only [now, true_and, Option.some.injEq, forall_eq']
      constructor
      · intro later
        have kept : holds next := later [] rest next rfl rfl
        exact ⟨exactly.mp kept, (ih inner kept).mp later⟩
      · rintro ⟨holding, later⟩
        exact (ih inner (exactly.mpr holding)).mpr later

theorem Meets.congr {left right : State → Label → Prop}
    (same : ∀ state label, left state label ↔ right state label) {state : State}
    {labels : List Label} : machine.Meets left state labels ↔ machine.Meets right state labels :=
  ⟨.imp fun _ _ => (same _ _).mp, .imp fun _ _ => (same _ _).mpr⟩

end Machine

end Transition
