set_option autoImplicit false

structure Responder (State Input Reply : Type) where
  respond : State → Input → Reply × State

namespace Responder

variable {State Input Reply : Type} (machine : Responder State Input Reply)

def stateAfter (state : State) (inputs : List Input) : State :=
  inputs.foldl (fun state input => (machine.respond state input).2) state

def replies : State → List Input → List Reply
  | _, [] => []
  | state, input :: rest =>
      (machine.respond state input).1 :: replies (machine.respond state input).2 rest

variable {machine}

@[simp] theorem stateAfter_nil (state : State) : machine.stateAfter state [] = state := rfl

/-- Two machines answer alike, step by step, as long as their states are related. -/
def Refines {State' : Type} (machine : Responder State Input Reply)
    (model : Responder State' Input Reply) (related : State → State' → Prop) : Prop :=
  ∀ state state' input, related state state' →
    (machine.respond state input).1 = (model.respond state' input).1 ∧
      related (machine.respond state input).2 (model.respond state' input).2

theorem Refines.replies {State' : Type} {model : Responder State' Input Reply}
    {related : State → State' → Prop} (refines : machine.Refines model related) {state : State}
    {state' : State'} (initially : related state state') (inputs : List Input) :
    machine.replies state inputs = model.replies state' inputs ∧
      related (machine.stateAfter state inputs) (model.stateAfter state' inputs) := by
  induction inputs generalizing state state' with
  | nil => exact ⟨rfl, initially⟩
  | cons input rest ih =>
    obtain ⟨reply, later⟩ := refines state state' input initially
    obtain ⟨replies, final⟩ := ih later
    exact ⟨by rw [Responder.replies, Responder.replies, reply, replies], final⟩

end Responder
