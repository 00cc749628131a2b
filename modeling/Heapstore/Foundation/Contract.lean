/-
Contracts of a machine.

A contract relates a model, an operation, the answer to it and the model after
it.  A machine keeps a contract when a model explains every answer of a run, in
order; what the contract implies for an exchange then holds of the machine.  A
layer in front of a machine that keeps a contract keeps a contract of its own.
-/

import Heapstore.Foundation.OperationRun

namespace OperationRun

variable {State Model Operation Answer : Type*}

/-- `contract model operation answer next`: the answer may be given, and leaves
the next model. -/
abbrev Contract (Model Operation Answer : Type*) :=
  Model → Operation → Answer → Model → Prop

/-- The operations of a run with their answers. -/
def transcript (machine : Machine State Operation Answer) (state : State) :
    List Operation → List (Operation × Answer)
  | [] => []
  | operation :: rest =>
      (operation, (machine state operation).2) ::
        transcript machine (machine state operation).1 rest

/-- What each step keeps between the state and a fold over the exchanges holds
after a run. -/
theorem folded_invariant {View : Type*}
    (machine : Machine State Operation Answer)
    (fold : View → Operation × Answer → View) (Invariant : State → View → Prop)
    (kept : ∀ state view operation, Invariant state view →
      Invariant (machine state operation).1
        (fold view (operation, (machine state operation).2)))
    (state : State) (view : View) (operations : List Operation)
    (start : Invariant state view) :
    Invariant (final machine state operations)
      ((transcript machine state operations).foldl fold view) := by
  induction operations generalizing state view with
  | nil => exact start
  | cons operation rest ih => exact ih _ _ (kept state view operation start)

/-- A model accounts for every answer. -/
inductive Explains (contract : Contract Model Operation Answer) :
    Model → List (Operation × Answer) → Model → Prop where
  | nothing (model : Model) : Explains contract model [] model
  | exchange {model next last : Model} {operation : Operation}
      {answer : Answer} {rest : List (Operation × Answer)}
      (here : contract model operation answer next)
      (later : Explains contract next rest last) :
      Explains contract model ((operation, answer) :: rest) last

/-- A machine whose every guarded step is permitted from related states keeps
the contract over guarded runs. -/
theorem guarded_explains (machine : Machine State Operation Answer)
    (contract : Contract Model Operation Answer)
    (guard : State → Operation → Prop) (Related : State → Model → Prop)
    (permitted : ∀ state model operation, Related state model →
      guard state operation →
      ∃ next, contract model operation (machine state operation).2 next ∧
        Related (machine state operation).1 next)
    (state : State) (model : Model) (operations : List Operation)
    (start : Related state model)
    (guarded : Meets machine guard state operations) :
    ∃ last, Explains contract model (transcript machine state operations)
        last ∧
      Related (final machine state operations) last := by
  induction operations generalizing state model with
  | nil => exact ⟨model, .nothing model, start⟩
  | cons operation rest ih =>
      obtain ⟨here, later⟩ := guarded
      obtain ⟨next, allowed, related⟩ :=
        permitted state model operation start here
      obtain ⟨last, explained, reached⟩ := ih _ next related later
      exact ⟨last, .exchange allowed explained, reached⟩

section Exchanges

variable {contract : Contract Model Operation Answer} {model last : Model}

/-- The operations of a transcript are those of the run. -/
theorem map_transcript (machine : Machine State Operation Answer)
    (state : State) (operations : List Operation) :
    (transcript machine state operations).map Prod.fst = operations := by
  induction operations generalizing state with
  | nil => rfl
  | cons operation rest ih => exact congrArg (operation :: ·) (ih _)

/-- Where each permitted exchange moves a view of the model by a fold step, the
view after a run is the fold of what was exchanged. -/
theorem Explains.folds {View : Type*} (view : Model → View)
    (fold : View → Operation × Answer → View) (Invariant : Model → Prop)
    (Quiet : Operation → Prop)
    (moved : ∀ model operation answer next, Invariant model →
      Quiet operation → contract model operation answer next →
      Invariant next ∧ view next = fold (view model) (operation, answer))
    {exchanges : List (Operation × Answer)}
    (explained : Explains contract model exchanges last)
    (quiet : ∀ exchange ∈ exchanges, Quiet exchange.1)
    (holds : Invariant model) :
    Invariant last ∧ view last = exchanges.foldl fold (view model) := by
  induction explained with
  | nothing model => exact ⟨holds, rfl⟩
  | exchange here later ih =>
      obtain ⟨still, same⟩ :=
        moved _ _ _ _ holds (quiet _ List.mem_cons_self) here
      obtain ⟨invariant, folded⟩ :=
        ih (fun other member => quiet other (List.mem_cons_of_mem _ member))
          still
      refine ⟨invariant, ?_⟩
      rw [List.foldl_cons, ← same]
      exact folded

end Exchanges

/-! ### Layers -/

/-- Code in front of a machine: it replies to a call by itself, or makes one
operation of the machine and reads the answer. -/
structure Layer (Top Call Operation Answer Reply : Type*) where
  consult : Top → Call → Operation ⊕ Reply
  resume : Top → Call → Answer → Top × Reply

section Layers

variable {Top Call Reply : Type*}
  (layer : Layer Top Call Operation Answer Reply)

def layered (machine : Machine State Operation Answer) :
    Machine (Top × State) Call Reply := fun both call =>
  match layer.consult both.1 call with
  | .inr reply => (both, reply)
  | .inl operation =>
      let ran := machine both.2 operation
      let resumed := layer.resume both.1 call ran.2
      ((resumed.1, ran.1), resumed.2)

/-- What the contract of the machine says for the calls of the layer. -/
def layeredContract (contract : Contract Model Operation Answer) :
    Contract (Top × Model) Call Reply := fun both call reply next =>
  match layer.consult both.1 call with
  | .inr given => reply = given ∧ next = both
  | .inl operation =>
      ∃ answer, contract both.2 operation answer next.2 ∧
        layer.resume both.1 call answer = (next.1, reply)

def layeredGuard (guard : State → Operation → Prop) :
    Top × State → Call → Prop := fun both call =>
  ∀ operation, layer.consult both.1 call = .inl operation →
    guard both.2 operation

/-- A layer in front of a machine whose guarded steps are permitted. -/
theorem layered_permitted (machine : Machine State Operation Answer)
    (contract : Contract Model Operation Answer)
    (guard : State → Operation → Prop) (Related : State → Model → Prop)
    (permitted : ∀ state model operation, Related state model →
      guard state operation →
      ∃ next, contract model operation (machine state operation).2 next ∧
        Related (machine state operation).1 next)
    (both : Top × State) (model : Top × Model) (call : Call)
    (related : both.1 = model.1 ∧ Related both.2 model.2)
    (guarded : layeredGuard layer guard both call) :
    ∃ next, layeredContract layer contract model call
        (layered layer machine both call).2 next ∧
      ((layered layer machine both call).1.1 = next.1 ∧
        Related (layered layer machine both call).1.2 next.2) := by
  rcases both with ⟨top, state⟩
  rcases model with ⟨_, model⟩
  obtain ⟨rfl, below⟩ := related
  unfold layered layeredContract
  cases asked : layer.consult top call with
  | inr reply => exact ⟨(top, model), ⟨rfl, rfl⟩, rfl, below⟩
  | inl operation =>
      obtain ⟨next, allowed, after⟩ :=
        permitted state model operation below (guarded operation asked)
      exact ⟨(_, next), ⟨_, allowed, rfl⟩, rfl, after⟩

end Layers

end OperationRun
