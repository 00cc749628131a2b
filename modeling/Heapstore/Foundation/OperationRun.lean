/-
Runs of a deterministic machine over a finite list of operations.

A machine answers each operation and moves to its next state.  The three rules
below are the only inductions over runs: an invariant is kept, an invariant is
kept when every step of the run meets a guard, and two machines stay related
while they answer alike.  Every theorem about runs instantiates one of them.
-/

import Mathlib.Data.List.Forall2

namespace OperationRun

variable {State Operation Answer : Type*}

/-- One operation gives the next state and the caller's answer. -/
abbrev Machine (State Operation Answer : Type*) :=
  State → Operation → State × Answer

def final (machine : Machine State Operation Answer) (state : State) :
    List Operation → State
  | [] => state
  | operation :: rest => final machine (machine state operation).1 rest

def answers (machine : Machine State Operation Answer) (state : State) :
    List Operation → List Answer
  | [] => []
  | operation :: rest =>
      (machine state operation).2 ::
        answers machine (machine state operation).1 rest

/-- Every step of the run meets the guard in the state it starts from. -/
def Meets (machine : Machine State Operation Answer)
    (guard : State → Operation → Prop) (state : State) :
    List Operation → Prop
  | [] => True
  | operation :: rest =>
      guard state operation ∧
        Meets machine guard (machine state operation).1 rest

@[simp] theorem final_nil (machine : Machine State Operation Answer)
    (state : State) : final machine state [] = state := rfl

@[simp] theorem final_cons (machine : Machine State Operation Answer)
    (state : State) (operation : Operation) (rest : List Operation) :
    final machine state (operation :: rest) =
      final machine (machine state operation).1 rest := rfl

@[simp] theorem answers_cons (machine : Machine State Operation Answer)
    (state : State) (operation : Operation) (rest : List Operation) :
    answers machine state (operation :: rest) =
      (machine state operation).2 ::
        answers machine (machine state operation).1 rest := rfl

theorem final_append (machine : Machine State Operation Answer)
    (state : State) (first second : List Operation) :
    final machine state (first ++ second) =
      final machine (final machine state first) second := by
  induction first generalizing state with
  | nil => rfl
  | cons operation rest ih => exact ih _

theorem answers_append (machine : Machine State Operation Answer)
    (state : State) (first second : List Operation) :
    answers machine state (first ++ second) =
      answers machine state first ++
        answers machine (final machine state first) second := by
  induction first generalizing state with
  | nil => rfl
  | cons operation rest ih => exact congrArg (_ :: ·) (ih _)

theorem meets_append (machine : Machine State Operation Answer)
    (guard : State → Operation → Prop) (state : State)
    (first second : List Operation) :
    Meets machine guard state (first ++ second) ↔
      Meets machine guard state first ∧
        Meets machine guard (final machine state first) second := by
  induction first generalizing state with
  | nil => exact (and_iff_right trivial).symm
  | cons operation rest ih =>
      change _ ∧ Meets machine guard _ (rest ++ second) ↔ (_ ∧ _) ∧ _
      rw [ih, and_assoc]
      rfl

/-- The guard, asked at every step with the operations before it. -/
theorem meets_iff_forall (machine : Machine State Operation Answer)
    (guard : State → Operation → Prop) (state : State)
    (operations : List Operation) :
    Meets machine guard state operations ↔
      ∀ before operation after, operations = before ++ operation :: after →
        guard (final machine state before) operation := by
  constructor
  · rintro guarded before operation after rfl
    exact ((meets_append machine guard state before _).mp guarded).2.1
  · intro everywhere
    induction operations generalizing state with
    | nil => trivial
    | cons first rest ih =>
        refine ⟨everywhere [] first rest rfl, ih _ ?_⟩
        rintro before operation after rfl
        exact everywhere (first :: before) operation after rfl

theorem Meets.mono {machine : Machine State Operation Answer}
    {guard weaker : State → Operation → Prop} {state : State}
    {operations : List Operation}
    (guarded : Meets machine guard state operations)
    (implied : ∀ state operation, guard state operation →
      weaker state operation) :
    Meets machine weaker state operations := by
  rw [meets_iff_forall] at guarded ⊢
  intro before operation after pieces
  exact implied _ _ (guarded before operation after pieces)

theorem guarded_invariant (machine : Machine State Operation Answer)
    (guard : State → Operation → Prop) (Invariant : State → Prop)
    (kept : ∀ state operation, Invariant state → guard state operation →
      Invariant (machine state operation).1)
    (state : State) (operations : List Operation)
    (start : Invariant state)
    (guarded : Meets machine guard state operations) :
    Invariant (final machine state operations) := by
  induction operations generalizing state with
  | nil => exact start
  | cons operation rest ih =>
      obtain ⟨here, later⟩ := guarded
      exact ih _ (kept state operation start here) later

theorem meets_of_forall (machine : Machine State Operation Answer)
    (guard : State → Operation → Prop)
    (always : ∀ state operation, guard state operation)
    (state : State) (operations : List Operation) :
    Meets machine guard state operations := by
  induction operations generalizing state with
  | nil => trivial
  | cons operation rest ih => exact ⟨always state operation, ih _⟩

theorem invariant (machine : Machine State Operation Answer)
    (Invariant : State → Prop)
    (kept : ∀ state operation, Invariant state →
      Invariant (machine state operation).1)
    (state : State) (operations : List Operation)
    (start : Invariant state) :
    Invariant (final machine state operations) :=
  guarded_invariant machine (fun _ _ => True) Invariant
    (fun state operation holds _ => kept state operation holds)
    state operations start
    (meets_of_forall machine _ (fun _ _ => trivial) state operations)

/-- When a property survives a step exactly if the step meets the guard, it
holds after every prefix of a run exactly if the run meets the guard. -/
theorem prefixes_iff_meets (machine : Machine State Operation Answer)
    (guard : State → Operation → Prop) (Invariant Property : State → Prop)
    (kept : ∀ state operation, Invariant state →
      Invariant (machine state operation).1)
    (exact_ : ∀ state operation, Invariant state → Property state →
      (Property (machine state operation).1 ↔ guard state operation))
    (state : State) (operations : List Operation)
    (start : Invariant state) (holds : Property state) :
    (∀ done, done <+: operations → Property (final machine state done)) ↔
      Meets machine guard state operations := by
  induction operations generalizing state with
  | nil =>
      refine ⟨fun _ => trivial, ?_⟩
      intro _ done isPrefix
      rw [List.prefix_nil.mp isPrefix]
      exact holds
  | cons operation rest ih =>
      constructor
      · intro always
        have first : Property (machine state operation).1 :=
          always [operation] (List.prefix_cons_inj operation |>.mpr
            List.nil_prefix)
        refine ⟨(exact_ state operation start holds).mp first, ?_⟩
        apply (ih _ (kept state operation start) first).mp
        intro done isPrefix
        exact always (operation :: done)
          ((List.prefix_cons_inj operation).mpr isPrefix)
      · rintro ⟨here, later⟩ done isPrefix
        have next := (exact_ state operation start holds).mpr here
        cases done with
        | nil => exact holds
        | cons first done =>
            obtain ⟨rfl, tail⟩ := List.cons_prefix_cons.mp isPrefix
            exact (ih _ (kept state first start) next).mpr later done tail

/-- An invariant of the state together with the answers given so far. -/
theorem traced_invariant (machine : Machine State Operation Answer)
    (Invariant : State → List Answer → Prop)
    (kept : ∀ state trace operation, Invariant state trace →
      Invariant (machine state operation).1
        (trace ++ [(machine state operation).2]))
    (state : State) (trace : List Answer) (operations : List Operation)
    (start : Invariant state trace) :
    Invariant (final machine state operations)
      (trace ++ answers machine state operations) := by
  induction operations generalizing state trace with
  | nil =>
      change Invariant state (trace ++ [])
      rwa [List.append_nil]
  | cons operation rest ih =>
      have next := ih _ _ (kept state trace operation start)
      rwa [List.append_assoc, List.singleton_append] at next

/-- Guards that agree wherever an invariant holds are met by the same runs. -/
theorem meets_congr (machine : Machine State Operation Answer)
    (Invariant : State → Prop) (first second : State → Operation → Prop)
    (state : State) (operations : List Operation) (start : Invariant state)
    (kept : ∀ state, ∀ operation ∈ operations, Invariant state →
      Invariant (machine state operation).1)
    (same : ∀ state, ∀ operation ∈ operations, Invariant state →
      (first state operation ↔ second state operation)) :
    Meets machine first state operations ↔
      Meets machine second state operations := by
  induction operations generalizing state with
  | nil => exact Iff.rfl
  | cons operation rest ih =>
      apply and_congr (same state operation List.mem_cons_self start)
      apply ih _ (kept state operation List.mem_cons_self start)
      · intro other later member
        exact kept other later (List.mem_cons_of_mem operation member)
      · intro other later member
        exact same other later (List.mem_cons_of_mem operation member)

section Draining

variable {Item : Type*} (next : State → State × Answer)
  (item : Answer → Option Item) (last : Answer)

/-- Asking for the next item until the last answer comes: the items in order. -/
inductive Drains : State → List Item → Prop where
  | finished (state : State) (ended : (next state).2 = last) : Drains state []
  | returned (state : State) (first : Item) (rest : List Item)
      (here : item (next state).2 = some first)
      (later : Drains (next state).1 rest) : Drains state (first :: rest)

variable {next item last}

theorem Drains.unique {state : State} {first second : List Item}
    (ends : item last = none) (left : Drains next item last state first)
    (right : Drains next item last state second) : first = second := by
  induction left generalizing second with
  | finished state ended =>
      cases right with
      | finished => rfl
      | returned _ _ _ here _ =>
          rw [ended, ends] at here
          cases here
  | returned state first rest here _ ih =>
      cases right with
      | finished _ ended =>
          rw [ended, ends] at here
          cases here
      | returned _ _ _ again later =>
          rw [here] at again
          cases again
          rw [ih later]

/-- A state that shows the items still to come drains to them. -/
theorem drains_view (Valid : State → Prop) (view : State → List Item)
    (ending : ∀ state, Valid state → view state = [] →
      (next state).2 = last)
    (returning : ∀ state first rest, Valid state →
      view state = first :: rest →
        item (next state).2 = some first ∧ Valid (next state).1 ∧
          view (next state).1 = rest)
    (state : State) (valid : Valid state) :
    Drains next item last state (view state) := by
  generalize shown : view state = items
  induction items generalizing state with
  | nil => exact .finished state (ending state valid shown)
  | cons first rest ih =>
      obtain ⟨here, still, later⟩ := returning state first rest valid shown
      exact .returned state first rest here (ih _ still later)

end Draining

section Simulation

variable {Abstract Reply : Type*}

/-- Two machines driven by the same operations stay related, and their answers
stay related position by position, while every step meets the guard. -/
theorem guarded_simulation
    (concrete : Machine State Operation Answer)
    (abstract : Machine Abstract Operation Reply)
    (guard : State → Operation → Prop)
    (Related : State → Abstract → Prop)
    (Agree : Answer → Reply → Prop)
    (step : ∀ state model operation, Related state model →
      guard state operation →
      Related (concrete state operation).1 (abstract model operation).1 ∧
        Agree (concrete state operation).2 (abstract model operation).2)
    (state : State) (model : Abstract) (operations : List Operation)
    (start : Related state model)
    (guarded : Meets concrete guard state operations) :
    Related (final concrete state operations)
        (final abstract model operations) ∧
      List.Forall₂ Agree (answers concrete state operations)
        (answers abstract model operations) := by
  induction operations generalizing state model with
  | nil => exact ⟨start, List.Forall₂.nil⟩
  | cons operation rest ih =>
      obtain ⟨here, later⟩ := guarded
      obtain ⟨related, agree⟩ := step state model operation start here
      obtain ⟨finalRelated, restAgree⟩ := ih _ _ related later
      exact ⟨finalRelated, List.Forall₂.cons agree restAgree⟩

theorem refinement
    (concrete : Machine State Operation Answer)
    (abstract : Machine Abstract Operation Answer)
    (Related : State → Abstract → Prop)
    (step : ∀ state model operation, Related state model →
      Related (concrete state operation).1 (abstract model operation).1 ∧
        (concrete state operation).2 = (abstract model operation).2)
    (state : State) (model : Abstract) (operations : List Operation)
    (start : Related state model) :
    Related (final concrete state operations)
        (final abstract model operations) ∧
      answers concrete state operations =
        answers abstract model operations := by
  induction operations generalizing state model with
  | nil => exact ⟨start, rfl⟩
  | cons operation rest ih =>
      obtain ⟨related, same⟩ := step state model operation start
      obtain ⟨finalRelated, restSame⟩ := ih _ _ related
      refine ⟨finalRelated, ?_⟩
      simp only [answers_cons]
      rw [same, restSame]

end Simulation

end OperationRun
