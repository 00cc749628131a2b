/-
Items kept at places, and tasks that drop some of the items of a place.

Tasks run one after another, and two of them may name the same place.  What
stays at a place does not depend on their order, and the weight that leaves the
places is the weight of the dropped items.
-/

import Mathlib.Algebra.BigOperators.Group.Finset.Basic
import Mathlib.Algebra.BigOperators.Group.List.Basic

namespace Sweep

variable {Place Item Weight : Type*}

abbrev Contents (Place Item : Type*) := Place → List Item

structure Task (Place Item : Type*) where
  place : Place
  drops : Item → Bool

/-- The task is for the place and drops the item. -/
def Task.Hits (task : Task Place Item) (place : Place) (item : Item) : Prop :=
  task.place = place ∧ task.drops item = true

def swept (task : Task Place Item) (contents : Contents Place Item) :
    List Item :=
  (contents task.place).filter task.drops

def weigh [AddCommMonoid Weight] (weight : Item → Weight)
    (items : List Item) : Weight :=
  (items.map weight).sum

theorem weigh_append [AddCommMonoid Weight] (weight : Item → Weight)
    (first second : List Item) :
    weigh weight (first ++ second) = weigh weight first + weigh weight second := by
  unfold weigh
  rw [List.map_append, List.sum_append]

theorem weigh_partition [AddCommMonoid Weight] (weight : Item → Weight)
    (drops : Item → Bool) (items : List Item) :
    weigh weight items =
      weigh weight (items.filter fun item => !drops item) +
        weigh weight (items.filter drops) := by
  induction items with
  | nil => exact (add_zero _).symm
  | cons item rest ih =>
      have split : weigh weight (item :: rest) =
          weight item + weigh weight rest := List.sum_cons
      cases dropped : drops item with
      | true =>
          rw [split, ih, List.filter_cons_of_neg (by simp [dropped]),
            List.filter_cons_of_pos dropped, add_left_comm]
          rfl
      | false =>
          rw [split, ih, List.filter_cons_of_pos (by simp [dropped]),
            List.filter_cons_of_neg (by simp [dropped]), ← add_assoc]
          rfl

section Tasks

variable [DecidableEq Place]

def sweep (task : Task Place Item) (contents : Contents Place Item) :
    Contents Place Item :=
  Function.update contents task.place
    ((contents task.place).filter fun item => !task.drops item)

def sweepAll (tasks : List (Task Place Item)) (contents : Contents Place Item) :
    Contents Place Item :=
  tasks.foldl (fun contents task => sweep task contents) contents

/-- What the tasks drop, in the order in which they drop it. -/
def sweptAll : List (Task Place Item) → Contents Place Item → List Item
  | [], _ => []
  | task :: tasks, contents =>
      swept task contents ++ sweptAll tasks (sweep task contents)

@[simp] theorem sweepAll_nil (contents : Contents Place Item) :
    sweepAll [] contents = contents := rfl

@[simp] theorem sweepAll_cons (task : Task Place Item)
    (tasks : List (Task Place Item)) (contents : Contents Place Item) :
    sweepAll (task :: tasks) contents =
      sweepAll tasks (sweep task contents) := rfl

theorem sweepAll_append (first second : List (Task Place Item))
    (contents : Contents Place Item) :
    sweepAll (first ++ second) contents =
      sweepAll second (sweepAll first contents) :=
  List.foldl_append

theorem sweptAll_append (first second : List (Task Place Item))
    (contents : Contents Place Item) :
    sweptAll (first ++ second) contents =
      sweptAll first contents ++ sweptAll second (sweepAll first contents) := by
  induction first generalizing contents with
  | nil => rfl
  | cons task first ih =>
      change swept task contents ++ sweptAll (first ++ second) _ = _
      rw [ih, ← List.append_assoc]
      rfl

theorem mem_sweep_iff {task : Task Place Item} {contents : Contents Place Item}
    {place : Place} {item : Item} :
    item ∈ sweep task contents place ↔
      item ∈ contents place ∧ ¬task.Hits place item := by
  unfold sweep Task.Hits
  by_cases here : place = task.place
  · subst here
    rw [Function.update_self, List.mem_filter]
    simp
  · rw [Function.update_of_ne here]
    have apart : ¬task.place = place := fun same => here same.symm
    simp [apart]

/-- An item stays exactly if no task hits it, whatever the order. -/
theorem mem_sweepAll_iff {tasks : List (Task Place Item)}
    {contents : Contents Place Item} {place : Place} {item : Item} :
    item ∈ sweepAll tasks contents place ↔
      item ∈ contents place ∧ ∀ task ∈ tasks, ¬task.Hits place item := by
  induction tasks generalizing contents with
  | nil => simp
  | cons task tasks ih =>
      rw [sweepAll_cons, ih, mem_sweep_iff, List.forall_mem_cons, and_assoc]

/-- Some task hits the item at the place. -/
def hitBy (tasks : List (Task Place Item)) (place : Place) (item : Item) :
    Bool :=
  tasks.any fun task => decide (task.place = place) && task.drops item

theorem sweep_eq_filter (task : Task Place Item)
    (contents : Contents Place Item) (place : Place) :
    sweep task contents place =
      (contents place).filter fun item => !hitBy [task] place item := by
  unfold sweep hitBy
  by_cases here : task.place = place
  · subst here
    rw [Function.update_self]
    simp
  · rw [Function.update_of_ne (Ne.symm here)]
    simp [here]

/-- What stays, in the order it was in. -/
theorem sweepAll_eq_filter (tasks : List (Task Place Item))
    (contents : Contents Place Item) (place : Place) :
    sweepAll tasks contents place =
      (contents place).filter fun item => !hitBy tasks place item := by
  induction tasks generalizing contents with
  | nil => exact (List.filter_eq_self.mpr fun _ _ => rfl).symm
  | cons task tasks ih =>
      rw [sweepAll_cons, ih, sweep_eq_filter, List.filter_filter]
      apply List.filter_congr
      intro item _
      unfold hitBy
      rw [List.any_cons, List.any_cons, List.any_nil, Bool.or_false,
        Bool.not_or, Bool.and_comm]

theorem sweepAll_of_absent {tasks : List (Task Place Item)}
    {contents : Contents Place Item} {place : Place}
    (absent : ∀ task ∈ tasks, task.place ≠ place) :
    sweepAll tasks contents place = contents place := by
  induction tasks generalizing contents with
  | nil => rfl
  | cons task tasks ih =>
      obtain ⟨elsewhere, others⟩ := List.forall_mem_cons.mp absent
      rw [sweepAll_cons, ih others]
      exact Function.update_of_ne (Ne.symm elsewhere) ..

theorem sweep_of_no_hit {task : Task Place Item}
    {contents : Contents Place Item}
    (none_ : ∀ item ∈ contents task.place, task.drops item = false) :
    sweep task contents = contents ∧ swept task contents = [] := by
  constructor
  · unfold sweep
    have kept : ((contents task.place).filter fun item => !task.drops item) =
        contents task.place := by
      apply List.filter_eq_self.mpr
      intro item member
      rw [none_ item member]
      rfl
    rw [kept, Function.update_eq_self]
  · apply List.filter_eq_nil_iff.mpr
    intro item member
    rw [none_ item member]
    exact Bool.false_ne_true

/-- The tasks change nothing exactly if none of them finds an item to drop. -/
theorem sweepAll_eq_self_iff {tasks : List (Task Place Item)}
    {contents : Contents Place Item} :
    sweepAll tasks contents = contents ↔
      ∀ task ∈ tasks, ∀ item ∈ contents task.place,
        task.drops item = false := by
  constructor
  · intro unchanged task member item present
    rw [← unchanged, mem_sweepAll_iff] at present
    have spared := present.2 task member
    rw [← Bool.not_eq_true]
    exact fun drops => spared ⟨rfl, drops⟩
  · intro nothing
    induction tasks with
    | nil => rfl
    | cons task tasks ih =>
        obtain ⟨here, later⟩ := List.forall_mem_cons.mp nothing
        rw [sweepAll_cons, (sweep_of_no_hit here).1]
        exact ih later

theorem sweptAll_eq_nil {tasks : List (Task Place Item)}
    {contents : Contents Place Item}
    (nothing : ∀ task ∈ tasks, ∀ item ∈ contents task.place,
      task.drops item = false) : sweptAll tasks contents = [] := by
  induction tasks with
  | nil => rfl
  | cons task tasks ih =>
      obtain ⟨here, later⟩ := List.forall_mem_cons.mp nothing
      obtain ⟨unchanged, empty⟩ := sweep_of_no_hit here
      change swept task contents ++ sweptAll tasks (sweep task contents) = []
      rw [unchanged, empty, ih later]
      rfl

/-! ### The weight that leaves -/

variable [AddCommMonoid Weight]

def weighAll (weight : Item → Weight) (places : Finset Place)
    (contents : Contents Place Item) : Weight :=
  ∑ place ∈ places, weigh weight (contents place)

theorem weighAll_sweep (weight : Item → Weight) {places : Finset Place}
    {task : Task Place Item} (inside : task.place ∈ places)
    (contents : Contents Place Item) :
    weighAll weight places contents =
      weighAll weight places (sweep task contents) +
        weigh weight (swept task contents) := by
  unfold weighAll
  have others : ∑ place ∈ places.erase task.place,
      weigh weight (sweep task contents place) =
        ∑ place ∈ places.erase task.place, weigh weight (contents place) := by
    apply Finset.sum_congr rfl
    intro place member
    rw [sweep, Function.update_of_ne (Finset.ne_of_mem_erase member)]
  have here : weigh weight (contents task.place) =
      weigh weight (sweep task contents task.place) +
        weigh weight (swept task contents) := by
    rw [sweep, Function.update_self]
    exact weigh_partition weight task.drops _
  rw [← Finset.add_sum_erase places _ inside,
    ← Finset.add_sum_erase places _ inside, others, here, add_right_comm]

/-- The places lose the weight of the dropped items. -/
theorem weighAll_sweepAll (weight : Item → Weight) {places : Finset Place}
    {tasks : List (Task Place Item)}
    (inside : ∀ task ∈ tasks, task.place ∈ places)
    (contents : Contents Place Item) :
    weighAll weight places contents =
      weighAll weight places (sweepAll tasks contents) +
        weigh weight (sweptAll tasks contents) := by
  induction tasks generalizing contents with
  | nil => exact (add_zero _).symm
  | cons task tasks ih =>
      obtain ⟨here, later⟩ := List.forall_mem_cons.mp inside
      calc weighAll weight places contents
          = weighAll weight places (sweep task contents) +
              weigh weight (swept task contents) :=
            weighAll_sweep weight here contents
        _ = weighAll weight places (sweepAll tasks (sweep task contents)) +
              weigh weight (sweptAll tasks (sweep task contents)) +
              weigh weight (swept task contents) := by
            rw [ih later (sweep task contents)]
        _ = weighAll weight places (sweepAll (task :: tasks) contents) +
              weigh weight (sweptAll (task :: tasks) contents) := by
            change _ = _ + weigh weight
              (swept task contents ++ sweptAll tasks (sweep task contents))
            rw [weigh_append, sweepAll_cons, add_assoc,
              add_comm (weigh weight (swept task contents))]

end Tasks

/-- The dropped items weigh what the hit items of each place weigh, however
often a place is swept. -/
theorem weigh_sweptAll [DecidableEq Place] [AddCancelCommMonoid Weight]
    (weight : Item → Weight) {places : Finset Place}
    {tasks : List (Task Place Item)}
    (inside : ∀ task ∈ tasks, task.place ∈ places)
    (contents : Contents Place Item) :
    weigh weight (sweptAll tasks contents) =
      ∑ place ∈ places,
        weigh weight ((contents place).filter (hitBy tasks place)) := by
  have lost := weighAll_sweepAll weight inside contents
  have split : weighAll weight places contents =
      weighAll weight places (sweepAll tasks contents) +
        ∑ place ∈ places,
          weigh weight ((contents place).filter (hitBy tasks place)) := by
    unfold weighAll
    rw [← Finset.sum_add_distrib]
    apply Finset.sum_congr rfl
    intro place _
    rw [sweepAll_eq_filter]
    exact weigh_partition weight (hitBy tasks place) (contents place)
  exact add_left_cancel (lost.symm.trans split)

end Sweep
