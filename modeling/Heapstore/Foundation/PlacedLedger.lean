/-
Items in the order they arrived, each with the place where it is now.

Moving items between places keeps the items and their order, so what a ledger
shows at all its places together is what arrived.  A relation between places
says which may stand before which; under it the items at one place keep the
order of arrival when they move one by one.
-/

import Mathlib.Data.List.Pairwise

namespace PlacedLedger

variable {Item Place : Type*}

abbrev Ledger (Item Place : Type*) := List (Item × Place)

def items (ledger : Ledger Item Place) : List Item := ledger.map Prod.fst

/-- What may stand before what. -/
def Ordered (before : Place → Place → Prop) (ledger : Ledger Item Place) :
    Prop :=
  ledger.Pairwise fun left right => before left.2 right.2

/-- Every item changes its place. -/
def relocate (change : Place → Place) (ledger : Ledger Item Place) :
    Ledger Item Place :=
  ledger.map fun entry => (entry.1, change entry.2)

theorem items_relocate (change : Place → Place) (ledger : Ledger Item Place) :
    items (relocate change ledger) = items ledger := by
  unfold items relocate
  rw [List.map_map]
  rfl

theorem Ordered.relocate {before : Place → Place → Prop}
    {change : Place → Place} {ledger : Ledger Item Place}
    (ordered : Ordered before ledger)
    (kept : ∀ left right, before left right →
      before (change left) (change right)) :
    Ordered before (relocate change ledger) := by
  refine List.pairwise_map.mpr (ordered.imp ?_)
  intro left right allowed
  exact kept left.2 right.2 allowed

theorem Ordered.arrive {before : Place → Place → Prop}
    {ledger : Ledger Item Place} (ordered : Ordered before ledger)
    (item : Item) {place : Place} (last : ∀ other, before other place) :
    Ordered before (ledger ++ [(item, place)]) := by
  refine List.pairwise_append.mpr ⟨ordered, List.pairwise_singleton _ _, ?_⟩
  intro entry _ arrived member
  cases List.mem_singleton.mp member
  exact last entry.2

section Places

variable [DecidableEq Place]

/-- The items at a place, in order of arrival. -/
def at_ (place : Place) (ledger : Ledger Item Place) : List Item :=
  (ledger.filter fun entry => entry.2 = place).map Prod.fst

theorem at_cons (place : Place) (entry : Item × Place)
    (ledger : Ledger Item Place) :
    at_ place (entry :: ledger) =
      if entry.2 = place then entry.1 :: at_ place ledger
      else at_ place ledger := by
  unfold at_
  by_cases here : entry.2 = place <;> simp [here]

theorem at_append (place : Place) (first second : Ledger Item Place) :
    at_ place (first ++ second) = at_ place first ++ at_ place second := by
  unfold at_
  rw [List.filter_append, List.map_append]

theorem at_singleton (place : Place) (entry : Item × Place) :
    at_ place [entry] = if entry.2 = place then [entry.1] else [] := by
  rw [at_cons]
  rfl

/-- All items of one place move to another, empty one. -/
def moveAll (source target place : Place) : Place :=
  if place = source then target else place

theorem at_moveAll_target {source target : Place} {ledger : Ledger Item Place}
    (empty : at_ target ledger = []) :
    at_ target (relocate (moveAll source target) ledger) =
      at_ source ledger := by
  induction ledger with
  | nil => rfl
  | cons entry rest ih =>
      rw [at_cons] at empty
      by_cases there : entry.2 = target
      · rw [if_pos there] at empty
        cases empty
      · rw [if_neg there] at empty
        change at_ target ((entry.1, moveAll source target entry.2) ::
          relocate (moveAll source target) rest) = _
        rw [at_cons, at_cons, ih empty]
        by_cases here : entry.2 = source
        · simp only [moveAll, here, if_true]
        · simp only [moveAll, here, if_false, if_neg there]

theorem at_moveAll_source {source target : Place} (different : source ≠ target)
    (ledger : Ledger Item Place) :
    at_ source (relocate (moveAll source target) ledger) = [] := by
  induction ledger with
  | nil => rfl
  | cons entry rest ih =>
      change at_ source ((entry.1, moveAll source target entry.2) ::
        relocate (moveAll source target) rest) = _
      rw [at_cons, ih, if_neg]
      unfold moveAll
      split
      · exact different.symm
      · assumption

theorem at_moveAll_other {source target place : Place}
    (notSource : place ≠ source) (notTarget : place ≠ target)
    (ledger : Ledger Item Place) :
    at_ place (relocate (moveAll source target) ledger) = at_ place ledger := by
  induction ledger with
  | nil => rfl
  | cons entry rest ih =>
      change at_ place ((entry.1, moveAll source target entry.2) ::
        relocate (moveAll source target) rest) = _
      rw [at_cons, at_cons, ih]
      by_cases here : entry.2 = source
      · simp only [moveAll, here, if_true, if_neg notTarget.symm,
          if_neg notSource.symm]
      · simp only [moveAll, here, if_false]

/-- The earliest item of one place moves to another. -/
def moveFirst (source target : Place) :
    Ledger Item Place → Ledger Item Place
  | [] => []
  | entry :: rest =>
      if entry.2 = source then (entry.1, target) :: rest
      else entry :: moveFirst source target rest

theorem items_moveFirst (source target : Place) (ledger : Ledger Item Place) :
    items (moveFirst source target ledger) = items ledger := by
  induction ledger with
  | nil => rfl
  | cons entry rest ih =>
      unfold moveFirst
      split
      · rfl
      · exact congrArg (entry.1 :: ·) ih

theorem at_moveFirst_other {source target place : Place}
    (notSource : place ≠ source) (notTarget : place ≠ target)
    (ledger : Ledger Item Place) :
    at_ place (moveFirst source target ledger) = at_ place ledger := by
  induction ledger with
  | nil => rfl
  | cons entry rest ih =>
      unfold moveFirst
      by_cases here : entry.2 = source
      · rw [if_pos here, at_cons, at_cons, here, if_neg notTarget.symm,
          if_neg notSource.symm]
      · rw [if_neg here, at_cons, at_cons, ih]

theorem at_moveFirst_source {source target : Place} (different : source ≠ target)
    (ledger : Ledger Item Place) :
    at_ source (moveFirst source target ledger) = (at_ source ledger).tail := by
  induction ledger with
  | nil => rfl
  | cons entry rest ih =>
      unfold moveFirst
      by_cases here : entry.2 = source
      · rw [if_pos here, at_cons, at_cons, if_neg different.symm, if_pos here]
        rfl
      · rw [if_neg here, at_cons, at_cons, ih, if_neg here, if_neg here]

/-- Nothing at the target stands behind an item of the source, so the moved
item comes last there. -/
theorem at_moveFirst_target {before : Place → Place → Prop}
    {source target : Place} (different : source ≠ target)
    {ledger : Ledger Item Place} (ordered : Ordered before ledger)
    (behind : ¬before source target) {item : Item} {rest : List Item}
    (first : at_ source ledger = item :: rest) :
    at_ target (moveFirst source target ledger) =
      at_ target ledger ++ [item] := by
  induction ledger with
  | nil => cases first
  | cons entry others ih =>
      obtain ⟨front, later⟩ := List.pairwise_cons.mp ordered
      unfold moveFirst
      by_cases here : entry.2 = source
      · rw [at_cons, if_pos here, List.cons.injEq] at first
        have nothing : at_ target others = [] := by
          refine List.map_eq_nil_iff.mpr (List.filter_eq_nil_iff.mpr ?_)
          intro other member same
          have stands := front other member
          rw [here, of_decide_eq_true same] at stands
          exact behind stands
        rw [if_pos here, at_cons, at_cons, if_pos rfl,
          if_neg (here ▸ different), nothing, first.1]
        rfl
      · rw [at_cons, if_neg here] at first
        rw [if_neg here, at_cons, at_cons, ih later first]
        split <;> rfl

theorem mem_moveFirst {source target : Place} {ledger : Ledger Item Place}
    {entry : Item × Place} (member : entry ∈ moveFirst source target ledger) :
    entry ∈ ledger ∨
      entry.2 = target ∧ ∃ old ∈ ledger, old.2 = source := by
  induction ledger with
  | nil => cases member
  | cons first rest ih =>
      unfold moveFirst at member
      split at member
      · rename_i here
        rcases List.mem_cons.mp member with rfl | later
        · exact Or.inr ⟨rfl, first, List.mem_cons_self, here⟩
        · exact Or.inl (List.mem_cons_of_mem first later)
      · rcases List.mem_cons.mp member with rfl | later
        · exact Or.inl List.mem_cons_self
        · rcases ih later with kept | ⟨moved, old, inside, was⟩
          · exact Or.inl (List.mem_cons_of_mem first kept)
          · exact Or.inr ⟨moved, old, List.mem_cons_of_mem first inside, was⟩

theorem Ordered.moveFirst {before : Place → Place → Prop}
    {source target : Place} {ledger : Ledger Item Place}
    (ordered : Ordered before ledger)
    (earlier : ∀ place, place ≠ source → before place source →
      before place target)
    (later : ∀ place, before target place) :
    Ordered before (moveFirst source target ledger) := by
  induction ledger with
  | nil => exact List.Pairwise.nil
  | cons entry others ih =>
      obtain ⟨front, rest⟩ := List.pairwise_cons.mp ordered
      unfold PlacedLedger.moveFirst
      by_cases here : entry.2 = source
      · rw [if_pos here]
        exact List.pairwise_cons.mpr ⟨fun other _ => later other.2, rest⟩
      · rw [if_neg here]
        refine List.pairwise_cons.mpr ⟨?_, ih rest⟩
        intro other member
        rcases mem_moveFirst member with kept | ⟨moved, old, inside, was⟩
        · exact front other kept
        · rw [moved]
          exact earlier entry.2 here (was ▸ front old inside)

end Places

end PlacedLedger
