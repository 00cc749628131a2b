/-
Handles that are opened, used and closed.

A trace of events is read against the set of the handles that are open.  It is
read through only when every handle that is used or closed is open and every
handle that is opened is new, so a trace that can be read never touches a
closed handle and never closes one twice.
-/

import Mathlib.Data.Finset.Basic
import Mathlib.Data.List.Perm.Basic

namespace OpenHandles

inductive HandleEvent where
  | opened (handle : Nat)
  | used (handle : Nat)
  | closed (handle : Nat)
  deriving DecidableEq

/-- The handles open after the events, unless one of them touches a handle that
is not there or opens one that is. -/
def reads : Finset Nat → List HandleEvent → Option (Finset Nat)
  | live, [] => some live
  | live, .opened handle :: rest =>
      if handle ∈ live then none else reads (insert handle live) rest
  | live, .used handle :: rest =>
      if handle ∈ live then reads live rest else none
  | live, .closed handle :: rest =>
      if handle ∈ live then reads (live.erase handle) rest else none

theorem reads_append (live : Finset Nat) (first second : List HandleEvent) :
    reads live (first ++ second) =
      (reads live first).bind fun between => reads between second := by
  induction first generalizing live with
  | nil => rfl
  | cons event rest ih =>
      cases event with
      | opened handle =>
          simp only [List.cons_append, reads]
          split
          · rfl
          · exact ih _
      | used handle =>
          simp only [List.cons_append, reads]
          split
          · exact ih _
          · rfl
      | closed handle =>
          simp only [List.cons_append, reads]
          split
          · exact ih _
          · rfl

/-- The open handles, listed once each, all with numbers given out so far. -/
structure Lists (issued : Nat) (live : Finset Nat) (owned : List Nat) :
    Prop where
  distinct : owned.Nodup
  same : owned.toFinset = live
  numbered : ∀ handle ∈ owned, handle < issued

section Listing

variable {issued : Nat} {live : Finset Nat} {owned : List Nat}

theorem lists_nil (issued : Nat) : Lists issued ∅ [] where
  distinct := List.nodup_nil
  same := rfl
  numbered := List.forall_mem_nil _

theorem Lists.perm {other : List Nat} (lists : Lists issued live owned)
    (moved : owned.Perm other) : Lists issued live other where
  distinct := moved.nodup_iff.mp lists.distinct
  same := (List.toFinset_eq_of_perm _ _ moved).symm.trans lists.same
  numbered := fun handle member =>
    lists.numbered handle (moved.mem_iff.mpr member)

theorem Lists.mem (lists : Lists issued live owned) {handle : Nat}
    (member : handle ∈ owned) : handle ∈ live := by
  rw [← lists.same]
  exact List.mem_toFinset.mpr member

/-- The next number belongs to no open handle. -/
theorem Lists.fresh (lists : Lists issued live owned) : issued ∉ live := by
  rw [← lists.same, List.mem_toFinset]
  intro member
  exact Nat.lt_irrefl _ (lists.numbered issued member)

theorem Lists.open_ (lists : Lists issued live owned) :
    reads live [.opened issued] = some (insert issued live) ∧
      Lists (issued + 1) (insert issued live) (issued :: owned) := by
  refine ⟨if_neg lists.fresh, ?_⟩
  constructor
  · refine List.nodup_cons.mpr ⟨?_, lists.distinct⟩
    intro member
    exact lists.fresh (lists.mem member)
  · rw [List.toFinset_cons, lists.same]
  · intro handle member
    rcases List.mem_cons.mp member with rfl | before
    · exact Nat.lt_succ_self _
    · exact Nat.lt_succ_of_lt (lists.numbered handle before)

theorem Lists.use (lists : Lists issued live owned) {handle : Nat}
    (member : handle ∈ owned) : reads live [.used handle] = some live :=
  if_pos (lists.mem member)

theorem Lists.close {handle : Nat}
    (lists : Lists issued live (handle :: owned)) :
    reads live [.closed handle] = some (live.erase handle) ∧
      Lists issued (live.erase handle) owned := by
  refine ⟨if_pos (lists.mem List.mem_cons_self), ?_⟩
  obtain ⟨absent, distinct⟩ := List.nodup_cons.mp lists.distinct
  constructor
  · exact distinct
  · rw [← lists.same, List.toFinset_cons, Finset.erase_insert]
    exact fun member => absent (List.mem_toFinset.mp member)
  · exact fun other member =>
      lists.numbered other (List.mem_cons_of_mem _ member)

theorem Lists.closeAll {closing : List Nat}
    (lists : Lists issued live (closing ++ owned)) :
    ∃ after, reads live (closing.map .closed) = some after ∧
      Lists issued after owned := by
  induction closing generalizing live with
  | nil => exact ⟨live, rfl, lists⟩
  | cons handle rest ih =>
      obtain ⟨closed, left⟩ := lists.close
      obtain ⟨after, read, last⟩ := ih left
      refine ⟨after, ?_, last⟩
      rw [List.map_cons, ← List.singleton_append, reads_append, closed]
      exact read

end Listing

end OpenHandles
