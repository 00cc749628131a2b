/-
Numbered things and the places that own them.

Things get the numbers from zero on as they are made.  The places are balanced
when they hold each number once, so nothing is lost and nothing is owned twice.
-/

import Mathlib.Data.List.Perm.Basic
import Mathlib.Data.List.Range

namespace Ownership

def Balanced (created : Nat) (places : List Nat) : Prop :=
  places.Perm (List.range created)

theorem Balanced.length {created : Nat} {places : List Nat}
    (balanced : Balanced created places) : places.length = created := by
  rw [balanced.length_eq, List.length_range]

/-- What is made goes to one place each, and the rest only moves. -/
theorem Balanced.grow {created count : Nat} {places next : List Nat}
    (balanced : Balanced created places)
    (moved : next.Perm (places ++ List.range' created count)) :
    Balanced (created + count) next := by
  have numbers : List.range (created + count) =
      List.range created ++ List.range' created count := by
    have pieces := @List.range'_append_1 0 created count
    rw [Nat.zero_add] at pieces
    rw [List.range_eq_range', List.range_eq_range', pieces]
  unfold Balanced
  rw [numbers]
  exact moved.trans (balanced.append_right _)

/-- Places that are dropped must have been empty. -/
theorem Balanced.drop_iff {created : Nat} {kept dropped : List Nat}
    (balanced : Balanced created (kept ++ dropped)) :
    Balanced created kept ↔ dropped = [] := by
  constructor
  · intro still
    have before := balanced.length
    rw [List.length_append, still.length] at before
    exact List.length_eq_zero_iff.mp (by omega)
  · intro empty
    rw [empty, List.append_nil] at balanced
    exact balanced

end Ownership
