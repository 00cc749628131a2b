/-
Copying a sequence in chunks.

Each round reads a chunk of any size up to the buffer and passes it on.  A read
may fail after part of a chunk and is remembered until the end, a refused write
ends the loop, and a read of nothing ends it as well.
-/

import Mathlib.Data.List.Infix

namespace ChunkedCopy

variable {α : Type*}

/-- One round: how much the read gives, whether it also fails, and whether the
write takes the whole chunk. -/
structure Round where
  size : Nat
  readFailed : Bool
  written : Bool
  deriving DecidableEq

/-- A read that does not fail gives something unless nothing is left. -/
def Round.taken (round : Round) (buffer left : Nat) : Nat :=
  if round.readFailed then min round.size (min buffer left)
  else min (max 1 round.size) (min buffer left)

theorem Round.taken_le (round : Round) (buffer left : Nat) :
    round.taken buffer left ≤ left := by
  unfold Round.taken
  split <;> omega

theorem Round.eq_zero_of_taken {round : Round} {buffer left : Nat}
    (positive : 0 < buffer) (nothing : round.taken buffer left = 0) :
    round.readFailed = true ∨ left = 0 := by
  unfold Round.taken at nothing
  split at nothing
  · next failed => exact Or.inl failed
  · exact Or.inr (by omega)

inductive Outcome (α : Type*) where
  | finished (copied : List α) (readFailed : Bool)
  /-- A write took less than its chunk. -/
  | refused (passed : List α)
  deriving DecidableEq

/-- What was passed on, in full or in part. -/
def Outcome.passed : Outcome α → List α
  | .finished copied _ => copied
  | .refused passed => passed

def copy (buffer : Nat) (rounds : Nat → Round) (remaining copied : List α)
    (failed : Bool) : Outcome α :=
  if (rounds 0).taken buffer remaining.length = 0 then
    .finished copied (failed || (rounds 0).readFailed)
  else
    let passed :=
      copied ++ remaining.take ((rounds 0).taken buffer remaining.length)
    if (rounds 0).written = false then .refused passed
    else
      copy buffer (fun index => rounds (index + 1))
        (remaining.drop ((rounds 0).taken buffer remaining.length)) passed
        (failed || (rounds 0).readFailed)
termination_by remaining.length
decreasing_by
  have bound := (rounds 0).taken_le buffer remaining.length
  rw [List.length_drop]
  omega

/-- Only a prefix of the sequence is ever passed on. -/
theorem passed_copy (buffer : Nat) (rounds : Nat → Round)
    (remaining copied : List α) (failed : Bool) :
    (copy buffer rounds remaining copied failed).passed <+:
      copied ++ remaining := by
  fun_induction copy buffer rounds remaining copied failed with
  | case1 rounds remaining copied failed nothing =>
      exact List.prefix_append copied remaining
  | case2 rounds remaining copied failed some_ passed refused =>
      exact (List.prefix_append_right_inj copied).mpr (List.take_prefix ..)
  | case3 rounds remaining copied failed some_ passed written ih =>
      rw [List.append_assoc, List.take_append_drop] at ih
      exact ih

/-- A loop that ends without any failure has passed on everything. -/
theorem copy_finished {buffer : Nat} {rounds : Nat → Round}
    {remaining copied result : List α} {failed : Bool}
    (positive : 0 < buffer)
    (finished : copy buffer rounds remaining copied failed =
      .finished result false) :
    result = copied ++ remaining := by
  fun_induction copy buffer rounds remaining copied failed with
  | case1 rounds remaining copied failed nothing =>
      rw [Outcome.finished.injEq, Bool.or_eq_false_iff] at finished
      rcases Round.eq_zero_of_taken positive nothing with error | empty
      · rw [finished.2.2] at error
        cases error
      · rw [← finished.1, List.length_eq_zero_iff.mp empty, List.append_nil]
  | case2 rounds remaining copied failed some_ passed refused =>
      cases finished
  | case3 rounds remaining copied failed some_ passed written ih =>
      rw [ih finished, List.append_assoc, List.take_append_drop]

/-- Rounds without failures copy everything, whatever their sizes. -/
theorem copy_of_good {buffer : Nat} {rounds : Nat → Round}
    (remaining copied : List α) {failed : Bool} (positive : 0 < buffer)
    (fresh : failed = false)
    (good : ∀ index, (rounds index).readFailed = false ∧
      (rounds index).written = true) :
    copy buffer rounds remaining copied failed =
      .finished (copied ++ remaining) false := by
  fun_induction copy buffer rounds remaining copied failed with
  | case1 rounds remaining copied failed nothing =>
      rcases Round.eq_zero_of_taken positive nothing with error | empty
      · rw [(good 0).1] at error
        cases error
      · rw [List.length_eq_zero_iff.mp empty, List.append_nil, fresh,
          (good 0).1]
        rfl
  | case2 rounds remaining copied failed some_ passed refused =>
      rw [(good 0).2] at refused
      cases refused
  | case3 rounds remaining copied failed some_ passed written ih =>
      rw [ih (by rw [fresh, (good 0).1]; rfl) fun index => good (index + 1),
        List.append_assoc, List.take_append_drop]

end ChunkedCopy
