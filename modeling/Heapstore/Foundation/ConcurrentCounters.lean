/-
Counters and a shared maximum kept by interleaved workers.

A counter that every worker bumps at certain places of its code equals a sum of
weights over the places where the workers stand.  A maximum is raised by a load
and a retried compare-and-swap; a failed swap shows the worker what was there.
-/

import Mathlib.Algebra.Order.BigOperators.Group.Finset
import Mathlib.Data.Fintype.BigOperators

namespace ConcurrentCounters

/-! ### Sums over the places of the workers -/

section Tally

variable {Worker Place : Type*} [Fintype Worker]

/-- The sum of the weights of all workers at their places. -/
def tally (weight : Worker → Place → Nat) (place : Worker → Place) : Nat :=
  ∑ worker, weight worker (place worker)

/-- Moving one worker exchanges its weight. -/
theorem tally_update [DecidableEq Worker] (weight : Worker → Place → Nat)
    (place : Worker → Place) (worker : Worker) (next : Place) :
    tally weight (Function.update place worker next) +
        weight worker (place worker) =
      tally weight place + weight worker next := by
  have others : ∀ other ∈ Finset.univ.erase worker,
      weight other (Function.update place worker next other) =
        weight other (place other) := by
    intro other member
    rw [Function.update_of_ne (Finset.ne_of_mem_erase member)]
  unfold tally
  rw [← Finset.add_sum_erase _ _ (Finset.mem_univ worker),
    ← Finset.add_sum_erase Finset.univ (fun other => weight other (place other))
      (Finset.mem_univ worker), Finset.sum_congr rfl others,
    Function.update_self]
  omega

theorem tally_const (weight : Worker → Place → Nat) (place : Worker → Place)
    (share : Worker → Nat)
    (same : ∀ worker, weight worker (place worker) = share worker) :
    tally weight place = ∑ worker, share worker :=
  Finset.sum_congr rfl fun worker _ => same worker

theorem tally_le_card {weight : Worker → Place → Nat}
    (place : Worker → Place)
    (small : ∀ worker place, weight worker place ≤ 1) :
    tally weight place ≤ Fintype.card Worker := by
  unfold tally
  calc ∑ worker, weight worker (place worker)
      ≤ ∑ _worker : Worker, 1 :=
        Finset.sum_le_sum fun worker _ => small worker (place worker)
    _ = Fintype.card Worker := Finset.card_eq_sum_ones Finset.univ |>.symm

theorem weight_le_tally (weight : Worker → Place → Nat)
    (place : Worker → Place) (worker : Worker) :
    weight worker (place worker) ≤ tally weight place :=
  Finset.single_le_sum (f := fun other => weight other (place other))
    (fun _ _ => Nat.zero_le _) (Finset.mem_univ worker)

end Tally

/-! ### A maximum raised by compare-and-swap -/

/-- Where a worker stands that raises the maximum to its own value. -/
inductive Raiser (Value : Type*) where
  | loading
  | comparing (seen : Value)
  | settled
  deriving DecidableEq

section Steps

variable {Value : Type*} [LT Value] [DecidableLT Value]

/-- The loop condition on what was seen last. -/
def recheck (value seen : Value) : Raiser Value :=
  if seen < value then .comparing seen else .settled

theorem recheck_ne_loading (value seen : Value) :
    recheck value seen ≠ .loading := by
  unfold recheck
  split <;> nofun

variable [DecidableEq Value]

/-- One atomic step, on the register and the worker. -/
def raise (value register : Value) : Raiser Value → Value × Raiser Value
  | .loading => (register, recheck value register)
  | .comparing seen =>
      if register = seen then (value, .settled)
      else (register, recheck value register)
  | .settled => (register, .settled)

theorem raise_same (value seen : Value) :
    raise value seen (.comparing seen) = (value, .settled) := if_pos rfl

theorem raise_other {value register seen : Value} (other : register ≠ seen) :
    raise value register (.comparing seen) =
      (register, recheck value register) := if_neg other

/-- A worker loads the register once. -/
theorem raise_ne_loading (value register : Value) (raiser : Raiser Value) :
    (raise value register raiser).2 ≠ .loading := by
  cases raiser with
  | loading => exact recheck_ne_loading value register
  | settled => exact nofun
  | comparing seen =>
      by_cases same : register = seen
      · rw [same, raise_same]
        exact nofun
      · rw [raise_other same]
        exact recheck_ne_loading value register

theorem raise_register (value register : Value) (raiser : Raiser Value) :
    (raise value register raiser).1 = register ∨
      (raise value register raiser).1 = value := by
  cases raiser with
  | loading => exact Or.inl rfl
  | settled => exact Or.inl rfl
  | comparing seen =>
      by_cases same : register = seen
      · rw [same, raise_same]
        exact Or.inr rfl
      · rw [raise_other same]
        exact Or.inl rfl

end Steps

section Knowledge

variable {Value : Type*} [LE Value] [LT Value]

/-- What a worker knows of the register, whoever raises it. -/
def Sound (value register : Value) : Raiser Value → Prop
  | .loading => True
  | .comparing seen => seen ≤ register ∧ seen < value
  | .settled => value ≤ register

/-- What a worker knows stays true while others raise the register. -/
theorem Sound.mono [Std.IsLinearOrder Value] {value register raised : Value}
    {raiser : Raiser Value} (sound : Sound value register raiser)
    (grown : register ≤ raised) : Sound value raised raiser := by
  cases raiser with
  | loading => trivial
  | comparing seen => exact ⟨Std.le_trans sound.1 grown, sound.2⟩
  | settled => exact Std.le_trans sound grown

variable [DecidableLT Value] [Std.IsLinearOrder Value]
  [Std.LawfulOrderLT Value]

theorem recheck_sound (value register : Value) :
    Sound value register (recheck value register) := by
  unfold recheck
  split
  · next below => exact ⟨Std.le_refl register, below⟩
  · next reached => exact Std.not_lt.mp reached

variable [DecidableEq Value]

theorem raise_grows {value register : Value} {raiser : Raiser Value}
    (sound : Sound value register raiser) :
    register ≤ (raise value register raiser).1 := by
  cases raiser with
  | loading => exact Std.le_refl register
  | settled => exact Std.le_refl register
  | comparing seen =>
      by_cases same : register = seen
      · rw [same, raise_same]
        exact Std.le_of_lt sound.2
      · rw [raise_other same]
        exact Std.le_refl register

theorem raise_sound {value register : Value} {raiser : Raiser Value}
    (sound : Sound value register raiser) :
    Sound value (raise value register raiser).1
      (raise value register raiser).2 := by
  cases raiser with
  | loading => exact recheck_sound value register
  | settled => exact sound
  | comparing seen =>
      by_cases same : register = seen
      · rw [same, raise_same]
        exact Std.le_refl value
      · rw [raise_other same]
        exact recheck_sound value register

/-- A swap that fails shows a larger value than the one seen before. -/
theorem raise_failed {value register seen again : Value}
    (sound : Sound value register (.comparing seen))
    (retried : (raise value register (.comparing seen)).2 = .comparing again) :
    seen < again ∧ again < value := by
  by_cases same : register = seen
  · rw [same, raise_same] at retried
    cases retried
  · rw [raise_other same] at retried
    change recheck value register = _ at retried
    unfold recheck at retried
    split at retried
    · next below =>
        cases retried
        refine ⟨?_, below⟩
        rcases Std.le_iff_lt_or_eq.mp sound.1 with less | equal
        · exact less
        · exact absurd equal.symm same
    · cases retried

end Knowledge

end ConcurrentCounters
