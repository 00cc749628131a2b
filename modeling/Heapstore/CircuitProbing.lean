/-
Probing a breaker that is half open.

Writers ask the adapter for admission and later report an outcome, each under
the lock of the adapter and in any order.  The adapter asks the breaker only
while it is open, so the breaker limits no writer that comes while it is half
open.
-/

import Heapstore.CircuitLive
import Heapstore.Foundation.OperationRun
import Mathlib.Logic.Function.Basic

namespace Heapstore.Circuit

open CircuitBreaker OperationRun

/-- The adapter, the writers that were admitted and have no outcome yet, and how
many were admitted since the breaker became half open, until an outcome is
recorded. -/
structure Watch (Runtime : Type*) where
  circuit : LiveCircuit Runtime
  inside : Nat → Bool
  probes : Option Nat

inductive WriterStep where
  | ask (writer now : Nat)
  | record (writer now : Nat) (succeeded : Bool)
  deriving DecidableEq

section Machine

variable {Runtime : Type*} (breaker : Breaker CbConfig Runtime)

def Watch.start (circuit : LiveCircuit Runtime) : Watch Runtime where
  circuit := circuit
  inside := fun _ => false
  probes := none

/-- The count starts where the breaker becomes half open. -/
def Watch.counted (watch : Watch Runtime) (next : LiveCircuit Runtime)
    (admitted : Nat) (present : Option Nat) : Option Nat :=
  if (watch.circuit.view breaker).phase ≠ .halfOpen ∧
      (next.view breaker).phase = .halfOpen then
    some admitted
  else present.map fun probes => probes + admitted

/-- A writer asks while it is outside and records while it is inside; the answer
says whether it is admitted. -/
def watchMachine : Machine (Watch Runtime) WriterStep Bool := fun watch step =>
  match step with
  | .ask writer now =>
      if watch.inside writer then (watch, false)
      else
        let asked := circuitOpen breaker now watch.circuit
        let admitted := !asked.2
        ({ circuit := asked.1
           inside := Function.update watch.inside writer admitted
           probes := watch.counted breaker asked.1 admitted.toNat watch.probes },
          admitted)
  | .record writer now succeeded =>
      if watch.inside writer then
        let next :=
          if succeeded then recordSuccess breaker now watch.circuit
          else recordFailure breaker now watch.circuit
        ({ circuit := next
           inside := Function.update watch.inside writer false
           probes := watch.counted breaker next 0 none }, false)
      else (watch, false)

/-- Of the writers that were admitted since the breaker became half open there
are no more than it is configured to let probe. -/
def Watch.Limited (watch : Watch Runtime) : Prop :=
  ∀ probes, watch.probes = some probes →
    probes ≤ (cbConfigBuild watch.circuit.adapter).halfOpenMaxCalls.toNat

/-- No writer asks while another one probes. -/
def AsksAlone (watch : Watch Runtime) : WriterStep → Prop
  | .ask writer _ => watch.inside writer = true ∨
      ∀ probes, watch.probes = some probes → probes = 0
  | .record _ _ _ => True

/-- While probing writers are counted the breaker is half open. -/
def Watch.Counting (watch : Watch Runtime) : Prop :=
  watch.probes.isSome = true → (watch.circuit.view breaker).phase = .halfOpen

end Machine

section Steps

variable {Runtime : Type*} {breaker : Breaker CbConfig Runtime}

theorem circuitOpen_halfOpen {circuit : LiveCircuit Runtime} (now : Nat)
    (probing : (circuit.view breaker).phase = .halfOpen) :
    circuitOpen breaker now circuit = (circuit, false) := by
  apply circuitOpen_of_not_opened
  rw [probing]
  decide

theorem counted_some {watch : Watch Runtime} {next : LiveCircuit Runtime}
    {admitted : Nat} {present : Option Nat}
    (stays : present.isSome = true → (next.view breaker).phase = .halfOpen)
    (counts : (watch.counted breaker next admitted present).isSome = true) :
    (next.view breaker).phase = .halfOpen := by
  unfold Watch.counted at counts
  split at counts
  · next entering => exact entering.2
  · rw [Option.isSome_map] at counts
    exact stays counts

theorem watchMachine_counting {watch : Watch Runtime}
    (counting : watch.Counting breaker) (step : WriterStep) :
    (watchMachine breaker watch step).1.Counting breaker := by
  unfold watchMachine
  cases step with
  | ask writer now =>
      simp only
      split
      · exact counting
      · apply counted_some
        intro counts
        have probing := counting counts
        rw [circuitOpen_halfOpen now probing]
        exact probing
  | record writer now succeeded =>
      simp only
      split
      · apply counted_some
        intro counts
        cases counts
      · exact counting

/-- Where probing writers are counted, the next writer is admitted and counted
too. -/
theorem watchMachine_ask {watch : Watch Runtime} {writer now probes : Nat}
    (counting : watch.Counting breaker)
    (outside : watch.inside writer = false)
    (counted : watch.probes = some probes) :
    (watchMachine breaker watch (.ask writer now)).1.probes =
      some (probes + 1) := by
  have probing := counting (Option.isSome_iff_exists.mpr ⟨probes, counted⟩)
  unfold watchMachine Watch.counted
  simp only [outside, Bool.false_eq_true, if_false, counted]
  rw [circuitOpen_halfOpen now probing, if_neg (fun both => both.1 probing)]
  rfl

theorem counted_none_le {watch : Watch Runtime} {next : LiveCircuit Runtime}
    {admitted probes : Nat}
    (counted : watch.counted breaker next admitted none = some probes) :
    probes ≤ admitted := by
  unfold Watch.counted at counted
  split at counted
  · cases counted
    exact Nat.le_refl _
  · cases counted

/-- Where no probing writer is counted, a step counts at most one. -/
theorem watchMachine_limited {watch : Watch Runtime} (step : WriterStep)
    (limited : watch.Limited)
    (uncounted : ∀ writer now, step = .ask writer now →
      watch.inside writer = false → watch.probes = none) :
    (watchMachine breaker watch step).1.Limited := by
  cases step with
  | ask writer now =>
      cases place : watch.inside writer with
      | true =>
          unfold watchMachine
          simp only [place, if_true]
          exact limited
      | false =>
          unfold watchMachine
          simp only [place, Bool.false_eq_true, if_false,
            uncounted writer now rfl place]
          intro probes counted
          exact Nat.le_trans (counted_none_le counted) (Bool.toNat_le _)
  | record writer now succeeded =>
      cases place : watch.inside writer with
      | true =>
          unfold watchMachine
          simp only [place, if_true]
          intro probes counted
          exact Nat.le_trans (counted_none_le counted) (Nat.zero_le 1)
      | false =>
          unfold watchMachine
          simp only [place, Bool.false_eq_true, if_false]
          exact limited

theorem watchMachine_exact {watch : Watch Runtime}
    (counting : watch.Counting breaker) (limited : watch.Limited)
    (step : WriterStep) :
    (watchMachine breaker watch step).1.Limited ↔ AsksAlone watch step := by
  cases step with
  | ask writer now =>
      by_cases alone : watch.inside writer = false → watch.probes = none
      · apply iff_of_true
        · apply watchMachine_limited _ limited
          intro other later same
          cases same
          exact alone
        · cases place : watch.inside writer with
          | true => exact Or.inl place
          | false =>
              right
              intro probes counted
              rw [alone place] at counted
              cases counted
      · obtain ⟨outside, present⟩ := Classical.not_imp.mp alone
        obtain ⟨probes, counted⟩ := Option.ne_none_iff_exists'.mp present
        have next := @watchMachine_ask _ breaker _ writer now _ counting outside
          counted
        constructor
        · intro stillLimited
          have bound : probes + 1 ≤ 1 := stillLimited (probes + 1) next
          right
          intro other again
          rw [counted] at again
          cases again
          omega
        · intro asksAlone more again
          rw [next] at again
          cases again
          rcases asksAlone with inside | none
          · rw [outside] at inside
            cases inside
          · rw [none probes counted]
            exact Nat.le_refl 1
  | record writer now succeeded =>
      apply iff_of_true
      · exact watchMachine_limited _ limited nofun
      · trivial

end Steps

/-- Over every interleaving, from whatever breaker the writers find, no more
writers probe than the breaker is configured for exactly if no writer asks while
another one probes. -/
theorem halfOpen_limit_iff {Runtime : Type*}
    (breaker : Breaker CbConfig Runtime) (circuit : LiveCircuit Runtime)
    (steps : List WriterStep) :
    (∀ done, done <+: steps →
      (final (watchMachine breaker) (Watch.start circuit) done).Limited) ↔
      Meets (watchMachine breaker) AsksAlone (Watch.start circuit) steps :=
  prefixes_iff_meets (watchMachine breaker) AsksAlone
    (fun watch => watch.Counting breaker) Watch.Limited
    (fun _ step counting => watchMachine_counting counting step)
    (fun _ step counting limited => watchMachine_exact counting limited step)
    (Watch.start circuit) steps nofun nofun

/-- A running breaker that opens after one failure, for one second. -/
def touchyCircuit : LiveCircuit Counter :=
  liveInit (counting CbConfig.limits) .ok
    (liveApplyConfig (counting CbConfig.limits) .ok 1 1 LiveCircuit.cleared)

/-- Two writers come after the timeout, before the first reports. -/
theorem halfOpen_admits_two :
    ¬∀ (circuit : LiveCircuit Counter) (steps done : List WriterStep),
      done <+: steps →
        (final (watchMachine (counting CbConfig.limits)) (Watch.start circuit)
          done).Limited := by
  intro always
  have limited := always touchyCircuit
    [.ask 0 0, .record 0 0 false, .ask 1 1000, .ask 2 1000]
    [.ask 0 0, .record 0 0 false, .ask 1 1000, .ask 2 1000]
    (List.prefix_refl _) 2 (by decide)
  exact absurd limited (by decide)

end Heapstore.Circuit
