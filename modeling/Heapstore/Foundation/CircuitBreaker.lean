/-
Circuit breakers behind an interface.

A user of a breaker creates it from a configuration, asks it for admission and
reports outcomes; the clock is an argument.  The laws are what users rely on.
The counting breaker, which opens after enough failures in a row, obeys them.
-/

import Mathlib.Init

namespace CircuitBreaker

inductive Phase where
  | closed
  | opened
  | halfOpen
  deriving DecidableEq

/-- What a breaker shows: its phase, its failures in a row and since when it is
open. -/
structure View where
  phase : Phase
  failures : Nat
  openSince : Option Nat
  deriving DecidableEq

def View.fresh : View where
  phase := .closed
  failures := 0
  openSince := none

structure Breaker (Config Runtime : Type*) where
  create : Config → Runtime
  view : Runtime → View
  allow : Nat → Runtime → Runtime × Bool
  succeed : Nat → Runtime → Runtime
  fail : Nat → Runtime → Runtime

/-- The breaker, with something else done at a failure. -/
def Breaker.withFail {Config Runtime : Type*}
    (breaker : Breaker Config Runtime) (fail : Nat → Runtime → Runtime) :
    Breaker Config Runtime :=
  { breaker with fail := fail }

structure Breaker.Lawful {Config Runtime : Type*}
    (breaker : Breaker Config Runtime) : Prop where
  created : ∀ config, breaker.view (breaker.create config) = View.fresh
  succeeded : ∀ now runtime, (breaker.view runtime).phase = .closed →
    (breaker.view (breaker.succeed now runtime)).phase = .closed

/-! ### A breaker that counts -/

structure Limits where
  failureThreshold : Nat
  timeout : Nat
  halfOpenMaxCalls : Nat
  deriving DecidableEq

structure Counter where
  limits : Limits
  view : View
  probes : Nat
  deriving DecidableEq

def Counter.cleared (limits : Limits) : Counter where
  limits := limits
  view := View.fresh
  probes := 0

def Counter.trip (now : Nat) (counter : Counter) : Counter :=
  { counter with
      view :=
        { phase := .opened
          failures := counter.view.failures + 1
          openSince := some now } }

/-- An open breaker whose timeout is over lets the caller probe. -/
def Counter.allow (now : Nat) (counter : Counter) : Counter × Bool :=
  match counter.view.phase with
  | .closed => (counter, true)
  | .opened =>
      if counter.view.openSince.getD 0 + counter.limits.timeout ≤ now then
        ({ counter with
            view := { counter.view with phase := .halfOpen }
            probes := 1 }, true)
      else (counter, false)
  | .halfOpen =>
      if counter.probes < counter.limits.halfOpenMaxCalls then
        ({ counter with probes := counter.probes + 1 }, true)
      else (counter, false)

def Counter.succeed (counter : Counter) : Counter :=
  match counter.view.phase with
  | .opened => counter
  | _ => Counter.cleared counter.limits

def Counter.fail (now : Nat) (counter : Counter) : Counter :=
  match counter.view.phase with
  | .closed =>
      if counter.view.failures + 1 < counter.limits.failureThreshold then
        { counter with
            view :=
              { counter.view with failures := counter.view.failures + 1 } }
      else counter.trip now
  | .opened => counter
  | .halfOpen => counter.trip now

def counting {Config : Type*} (limits : Config → Limits) :
    Breaker Config Counter where
  create := fun config => Counter.cleared (limits config)
  view := Counter.view
  allow := Counter.allow
  succeed := fun _ => Counter.succeed
  fail := Counter.fail

theorem counting_lawful {Config : Type*} (limits : Config → Limits) :
    (counting limits).Lawful where
  created := fun _ => rfl
  succeeded := by
    intro now counter closed
    change counter.succeed.view.phase = .closed
    change counter.view.phase = .closed at closed
    unfold Counter.succeed
    rw [closed]
    rfl

end CircuitBreaker
