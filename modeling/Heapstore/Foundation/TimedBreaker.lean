/-
Circuit breakers with a timeout.

A breaker that opens stays open until its timeout is over, and says so to
whoever asks.  The laws speak of one request to a breaker that was created from
a configuration; what holds for any sequence of requests follows from them.
-/

import Heapstore.Foundation.CircuitBreaker

namespace CircuitBreaker

inductive Request where
  | allow
  | succeed
  | fail
  deriving DecidableEq

/-- The request that reports an outcome. -/
def Request.report (succeeded : Bool) : Request :=
  if succeeded then .succeed else .fail

def Breaker.after {Config Runtime : Type*} (breaker : Breaker Config Runtime)
    (now : Nat) (runtime : Runtime) : Request → Runtime
  | .allow => (breaker.allow now runtime).1
  | .succeed => breaker.succeed now runtime
  | .fail => breaker.fail now runtime

/-- A breaker that can also be closed by hand. -/
structure ResettableBreaker (Config Runtime : Type*) extends
    Breaker Config Runtime where
  reset : Runtime → Runtime

def ResettableBreaker.withFail {Config Runtime : Type*}
    (breaker : ResettableBreaker Config Runtime)
    (fail : Nat → Runtime → Runtime) : ResettableBreaker Config Runtime :=
  { breaker.toBreaker.withFail fail with reset := breaker.reset }

section Laws

variable {Config Runtime : Type*} (breaker : ResettableBreaker Config Runtime)

/-- What becomes of a breaker that was created from the configuration. -/
inductive ResettableBreaker.Serves (config : Config) : Runtime → Prop where
  | created : Serves config (breaker.create config)
  | requested {runtime : Runtime} (now : Nat) (request : Request)
      (before : Serves config runtime) :
      Serves config (breaker.after now runtime request)
  | reset {runtime : Runtime} (before : Serves config runtime) :
      Serves config (breaker.reset runtime)

def View.OpenSince (view : View) (since : Nat) : Prop :=
  view.phase = .opened ∧ view.openSince = some since

/-- An open breaker refuses everybody until its timeout has passed since it
opened, whatever is reported to it, and lets somebody in afterwards. -/
structure ResettableBreaker.Timed (timeout : Config → Nat) : Prop where
  lawful : breaker.toBreaker.Lawful
  cleared : ∀ runtime, breaker.view (breaker.reset runtime) = View.fresh
  opened : ∀ now runtime request,
    (breaker.view runtime).phase ≠ .opened →
    (breaker.view (breaker.after now runtime request)).phase = .opened →
    (breaker.view (breaker.after now runtime request)).openSince = some now
  refuses : ∀ config runtime since now, breaker.Serves config runtime →
    (breaker.view runtime).OpenSince since → now < since + timeout config →
    (breaker.allow now runtime).2 = false
  stays : ∀ config runtime since now request, breaker.Serves config runtime →
    (breaker.view runtime).OpenSince since → now < since + timeout config →
    (breaker.view (breaker.after now runtime request)).OpenSince since
  admits : ∀ config runtime since now, breaker.Serves config runtime →
    (breaker.view runtime).OpenSince since → since + timeout config < now →
    (breaker.allow now runtime).2 = true

end Laws

/-! ### The breaker that counts -/

def resettableCounting {Config : Type*} (limits : Config → Limits) :
    ResettableBreaker Config Counter :=
  { counting limits with
      reset := fun counter => Counter.cleared counter.limits }

section Counting

variable {Config : Type*} {limits : Config → Limits}

theorem Counter.allow_limits (now : Nat) (counter : Counter) :
    (counter.allow now).1.limits = counter.limits := by
  unfold Counter.allow
  split
  · rfl
  · split <;> rfl
  · split <;> rfl

theorem Counter.succeed_limits (counter : Counter) :
    counter.succeed.limits = counter.limits := by
  unfold Counter.succeed
  split <;> rfl

theorem Counter.fail_limits (now : Nat) (counter : Counter) :
    (counter.fail now).limits = counter.limits := by
  unfold Counter.fail
  split
  · split <;> rfl
  · rfl
  · rfl

/-- A counter keeps the limits that it was created with. -/
theorem limits_of_serves {config : Config} {counter : Counter}
    (serves : (resettableCounting limits).Serves config counter) :
    counter.limits = limits config := by
  induction serves with
  | created => rfl
  | requested now request before same =>
      cases request with
      | allow => exact (Counter.allow_limits now _).trans same
      | succeed => exact (Counter.succeed_limits _).trans same
      | fail => exact (Counter.fail_limits now _).trans same
  | reset before same => exact same

theorem Counter.allow_of_open {counter : Counter} {since : Nat}
    (isOpen : counter.view.OpenSince since) (now : Nat) :
    counter.allow now =
      if since + counter.limits.timeout ≤ now then
        ({ counter with
            view := { counter.view with phase := .halfOpen }
            probes := 1 }, true)
      else (counter, false) := by
  unfold Counter.allow
  simp only [isOpen.1, isOpen.2, Option.getD_some]

theorem Counter.succeed_of_open {counter : Counter}
    (isOpen : counter.view.phase = .opened) : counter.succeed = counter := by
  unfold Counter.succeed
  rw [isOpen]

theorem Counter.fail_of_open {counter : Counter}
    (isOpen : counter.view.phase = .opened) (now : Nat) :
    counter.fail now = counter := by
  unfold Counter.fail
  rw [isOpen]

/-- Only a failure opens a counter, and it notes the time. -/
theorem Counter.opened_by_failure (now : Nat) (counter : Counter)
    (request : Request) (notOpen : counter.view.phase ≠ .opened)
    (opened : ((counting limits).after now counter request).view.phase =
      .opened) :
    ((counting limits).after now counter request).view.openSince =
      some now := by
  cases request with
  | allow =>
      change (counter.allow now).1.view.phase = .opened at opened
      unfold Counter.allow at opened
      split at opened
      · next closed =>
          rw [closed] at opened
          cases opened
      · next already => exact absurd already notOpen
      · next halfOpen =>
          split at opened
          · rw [halfOpen] at opened
            cases opened
          · rw [halfOpen] at opened
            cases opened
  | succeed =>
      change counter.succeed.view.phase = .opened at opened
      unfold Counter.succeed at opened
      split at opened
      · next already => exact absurd already notOpen
      · cases opened
  | fail =>
      change (counter.fail now).view.phase = .opened at opened
      change (counter.fail now).view.openSince = some now
      unfold Counter.fail at opened ⊢
      split at opened
      · next closed =>
          split at opened
          · rw [closed] at opened
            cases opened
          · next tripped =>
              rw [if_neg tripped]
              rfl
      · next already => exact absurd already notOpen
      · rfl

theorem resettableCounting_timed :
    (resettableCounting limits).Timed fun config => (limits config).timeout where
  lawful := counting_lawful limits
  cleared := fun _ => rfl
  opened := Counter.opened_by_failure
  refuses := by
    intro config counter since now serves isOpen early
    rw [← limits_of_serves serves] at early
    change (counter.allow now).2 = false
    rw [Counter.allow_of_open isOpen, if_neg (Nat.not_le.mpr early)]
  stays := by
    intro config counter since now request serves isOpen early
    rw [← limits_of_serves serves] at early
    cases request with
    | allow =>
        change (counter.allow now).1.view.OpenSince since
        rw [Counter.allow_of_open isOpen, if_neg (Nat.not_le.mpr early)]
        exact isOpen
    | succeed =>
        change counter.succeed.view.OpenSince since
        rw [Counter.succeed_of_open isOpen.1]
        exact isOpen
    | fail =>
        change (counter.fail now).view.OpenSince since
        rw [Counter.fail_of_open isOpen.1]
        exact isOpen
  admits := by
    intro config counter since now serves isOpen late
    rw [← limits_of_serves serves] at late
    change (counter.allow now).2 = true
    rw [Counter.allow_of_open isOpen, if_pos (Nat.le_of_lt late)]

end Counting

end CircuitBreaker
