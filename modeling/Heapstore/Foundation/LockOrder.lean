/-
Threads that take locks in an order.

A thread is the list of the locks it will acquire and release, and of those it
makes or destroys in between.  Where every thread only acquires locks that rank
above the ones it holds, and gives back what it took, no interleaving of the
threads gets stuck: the holder of the highest lock can always go on.  A lock
that a thread makes or destroys is one that no other thread uses.
-/

import Mathlib.Algebra.BigOperators.Group.Finset.Basic
import Mathlib.Algebra.Order.BigOperators.Group.Finset
import Mathlib.Data.Fintype.BigOperators
import Mathlib.Logic.Function.Basic

namespace LockOrder

inductive LockAction (Lock : Type*) where
  | acquire (lock : Lock)
  | release (lock : Lock)
  /-- The lock is made or destroyed. -/
  | renew (lock : Lock)
  deriving DecidableEq

def LockAction.lock {Lock : Type*} : LockAction Lock → Lock
  | .acquire lock => lock
  | .release lock => lock
  | .renew lock => lock

/-- A section of a script that runs with the lock. -/
def critical {Lock : Type*} (lock : Lock) (body : List (LockAction Lock)) :
    List (LockAction Lock) :=
  .acquire lock :: (body ++ [.release lock])

section Scripts

variable {Lock : Type*} [DecidableEq Lock] (rank : Lock → Nat)

/-- From the locks in hand, every further lock ranks above all of them, what is
released is in hand, what is made or destroyed is not, and nothing is in hand at
the end. -/
def Disciplined : List Lock → List (LockAction Lock) → Prop
  | held, [] => held = []
  | held, .acquire lock :: rest =>
      (∀ other ∈ held, rank other < rank lock) ∧
        Disciplined (lock :: held) rest
  | held, .release lock :: rest =>
      lock ∈ held ∧ Disciplined (held.erase lock) rest
  | held, .renew lock :: rest => lock ∉ held ∧ Disciplined held rest

/-- A script that fits in wherever no lock above the floor is in hand, and
hands back what it took. -/
def Orderly (floor : Nat) (script : List (LockAction Lock)) : Prop :=
  ∀ held rest, (∀ lock ∈ held, rank lock ≤ floor) →
    Disciplined rank held rest → Disciplined rank held (script ++ rest)

variable {rank} {floor : Nat}

theorem orderly_nil : Orderly rank floor [] :=
  fun _ _ _ disciplined => disciplined

theorem orderly_renew (lock : Lock) (above : floor < rank lock) :
    Orderly rank floor [.renew lock] := by
  intro held rest low disciplined
  exact ⟨fun member => absurd (low lock member) (not_le.mpr above), disciplined⟩

theorem Orderly.append {first second : List (LockAction Lock)}
    (before : Orderly rank floor first) (after : Orderly rank floor second) :
    Orderly rank floor (first ++ second) := by
  intro held rest low disciplined
  rw [List.append_assoc]
  exact before held _ low (after held rest low disciplined)

theorem Orderly.critical {lock : Lock} {body : List (LockAction Lock)}
    (above : floor < rank lock) (inside : Orderly rank (rank lock) body) :
    Orderly rank floor (critical lock body) := by
  intro held rest low disciplined
  unfold LockOrder.critical
  rw [List.cons_append, List.append_assoc]
  refine ⟨fun other member => (low other member).trans_lt above, ?_⟩
  apply inside (lock :: held)
  · intro other member
    rcases List.mem_cons.mp member with rfl | before
    · exact le_rfl
    · exact (low other before).trans above.le
  · refine ⟨List.mem_cons_self, ?_⟩
    rw [List.erase_cons_head]
    exact disciplined

theorem Orderly.ite {condition : Prop} [Decidable condition]
    {first second : List (LockAction Lock)}
    (positive : Orderly rank floor first)
    (negative : Orderly rank floor second) :
    Orderly rank floor (if condition then first else second) := by
  split
  · exact positive
  · exact negative

theorem Orderly.flatten {scripts : List (List (LockAction Lock))}
    (each : ∀ script ∈ scripts, Orderly rank floor script) :
    Orderly rank floor scripts.flatten := by
  induction scripts with
  | nil => exact orderly_nil
  | cons script rest ih =>
      rw [List.flatten_cons]
      exact (each script List.mem_cons_self).append
        (ih fun other member => each other (List.mem_cons_of_mem _ member))

theorem Orderly.disciplined {script : List (LockAction Lock)}
    (orderly : Orderly rank floor script) : Disciplined rank [] script := by
  have whole := orderly [] [] (List.forall_mem_nil _) rfl
  rwa [List.append_nil] at whole

end Scripts

/-! ### Interleavings -/

structure Threads (Thread Lock : Type*) where
  held : Thread → List Lock
  left : Thread → List (LockAction Lock)

def Threads.start {Thread Lock : Type*}
    (scripts : Thread → List (LockAction Lock)) : Threads Thread Lock where
  held := fun _ => []
  left := scripts

def Threads.Free {Thread Lock : Type*} (threads : Threads Thread Lock)
    (lock : Lock) : Prop :=
  ∀ thread, lock ∉ threads.held thread

section Interleavings

variable {Thread Lock : Type*} [DecidableEq Thread] [DecidableEq Lock]

def Threads.move (threads : Threads Thread Lock) (thread : Thread)
    (held : List Lock) (left : List (LockAction Lock)) :
    Threads Thread Lock where
  held := Function.update threads.held thread held
  left := Function.update threads.left thread left

/-- A thread waits for a lock that somebody holds, itself included.  Nothing
stops it from making or destroying one. -/
inductive Step (threads : Threads Thread Lock) :
    Thread → Threads Thread Lock → Prop
  | acquire {thread : Thread} {lock : Lock} {rest : List (LockAction Lock)}
      (next : threads.left thread = .acquire lock :: rest)
      (free : threads.Free lock) :
      Step threads thread
        (threads.move thread (lock :: threads.held thread) rest)
  | release {thread : Thread} {lock : Lock} {rest : List (LockAction Lock)}
      (next : threads.left thread = .release lock :: rest)
      (mine : lock ∈ threads.held thread) :
      Step threads thread
        (threads.move thread ((threads.held thread).erase lock) rest)
  | renew {thread : Thread} {lock : Lock} {rest : List (LockAction Lock)}
      (next : threads.left thread = .renew lock :: rest) :
      Step threads thread (threads.move thread (threads.held thread) rest)

inductive Reaches (start : Threads Thread Lock) : Threads Thread Lock → Prop
  | refl : Reaches start start
  | step {threads next : Threads Thread Lock} {thread : Thread}
      (before : Reaches start threads) (moved : Step threads thread next) :
      Reaches start next

theorem Reaches.trans {start middle last : Threads Thread Lock}
    (first : Reaches start middle) (second : Reaches middle last) :
    Reaches start last := by
  induction second with
  | refl => exact first
  | step _ moved ih => exact .step ih moved

/-- No other thread uses a lock that a script makes or destroys. -/
def Apart (scripts : Thread → List (LockAction Lock)) : Prop :=
  ∀ first second lock, first ≠ second → .renew lock ∈ scripts first →
    ∀ action ∈ scripts second, action.lock ≠ lock

/-- What every interleaving keeps: each thread still follows the order, a lock
is in one hand at most, and one that will be made or destroyed is left alone by
the other threads. -/
structure InOrder (rank : Lock → Nat) (threads : Threads Thread Lock) :
    Prop where
  disciplined : ∀ thread,
    Disciplined rank (threads.held thread) (threads.left thread)
  distinct : ∀ thread, (threads.held thread).Nodup
  exclusive : ∀ first second lock, lock ∈ threads.held first →
    lock ∈ threads.held second → first = second
  apart : Apart threads.left
  unheld : ∀ first second lock, first ≠ second →
    .renew lock ∈ threads.left first → lock ∉ threads.held second

variable {rank : Lock → Nat} {threads next : Threads Thread Lock}

omit [DecidableEq Thread] in
theorem inOrder_start {scripts : Thread → List (LockAction Lock)}
    (orderly : ∀ thread, Orderly rank 0 (scripts thread))
    (apart : Apart scripts) : InOrder rank (Threads.start scripts) where
  disciplined := fun thread => (orderly thread).disciplined
  distinct := fun _ => List.nodup_nil
  exclusive := by
    intro first second lock member
    cases member
  apart := apart
  unheld := by
    intro first second lock _ _ member
    cases member

/-- Every script gets shorter. -/
theorem Step.left {thread other : Thread} (moved : Step threads thread next) :
    (next.left other).Sublist (threads.left other) := by
  have shorter {held : List Lock} {action : LockAction Lock}
      {rest : List (LockAction Lock)}
      (ahead : threads.left thread = action :: rest) :
      ((threads.move thread held rest).left other).Sublist
        (threads.left other) := by
    by_cases same : other = thread
    · subst other
      simp only [Threads.move, Function.update_self, ahead]
      exact List.sublist_cons_self action rest
    · simp only [Threads.move, Function.update_of_ne same]
      exact List.Sublist.refl _
  cases moved with
  | acquire ahead _ => exact shorter ahead
  | release ahead _ => exact shorter ahead
  | renew ahead => exact shorter ahead

/-- A lock in hand was there before, or the thread has just acquired it. -/
theorem Step.held {thread other : Thread} {lock : Lock}
    (moved : Step threads thread next) (mine : lock ∈ next.held other) :
    lock ∈ threads.held other ∨
      other = thread ∧ .acquire lock ∈ threads.left thread := by
  cases moved with
  | @acquire taken rest ahead free =>
      by_cases same : other = thread
      · subst other
        simp only [Threads.move, Function.update_self] at mine
        rcases List.mem_cons.mp mine with rfl | before
        · refine Or.inr ⟨rfl, ?_⟩
          rw [ahead]
          exact List.mem_cons_self
        · exact Or.inl before
      · simp only [Threads.move, Function.update_of_ne same] at mine
        exact Or.inl mine
  | @release given rest ahead held =>
      by_cases same : other = thread
      · subst other
        simp only [Threads.move, Function.update_self] at mine
        exact Or.inl (List.mem_of_mem_erase mine)
      · simp only [Threads.move, Function.update_of_ne same] at mine
        exact Or.inl mine
  | renew ahead =>
      simp only [Threads.move, Function.update_eq_self] at mine
      exact Or.inl mine

theorem InOrder.apart_step {thread : Thread} (inOrder : InOrder rank threads)
    (moved : Step threads thread next) : Apart next.left := by
  intro first second lock different renewed action member
  exact inOrder.apart first second lock different
    (moved.left.subset renewed) action (moved.left.subset member)

theorem InOrder.unheld_step {thread : Thread} (inOrder : InOrder rank threads)
    (moved : Step threads thread next) {first second : Thread} {lock : Lock}
    (different : first ≠ second) (renewed : .renew lock ∈ next.left first) :
    lock ∉ next.held second := by
  have before := moved.left.subset renewed
  intro mine
  rcases moved.held mine with held | ⟨rfl, acquired⟩
  · exact inOrder.unheld first second lock different before held
  · exact inOrder.apart first second lock different before _ acquired rfl

/-- A move keeps the order, where what the thread holds afterwards follows its
script and is in no other hand. -/
theorem InOrder.move {thread : Thread} {held : List Lock}
    {rest : List (LockAction Lock)} (inOrder : InOrder rank threads)
    (follows : Disciplined rank held rest) (distinct : held.Nodup)
    (mine : ∀ lock ∈ held, ∀ other, other ≠ thread →
      lock ∉ threads.held other)
    (apart : Apart (threads.move thread held rest).left)
    (unheld : ∀ first second lock, first ≠ second →
      .renew lock ∈ (threads.move thread held rest).left first →
      lock ∉ (threads.move thread held rest).held second) :
    InOrder rank (threads.move thread held rest) := by
  constructor
  · intro other
    by_cases same : other = thread
    · subst other
      simp only [Threads.move, Function.update_self]
      exact follows
    · simp only [Threads.move, Function.update_of_ne same]
      exact inOrder.disciplined other
  · intro other
    by_cases same : other = thread
    · subst other
      simp only [Threads.move, Function.update_self]
      exact distinct
    · simp only [Threads.move, Function.update_of_ne same]
      exact inOrder.distinct other
  · intro first second lock
    by_cases isFirst : first = thread <;> by_cases isSecond : second = thread
    · intro _ _
      rw [isFirst, isSecond]
    · subst first
      simp only [Threads.move, Function.update_self,
        Function.update_of_ne isSecond]
      exact fun here there => absurd there (mine lock here second isSecond)
    · subst second
      simp only [Threads.move, Function.update_self,
        Function.update_of_ne isFirst]
      exact fun there here => absurd there (mine lock here first isFirst)
    · simp only [Threads.move, Function.update_of_ne isFirst,
        Function.update_of_ne isSecond]
      exact inOrder.exclusive first second lock
  · exact apart
  · exact unheld

theorem InOrder.step {thread : Thread} (inOrder : InOrder rank threads)
    (moved : Step threads thread next) : InOrder rank next := by
  have apart := inOrder.apart_step moved
  have unheld : ∀ first second lock, first ≠ second →
      .renew lock ∈ next.left first → lock ∉ next.held second :=
    fun _ _ _ different renewed => inOrder.unheld_step moved different renewed
  have follows := inOrder.disciplined thread
  have distinct := inOrder.distinct thread
  have alone : ∀ lock ∈ threads.held thread, ∀ other, other ≠ thread →
      lock ∉ threads.held other := by
    intro lock mine other different theirs
    exact different (inOrder.exclusive other thread lock theirs mine)
  cases moved with
  | acquire ahead free =>
      rw [ahead] at follows
      refine inOrder.move follows.2
        (List.nodup_cons.mpr ⟨free thread, distinct⟩) ?_ apart unheld
      intro lock taken other different
      rcases List.mem_cons.mp taken with rfl | before
      · exact free other
      · exact alone lock before other different
  | release ahead _ =>
      rw [ahead] at follows
      refine inOrder.move follows.2 (distinct.erase _) ?_ apart unheld
      intro lock kept
      exact alone lock (List.mem_of_mem_erase kept)
  | renew ahead =>
      rw [ahead] at follows
      exact inOrder.move follows.2 distinct alone apart unheld

theorem inOrder_reached {start : Threads Thread Lock}
    (inOrder : InOrder rank start) (reached : Reaches start threads) :
    InOrder rank threads := by
  induction reached with
  | refl => exact inOrder
  | step _ moved ih => exact ih.step moved

/-- A lock is free and out of use when it is made or destroyed. -/
theorem InOrder.renews (inOrder : InOrder rank threads) {thread : Thread}
    {lock : Lock} {rest : List (LockAction Lock)}
    (next : threads.left thread = .renew lock :: rest) :
    threads.Free lock ∧ ∀ other, other ≠ thread →
      ∀ action ∈ threads.left other, action.lock ≠ lock := by
  have ahead : .renew lock ∈ threads.left thread := by
    rw [next]
    exact List.mem_cons_self
  refine ⟨fun other => ?_, fun other different =>
    inOrder.apart thread other lock different.symm ahead⟩
  by_cases same : other = thread
  · subst other
    have follows := inOrder.disciplined thread
    rw [next] at follows
    exact follows.1
  · exact inOrder.unheld thread other lock (Ne.symm same) ahead

/-! ### Progress -/

def Threads.Finished (threads : Threads Thread Lock) : Prop :=
  ∀ thread, threads.left thread = []

omit [DecidableEq Thread] in
/-- Nothing is held once all threads are done. -/
theorem InOrder.all_free (inOrder : InOrder rank threads)
    (finished : threads.Finished) (lock : Lock) : threads.Free lock := by
  intro thread member
  have follows := inOrder.disciplined thread
  rw [finished thread] at follows
  have none_ : threads.held thread = [] := follows
  rw [none_] at member
  cases member

/-- A thread that holds a lock can move, unless it waits for a lock that ranks
above all of its own. -/
theorem InOrder.moves_or_waits (inOrder : InOrder rank threads)
    {thread : Thread} {lock : Lock} (mine : lock ∈ threads.held thread) :
    (∃ next, Step threads thread next) ∨
      ∃ wanted, rank lock < rank wanted ∧ ¬threads.Free wanted := by
  have follows := inOrder.disciplined thread
  cases ahead : threads.left thread with
  | nil =>
      rw [ahead] at follows
      have none_ : threads.held thread = [] := follows
      rw [none_] at mine
      cases mine
  | cons action rest =>
      rw [ahead] at follows
      cases action with
      | release given => exact Or.inl ⟨_, .release ahead follows.1⟩
      | renew fresh => exact Or.inl ⟨_, .renew ahead⟩
      | acquire wanted =>
          by_cases free : threads.Free wanted
          · exact Or.inl ⟨_, .acquire ahead free⟩
          · exact Or.inr ⟨wanted, follows.1 lock mine, free⟩

/-- Somebody holds a lock above which nobody holds one, and can move. -/
theorem InOrder.progress {top : Nat} (bounded : ∀ lock, rank lock ≤ top)
    (inOrder : InOrder rank threads) (working : ¬threads.Finished) :
    ∃ thread next, Step threads thread next := by
  by_cases idle : ∀ lock, threads.Free lock
  · obtain ⟨thread, unfinished⟩ := not_forall.mp working
    have follows := inOrder.disciplined thread
    cases ahead : threads.left thread with
    | nil => exact absurd ahead unfinished
    | cons action rest =>
        rw [ahead] at follows
        cases action with
        | acquire wanted => exact ⟨thread, _, .acquire ahead (idle wanted)⟩
        | release given => exact absurd follows.1 (idle given thread)
        | renew fresh => exact ⟨thread, _, .renew ahead⟩
  · -- The distance to the top shrinks with every lock that is waited for.
    obtain ⟨lock, taken⟩ := not_forall.mp idle
    induction distance : top - rank lock using Nat.strong_induction_on
      generalizing lock with
    | _ distance ih =>
        subst distance
        obtain ⟨thread, held⟩ := not_forall.mp taken
        rcases inOrder.moves_or_waits (not_not.mp held) with
          ⟨next, moved⟩ | ⟨wanted, higher, waited⟩
        · exact ⟨thread, next, moved⟩
        · have below := bounded wanted
          exact ih (top - rank wanted) (by omega) wanted waited rfl

variable [Fintype Thread]

def Threads.work (threads : Threads Thread Lock) : Nat :=
  ∑ thread, (threads.left thread).length

theorem Step.work {thread : Thread} (moved : Step threads thread next) :
    next.work < threads.work := by
  have shorter : ∀ held action rest,
      threads.left thread = action :: rest →
      (threads.move thread held rest).work < threads.work := by
    intro held action rest ahead
    unfold Threads.work
    apply Finset.sum_lt_sum
    · intro other _
      by_cases same : other = thread
      · subst other
        simp only [Threads.move, Function.update_self, ahead]
        exact Nat.le_succ _
      · simp only [Threads.move, Function.update_of_ne same]
        exact le_rfl
    · refine ⟨thread, Finset.mem_univ thread, ?_⟩
      simp only [Threads.move, Function.update_self, ahead]
      exact Nat.lt_succ_self _
  cases moved with
  | acquire ahead _ => exact shorter _ _ _ ahead
  | release ahead _ => exact shorter _ _ _ ahead
  | renew ahead => exact shorter _ _ _ ahead

/-- From every state the threads can all be run to their ends. -/
theorem InOrder.completes {top : Nat} (bounded : ∀ lock, rank lock ≤ top)
    (inOrder : InOrder rank threads) :
    ∃ last, Reaches threads last ∧ last.Finished := by
  induction amount : threads.work using Nat.strong_induction_on
    generalizing threads with
  | _ amount ih =>
      subst amount
      by_cases finished : threads.Finished
      · exact ⟨threads, .refl, finished⟩
      · obtain ⟨thread, next, moved⟩ := inOrder.progress bounded finished
        obtain ⟨last, reached, done⟩ :=
          ih next.work moved.work (inOrder.step moved) rfl
        exact ⟨last, (Reaches.step .refl moved).trans reached, done⟩

end Interleavings

end LockOrder
