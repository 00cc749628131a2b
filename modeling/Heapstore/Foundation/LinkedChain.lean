/-
Singly linked chains in a heap of cells.

A chain is read off the heap by following next pointers from a start.  The
lemmas say what a write outside a chain leaves alone, and how a cell is linked
behind the last one or taken off the front.
-/

import Mathlib.Data.List.Nodup
import Mathlib.Logic.Function.Basic

namespace LinkedChain

variable {Payload : Type*}

structure Cell (Payload : Type*) where
  payload : Payload
  next : Option Nat

abbrev Heap (Payload : Type*) := Nat → Option (Cell Payload)

/-- Following the pointers from a start reads these addresses and payloads. -/
inductive Chain (heap : Heap Payload) :
    Option Nat → List (Nat × Payload) → Prop where
  | nil : Chain heap none []
  | cons (address : Nat) (payload : Payload) (next : Option Nat)
      (rest : List (Nat × Payload))
      (here : heap address = some { payload := payload, next := next })
      (later : Chain heap next rest) :
      Chain heap (some address) ((address, payload) :: rest)

def addresses (cells : List (Nat × Payload)) : List Nat := cells.map Prod.fst

def payloads (cells : List (Nat × Payload)) : List Payload :=
  cells.map Prod.snd

variable {heap other : Heap Payload} {start : Option Nat}
  {cells : List (Nat × Payload)}

theorem Chain.unique {second : List (Nat × Payload)}
    (left : Chain heap start cells) (right : Chain heap start second) :
    cells = second := by
  induction left generalizing second with
  | nil =>
      cases right
      rfl
  | cons address payload next rest here _ ih =>
      cases right with
      | cons _ otherPayload otherNext others again later =>
          rw [here, Option.some.injEq, Cell.mk.injEq] at again
          obtain ⟨rfl, rfl⟩ := again
          rw [ih later]

theorem Chain.frame (chain : Chain heap start cells)
    (same : ∀ address ∈ addresses cells, other address = heap address) :
    Chain other start cells := by
  induction chain with
  | nil => exact .nil
  | cons address payload next rest here _ ih =>
      refine .cons address payload next rest ?_ (ih ?_)
      · rw [same address List.mem_cons_self, here]
      · intro later member
        exact same later (List.mem_cons_of_mem _ member)

theorem Chain.allocated (chain : Chain heap start cells) :
    ∀ address ∈ addresses cells, heap address ≠ none := by
  induction chain with
  | nil => exact nofun
  | cons address payload next rest here _ ih =>
      intro asked member
      rcases List.mem_cons.mp member with rfl | later
      · rw [here]
        exact Option.some_ne_none _
      · exact ih asked later

/-- A chain continues from each of its cells. -/
theorem Chain.from_mem (chain : Chain heap start cells) {address : Nat}
    (member : address ∈ addresses cells) :
    ∃ tail, Chain heap (some address) tail ∧ tail.length ≤ cells.length := by
  induction chain with
  | nil => cases member
  | cons first payload next rest here later ih =>
      rcases List.mem_cons.mp member with rfl | inRest
      · exact ⟨_, .cons _ payload next rest here later, Nat.le_refl _⟩
      · obtain ⟨tail, found, short⟩ := ih inRest
        exact ⟨tail, found, Nat.le_succ_of_le short⟩

/-- A chain that ends meets no cell twice. -/
theorem Chain.nodup (chain : Chain heap start cells) :
    (addresses cells).Nodup := by
  induction chain with
  | nil => exact List.nodup_nil
  | cons address payload next rest here later ih =>
      refine List.nodup_cons.mpr ⟨?_, ih⟩
      intro again
      obtain ⟨tail, found, short⟩ := later.from_mem again
      have whole := found.unique (.cons address payload next rest here later)
      rw [whole, List.length_cons] at short
      exact Nat.not_succ_le_self _ short

theorem Chain.empty (chain : Chain heap none cells) : cells = [] := by
  cases chain
  rfl

theorem Chain.first {address : Nat} (chain : Chain heap (some address) cells) :
    ∃ payload next rest, cells = (address, payload) :: rest ∧
      heap address = some { payload := payload, next := next } ∧
        Chain heap next rest := by
  cases chain with
  | cons _ payload next rest here later =>
      exact ⟨payload, next, rest, rfl, here, later⟩

theorem Chain.start_eq_none_iff (chain : Chain heap start cells) :
    start = none ↔ cells = [] := by
  cases chain <;> simp

/-! ### Linking behind the last cell -/

def lastAddress (cells : List (Nat × Payload)) : Option Nat :=
  cells.getLast?.map Prod.fst

theorem lastAddress_append (cells : List (Nat × Payload)) (address : Nat)
    (payload : Payload) :
    lastAddress (cells ++ [(address, payload)]) = some address := by
  unfold lastAddress
  rw [List.getLast?_concat, Option.map_some]

theorem lastAddress_eq_none_iff : lastAddress cells = none ↔ cells = [] := by
  unfold lastAddress
  rw [Option.map_eq_none_iff, List.getLast?_eq_none_iff]

theorem mem_of_lastAddress {address : Nat}
    (last : lastAddress cells = some address) : address ∈ addresses cells := by
  obtain ⟨cell, found, rfl⟩ := Option.map_eq_some_iff.mp last
  exact List.mem_map_of_mem (List.mem_of_getLast? found)

/-- The heap after `last->next = item`. -/
def link (heap : Heap Payload) (last item : Nat) : Option (Heap Payload) :=
  (heap last).map fun cell =>
    Function.update heap last (some { cell with next := some item })

theorem link_other {last item address : Nat} (different : address ≠ last)
    (linked : link heap last item = some other) :
    other address = heap address := by
  obtain ⟨cell, _, rfl⟩ := Option.map_eq_some_iff.mp linked
  exact Function.update_of_ne different _ _

theorem Chain.link_last {last item : Nat} {payload : Payload}
    (chain : Chain heap start cells) (ends : lastAddress cells = some last)
    (apart : item ∉ addresses cells)
    (fresh : heap item = some { payload := payload, next := none }) :
    ∃ other, link heap last item = some other ∧
      Chain other start (cells ++ [(item, payload)]) := by
  induction chain with
  | nil => cases ends
  | cons address found next rest here later ih =>
      have whole := Chain.cons address found next rest here later
      obtain ⟨unequal, elsewhere⟩ :=
        not_or.mp fun either => apart (List.mem_cons.mpr either)
      cases rest with
      | nil =>
          have same : address = last := Option.some.inj ends
          subst same
          -- The only cell is the last one, and its pointer is rewritten.
          have single : Chain (Function.update heap address
              (some { payload := found, next := some item })) (some item)
              [(item, payload)] := by
            refine .cons item payload none [] ?_ .nil
            rw [Function.update_of_ne unequal, fresh]
          refine ⟨Function.update heap address
            (some { payload := found, next := some item }), ?_, ?_⟩
          · simp only [link, here, Option.map_some]
          · exact .cons address found (some item) _
              (Function.update_self ..) single
      | cons second others =>
          have lastRest : lastAddress (second :: others) = some last := by
            unfold lastAddress at ends ⊢
            rwa [List.getLast?_cons_cons] at ends
          obtain ⟨other, linked, chained⟩ := ih lastRest elsewhere
          refine ⟨other, linked, .cons address found next _ ?_ chained⟩
          have different : address ≠ last := by
            rintro rfl
            exact (List.nodup_cons.mp whole.nodup).1
              (mem_of_lastAddress lastRest)
          rw [link_other different linked, here]

end LinkedChain
