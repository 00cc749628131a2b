/-
Bounded printing at a moving position.

Each print stores what fits behind the position, with a terminator, and moves
the position by the length of the whole text.  A cut text leaves its terminator
in front of the position, so nothing printed later is seen by a reader of the
string.  The buffer thus shows a prefix of everything printed.
-/

import Heapstore.Foundation.ByteText
import Mathlib.Data.List.TakeDrop

namespace PrintedBuffer

open ByteText

/-- The text of a format, its pieces around the printed arguments. -/
def format : List Bytes → List Bytes → Bytes
  | [], arguments => arguments.flatten
  | piece :: pieces, [] => piece ++ format pieces []
  | piece :: pieces, argument :: arguments =>
      piece ++ (argument ++ format pieces arguments)

theorem format_perm (pieces arguments : List Bytes) :
    (format pieces arguments).Perm (pieces.flatten ++ arguments.flatten) := by
  induction pieces generalizing arguments with
  | nil => exact List.Perm.refl _
  | cons piece pieces ih =>
      cases arguments with
      | nil =>
          rw [format, List.flatten_cons, List.append_assoc]
          exact (ih []).append_left piece
      | cons argument arguments =>
          rw [format, List.flatten_cons, List.flatten_cons, List.append_assoc]
          apply List.Perm.append_left
          exact ((ih arguments).append_left argument).trans (by
            rw [← List.append_assoc, ← List.append_assoc]
            exact List.perm_append_comm.append_right _)

theorem length_format (pieces arguments : List Bytes) :
    (format pieces arguments).length =
      pieces.flatten.length + arguments.flatten.length := by
  rw [(format_perm pieces arguments).length_eq, List.length_append]

theorem mem_format {pieces arguments : List Bytes} {byte : UInt8} :
    byte ∈ format pieces arguments ↔
      byte ∈ pieces.flatten ∨ byte ∈ arguments.flatten := by
  rw [(format_perm pieces arguments).mem_iff, List.mem_append]

structure Buffer where
  cells : Bytes
  position : Nat

/-- Fresh cells hold whatever was there. -/
def freshCells (junk : Nat → UInt8) (start count : Nat) : Bytes :=
  (List.range count).map fun index => junk (start + index)

def Buffer.allocate (junk : Nat → UInt8) (size : Nat) : Buffer where
  cells := freshCells junk 0 size
  position := 0

/-- The bytes that `snprintf` stores into the given room. -/
def stored (room : Nat) (text : Bytes) : Bytes :=
  if room = 0 then [] else printTo room text ++ [0]

def overwrite (cells : Bytes) (position : Nat) (bytes : Bytes) : Bytes :=
  cells.take position ++ (bytes ++ cells.drop (position + bytes.length))

def Buffer.print (text : Bytes) (buffer : Buffer) : Buffer where
  cells := overwrite buffer.cells buffer.position
    (stored (buffer.cells.length - buffer.position) text)
  position := buffer.position + text.length

def Buffer.double (junk : Nat → UInt8) (buffer : Buffer) : Buffer :=
  { buffer with
    cells := buffer.cells ++
      freshCells junk buffer.cells.length buffer.cells.length }

def Buffer.shown (buffer : Buffer) : Bytes :=
  cString buffer.cells

theorem length_freshCells (junk : Nat → UInt8) (start count : Nat) :
    (freshCells junk start count).length = count := by
  unfold freshCells
  rw [List.length_map, List.length_range]

theorem length_stored_le (room : Nat) (text : Bytes) :
    (stored room text).length ≤ room := by
  unfold stored
  by_cases empty : room = 0
  · rw [if_pos empty]
    exact Nat.zero_le room
  · rw [if_neg empty, List.length_append]
    exact length_printTo_lt (Nat.pos_of_ne_zero empty) text

@[simp] theorem length_print (text : Bytes) (buffer : Buffer) :
    (buffer.print text).cells.length = buffer.cells.length := by
  have bound := length_stored_le
    (buffer.cells.length - buffer.position) text
  change (overwrite _ _ _).length = _
  unfold overwrite
  rw [List.length_append, List.length_append, List.length_take,
    List.length_drop]
  omega

@[simp] theorem length_double (junk : Nat → UInt8) (buffer : Buffer) :
    (buffer.double junk).cells.length = 2 * buffer.cells.length := by
  change (buffer.cells ++ _).length = _
  rw [List.length_append, length_freshCells]
  omega

/-! ### What a buffer shows -/

/-- The cells start with a terminated string. -/
structure Holds (cells shown : Bytes) : Prop where
  clean : (0 : UInt8) ∉ shown
  terminated : ∃ rest, cells = shown ++ 0 :: rest

/-- Of everything printed, the buffer shows a prefix. -/
structure Shows (buffer : Buffer) (shown full : Bytes) : Prop where
  holds : Holds buffer.cells shown
  front : shown <+: full
  position : buffer.position = full.length

section Printing

variable {buffer : Buffer} {cells shown full text : Bytes}

theorem Shows.shown_eq (shows_ : Shows buffer shown full) :
    buffer.shown = shown := by
  obtain ⟨rest, same⟩ := shows_.holds.terminated
  unfold Buffer.shown cString
  rw [same]
  apply takeWhile_prefix
  · intro byte member
    have different : byte ≠ 0 := fun zero =>
      shows_.holds.clean (zero ▸ member)
    simpa using different
  · intro byte head
    cases head
    rfl

theorem clean_printTo (size : Nat) (clean : (0 : UInt8) ∉ text) :
    (0 : UInt8) ∉ printTo size text :=
  fun member => clean (List.mem_of_mem_take member)

/-- At the end of the string a print continues it. -/
theorem Holds.print_end (holds : Holds buffer.cells shown)
    (clean : (0 : UInt8) ∉ text) (atEnd : buffer.position = shown.length)
    (inside : shown.length < buffer.cells.length) :
    Holds (buffer.print text).cells
      (shown ++ printTo (buffer.cells.length - shown.length) text) := by
  obtain ⟨rest, same⟩ := holds.terminated
  have room : buffer.cells.length - shown.length ≠ 0 := by omega
  refine ⟨?_, ?_⟩
  · rw [List.mem_append, not_or]
    exact ⟨holds.clean, clean_printTo _ clean⟩
  · change ∃ rest, overwrite _ _ _ = _
    unfold overwrite stored
    rw [atEnd, if_neg room, same, List.take_left]
    exact ⟨_, by simp only [List.append_assoc, List.cons_append,
      List.nil_append]; rfl⟩

/-- Behind the string a print is not seen. -/
theorem Holds.print_behind (holds : Holds buffer.cells shown)
    (behind : shown.length < buffer.position) :
    Holds (buffer.print text).cells shown := by
  obtain ⟨rest, same⟩ := holds.terminated
  refine ⟨holds.clean, ?_⟩
  have split : buffer.position =
      shown.length + ((buffer.position - shown.length - 1) + 1) := by omega
  change ∃ rest, overwrite _ _ _ = _
  unfold overwrite
  rw [split, same, List.take_length_add_append, List.take_succ_cons]
  exact ⟨_, by rw [List.append_assoc, List.cons_append]⟩

/-- A print keeps the string whole exactly if it was whole and the text fits. -/
theorem Shows.print (shows_ : Shows buffer shown full)
    (clean : (0 : UInt8) ∉ text) (inside : full.length < buffer.cells.length) :
    ∃ next, Shows (buffer.print text) next (full ++ text) ∧
      (next = full ++ text ↔ shown = full ∧
        full.length + text.length < buffer.cells.length) := by
  have position : (buffer.print text).position = (full ++ text).length := by
    change buffer.position + text.length = _
    rw [shows_.position, List.length_append]
  by_cases whole : shown = full
  · subst whole
    refine ⟨_, ⟨shows_.holds.print_end clean shows_.position inside,
      (List.prefix_append_right_inj shown).mpr (List.take_prefix _ text),
      position⟩, ?_⟩
    rw [List.append_cancel_left_eq]
    unfold printTo
    rw [List.take_eq_self_iff, eq_self, true_and]
    omega
  · have shorter : shown.length < full.length := by
      apply Nat.lt_of_le_of_ne shows_.front.length_le
      intro same
      exact whole (shows_.front.eq_of_length same)
    refine ⟨shown, ⟨shows_.holds.print_behind (shows_.position ▸ shorter),
      shows_.front.trans (List.prefix_append full text), position⟩, ?_⟩
    constructor
    · intro same
      have lengths := congrArg List.length same
      rw [List.length_append] at lengths
      omega
    · intro both
      exact absurd both.1 whole

theorem Shows.double (shows_ : Shows buffer shown full) (junk : Nat → UInt8) :
    Shows (buffer.double junk) shown full where
  holds := by
    obtain ⟨rest, same⟩ := shows_.holds.terminated
    refine ⟨shows_.holds.clean, ?_⟩
    change ∃ rest, buffer.cells ++ _ = _
    rw [same]
    exact ⟨_, by rw [List.append_assoc, List.cons_append]⟩
  front := shows_.front
  position := shows_.position

/-- The first print into a fresh allocation. -/
theorem shows_first {junk : Nat → UInt8} {size : Nat}
    (clean : (0 : UInt8) ∉ text) (fits : text.length < size) :
    Shows ((Buffer.allocate junk size).print text) text text := by
  have cells : ((Buffer.allocate junk size).print text).cells =
      text ++ 0 :: (freshCells junk 0 size).drop (text.length + 1) := by
    change overwrite (freshCells junk 0 size) 0 (stored _ text) = _
    have room : size ≠ 0 := by omega
    unfold overwrite stored Buffer.allocate
    simp only [length_freshCells, Nat.sub_zero, if_neg room,
      printTo_of_fits fits, List.take_zero, List.nil_append,
      List.length_append, List.length_singleton, Nat.zero_add]
    rw [List.append_assoc]
    rfl
  refine ⟨⟨clean, _, cells⟩, List.prefix_rfl, ?_⟩
  change 0 + text.length = text.length
  rw [Nat.zero_add]

end Printing

end PrintedBuffer
