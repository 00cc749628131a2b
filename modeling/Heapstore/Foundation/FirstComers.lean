/-
Names in the order in which they first came, and a table with room for the
first of them.
-/

import Mathlib.Data.List.Nodup

namespace FirstComers

variable {Name : Type*} [DecidableEq Name]

/-- A name that is new comes behind the others. -/
def note (names : List Name) (name : Name) : List Name :=
  if name ∈ names then names else names ++ [name]

theorem nodup_note {names : List Name} (distinct : names.Nodup) (name : Name) :
    (note names name).Nodup := by
  unfold note
  split
  · exact distinct
  · next absent =>
      rw [← List.concat_eq_append]
      exact distinct.concat absent

theorem take_note_of_seated {names : List Name} {name : Name} {room : Nat}
    (seated : name ∈ names.take room) :
    (note names name).take room = names.take room := by
  unfold note
  rw [if_pos (List.mem_of_mem_take seated)]

/-- A name without a seat gets one as long as the table has room. -/
theorem take_note_of_room {names : List Name} {name : Name} {room : Nat}
    (waiting : name ∉ names.take room) (free : (names.take room).length < room) :
    (note names name).take room = names.take room ++ [name] := by
  rw [List.length_take] at free
  have all : names.take room = names := List.take_of_length_le (by omega)
  rw [all] at waiting ⊢
  unfold note
  rw [if_neg waiting]
  apply List.take_of_length_le
  rw [List.length_append, List.length_singleton]
  omega

theorem take_note_of_full {names : List Name} {name : Name} {room : Nat}
    (full : ¬(names.take room).length < room) :
    (note names name).take room = names.take room := by
  rw [List.length_take] at full
  unfold note
  split
  · rfl
  · exact List.take_append_of_le_length (by omega)

theorem mem_take_note_iff {names : List Name} {name : Name} {room : Nat}
    (waiting : name ∉ names.take room) :
    name ∈ (note names name).take room ↔ (names.take room).length < room := by
  by_cases free : (names.take room).length < room
  · rw [take_note_of_room waiting free]
    exact iff_of_true (List.mem_append_right _ List.mem_cons_self) free
  · rw [take_note_of_full free]
    exact iff_of_false waiting free

end FirstComers
