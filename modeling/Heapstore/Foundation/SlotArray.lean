/-
Arrays of slots, read as the list of the slots below a counter.
-/

import Mathlib.Data.List.Basic
import Mathlib.Logic.Function.Basic

namespace SlotArray

variable {Item : Type*} {before after : Nat → Item} {count : Nat}

/-- Writes behind the counter do not show. -/
theorem map_range_congr (same : ∀ index < count, after index = before index) :
    (List.range count).map after = (List.range count).map before := by
  apply List.map_congr_left
  intro index member
  exact same index (List.mem_range.mp member)

/-- Items that were written behind the counter come behind the others. -/
theorem map_range_extend {items : List Item}
    (same : ∀ index < count, after index = before index)
    (new : ∀ index (within : index < items.length),
      after (count + index) = items[index]) :
    (List.range (count + items.length)).map after =
      (List.range count).map before ++ items := by
  rw [List.range_add, List.map_append, map_range_congr same, List.map_map]
  congr 1
  apply List.ext_getElem
  · rw [List.length_map, List.length_range]
  · intro index _ within
    rw [List.getElem_map, List.getElem_range, Function.comp_apply]
    exact new index within

theorem map_range_update_behind (values : Nat → Item) (count : Nat)
    (last : Item) :
    (List.range count).map (Function.update values count last) =
      (List.range count).map values :=
  map_range_congr fun _ below => Function.update_of_ne (Nat.ne_of_lt below) ..

theorem map_range_update (values : Nat → Item) (count : Nat) (last : Item) :
    (List.range (count + 1)).map (Function.update values count last) =
      (List.range count).map values ++ [last] := by
  rw [List.range_succ, List.map_append, map_range_update_behind,
    List.map_singleton, Function.update_self]

/-- The slots around one below the counter. -/
theorem map_range_split (values : Nat → Item) {index count : Nat}
    (below : index < count) :
    (List.range count).map values =
      (List.range index).map values ++ values index ::
        (List.range (count - index - 1)).map
          fun later => values (index + (later + 1)) := by
  obtain ⟨behind, rfl⟩ := Nat.exists_eq_add_of_lt below
  have rest : index + behind + 1 - index - 1 = behind := by omega
  rw [rest, Nat.add_assoc, List.range_add, List.range_succ_eq_map,
    List.map_append, List.map_cons, List.map_cons, List.map_map, List.map_map]
  rfl

theorem map_range_update_at (values : Nat → Item) {index count : Nat}
    (below : index < count) (new : Item) :
    (List.range count).map (Function.update values index new) =
      (List.range index).map values ++ new ::
        (List.range (count - index - 1)).map
          fun later => values (index + (later + 1)) := by
  rw [map_range_split _ below, map_range_update_behind, Function.update_self]
  congr 2
  apply List.map_congr_left
  intro later _
  exact Function.update_of_ne (by omega) ..

end SlotArray
