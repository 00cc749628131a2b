/-
An append-only text that is cut into pieces under names.

The text is a list of chunks.  The sealed pieces stand under their names, in the
order in which they were sealed, and the open piece follows them.
-/

import Mathlib.Data.List.Forall2
import Mathlib.Data.List.Nodup

namespace SealedPieces

variable {Name Item : Type*}

/-- The contents under the names and the open content are the chunks in order,
none of them cut. -/
def Holds (content : Name → List Item) (names : List Name)
    (opened : List Item) (chunks : List (List Item)) : Prop :=
  ∃ pieces last,
    List.Forall₂ (fun name piece => content name = List.flatten piece) names
      pieces ∧
    opened = List.flatten last ∧ pieces.flatten ++ last = chunks

section Contents

variable {content next : Name → List Item} {names : List Name}
  {opened : List Item} {chunks : List (List Item)}

theorem placed_congr {pieces : List (List (List Item))}
    (placed : List.Forall₂ (fun name piece =>
      content name = List.flatten piece) names pieces)
    (same : ∀ name ∈ names, next name = content name) :
    List.Forall₂ (fun name piece => next name = List.flatten piece) names
      pieces := by
  obtain ⟨lengths, each⟩ := List.forall₂_iff_zip.mp placed
  apply List.forall₂_iff_zip.mpr
  refine ⟨lengths, ?_⟩
  intro name piece member
  rw [same name (List.of_mem_zip member).1]
  exact each member

theorem Holds.extend (holds : Holds content names opened chunks)
    (chunk : List Item) (same : ∀ name ∈ names, next name = content name) :
    Holds next names (opened ++ chunk) (chunks ++ [chunk]) := by
  obtain ⟨pieces, last, placed, opens, whole⟩ := holds
  refine ⟨pieces, last ++ [chunk], placed_congr placed same, ?_, ?_⟩
  · rw [opens, List.flatten_append, List.flatten_singleton]
  · rw [← whole, List.append_assoc]

theorem Holds.text (holds : Holds content names opened chunks) :
    names.flatMap content ++ opened = chunks.flatten := by
  obtain ⟨pieces, last, placed, opens, whole⟩ := holds
  have sealed_ : names.flatMap content = pieces.flatten.flatten := by
    clear whole opens
    induction placed with
    | nil => rfl
    | @cons name piece names pieces here _ ih =>
        rw [List.flatMap_cons, here, ih, List.flatten_cons, List.flatten_append]
  rw [sealed_, opens, ← whole, List.flatten_append]

end Contents

section Sealing

variable [DecidableEq Name] {content next : Name → List Item}
  {names : List Name} {opened : List Item} {chunks : List (List Item)}
  {name : Name}

/-- Sealing under a name takes it from where it stood. -/
def resealed (names : List Name) (name : Name) : List Name :=
  names.erase name ++ [name]

theorem nodup_resealed (distinct : names.Nodup) (name : Name) :
    (resealed names name).Nodup := by
  unfold resealed
  rw [← List.concat_eq_append]
  exact (distinct.erase name).concat fun member =>
    (distinct.mem_erase_iff.mp member).1 rfl

theorem mem_resealed {other : Name} (member : other ∈ resealed names name) :
    other ∈ names ∨ other = name := by
  rcases List.mem_append.mp member with old | new
  · exact Or.inl (List.mem_of_mem_erase old)
  · exact Or.inr (List.mem_singleton.mp new)

/-- A name that holds nothing can be given up. -/
theorem erase_empty {pieces : List (List (List Item))}
    (placed : List.Forall₂ (fun name piece =>
      content name = List.flatten piece) names pieces)
    (filled : ∀ chunk ∈ pieces.flatten, chunk ≠ [])
    (empty : name ∈ names → content name = []) :
    ∃ rest, List.Forall₂ (fun name piece => content name = List.flatten piece)
      (names.erase name) rest ∧ rest.flatten = pieces.flatten := by
  induction placed with
  | nil => exact ⟨[], List.Forall₂.nil, rfl⟩
  | @cons first piece names pieces here later ih =>
      by_cases same : first = name
      · subst same
        have nothing := empty List.mem_cons_self
        rw [here, List.flatten_eq_nil_iff] at nothing
        have none_ : piece = [] := by
          apply List.eq_nil_iff_forall_not_mem.mpr
          intro chunk member
          exact filled chunk (List.mem_append_left _ member)
            (nothing chunk member)
        rw [List.erase_cons_head, none_]
        exact ⟨pieces, later, rfl⟩
      · obtain ⟨rest, placed, flat⟩ := ih
          (fun chunk member => filled chunk (List.mem_append_right _ member))
          (fun member => empty (List.mem_cons_of_mem first member))
        rw [List.erase_cons_tail (by simpa using same)]
        refine ⟨piece :: rest, List.Forall₂.cons here placed, ?_⟩
        rw [List.flatten_cons, List.flatten_cons, flat]

/-- Sealing the open piece under a name whose content is not needed. -/
theorem Holds.sealed (holds : Holds content names opened chunks)
    (distinct : names.Nodup) (filled : ∀ chunk ∈ chunks, chunk ≠ [])
    (empty : name ∈ names → content name = []) (taken : next name = opened)
    (same : ∀ other ∈ names, other ≠ name → next other = content other) :
    Holds next (resealed names name) [] chunks := by
  obtain ⟨pieces, last, placed, opens, whole⟩ := holds
  obtain ⟨rest, kept, flat⟩ := erase_empty placed
    (fun chunk member => filled chunk (by
      rw [← whole]
      exact List.mem_append_left _ member)) empty
  refine ⟨rest ++ [last], [], ?_, rfl, ?_⟩
  · apply List.rel_append
    · apply placed_congr kept
      intro other member
      obtain ⟨different, listed⟩ := distinct.mem_erase_iff.mp member
      exact same other listed different
    · exact List.Forall₂.cons (taken.trans opens) List.Forall₂.nil
  · rw [List.flatten_append, flat, List.flatten_singleton, List.append_nil]
    exact whole

/-- Sealing under a name that holds something loses it. -/
theorem Holds.not_sealed (holds : Holds content names opened chunks)
    (distinct : names.Nodup) (member : name ∈ names)
    (lost : content name ≠ []) (taken : next name = opened)
    (same : ∀ other ∈ names, other ≠ name → next other = content other) :
    ¬Holds next (resealed names name) [] chunks := by
  intro after
  have before := congrArg List.length holds.text
  have later := congrArg List.length after.text
  have others : (names.erase name).flatMap next =
      (names.erase name).flatMap content := by
    apply List.flatMap_congr
    intro other kept
    obtain ⟨different, listed⟩ := distinct.mem_erase_iff.mp kept
    exact same other listed different
  have split := ((List.perm_cons_erase member).flatMap_right content).length_eq
  unfold resealed at later
  rw [List.flatMap_append, others, List.flatMap_singleton, taken,
    List.append_nil, List.length_append] at later
  rw [List.length_append, split, List.flatMap_cons, List.length_append] at before
  have positive := List.length_pos_iff.mpr lost
  omega

end Sealing

end SealedPieces
