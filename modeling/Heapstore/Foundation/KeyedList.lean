/-
Lists of items that carry their own key, read as finite maps.

A list denotes the map that sends a key to the first item carrying it.  Each
list operation below is characterized by what it does to that map, so a caller
never unfolds a traversal.
-/

import Mathlib.Data.List.Nodup
import Mathlib.Logic.Function.Basic

namespace KeyedList

variable {Item Key : Type*} [DecidableEq Key] (key : Item → Key)

def lookup (items : List Item) (wanted : Key) : Option Item :=
  items.find? fun item => key item = wanted

/-- Overwrite the first item that carries the key of the new one. -/
def replaceFirst (new : Item) : List Item → List Item
  | [] => []
  | item :: rest =>
      if key item = key new then new :: rest
      else item :: replaceFirst new rest

def removeFirst (wanted : Key) : List Item → List Item
  | [] => []
  | item :: rest =>
      if key item = wanted then rest
      else item :: removeFirst wanted rest

def Distinct (items : List Item) : Prop :=
  (items.map key).Nodup

@[simp] theorem lookup_nil (wanted : Key) :
    lookup key [] wanted = none := rfl

theorem lookup_cons (item : Item) (rest : List Item) (wanted : Key) :
    lookup key (item :: rest) wanted =
      if key item = wanted then some item else lookup key rest wanted := by
  unfold lookup
  rw [List.find?_cons]
  by_cases same : key item = wanted <;> simp [same]

theorem lookup_append (first second : List Item) (wanted : Key) :
    lookup key (first ++ second) wanted =
      (lookup key first wanted).or (lookup key second wanted) := by
  unfold lookup
  rw [List.find?_append]

theorem lookup_eq_none_iff (items : List Item) (wanted : Key) :
    lookup key items wanted = none ↔ wanted ∉ items.map key := by
  unfold lookup
  rw [List.find?_eq_none]
  constructor
  · intro absent member
    obtain ⟨item, present, same⟩ := List.mem_map.mp member
    exact absent item present (by simpa using same)
  · intro absent item present same
    have carried : key item = wanted := by simpa using same
    exact absent (List.mem_map.mpr ⟨item, present, carried⟩)

theorem key_of_lookup {items : List Item} {wanted : Key} {item : Item}
    (found : lookup key items wanted = some item) : key item = wanted := by
  have checked := List.find?_some found
  simpa using checked

theorem mem_of_lookup {items : List Item} {wanted : Key} {item : Item}
    (found : lookup key items wanted = some item) : item ∈ items :=
  List.mem_of_find?_eq_some found

/-- With distinct keys every item is the first one with its key. -/
theorem lookup_of_mem {items : List Item} {item : Item}
    (distinct : Distinct key items) (member : item ∈ items) :
    lookup key items (key item) = some item := by
  unfold Distinct at distinct
  induction items with
  | nil => cases member
  | cons first rest ih =>
      rw [List.map_cons, List.nodup_cons] at distinct
      rw [lookup_cons]
      rcases List.mem_cons.mp member with same | later
      · rw [same, if_pos rfl]
      · have different : key first ≠ key item := by
          intro same
          rw [same] at distinct
          exact distinct.1 (List.mem_map_of_mem later)
        rw [if_neg different]
        exact ih distinct.2 later

/-! ### Insertion -/

theorem lookup_push (new : Item) (items : List Item) :
    lookup key (new :: items) =
      Function.update (lookup key items) (key new) (some new) := by
  funext wanted
  rw [lookup_cons]
  by_cases same : key new = wanted
  · subst wanted
    rw [if_pos rfl, Function.update_self]
  · rw [if_neg same, Function.update_of_ne (Ne.symm same)]

theorem lookup_append_singleton (items : List Item) (new : Item)
    (absent : lookup key items (key new) = none) :
    lookup key (items ++ [new]) =
      Function.update (lookup key items) (key new) (some new) := by
  funext wanted
  rw [lookup_append, lookup_cons, lookup_nil]
  by_cases same : key new = wanted
  · subst wanted
    rw [absent, if_pos rfl, Function.update_self]
    rfl
  · rw [if_neg same, Function.update_of_ne (Ne.symm same), Option.or_none]

theorem distinct_push (new : Item) (items : List Item)
    (distinct : Distinct key items)
    (absent : lookup key items (key new) = none) :
    Distinct key (new :: items) :=
  List.nodup_cons.mpr ⟨(lookup_eq_none_iff key items _).mp absent, distinct⟩

/-! ### Replacement -/

theorem map_key_replaceFirst (new : Item) (items : List Item) :
    (replaceFirst key new items).map key = items.map key := by
  induction items with
  | nil => rfl
  | cons item rest ih =>
      by_cases same : key item = key new
      · rw [replaceFirst, if_pos same, List.map_cons, List.map_cons, same]
      · simp only [replaceFirst, if_neg same, List.map_cons, ih]

theorem length_replaceFirst (new : Item) (items : List Item) :
    (replaceFirst key new items).length = items.length := by
  have lengths := congrArg List.length (map_key_replaceFirst key new items)
  simpa only [List.length_map] using lengths

theorem distinct_replaceFirst (new : Item) (items : List Item)
    (distinct : Distinct key items) :
    Distinct key (replaceFirst key new items) := by
  unfold Distinct
  rw [map_key_replaceFirst]
  exact distinct

theorem lookup_replaceFirst (new : Item) (items : List Item)
    (present : lookup key items (key new) ≠ none) :
    lookup key (replaceFirst key new items) =
      Function.update (lookup key items) (key new) (some new) := by
  induction items with
  | nil => exact absurd rfl present
  | cons item rest ih =>
      by_cases same : key item = key new
      · funext wanted
        simp only [replaceFirst, if_pos same, lookup_cons]
        by_cases here : key new = wanted
        · subst wanted
          rw [if_pos rfl, Function.update_self]
        · rw [if_neg here, Function.update_of_ne (Ne.symm here), lookup_cons,
            if_neg (fun equal => here (same.symm.trans equal))]
      · have restPresent : lookup key rest (key new) ≠ none := by
          rwa [lookup_cons, if_neg same] at present
        funext wanted
        simp only [replaceFirst, if_neg same, lookup_cons]
        rw [ih restPresent]
        by_cases here : key new = wanted
        · subst wanted
          rw [if_neg same, Function.update_self, Function.update_self]
        · rw [Function.update_of_ne (Ne.symm here),
            Function.update_of_ne (Ne.symm here), lookup_cons]

/-- Rewriting every item under one key, keeping that key, acts on one entry of
the map. -/
theorem lookup_mapAt (items : List Item) (wanted : Key) (change : Item → Item)
    (keeps : ∀ item, key item = wanted → key (change item) = wanted) :
    lookup key (items.map fun item =>
        if key item = wanted then change item else item) =
      Function.update (lookup key items) wanted
        ((lookup key items wanted).map change) := by
  induction items with
  | nil =>
      funext other
      by_cases same : other = wanted
      · subst other
        rw [Function.update_self]
        rfl
      · rw [Function.update_of_ne same]
        rfl
  | cons item rest ih =>
      funext other
      rw [List.map_cons, lookup_cons, ih]
      by_cases here : key item = wanted
      · rw [if_pos here, keeps item here]
        by_cases same : other = wanted
        · subst other
          rw [if_pos rfl, Function.update_self, lookup_cons, if_pos here]
          rfl
        · rw [if_neg (Ne.symm same), Function.update_of_ne same,
            Function.update_of_ne same, lookup_cons,
            if_neg (fun equal => same (equal.symm.trans here))]
      · rw [if_neg here]
        by_cases same : other = wanted
        · subst other
          rw [if_neg here, Function.update_self, Function.update_self,
            lookup_cons, if_neg here]
        · rw [Function.update_of_ne same, Function.update_of_ne same,
            lookup_cons]

theorem distinct_mapAt (items : List Item) (wanted : Key)
    (change : Item → Item)
    (keeps : ∀ item, key item = wanted → key (change item) = wanted)
    (distinct : Distinct key items) :
    Distinct key (items.map fun item =>
      if key item = wanted then change item else item) := by
  have sameKeys :
      (items.map fun item =>
        if key item = wanted then change item else item).map key =
        items.map key := by
    rw [List.map_map]
    apply List.map_congr_left
    intro item _member
    by_cases here : key item = wanted
    · rw [Function.comp_apply, if_pos here, keeps item here, here]
    · rw [Function.comp_apply, if_neg here]
  unfold Distinct
  rw [sameKeys]
  exact distinct

/-! ### Changing one item in place -/

/-- Change the first item that carries the key, nothing when there is none. -/
def changeFirst (wanted : Key) (change : Item → Item) :
    List Item → Option (List Item)
  | [] => none
  | item :: rest =>
      if key item = wanted then some (change item :: rest)
      else (changeFirst wanted change rest).map (item :: ·)

theorem changeFirst_eq_none_iff (wanted : Key) (change : Item → Item)
    (items : List Item) :
    changeFirst key wanted change items = none ↔
      lookup key items wanted = none := by
  induction items with
  | nil => exact ⟨fun _ => rfl, fun _ => rfl⟩
  | cons item rest ih =>
      rw [changeFirst, lookup_cons]
      by_cases same : key item = wanted
      · rw [if_pos same, if_pos same]
        simp
      · rw [if_neg same, if_neg same, Option.map_eq_none_iff, ih]

theorem map_key_changeFirst {wanted : Key} {change : Item → Item}
    {items after : List Item}
    (keeps : ∀ item, key item = wanted → key (change item) = wanted)
    (changed : changeFirst key wanted change items = some after) :
    after.map key = items.map key := by
  induction items generalizing after with
  | nil => cases changed
  | cons item rest ih =>
      rw [changeFirst] at changed
      by_cases same : key item = wanted
      · rw [if_pos same] at changed
        cases changed
        rw [List.map_cons, List.map_cons, keeps item same, same]
      · rw [if_neg same] at changed
        obtain ⟨others, here, rfl⟩ := Option.map_eq_some_iff.mp changed
        rw [List.map_cons, List.map_cons, ih here]

theorem lookup_changeFirst {wanted : Key} {change : Item → Item}
    {items after : List Item}
    (keeps : ∀ item, key item = wanted → key (change item) = wanted)
    (changed : changeFirst key wanted change items = some after) :
    lookup key after =
      Function.update (lookup key items) wanted
        ((lookup key items wanted).map change) := by
  induction items generalizing after with
  | nil => cases changed
  | cons item rest ih =>
      rw [changeFirst] at changed
      funext other
      by_cases same : key item = wanted
      · rw [if_pos same] at changed
        cases changed
        rw [lookup_cons, keeps item same]
        by_cases here : other = wanted
        · subst other
          rw [if_pos rfl, Function.update_self, lookup_cons, if_pos same]
          rfl
        · rw [if_neg (Ne.symm here), Function.update_of_ne here, lookup_cons,
            if_neg (fun equal => here (equal.symm.trans same))]
      · rw [if_neg same] at changed
        obtain ⟨others, tail, rfl⟩ := Option.map_eq_some_iff.mp changed
        rw [lookup_cons, ih tail]
        by_cases here : other = wanted
        · subst other
          rw [if_neg same, Function.update_self, Function.update_self,
            lookup_cons, if_neg same]
        · rw [Function.update_of_ne here, Function.update_of_ne here,
            lookup_cons]

theorem lookup_of_split {first rest : List Item} {item : Item} {wanted : Key}
    (before : wanted ∉ first.map key) (here : key item = wanted) :
    lookup key (first ++ item :: rest) wanted = some item := by
  rw [lookup_append, (lookup_eq_none_iff key first wanted).mpr before,
    lookup_cons, if_pos here, Option.none_or]

omit [DecidableEq Key] in
/-- The first item that carries a key, with what is around it. -/
theorem exists_split {items : List Item} {wanted : Key}
    (carried : wanted ∈ items.map key) :
    ∃ first item rest, items = first ++ item :: rest ∧ key item = wanted ∧
      wanted ∉ first.map key := by
  obtain ⟨keys, others, pieces, absent⟩ := List.eq_append_cons_of_mem carried
  obtain ⟨first, remaining, rfl, rfl, later⟩ := List.map_eq_append_iff.mp pieces
  obtain ⟨item, rest, rfl, same, _⟩ := List.map_eq_cons_iff.mp later
  exact ⟨first, item, rest, rfl, same, absent⟩

theorem replaceFirst_of_split {first rest : List Item} {item new : Item}
    (before : key new ∉ first.map key) (here : key item = key new) :
    replaceFirst key new (first ++ item :: rest) = first ++ new :: rest := by
  induction first with
  | nil => rw [List.nil_append, replaceFirst, if_pos here, List.nil_append]
  | cons other first ih =>
      rw [List.map_cons, List.mem_cons, not_or] at before
      rw [List.cons_append, replaceFirst, if_neg (Ne.symm before.1),
        ih before.2, List.cons_append]

theorem changeFirst_of_split {first rest : List Item} {item : Item}
    {wanted : Key} (change : Item → Item) (before : wanted ∉ first.map key)
    (here : key item = wanted) :
    changeFirst key wanted change (first ++ item :: rest) =
      some (first ++ change item :: rest) := by
  induction first with
  | nil => rw [List.nil_append, changeFirst, if_pos here, List.nil_append]
  | cons other first ih =>
      rw [List.map_cons, List.mem_cons, not_or] at before
      rw [List.cons_append, changeFirst, if_neg (Ne.symm before.1),
        ih before.2]
      rfl

/-! ### Removal -/

theorem removeFirst_sublist (wanted : Key) (items : List Item) :
    (removeFirst key wanted items).Sublist items := by
  induction items with
  | nil => exact List.Sublist.refl []
  | cons item rest ih =>
      by_cases same : key item = wanted
      · simp only [removeFirst, if_pos same]
        exact List.sublist_cons_self item rest
      · simp only [removeFirst, if_neg same]
        exact ih.cons_cons item

theorem mem_removeFirst_iff {wanted : Key} {items : List Item} {item : Item}
    (distinct : Distinct key items) :
    item ∈ removeFirst key wanted items ↔ item ∈ items ∧ key item ≠ wanted := by
  induction items with
  | nil => simp [removeFirst]
  | cons head rest ih =>
      obtain ⟨fresh, restDistinct⟩ := List.nodup_cons.mp distinct
      by_cases same : key head = wanted
      · rw [removeFirst, if_pos same, List.mem_cons]
        constructor
        · intro member
          refine ⟨Or.inr member, ?_⟩
          intro equal
          exact fresh (List.mem_map.mpr ⟨item, member, equal.trans same.symm⟩)
        · rintro ⟨rfl | member, different⟩
          · exact absurd same different
          · exact member
      · rw [removeFirst, if_neg same, List.mem_cons, ih restDistinct,
          List.mem_cons]
        constructor
        · rintro (rfl | ⟨member, different⟩)
          · exact ⟨Or.inl rfl, same⟩
          · exact ⟨Or.inr member, different⟩
        · rintro ⟨rfl | member, different⟩
          · exact Or.inl rfl
          · exact Or.inr ⟨member, different⟩

theorem distinct_removeFirst (wanted : Key) (items : List Item)
    (distinct : Distinct key items) :
    Distinct key (removeFirst key wanted items) :=
  distinct.sublist ((removeFirst_sublist key wanted items).map key)

theorem length_removeFirst (wanted : Key) (items : List Item)
    (present : lookup key items wanted ≠ none) :
    (removeFirst key wanted items).length + 1 = items.length := by
  induction items with
  | nil => exact absurd rfl present
  | cons item rest ih =>
      by_cases same : key item = wanted
      · simp only [removeFirst, if_pos same, List.length_cons]
      · have restPresent : lookup key rest wanted ≠ none := by
          rwa [lookup_cons, if_neg same] at present
        simp only [removeFirst, if_neg same, List.length_cons]
        rw [ih restPresent]

theorem lookup_removeFirst (wanted : Key) (items : List Item)
    (distinct : Distinct key items) :
    lookup key (removeFirst key wanted items) =
      Function.update (lookup key items) wanted none := by
  induction items with
  | nil => exact (Function.update_eq_self wanted _).symm
  | cons item rest ih =>
      obtain ⟨fresh, restDistinct⟩ := List.nodup_cons.mp distinct
      funext other
      by_cases same : key item = wanted
      · simp only [removeFirst, if_pos same]
        by_cases here : other = wanted
        · -- The keys are distinct, so no second item carries the removed key.
          subst other
          rw [Function.update_self, lookup_eq_none_iff, ← same]
          exact fresh
        · rw [Function.update_of_ne here, lookup_cons,
            if_neg (fun equal => here (equal.symm.trans same))]
      · simp only [removeFirst, if_neg same, lookup_cons]
        rw [ih restDistinct]
        by_cases here : other = wanted
        · subst other
          rw [if_neg same, Function.update_self, Function.update_self]
        · rw [Function.update_of_ne here, Function.update_of_ne here,
            lookup_cons]

theorem lookup_filterOut (wanted : Key) (items : List Item) :
    lookup key (items.filter fun item => key item ≠ wanted) =
      Function.update (lookup key items) wanted none := by
  induction items with
  | nil => exact (Function.update_eq_self wanted _).symm
  | cons item rest ih =>
      funext other
      by_cases same : key item = wanted
      · rw [List.filter_cons_of_neg (by simp [same]), ih]
        by_cases here : other = wanted
        · subst other
          rw [Function.update_self, Function.update_self]
        · rw [Function.update_of_ne here, Function.update_of_ne here,
            lookup_cons, if_neg (fun equal => here (equal.symm.trans same))]
      · rw [List.filter_cons_of_pos (by simp [same]), lookup_cons, ih]
        by_cases here : other = wanted
        · subst other
          rw [if_neg same, Function.update_self, Function.update_self]
        · rw [Function.update_of_ne here, Function.update_of_ne here,
            lookup_cons]

theorem distinct_filterOut (wanted : Key) (items : List Item)
    (distinct : Distinct key items) :
    Distinct key (items.filter fun item => key item ≠ wanted) :=
  distinct.sublist (List.filter_sublist.map key)

/-! ### Items that carry more than their key -/

section Carried

variable {Outer : Type*} (inner : Outer → Item)

theorem lookup_map (items : List Outer) (wanted : Key) :
    lookup key (items.map inner) wanted =
      (lookup (key ∘ inner) items wanted).map inner := by
  unfold lookup
  rw [List.find?_map]
  rfl

theorem removeFirst_map (wanted : Key) (items : List Outer) :
    (removeFirst (key ∘ inner) wanted items).map inner =
      removeFirst key wanted (items.map inner) := by
  induction items with
  | nil => rfl
  | cons item rest ih =>
      by_cases same : key (inner item) = wanted
      · simp [removeFirst, same]
      · simp [removeFirst, same, ih]

end Carried

theorem removeFirst_of_absent (wanted : Key) (items : List Item)
    (absent : wanted ∉ items.map key) : removeFirst key wanted items = items := by
  induction items with
  | nil => rfl
  | cons item rest ih =>
      rw [List.map_cons, List.mem_cons, not_or] at absent
      rw [removeFirst, if_neg (Ne.symm absent.1), ih absent.2]

theorem removeFirst_of_split {first rest : List Item} {item : Item}
    {wanted : Key} (before : wanted ∉ first.map key)
    (here : key item = wanted) :
    removeFirst key wanted (first ++ item :: rest) = first ++ rest := by
  induction first with
  | nil => rw [List.nil_append, removeFirst, if_pos here, List.nil_append]
  | cons other first ih =>
      rw [List.map_cons, List.mem_cons, not_or] at before
      rw [List.cons_append, removeFirst, if_neg (Ne.symm before.1),
        ih before.2, List.cons_append]

theorem count_removeFirst [BEq Key] [LawfulBEq Key] {other wanted : Key}
    (different : other ≠ wanted) (items : List Item) :
    ((removeFirst key wanted items).map key).count other =
      (items.map key).count other := by
  induction items with
  | nil => rfl
  | cons item rest ih =>
      by_cases same : key item = wanted
      · rw [removeFirst, if_pos same, List.map_cons, same,
          List.count_cons_of_ne different.symm]
      · rw [removeFirst, if_neg same, List.map_cons, List.map_cons,
          List.count_cons, List.count_cons, ih]

end KeyedList
