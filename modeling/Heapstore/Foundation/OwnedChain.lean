/-
Singly linked lists whose nodes own a block of memory each.

Memory maps addresses to blocks, and an address without a block is free.  A
segment is read off the memory by following next pointers; its footprint lists
the blocks it is made of.  A walk through a list keeps the place of the pointer
that it follows next, so that it can write this pointer.

Several lists share a memory when no block belongs to two of them.  The lemmas
say how one of the lists changes and what this leaves of the others.
-/

import Mathlib.Data.List.Nodup
import Mathlib.Data.Set.Basic
import Mathlib.Logic.Function.Basic

namespace OwnedChain

variable {Value : Type*}

inductive Block (Value : Type*) where
  | node (data next : Option Nat)
  | value (value : Value)

abbrev Arena (Value : Type*) := Nat → Option (Block Value)

/-- A node, the block that it owns and the value in that block. -/
structure Entry (Value : Type*) where
  node : Nat
  data : Nat
  value : Value

def Entry.map {Other : Type*} (change : Value → Other) (entry : Entry Value) :
    Entry Other :=
  { node := entry.node, data := entry.data, value := change entry.value }

/-! ### Reading and writing -/

def loadNode (arena : Arena Value) (address : Nat) :
    Option (Option Nat × Option Nat) :=
  match arena address with
  | some (.node data next) => some (data, next)
  | _ => none

def loadValue (arena : Arena Value) (address : Nat) : Option Value :=
  match arena address with
  | some (.value value) => some value
  | _ => none

/-- The memory without these blocks. -/
def without (arena : Arena Value) (addresses : List Nat) : Arena Value :=
  fun address => if address ∈ addresses then none else arena address

/-- Freeing no pointer does nothing; only what is there can be freed. -/
def release (arena : Arena Value) : Option Nat → Option (Arena Value)
  | none => some arena
  | some address =>
      if (arena address).isNone then none else some (without arena [address])

/-- The pointer at a place: the start of the list, or the next pointer of a
node. -/
def loadPointer (arena : Arena Value) (start : Option Nat) :
    Option Nat → Option (Option Nat)
  | none => some start
  | some address => (loadNode arena address).map Prod.snd

def storePointer (arena : Arena Value) (start target : Option Nat) :
    Option Nat → Option (Arena Value × Option Nat)
  | none => some (arena, target)
  | some address =>
      (loadNode arena address).map fun node =>
        (Function.update arena address (some (.node node.1 target)), start)

/-! ### Segments -/

/-- Following the pointers from a start reads these entries, up to a stop. -/
inductive Segment (arena : Arena Value) (stop : Option Nat) :
    Option Nat → List (Entry Value) → Prop where
  | nil : Segment arena stop stop []
  | cons (entry : Entry Value) (next : Option Nat) (rest : List (Entry Value))
      (here : arena entry.node = some (.node (some entry.data) next))
      (owned : arena entry.data = some (.value entry.value))
      (later : Segment arena stop next rest) :
      Segment arena stop (some entry.node) (entry :: rest)

/-- A whole list. -/
abbrev Chained (arena : Arena Value) (start : Option Nat)
    (entries : List (Entry Value)) : Prop :=
  Segment arena none start entries

def footprint (entries : List (Entry Value)) : List Nat :=
  entries.flatMap fun entry => [entry.node, entry.data]

/-- The place behind these entries. -/
def cursor (entries : List (Entry Value)) : Option Nat :=
  entries.getLast?.map Entry.node

variable {arena other : Arena Value} {start stop target : Option Nat}
  {entries before after : List (Entry Value)} {entry : Entry Value}

theorem loadNode_eq {address : Nat} {data next : Option Nat}
    (here : arena address = some (.node data next)) :
    loadNode arena address = some (data, next) := by
  unfold loadNode
  rw [here]

theorem loadValue_eq {address : Nat} {value : Value}
    (here : arena address = some (.value value)) :
    loadValue arena address = some value := by
  unfold loadValue
  rw [here]

theorem footprint_cons (entry : Entry Value) (rest : List (Entry Value)) :
    footprint (entry :: rest) = entry.node :: entry.data :: footprint rest :=
  rfl

theorem footprint_append (first second : List (Entry Value)) :
    footprint (first ++ second) = footprint first ++ footprint second :=
  List.flatMap_append

theorem cursor_concat (entries : List (Entry Value)) (entry : Entry Value) :
    cursor (entries ++ [entry]) = some entry.node := by
  unfold cursor
  rw [List.getLast?_concat, Option.map_some]

theorem Segment.frame (segment : Segment arena stop start entries)
    (same : ∀ address ∈ footprint entries, other address = arena address) :
    Segment other stop start entries := by
  induction segment with
  | nil => exact .nil
  | cons entry next rest here owned later ih =>
      rw [footprint_cons] at same
      refine .cons entry next rest ?_ ?_ (ih ?_)
      · rw [same _ List.mem_cons_self, here]
      · rw [same _ (List.mem_cons_of_mem _ List.mem_cons_self), owned]
      · intro address member
        exact same address
          (List.mem_cons_of_mem _ (List.mem_cons_of_mem _ member))

theorem Segment.append {middle : Option Nat}
    (first : Segment arena middle start before)
    (second : Segment arena stop middle after) :
    Segment arena stop start (before ++ after) := by
  induction first with
  | nil => exact second
  | cons entry next rest here owned later ih =>
      exact .cons entry next _ here owned ih

theorem Segment.split (whole : Segment arena stop start (before ++ after)) :
    ∃ middle, Segment arena middle start before ∧
      Segment arena stop middle after := by
  induction before generalizing start with
  | nil => exact ⟨start, .nil, whole⟩
  | cons entry rest ih =>
      cases whole with
      | cons _ next _ here owned later =>
          obtain ⟨middle, first, second⟩ := ih later
          exact ⟨middle, .cons entry next rest here owned first, second⟩

theorem Segment.allocated (segment : Segment arena stop start entries) :
    ∀ address ∈ footprint entries, arena address ≠ none := by
  induction segment with
  | nil => exact List.forall_mem_nil _
  | cons entry next rest here owned later ih =>
      intro address member
      rcases List.mem_cons.mp member with rfl | member
      · rw [here]
        exact Option.some_ne_none _
      rcases List.mem_cons.mp member with rfl | member
      · rw [owned]
        exact Option.some_ne_none _
      · exact ih address member

theorem Chained.start_eq_none_iff (chained : Chained arena start entries) :
    start = none ↔ entries = [] := by
  cases chained <;> simp

/-- The pointer behind a segment leads to its stop. -/
theorem Segment.load (segment : Segment arena stop start entries) :
    loadPointer arena start (cursor entries) = some stop := by
  rcases entries.eq_nil_or_concat' with rfl | ⟨front, last, rfl⟩
  · cases segment
    rfl
  · obtain ⟨middle, _, final⟩ := segment.split
    cases final with
    | cons _ next _ here _ later =>
        cases later
        rw [cursor_concat]
        unfold loadPointer
        simp only [loadNode_eq here, Option.map_some]

/-- Writing the pointer behind a segment leads it elsewhere. -/
theorem Segment.store (segment : Segment arena stop start entries)
    (distinct : (footprint entries).Nodup) (target : Option Nat) :
    ∃ written first, storePointer arena start target (cursor entries) =
        some (written, first) ∧
      Segment written target first entries ∧
      ∀ address ∉ footprint entries, written address = arena address := by
  rcases entries.eq_nil_or_concat' with rfl | ⟨front, last, rfl⟩
  · exact ⟨arena, target, rfl, .nil, fun _ _ => rfl⟩
  · obtain ⟨middle, initial, final⟩ := segment.split
    cases final with
    | cons _ next _ here owned later =>
        rw [footprint_append] at distinct ⊢
        obtain ⟨_, different, disjoint⟩ := List.nodup_append'.mp distinct
        have unequal : last.data ≠ last.node := by
          rintro same
          simp [footprint, same] at different
        refine ⟨Function.update arena last.node
          (some (.node (some last.data) target)), start, ?_, ?_, ?_⟩
        · rw [cursor_concat]
          unfold storePointer
          simp only [loadNode_eq here, Option.map_some]
        · refine (initial.frame ?_).append (.cons last target [] ?_ ?_ .nil)
          · intro address member
            apply Function.update_of_ne
            rintro rfl
            exact disjoint member List.mem_cons_self
          · exact Function.update_self ..
          · rw [Function.update_of_ne unequal, owned]
        · intro address absent
          apply Function.update_of_ne
          rintro rfl
          exact absent (List.mem_append_right _ List.mem_cons_self)

/-! ### Freeing -/

theorem without_other {addresses : List Nat} {address : Nat}
    (absent : address ∉ addresses) :
    without arena addresses address = arena address :=
  if_neg absent

theorem without_without (arena : Arena Value) (first second : List Nat) :
    without (without arena first) second = without arena (first ++ second) := by
  funext address
  unfold without
  by_cases freed : address ∈ second
  · rw [if_pos freed, if_pos (List.mem_append_right _ freed)]
  · rw [if_neg freed]
    exact if_congr (by simp [freed]) rfl rfl

/-- A block that is freed right after it was taken. -/
theorem without_taken {address : Nat} (free : arena address = none)
    (block : Option (Block Value)) :
    without (Function.update arena address block) [address] = arena := by
  funext other
  unfold without
  by_cases same : other = address
  · subst same
    rw [if_pos (List.mem_singleton.mpr rfl), free]
  · rw [if_neg (List.mem_singleton.not.mpr same), Function.update_of_ne same]

theorem release_present {address : Nat} (present : arena address ≠ none) :
    release arena (some address) = some (without arena [address]) := by
  unfold release
  exact if_neg fun absent => present (Option.isNone_iff_eq_none.mp absent)

/-- A node is freed behind the block that it owns. -/
theorem release_entry (different : entry.node ≠ entry.data)
    (node : arena entry.node ≠ none) (data : arena entry.data ≠ none) :
    (release arena (some entry.data)).bind (release · (some entry.node)) =
      some (without arena (footprint [entry])) := by
  rw [release_present data, Option.bind_some, release_present, without_without]
  · refine congrArg some (funext fun address => ?_)
    unfold without
    exact if_congr (by simp [footprint, or_comm]) rfl rfl
  · rwa [without_other]
    exact fun same => different (List.mem_singleton.mp same)

/-! ### Several lists in one memory -/

variable {Index : Type*} {heads : Index → Option Nat}
  {rows : Index → List (Entry Value)} {loose : Set Nat}

/-- Every block belongs to one list, or to none when it is loose. -/
structure Laid (arena : Arena Value) (heads : Index → Option Nat)
    (rows : Index → List (Entry Value)) (loose : Set Nat) : Prop where
  chained : ∀ index, Chained arena (heads index) (rows index)
  distinct : ∀ index, (footprint (rows index)).Nodup
  apart : ∀ index other, index ≠ other →
    List.Disjoint (footprint (rows index)) (footprint (rows other))
  held : ∀ index, ∀ address ∈ footprint (rows index), address ∉ loose
  live : ∀ address, arena address ≠ none ↔
    (∃ index, address ∈ footprint (rows index)) ∨ address ∈ loose

theorem Laid.allocated (laid : Laid arena heads rows loose) {index : Index}
    {address : Nat} (member : address ∈ footprint (rows index)) :
    arena address ≠ none :=
  (laid.live address).mpr (.inl ⟨index, member⟩)

/-- What the memory holds for an entry of a list. -/
theorem Laid.reads {index : Index}
    (laid : Laid arena heads rows loose)
    (pieces : rows index = before ++ entry :: after) :
    Segment arena (some entry.node) (heads index) before ∧
      arena entry.data = some (.value entry.value) ∧ ∃ next,
        arena entry.node = some (.node (some entry.data) next) ∧
          Chained arena next after := by
  have whole := laid.chained index
  rw [pieces] at whole
  obtain ⟨middle, first, second⟩ := whole.split
  cases second with
  | cons _ next _ here owned later => exact ⟨first, owned, next, here, later⟩

theorem Laid.pieces_apart {index : Index}
    (laid : Laid arena heads rows loose)
    (pieces : rows index = before ++ entry :: after) :
    (footprint (before ++ after)).Nodup ∧ entry.node ≠ entry.data ∧
      ∀ address ∈ footprint (before ++ after),
        address ≠ entry.node ∧ address ≠ entry.data := by
  have distinct := laid.distinct index
  rw [pieces, footprint_append, footprint_cons] at distinct
  rw [footprint_append]
  rw [List.nodup_append', List.nodup_cons, List.nodup_cons,
    List.mem_cons] at distinct
  obtain ⟨first, ⟨node, data, second⟩, disjoint⟩ := distinct
  obtain ⟨different, node⟩ := not_or.mp node
  refine ⟨List.nodup_append'.mpr ⟨first, second, ?_⟩, different, ?_⟩
  · intro address member later
    exact disjoint member
      (List.mem_cons_of_mem _ (List.mem_cons_of_mem _ later))
  · intro address member
    rcases List.mem_append.mp member with member | member
    · constructor
      · rintro rfl
        exact disjoint member List.mem_cons_self
      · rintro rfl
        exact disjoint member (List.mem_cons_of_mem _ List.mem_cons_self)
    · constructor
      · rintro rfl
        exact node member
      · rintro rfl
        exact data member

section Change

variable [DecidableEq Index]

/-- One list changes: it takes blocks that were free and frees blocks of its
own. -/
theorem Laid.change (laid : Laid arena heads rows loose) (index : Index)
    (chained : Chained other start entries)
    (distinct : (footprint entries).Nodup)
    (taken : ∀ address ∈ footprint entries,
      address ∈ footprint (rows index) ∨ arena address = none)
    (freed : ∀ address ∈ footprint (rows index),
      address ∉ footprint entries → other address = none)
    (framed : ∀ address, address ∉ footprint (rows index) →
      address ∉ footprint entries → other address = arena address) :
    Laid other (Function.update heads index start)
      (Function.update rows index entries) loose := by
  have elsewhere : ∀ second, second ≠ index →
      ∀ address ∈ footprint (rows second), address ∉ footprint entries := by
    intro second different address member inside
    rcases taken address inside with ours | free
    · exact laid.apart second index different member ours
    · exact laid.allocated member free
  have untouched : ∀ second, second ≠ index →
      ∀ address ∈ footprint (rows second), other address = arena address := by
    intro second different address member
    exact framed address (laid.apart second index different member)
      (elsewhere second different address member)
  refine ⟨?_, ?_, ?_, ?_, ?_⟩
  · intro second
    by_cases same : second = index
    · subst same
      rw [Function.update_self, Function.update_self]
      exact chained
    · rw [Function.update_of_ne same, Function.update_of_ne same]
      exact (laid.chained second).frame (untouched second same)
  · intro second
    by_cases same : second = index
    · subst same
      rw [Function.update_self]
      exact distinct
    · rw [Function.update_of_ne same]
      exact laid.distinct second
  · intro first second different
    by_cases same : first = index
    · subst same
      rw [Function.update_self, Function.update_of_ne different.symm]
      exact fun address inside member =>
        elsewhere second different.symm address member inside
    · rw [Function.update_of_ne same]
      by_cases again : second = index
      · subst again
        rw [Function.update_self]
        exact fun address member inside =>
          elsewhere first different address member inside
      · rw [Function.update_of_ne again]
        exact laid.apart first second different
  · intro second address member
    by_cases same : second = index
    · subst same
      rw [Function.update_self] at member
      rcases taken address member with ours | free
      · exact laid.held second address ours
      · exact fun lost => (laid.live address).mpr (.inr lost) free
    · rw [Function.update_of_ne same] at member
      exact laid.held second address member
  · intro address
    by_cases inside : address ∈ footprint entries
    · refine iff_of_true (chained.allocated address inside) (.inl ⟨index, ?_⟩)
      rwa [Function.update_self]
    by_cases ours : address ∈ footprint (rows index)
    · refine iff_of_false (not_not.mpr (freed address ours inside)) ?_
      rintro (⟨second, member⟩ | lost)
      · by_cases same : second = index
        · subst same
          rw [Function.update_self] at member
          exact inside member
        · rw [Function.update_of_ne same] at member
          exact laid.apart second index same member ours
      · exact laid.held index address ours lost
    · rw [framed address ours inside, laid.live address]
      refine or_congr_left (exists_congr fun second => ?_)
      by_cases same : second = index
      · subst same
        rw [Function.update_self]
        exact iff_of_false ours inside
      · rw [Function.update_of_ne same]

theorem Laid.push (laid : Laid arena heads rows loose) (index : Index)
    (entry : Entry Value) (node : arena entry.node = none)
    (data : arena entry.data = none) (different : entry.node ≠ entry.data)
    (here : other entry.node =
      some (.node (some entry.data) (heads index)))
    (owned : other entry.data = some (.value entry.value))
    (framed : ∀ address, address ≠ entry.node → address ≠ entry.data →
      other address = arena address) :
    Laid other (Function.update heads index (some entry.node))
      (Function.update rows index (entry :: rows index)) loose := by
  have fresh : ∀ address, arena address = none →
      address ∉ footprint (rows index) :=
    fun address free member => laid.allocated member free
  refine laid.change index ?_ ?_ ?_ ?_ ?_
  · refine .cons entry _ _ here owned ((laid.chained index).frame ?_)
    intro address member
    apply framed
    · rintro rfl
      exact fresh _ node member
    · rintro rfl
      exact fresh _ data member
  · rw [footprint_cons, List.nodup_cons, List.nodup_cons, List.mem_cons]
    exact ⟨not_or.mpr ⟨different, fresh _ node⟩, fresh _ data,
      laid.distinct index⟩
  · intro address member
    rw [footprint_cons, List.mem_cons, List.mem_cons] at member
    rcases member with rfl | rfl | member
    · exact .inr node
    · exact .inr data
    · exact .inl member
  · intro address member absent
    rw [footprint_cons] at absent
    exact absurd (List.mem_cons_of_mem _ (List.mem_cons_of_mem _ member)) absent
  · intro address _ absent
    rw [footprint_cons, List.mem_cons, List.mem_cons, not_or, not_or] at absent
    exact framed address absent.1 absent.2.1

variable {index : Index}

theorem Laid.replace (laid : Laid arena heads rows loose)
    (pieces : rows index = before ++ entry :: after) (value : Value) :
    Laid (Function.update arena entry.data (some (.value value))) heads
      (Function.update rows index
        (before ++ { entry with value := value } :: after)) loose := by
  obtain ⟨first, owned, next, here, later⟩ := laid.reads pieces
  obtain ⟨_, different, apart⟩ := laid.pieces_apart pieces
  have same : footprint (before ++ { entry with value := value } :: after) =
      footprint (rows index) := by
    rw [pieces, footprint_append, footprint_append, footprint_cons,
      footprint_cons]
  have others : ∀ address ∈ footprint (before ++ after),
      Function.update arena entry.data (some (.value value)) address =
        arena address :=
    fun address member => Function.update_of_ne (apart address member).2 _ _
  rw [footprint_append] at others
  have chained : Chained
      (Function.update arena entry.data (some (.value value))) (heads index)
      (before ++ { entry with value := value } :: after) := by
    refine (first.frame fun address member => ?_).append
      (.cons { entry with value := value } next after ?_
        (Function.update_self ..) (later.frame fun address member => ?_))
    · exact others address (List.mem_append_left _ member)
    · rw [Function.update_of_ne different, here]
    · exact others address (List.mem_append_right _ member)
  have changed := laid.change index chained
    (same ▸ laid.distinct index) (fun address member => .inl (same ▸ member))
    (fun address member absent => absurd (same ▸ member) absent)
    (fun address absent _ => by
      apply Function.update_of_ne
      rintro rfl
      refine absent ?_
      rw [pieces, footprint_append, footprint_cons]
      simp)
  rwa [Function.update_eq_self] at changed

/-- The pointer that leads to an entry is written, and the two blocks of the
entry are freed. -/
theorem Laid.unlink (laid : Laid arena heads rows loose)
    (pieces : rows index = before ++ entry :: after) :
    ∃ next written first,
      loadNode arena entry.node = some (some entry.data, next) ∧
      storePointer arena (heads index) next (cursor before) =
        some (written, first) ∧
      loadNode written entry.node = some (some entry.data, next) ∧
      (release written (some entry.data)).bind (release · (some entry.node)) =
        some (without written (footprint [entry])) ∧
      Laid (without written (footprint [entry]))
        (Function.update heads index first)
        (Function.update rows index (before ++ after)) loose := by
  obtain ⟨segment, owned, next, here, later⟩ := laid.reads pieces
  obtain ⟨distinct, different, apart⟩ := laid.pieces_apart pieces
  have kept := distinct
  rw [footprint_append] at distinct apart
  obtain ⟨written, first, stored, initial, framed⟩ :=
    segment.store (List.nodup_append'.mp distinct).1 next
  have disjoint := (List.nodup_append'.mp distinct).2.2
  have outside : ∀ address, address = entry.node ∨ address = entry.data →
      written address = arena address := by
    intro address either
    apply framed
    intro member
    obtain ⟨node, data⟩ := apart address (List.mem_append_left _ member)
    rcases either with same | same
    · exact node same
    · exact data same
  have remaining : ∀ address ∈ footprint before ++ footprint after,
      without written (footprint [entry]) address = written address := by
    intro address member
    apply without_other
    obtain ⟨node, data⟩ := apart address member
    simp [footprint, node, data]
  refine ⟨next, written, first, loadNode_eq here, stored,
    loadNode_eq ((outside _ (.inl rfl)).trans here), ?_, ?_⟩
  · apply release_entry different
    · rw [outside _ (.inl rfl), here]
      exact Option.some_ne_none _
    · rw [outside _ (.inr rfl), owned]
      exact Option.some_ne_none _
  · refine laid.change index ?_ kept ?_ ?_ ?_
    · refine (initial.frame fun address member => ?_).append
        (later.frame fun address member => ?_)
      · exact remaining address (List.mem_append_left _ member)
      · rw [remaining address (List.mem_append_right _ member)]
        exact framed address fun inside => disjoint inside member
    · intro address member
      rw [pieces, footprint_append, footprint_cons]
      rw [footprint_append] at member
      left
      rcases List.mem_append.mp member with member | member
      · exact List.mem_append_left _ member
      · exact List.mem_append_right _
          (List.mem_cons_of_mem _ (List.mem_cons_of_mem _ member))
    · intro address member absent
      apply if_pos
      rw [pieces, footprint_append, footprint_cons] at member
      rw [footprint_append] at absent
      simp only [List.mem_append, List.mem_cons] at member absent
      simp only [footprint, List.flatMap_cons, List.flatMap_nil,
        List.append_nil, List.mem_cons]
      tauto
    · intro address absent _
      rw [pieces, footprint_append, footprint_cons] at absent
      simp only [List.mem_append, List.mem_cons, not_or] at absent
      rw [without_other, framed address absent.1]
      simp [footprint, absent.2.1, absent.2.2.1]

/-- All blocks of a list are freed. -/
theorem Laid.clear (laid : Laid arena heads rows loose) (index : Index) :
    Laid (without arena (footprint (rows index)))
      (Function.update heads index none) (Function.update rows index [])
      loose := by
  refine laid.change index .nil List.nodup_nil (List.forall_mem_nil _) ?_ ?_
  · intro address member _
    exact if_pos member
  · intro address absent _
    exact without_other absent

end Change

/-- Without any list every block is loose. -/
theorem laid_loose (arena : Arena Value) :
    Laid arena (fun _ : Index => none) (fun _ => [])
      {address | arena address ≠ none} where
  chained _ := .nil
  distinct _ := List.nodup_nil
  apart _ _ _ := List.disjoint_nil_left _
  held _ := List.forall_mem_nil _
  live address := by simp [footprint]

/-- Nothing is loose when nothing was and every list is empty. -/
theorem Laid.nothing_live_iff (laid : Laid arena heads rows loose) :
    {address | arena address ≠ none} = ∅ ↔
      loose = ∅ ∧ ∀ index, heads index = none := by
  constructor
  · intro nothing
    have free : ∀ address, ¬ arena address ≠ none :=
      fun address live => Set.eq_empty_iff_forall_notMem.mp nothing address live
    refine ⟨Set.eq_empty_iff_forall_notMem.mpr fun address lost =>
      free address ((laid.live address).mpr (.inr lost)), fun index => ?_⟩
    rw [(laid.chained index).start_eq_none_iff]
    cases entries : rows index with
    | nil => rfl
    | cons entry rest =>
        have member : entry.node ∈ footprint (rows index) := by
          rw [entries]
          exact List.mem_cons_self
        exact absurd (laid.allocated member) (free entry.node)
  · rintro ⟨rfl, empty⟩
    refine Set.eq_empty_iff_forall_notMem.mpr fun address live => ?_
    rcases (laid.live address).mp live with ⟨index, member⟩ | lost
    · rw [(laid.chained index).start_eq_none_iff.mp (empty index)] at member
      cases member
    · exact lost

end OwnedChain
