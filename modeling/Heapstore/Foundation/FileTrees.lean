/-
Trees of files, and the places that paths lead to.

A directory lists names and what they stand for, each name once.  A path is
read from the left, one part between slashes at a time: an empty part and one
dot stay in the directory, two dots leave it.  There are no links, so the names
on the way tell one place from another.
-/

import Heapstore.Foundation.ByteText
import Mathlib.Algebra.BigOperators.Group.List.Basic

namespace FileTrees

open ByteText

def slash : UInt8 := 47

def dot : Bytes := [46]

def dotDot : Bytes := [46, 46]

/-- A name that a directory can list. -/
structure EntryName where
  text : Bytes
  nonempty : text ≠ []
  noSlash : slash ∉ text
  noNul : (0 : UInt8) ∉ text
  notDot : text ≠ dot
  notDotDot : text ≠ dotDot

def EntryName.of (text : Bytes)
    (proper : text ≠ [] ∧ slash ∉ text ∧ (0 : UInt8) ∉ text ∧ text ≠ dot ∧
      text ≠ dotDot) : EntryName where
  text := text
  nonempty := proper.1
  noSlash := proper.2.1
  noNul := proper.2.2.1
  notDot := proper.2.2.2.1
  notDotDot := proper.2.2.2.2

theorem EntryName.text_injective : Function.Injective EntryName.text := by
  intro left right same
  cases left
  cases right
  cases same
  rfl

instance : DecidableEq EntryName := fun left right =>
  decidable_of_iff (left.text = right.text) EntryName.text_injective.eq_iff

inductive FileNode (Data : Type*) where
  | file (data : Data)
  | dir (data : Data) (entries : List (EntryName × FileNode Data))

abbrev Entries (Data : Type*) := List (EntryName × FileNode Data)

variable {Data Weight : Type*}

mutual

/-- The files and directories of a tree, itself included. -/
def FileNode.nodes : FileNode Data → Nat
  | .file _ => 1
  | .dir _ entries => 1 + nodesBelow entries

def nodesBelow : Entries Data → Nat
  | [] => 0
  | (_, node) :: rest => node.nodes + nodesBelow rest

end

theorem FileNode.nodes_pos (node : FileNode Data) : 0 < node.nodes := by
  cases node with
  | file data => exact Nat.one_pos
  | dir data entries => exact Nat.add_pos_left Nat.one_pos _

theorem FileNode.nodes_lt {data : Data} {entries : Entries Data}
    {entry : EntryName × FileNode Data} (member : entry ∈ entries) :
    entry.2.nodes < (FileNode.dir data entries).nodes := by
  change entry.2.nodes < 1 + nodesBelow entries
  induction entries with
  | nil => cases member
  | cons first rest ih =>
      change entry.2.nodes < 1 + (first.2.nodes + nodesBelow rest)
      rcases List.mem_cons.mp member with rfl | later
      · omega
      · have smaller := ih later
        omega

@[elab_as_elim, induction_eliminator]
theorem FileNode.induct {motive : FileNode Data → Prop}
    (file : ∀ data, motive (.file data))
    (dir : ∀ data entries, (∀ entry ∈ entries, motive entry.2) →
      motive (.dir data entries)) : ∀ node, motive node
  | .file data => file data
  | .dir data entries =>
      dir data entries fun entry _ => FileNode.induct file dir entry.2
termination_by node => node.nodes
decreasing_by exact FileNode.nodes_lt ‹_›

/-- No directory lists a name twice. -/
inductive FileNode.Distinct : FileNode Data → Prop
  | file (data : Data) : FileNode.Distinct (.file data)
  | dir {data : Data} {entries : Entries Data}
      (names : (entries.map Prod.fst).Nodup)
      (below : ∀ entry ∈ entries, entry.2.Distinct) :
      FileNode.Distinct (.dir data entries)

theorem distinct_single {data : Data} {name : EntryName}
    {node : FileNode Data} (below : node.Distinct) :
    (FileNode.dir data [(name, node)]).Distinct := by
  apply FileNode.Distinct.dir
  · exact List.pairwise_singleton _ name
  · intro entry member
    rw [List.mem_singleton.mp member]
    exact below

def FileNode.data : FileNode Data → Data
  | .file data => data
  | .dir data _ => data

def FileNode.child (name : Bytes) : FileNode Data → Option (FileNode Data)
  | .file _ => none
  | .dir _ entries =>
      (entries.find? fun entry => entry.1.text = name).map Prod.snd

/-! ### Weights -/

mutual

/-- The weight of all files of a tree. -/
def FileNode.weigh [AddCommMonoid Weight] (weight : Data → Weight) :
    FileNode Data → Weight
  | .file data => weight data
  | .dir _ entries => weighEntries weight entries

def weighEntries [AddCommMonoid Weight] (weight : Data → Weight) :
    Entries Data → Weight
  | [] => 0
  | (_, node) :: rest => node.weigh weight + weighEntries weight rest

end

theorem weighEntries_eq [AddCommMonoid Weight] (weight : Data → Weight)
    (entries : Entries Data) :
    weighEntries weight entries =
      (entries.map fun entry => entry.2.weigh weight).sum := by
  induction entries with
  | nil => rfl
  | cons entry rest ih =>
      rw [List.map_cons, List.sum_cons, ← ih]
      rfl

/-! ### Names of a directory -/

theorem find_of_mem {entries : Entries Data}
    (names : (entries.map Prod.fst).Nodup)
    {entry : EntryName × FileNode Data} (member : entry ∈ entries) :
    (entries.find? fun other => other.1.text = entry.1.text) = some entry := by
  induction entries with
  | nil => cases member
  | cons first rest ih =>
      obtain ⟨fresh, others⟩ := List.nodup_cons.mp names
      rcases List.mem_cons.mp member with rfl | later
      · exact List.find?_cons_of_pos (decide_eq_true rfl)
      · have apart : first.1.text ≠ entry.1.text := by
          intro same
          apply fresh
          rw [EntryName.text_injective same]
          exact List.mem_map_of_mem later
        rw [List.find?_cons_of_neg (by rw [decide_eq_true_iff]; exact apart)]
        exact ih others later

theorem child_of_mem {data : Data} {entries : Entries Data}
    (distinct : (FileNode.dir data entries).Distinct)
    {entry : EntryName × FileNode Data} (member : entry ∈ entries) :
    FileNode.child entry.1.text (.dir data entries) = some entry.2 := by
  cases distinct with
  | dir names below =>
      change (List.find? _ entries).map Prod.snd = some entry.2
      rw [find_of_mem names member]
      rfl

theorem mem_of_child {name : Bytes} {node found : FileNode Data}
    (listed : node.child name = some found) :
    ∃ data entries entry, node = .dir data entries ∧ entry ∈ entries ∧
      entry.1.text = name ∧ entry.2 = found := by
  cases node with
  | file data => cases listed
  | dir data entries =>
      obtain ⟨entry, present, rfl⟩ := Option.map_eq_some_iff.mp listed
      have named := List.find?_some present
      exact ⟨data, entries, entry, rfl, List.mem_of_find?_eq_some present,
        of_decide_eq_true named, rfl⟩

/-! ### Volumes -/

/-- The names that lead to a place, the innermost first. -/
abbrev Location := List Bytes

/-- A tree with its root, and the directory that relative paths start from. -/
structure Volume (Data : Type*) where
  data : Data
  entries : Entries Data
  distinct : (FileNode.dir data entries).Distinct
  working : Location

def Volume.at (volume : Volume Data) : Location → Option (FileNode Data)
  | [] => some (.dir volume.data volume.entries)
  | name :: above => (volume.at above).bind (FileNode.child name)

/-- One part of a path. -/
def Volume.enter (volume : Volume Data) (location : Location) (part : Bytes) :
    Option Location :=
  match volume.at location with
  | some (.dir _ _) =>
      if part = [] ∨ part = dot then some location
      else if part = dotDot then some location.tail
      else if (volume.at (part :: location)).isSome then some (part :: location)
      else none
  | _ => none

def Volume.resolve (volume : Volume Data) (path : Bytes) : Option Location :=
  if path = [] then none
  else
    (path.splitOn slash).foldlM volume.enter
      (if path.head? = some slash then [] else volume.working)

def Volume.stat (volume : Volume Data) (path : Bytes) :
    Option (FileNode Data) :=
  (volume.resolve path).bind volume.at

def Volume.opendir (volume : Volume Data) (path : Bytes) :
    Option (Entries Data) :=
  match volume.stat path with
  | some (.dir _ entries) => some entries
  | _ => none

section Volumes

variable {volume : Volume Data} {path : Bytes}

theorem opendir_eq_some_iff {entries : Entries Data} :
    volume.opendir path = some entries ↔
      ∃ data, volume.stat path = some (.dir data entries) := by
  unfold Volume.opendir
  cases volume.stat path with
  | none => simp
  | some node =>
      cases node with
      | file data => simp
      | dir data listed => simp

theorem distinct_at {location : Location} {node : FileNode Data}
    (found : volume.at location = some node) : node.Distinct := by
  induction location generalizing node with
  | nil =>
      cases found
      exact volume.distinct
  | cons name above ih =>
      obtain ⟨parent, above, listed⟩ := Option.bind_eq_some_iff.mp found
      obtain ⟨data, entries, entry, rfl, member, -, rfl⟩ := mem_of_child listed
      cases ih above with
      | dir _ below => exact below entry member

/-- A name after a path is the last part of the longer path. -/
theorem resolve_below (nonempty : path ≠ []) {name : Bytes}
    (plain : slash ∉ name) :
    volume.resolve (path ++ slash :: name) =
      (volume.resolve path).bind fun location =>
        volume.enter location name := by
  have longer : path ++ slash :: name ≠ [] := by simp
  have head : (path ++ slash :: name).head? = path.head? := by
    cases path with
    | nil => exact absurd rfl nonempty
    | cons first rest => rfl
  have parts : (path ++ slash :: name).splitOn slash =
      path.splitOn slash ++ [name] := by
    rw [List.splitOn_append_cons_self, List.splitOn_eq_singleton plain]
  unfold Volume.resolve
  rw [if_neg longer, if_neg nonempty, head, parts, List.foldlM_append]
  congr 1
  funext location
  simp

theorem enter_name {location : Location} {data : Data} {entries : Entries Data}
    (here : volume.at location = some (.dir data entries)) (name : EntryName) :
    volume.enter location name.text =
      if (volume.at (name.text :: location)).isSome then
        some (name.text :: location)
      else none := by
  have special : ¬(name.text = [] ∨ name.text = dot) := by
    rintro (empty | same)
    · exact name.nonempty empty
    · exact name.notDot same
  unfold Volume.enter
  rw [here]
  simp only
  rw [if_neg special, if_neg name.notDotDot]

/-- A file that a part of a path leads to is listed under that part. -/
theorem file_of_enter {location place : Location} {part : Bytes} {data : Data}
    (entered : volume.enter location part = some place)
    (file : volume.at place = some (.file data)) :
    place = part :: location ∧
      ∃ top entries, volume.at location = some (.dir top entries) ∧
        ∃ entry ∈ entries, entry.1.text = part ∧ entry.2 = .file data := by
  unfold Volume.enter at entered
  split at entered
  · next top entries here =>
      split at entered
      · cases entered
        rw [here] at file
        cases file
      split at entered
      · cases entered
        cases location with
        | nil => cases file
        | cons name above =>
            obtain ⟨parent, found, listed⟩ := Option.bind_eq_some_iff.mp here
            obtain ⟨_, _, _, rfl, _⟩ := mem_of_child listed
            have same := found.symm.trans file
            cases same
      split at entered
      · cases entered
        obtain ⟨parent, found, listed⟩ := Option.bind_eq_some_iff.mp file
        rw [here] at found
        cases found
        obtain ⟨_, _, entry, same, member, named, stands⟩ := mem_of_child listed
        cases same
        exact ⟨rfl, top, entries, here, entry, member, named, stands⟩
      · cases entered
  · cases entered

/-- A directory is entered by a part that is no special one by its name. -/
theorem dir_of_enter {location place : Location} {part : Bytes} {data : Data}
    {entries : Entries Data} (ordinary : part ≠ [] ∧ part ≠ dot ∧ part ≠ dotDot)
    (entered : volume.enter location part = some place)
    (dir : volume.at place = some (.dir data entries)) :
    ∃ top listed, volume.at location = some (.dir top listed) ∧
      ∃ entry ∈ listed, entry.1.text = part ∧ entry.2 = .dir data entries := by
  unfold Volume.enter at entered
  split at entered
  · next top listed here =>
      rw [if_neg (not_or.mpr ⟨ordinary.1, ordinary.2.1⟩),
        if_neg ordinary.2.2] at entered
      split at entered
      · cases entered
        obtain ⟨parent, found, lists⟩ := Option.bind_eq_some_iff.mp dir
        rw [here] at found
        cases found
        obtain ⟨_, _, entry, same, member, named, stands⟩ := mem_of_child lists
        cases same
        exact ⟨top, listed, here, entry, member, named, stands⟩
      · cases entered
  · cases entered

/-- A path to a directory, a slash and a name lead to what it lists. -/
theorem stat_below (nonempty : path ≠ []) {data : Data}
    {entries : Entries Data}
    (here : volume.stat path = some (.dir data entries))
    {entry : EntryName × FileNode Data} (member : entry ∈ entries) :
    volume.stat (path ++ slash :: entry.1.text) = some entry.2 := by
  obtain ⟨location, resolved, present⟩ := Option.bind_eq_some_iff.mp here
  have listed : volume.at (entry.1.text :: location) = some entry.2 := by
    change (volume.at location).bind _ = _
    rw [present]
    exact child_of_mem (distinct_at present) member
  unfold Volume.stat
  rw [resolve_below nonempty entry.1.noSlash, resolved, Option.bind_some,
    enter_name present, if_pos (by rw [listed]; rfl), Option.bind_some, listed]

end Volumes

end FileTrees
