/-
Deleting the expired files of one directory.

A directory is listed once and its entries are visited in that order.  An entry
leaves if it is a regular file that is older than the cutoff and that can be
unlinked; everything else is kept.
-/

import Heapstore.Foundation.ByteText
import Heapstore.Foundation.Sweep
import Heapstore.Types

namespace Heapstore.Cleanup

open ByteText Sweep

/-- The fields of `struct stat` that are read; the size is cast to a word. -/
structure FileStat where
  modified : Int
  size : UInt64
  deriving DecidableEq

/-- An entry of a directory.  Its path fits the buffer it is printed to, so
`stat` and `unlink` are for the entry itself. -/
structure DirEntry where
  name : Bytes
  regular : Bool
  stat : Option FileStat
  unlinks : Bool
  deriving DecidableEq

/-- Paths that open a directory, and the entries of the directories.  Two paths
may open the same one. -/
structure FileTree where
  directory : Bytes → Option Nat
  entries : Contents Nat DirEntry

/-- The loop of `heapstore_dir_clean`: the entries kept so far, the caller's
accumulator and the local one. -/
structure CleanPass where
  kept : List DirEntry
  freed : Option UInt64
  localFreed : UInt64

def CleanPass.keep (pass : CleanPass) (entry : DirEntry) : CleanPass :=
  { pass with kept := pass.kept ++ [entry] }

def CleanPass.free (pass : CleanPass) (size : UInt64) : CleanPass :=
  { pass with
      freed := pass.freed.map (· + size)
      localFreed := pass.localFreed + size }

def cleanEntry (cutoff : Int) (pass : CleanPass) (entry : DirEntry) :
    CleanPass :=
  if entry.regular = false then pass.keep entry
  else
    match entry.stat with
    | none => pass.keep entry
    | some found =>
        if cutoff ≤ found.modified then pass.keep entry
        else if entry.unlinks then pass.free found.size
        else pass.keep entry

structure DirCleaned where
  tree : FileTree
  freed : Option UInt64
  localFreed : UInt64

/-- `heapstore_dir_clean`; a path that opens no directory frees nothing. -/
def dirClean (dir : Bytes) (cutoff : Int) (freed : Option UInt64)
    (tree : FileTree) : DirCleaned :=
  if dir = [] then { tree := tree, freed := freed, localFreed := 0 }
  else
    match tree.directory dir with
    | none => { tree := tree, freed := freed, localFreed := 0 }
    | some opened =>
        let pass := (tree.entries opened).foldl (cleanEntry cutoff)
          { kept := [], freed := freed, localFreed := 0 }
        { tree :=
            { tree with
                entries := Function.update tree.entries opened pass.kept }
          freed := pass.freed
          localFreed := pass.localFreed }

/-- Cleaning directories one after another with one cutoff. -/
def cleanDirs (cutoff : Int) (dirs : List Bytes) (freed : Option UInt64)
    (tree : FileTree) : FileTree × Option UInt64 :=
  dirs.foldl
    (fun cleaned dir =>
      let visited := dirClean dir cutoff cleaned.2 cleaned.1
      (visited.tree, visited.freed))
    (tree, freed)

/-- `heapstore_pre_clean`: the cutoff, or the code to return at once. -/
def preClean (initialized : Bool) (daysToKeep : Int32) (now : Int)
    (freedBytes : Option UInt64) : Option UInt64 × Except HeapstoreError Int :=
  if initialized = false then (freedBytes, .error .errNotInitialized)
  else if daysToKeep ≤ 0 then (freedBytes.map fun _ => 0, .error .success)
  else
    (freedBytes.map fun _ => 0, .ok (now - daysToKeep.toInt * 86400))

/-! ### What a visit deletes -/

def DirEntry.expired (cutoff : Int) (entry : DirEntry) : Bool :=
  entry.regular && entry.stat.any fun found => decide (found.modified < cutoff)

/-- The entries that a visit with the cutoff deletes. -/
def DirEntry.removable (cutoff : Int) (entry : DirEntry) : Bool :=
  entry.expired cutoff && entry.unlinks

def DirEntry.bytes (entry : DirEntry) : Nat :=
  entry.stat.elim 0 fun found => found.size.toNat

/-- The word of a byte count. -/
def bytesOf (entries : List DirEntry) : UInt64 :=
  UInt64.ofNat (weigh DirEntry.bytes entries)

@[simp] theorem bytesOf_nil : bytesOf [] = 0 := rfl

theorem bytesOf_append (first second : List DirEntry) :
    bytesOf (first ++ second) = bytesOf first + bytesOf second := by
  unfold bytesOf
  rw [weigh_append, UInt64.ofNat_add]

theorem cleanEntry_eq (cutoff : Int) (pass : CleanPass) (entry : DirEntry) :
    cleanEntry cutoff pass entry =
      if entry.removable cutoff then pass.free (bytesOf [entry])
      else pass.keep entry := by
  have word (size : UInt64) : UInt64.ofNat (size.toNat + 0) = size :=
    UInt64.ofNat_toNat
  unfold cleanEntry DirEntry.removable DirEntry.expired
  cases regular : entry.regular with
  | false => rfl
  | true =>
      cases stat : entry.stat with
      | none => rfl
      | some found =>
          have size : bytesOf [entry] = found.size := by
            change UInt64.ofNat (entry.bytes + 0) = found.size
            rw [DirEntry.bytes, stat]
            exact word found.size
          rw [size]
          change (if cutoff ≤ found.modified then pass.keep entry
            else if entry.unlinks then pass.free found.size
            else pass.keep entry) =
              if decide (found.modified < cutoff) && entry.unlinks then
                pass.free found.size
              else pass.keep entry
          by_cases recent : cutoff ≤ found.modified
          · rw [if_pos recent, decide_eq_false (Int.not_lt.mpr recent)]
            rfl
          · rw [if_neg recent, decide_eq_true (Int.not_le.mp recent)]
            rfl

theorem foldl_cleanEntry (cutoff : Int) (entries : List DirEntry)
    (pass : CleanPass) :
    let gone := entries.filter (DirEntry.removable cutoff)
    entries.foldl (cleanEntry cutoff) pass =
      { kept := pass.kept ++
          entries.filter fun entry => !entry.removable cutoff
        freed := pass.freed.map (· + bytesOf gone)
        localFreed := pass.localFreed + bytesOf gone } := by
  induction entries generalizing pass with
  | nil =>
      change pass = { kept := pass.kept ++ [], freed := _, localFreed := _ }
      simp
  | cons entry entries ih =>
      simp only [List.foldl_cons]
      rw [ih, cleanEntry_eq]
      cases gone : entry.removable cutoff with
      | false =>
          rw [List.filter_cons_of_pos (by simp [gone]),
            List.filter_cons_of_neg (by simp [gone])]
          simp [CleanPass.keep]
      | true =>
          have total :
              bytesOf (entry :: entries.filter (DirEntry.removable cutoff)) =
                bytesOf [entry] +
                  bytesOf (entries.filter (DirEntry.removable cutoff)) :=
            bytesOf_append [entry] _
          rw [List.filter_cons_of_neg (by simp [gone]),
            List.filter_cons_of_pos gone, total]
          simp [CleanPass.free, UInt64.add_assoc, Function.comp_def]

/-! ### A visit as a task -/

/-- A directory to clean and its cutoff. -/
structure CleanPlace where
  dir : Bytes
  cutoff : Int
  deriving DecidableEq

def FileTree.opened (tree : FileTree) (dir : Bytes) : Option Nat :=
  if dir = [] then none else tree.directory dir

def FileTree.task (tree : FileTree) (place : CleanPlace) :
    Option (Task Nat DirEntry) :=
  (tree.opened place.dir).map fun opened =>
    { place := opened, drops := DirEntry.removable place.cutoff }

/-- The entries that a listing of the path shows. -/
def FileTree.listing (tree : FileTree) (dir : Bytes) : List DirEntry :=
  (tree.opened dir).elim [] tree.entries

def FileTree.tasks (tree : FileTree) (places : List CleanPlace) :
    List (Task Nat DirEntry) :=
  places.filterMap tree.task

theorem FileTree.mem_tasks_iff {tree : FileTree} {places : List CleanPlace}
    {task : Task Nat DirEntry} :
    task ∈ tree.tasks places ↔
      ∃ place ∈ places, ∃ opened, tree.opened place.dir = some opened ∧
        { place := opened, drops := DirEntry.removable place.cutoff } =
          task := by
  unfold FileTree.tasks FileTree.task
  simp only [List.mem_filterMap, Option.map_eq_some_iff]

/-- The tree without what visits of the places delete. -/
def FileTree.cleaned (tree : FileTree) (places : List CleanPlace) : FileTree :=
  { tree with entries := sweepAll (tree.tasks places) tree.entries }

def FileTree.deleted (tree : FileTree) (places : List CleanPlace) :
    List DirEntry :=
  sweptAll (tree.tasks places) tree.entries

theorem FileTree.cleaned_append (tree : FileTree)
    (first second : List CleanPlace) :
    tree.cleaned (first ++ second) = (tree.cleaned first).cleaned second := by
  unfold FileTree.cleaned FileTree.tasks
  rw [List.filterMap_append, sweepAll_append]
  rfl

theorem FileTree.deleted_append (tree : FileTree)
    (first second : List CleanPlace) :
    tree.deleted (first ++ second) =
      tree.deleted first ++ (tree.cleaned first).deleted second := by
  unfold FileTree.deleted FileTree.tasks
  rw [List.filterMap_append, sweptAll_append]
  rfl

@[simp] theorem FileTree.cleaned_nil (tree : FileTree) :
    tree.cleaned [] = tree := rfl

@[simp] theorem FileTree.deleted_nil (tree : FileTree) :
    tree.deleted [] = [] := rfl

/-- A visit is the task of its place; the accumulators grow by its bytes. -/
theorem dirClean_eq (place : CleanPlace) (freed : Option UInt64)
    (tree : FileTree) :
    dirClean place.dir place.cutoff freed tree =
      { tree := tree.cleaned [place]
        freed := freed.map (· + bytesOf (tree.deleted [place]))
        localFreed := bytesOf (tree.deleted [place]) } := by
  have untouched (closed : tree.opened place.dir = none) :
      tree.tasks [place] = [] := by
    unfold FileTree.tasks FileTree.task
    rw [List.filterMap_cons, closed]
    rfl
  unfold dirClean FileTree.cleaned FileTree.deleted
  by_cases empty : place.dir = []
  · rw [if_pos empty, untouched (if_pos empty)]
    simp [sweptAll]
  · rw [if_neg empty]
    cases found : tree.directory place.dir with
    | none =>
        have closed : tree.opened place.dir = none :=
          (if_neg empty).trans found
        rw [untouched closed]
        simp [sweptAll]
    | some opened =>
        have visited : tree.tasks [place] =
            [{ place := opened, drops := DirEntry.removable place.cutoff }] := by
          unfold FileTree.tasks FileTree.task FileTree.opened
          rw [List.filterMap_cons, if_neg empty, found]
          rfl
        rw [visited]
        simp only [foldl_cleanEntry]
        simp [sweepAll, sweep, sweptAll, swept]

def placesAt (cutoff : Int) (dirs : List Bytes) : List CleanPlace :=
  dirs.map fun dir => { dir := dir, cutoff := cutoff }

theorem cleanDirs_eq (cutoff : Int) (dirs : List Bytes)
    (freed : Option UInt64) (tree : FileTree) :
    cleanDirs cutoff dirs freed tree =
      (tree.cleaned (placesAt cutoff dirs),
        freed.map (· + bytesOf (tree.deleted (placesAt cutoff dirs)))) := by
  induction dirs generalizing freed tree with
  | nil =>
      simp [cleanDirs, placesAt]
  | cons dir dirs ih =>
      have visited := dirClean_eq { dir := dir, cutoff := cutoff } freed tree
      have step : cleanDirs cutoff (dir :: dirs) freed tree =
          cleanDirs cutoff dirs (dirClean dir cutoff freed tree).freed
            (dirClean dir cutoff freed tree).tree := rfl
      have split : placesAt cutoff (dir :: dirs) =
          [{ dir := dir, cutoff := cutoff }] ++ placesAt cutoff dirs := rfl
      rw [step, visited, ih, split, FileTree.cleaned_append,
        FileTree.deleted_append, bytesOf_append]
      simp [Function.comp_def, UInt64.add_assoc]

/-- Visits of places delete nothing exactly if no listing shows an entry that
can be removed. -/
theorem FileTree.cleaned_eq_self_iff {tree : FileTree}
    {places : List CleanPlace} :
    tree.cleaned places = tree ↔
      ∀ place ∈ places, ∀ entry ∈ tree.listing place.dir,
        entry.removable place.cutoff = false := by
  have entriesOnly : tree.cleaned places = tree ↔
      sweepAll (tree.tasks places) tree.entries = tree.entries := by
    constructor
    · intro same
      exact congrArg FileTree.entries same
    · intro same
      unfold FileTree.cleaned
      rw [same]
  rw [entriesOnly, sweepAll_eq_self_iff]
  constructor
  · intro nothing place member entry listed
    unfold FileTree.listing at listed
    cases opens : tree.opened place.dir with
    | none =>
        rw [opens] at listed
        cases listed
    | some opened =>
        rw [opens] at listed
        have visited :=
          FileTree.mem_tasks_iff.mpr ⟨place, member, opened, opens, rfl⟩
        exact nothing _ visited entry listed
  · intro nothing task member entry present
    obtain ⟨place, cleaned, opened, opens, rfl⟩ :=
      FileTree.mem_tasks_iff.mp member
    apply nothing place cleaned entry
    rw [FileTree.listing, opens]
    exact present

theorem FileTree.deleted_eq_nil {tree : FileTree} {places : List CleanPlace}
    (unchanged : tree.cleaned places = tree) : tree.deleted places = [] :=
  sweptAll_eq_nil
    (sweepAll_eq_self_iff.mp (congrArg FileTree.entries unchanged))

/-- An entry that is not a regular file, or that is not older than any cutoff of
its directory, is kept. -/
theorem FileTree.cleaned_keeps {tree : FileTree} {places : List CleanPlace}
    {index : Nat} {entry : DirEntry} (present : entry ∈ tree.entries index)
    (kept : ∀ place ∈ places, tree.opened place.dir = some index →
      entry.expired place.cutoff = false) :
    entry ∈ (tree.cleaned places).entries index := by
  apply mem_sweepAll_iff.mpr
  refine ⟨present, ?_⟩
  intro task member hit
  obtain ⟨here, drops⟩ := hit
  obtain ⟨place, cleaned, opened, opens, rfl⟩ :=
    FileTree.mem_tasks_iff.mp member
  cases here
  have spared := kept place cleaned opens
  change (entry.expired place.cutoff && entry.unlinks) = true at drops
  rw [spared] at drops
  cases drops

/-- Directories that no path of the places opens keep their entries. -/
theorem FileTree.cleaned_elsewhere {tree : FileTree} {places : List CleanPlace}
    {index : Nat}
    (elsewhere : ∀ place ∈ places, tree.opened place.dir ≠ some index) :
    (tree.cleaned places).entries index = tree.entries index := by
  apply sweepAll_of_absent
  intro task member
  obtain ⟨place, cleaned, opened, opens, rfl⟩ :=
    FileTree.mem_tasks_iff.mp member
  rintro rfl
  exact elsewhere place cleaned opens

/-- The directories lose exactly the bytes of what is deleted. -/
theorem FileTree.bytes_cleaned {tree : FileTree} {places : List CleanPlace}
    {directories : Finset Nat}
    (covered : ∀ place ∈ places, ∀ index,
      tree.opened place.dir = some index → index ∈ directories) :
    weighAll DirEntry.bytes directories tree.entries =
      weighAll DirEntry.bytes directories (tree.cleaned places).entries +
        weigh DirEntry.bytes (tree.deleted places) := by
  apply weighAll_sweepAll
  intro task member
  obtain ⟨place, cleaned, opened, opens, rfl⟩ :=
    FileTree.mem_tasks_iff.mp member
  exact covered place cleaned opened opens

/-! ### What is left and what is lost -/

/-- Some place opens the directory and can remove the entry. -/
def FileTree.expires (tree : FileTree) (places : List CleanPlace) (index : Nat)
    (entry : DirEntry) : Bool :=
  places.any fun place =>
    decide (tree.opened place.dir = some index) && entry.removable place.cutoff

theorem FileTree.hitBy_tasks (tree : FileTree) (places : List CleanPlace)
    (index : Nat) :
    hitBy (tree.tasks places) index = tree.expires places index := by
  funext entry
  unfold hitBy FileTree.tasks FileTree.expires FileTree.task
  rw [List.any_filterMap]
  congr 1
  funext place
  cases tree.opened place.dir with
  | none => rfl
  | some opened => simp

/-- Each directory keeps the entries that do not expire, in their order. -/
theorem FileTree.cleaned_entries (tree : FileTree) (places : List CleanPlace)
    (index : Nat) :
    (tree.cleaned places).entries index =
      (tree.entries index).filter fun entry =>
        !tree.expires places index entry := by
  rw [← tree.hitBy_tasks places index]
  exact sweepAll_eq_filter (tree.tasks places) tree.entries index

/-- The directories that the paths of the places open, each once. -/
def FileTree.openedBy (tree : FileTree) (places : List CleanPlace) :
    Finset Nat :=
  (places.filterMap fun place => tree.opened place.dir).toFinset

/-- The sizes of the entries that expire. -/
def FileTree.expiredBytes (tree : FileTree) (places : List CleanPlace) : Nat :=
  ∑ index ∈ tree.openedBy places,
    weigh DirEntry.bytes ((tree.entries index).filter
      (tree.expires places index))

theorem FileTree.weigh_deleted (tree : FileTree) (places : List CleanPlace) :
    weigh DirEntry.bytes (tree.deleted places) = tree.expiredBytes places := by
  unfold FileTree.expiredBytes
  simp only [← FileTree.hitBy_tasks]
  apply weigh_sweptAll
  intro task member
  obtain ⟨place, cleaned, opened, opens, rfl⟩ :=
    FileTree.mem_tasks_iff.mp member
  exact List.mem_toFinset.mpr (List.mem_filterMap.mpr ⟨place, cleaned, opens⟩)

end Heapstore.Cleanup
