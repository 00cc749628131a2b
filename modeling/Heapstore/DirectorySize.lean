/-
The size of a directory tree.

The recursion names each entry by a path in a buffer of 1024 bytes.  A path that
does not fit is cut and may name nothing, another file or a directory; below a
cut path every path is cut to the same one, so a directory with entries is then
entered without end.  A directory that a path leads to can be opened.
-/

import Heapstore.DirectoryClean
import Heapstore.Foundation.FileTrees

namespace Heapstore.DirectorySize

open ByteText FileTrees Cleanup

abbrev fullPathLen : Nat := 1024

/-- `*out_size` and `*out_count`. -/
structure DirTotals where
  size : UInt64
  count : UInt32
  deriving DecidableEq

def DirTotals.zero : DirTotals where
  size := 0
  count := 0

def DirTotals.add (first second : DirTotals) : DirTotals where
  size := first.size + second.size
  count := first.count + second.count

/-- What `readdir` returns, one name after another. -/
def listing (entries : Entries FileStat) : List Bytes :=
  dot :: dotDot :: entries.map fun entry => entry.1.text

/-- One entry of the loop; `recurse` is the call for a subdirectory. -/
def sizeEntry (volume : Volume FileStat)
    (recurse : Bytes → Option (DirTotals × Bool)) (path : Bytes)
    (totals : DirTotals) (name : Bytes) : Option DirTotals :=
  if name = dot ∨ name = dotDot then some totals
  else
    let fullPath := printTo fullPathLen (path ++ slash :: name)
    match volume.stat fullPath with
    | none => some totals
    | some (.dir _ _) =>
        (recurse fullPath).map fun sub =>
          if sub.2 then totals.add sub.1 else totals
    | some (.file found) => some (totals.add { size := found.size, count := 1 })

/-- `heapstore_dir_size`, with the totals it leaves and its result, on output
parameters that hold `before`. -/
def dirSize (volume : Volume FileStat) :
    Nat → Bytes → DirTotals → Option (DirTotals × Bool)
  | 0, _, _ => none
  | fuel + 1, path, before =>
      if path = [] then some (before, false)
      else
        match volume.opendir path with
        | none => some (DirTotals.zero, false)
        | some entries =>
            ((listing entries).foldlM
              (sizeEntry volume
                (fun sub => dirSize volume fuel sub DirTotals.zero) path)
              DirTotals.zero).map fun totals => (totals, true)

/-- The call returns with these results. -/
def Returns (volume : Volume FileStat) (path : Bytes) (before : DirTotals)
    (result : DirTotals × Bool) : Prop :=
  ∃ enough, ∀ fuel, enough ≤ fuel → dirSize volume fuel path before = some result

/-! ### Tallies -/

/-- The bytes and the number of some files. -/
abbrev Tally := Nat × Nat

def fileTally (found : FileStat) : Tally :=
  (found.size.toNat, 1)

def DirTotals.ofTally (tally : Tally) : DirTotals where
  size := UInt64.ofNat tally.1
  count := UInt32.ofNat tally.2

@[simp] theorem ofTally_zero : DirTotals.ofTally 0 = DirTotals.zero := rfl

theorem ofTally_add (first second : Tally) :
    DirTotals.ofTally (first + second) =
      (DirTotals.ofTally first).add (DirTotals.ofTally second) := by
  unfold DirTotals.ofTally DirTotals.add
  rw [Prod.fst_add, Prod.snd_add, UInt64.ofNat_add, UInt32.ofNat_add]

theorem ofTally_file (found : FileStat) :
    DirTotals.ofTally (fileTally found) = { size := found.size, count := 1 } := by
  unfold DirTotals.ofTally fileTally
  rw [UInt64.ofNat_toNat]
  rfl

theorem DirTotals.add_zero (totals : DirTotals) :
    totals.add DirTotals.zero = totals := by
  unfold DirTotals.add DirTotals.zero
  rw [UInt64.add_zero, UInt32.add_zero]

theorem DirTotals.zero_add (totals : DirTotals) :
    DirTotals.zero.add totals = totals := by
  unfold DirTotals.add DirTotals.zero
  rw [UInt64.zero_add, UInt32.zero_add]

theorem DirTotals.add_assoc (first second third : DirTotals) :
    (first.add second).add third = first.add (second.add third) := by
  unfold DirTotals.add
  rw [UInt64.add_assoc, UInt32.add_assoc]

theorem DirTotals.add_left_cancel {first second third : DirTotals} :
    first.add second = first.add third ↔ second = third := by
  unfold DirTotals.add
  cases second
  cases third
  simp only [DirTotals.mk.injEq, UInt64.add_right_inj, UInt32.add_right_inj]

/-! ### What a walk meets -/

/-- A file under its own path, or an entry whose path is cut. -/
inductive Visit where
  | file (found : FileStat)
  | cut (path : Bytes) (node : FileNode FileStat)

mutual

/-- The visits of a node with this path. -/
def nodeVisits (path : Bytes) : FileNode FileStat → List Visit
  | .file found => [.file found]
  | .dir _ entries => visitsBelow path entries

def visitsBelow (path : Bytes) : Entries FileStat → List Visit
  | [] => []
  | (name, node) :: rest =>
      (if (path ++ slash :: name.text).length < fullPathLen then
        nodeVisits (path ++ slash :: name.text) node
      else [.cut (printTo fullPathLen (path ++ slash :: name.text)) node]) ++
        visitsBelow path rest

end

def entryVisits (path : Bytes) (entry : EntryName × FileNode FileStat) :
    List Visit :=
  if (path ++ slash :: entry.1.text).length < fullPathLen then
    nodeVisits (path ++ slash :: entry.1.text) entry.2
  else [.cut (printTo fullPathLen (path ++ slash :: entry.1.text)) entry.2]

theorem visitsBelow_cons (path : Bytes)
    (entry : EntryName × FileNode FileStat) (rest : Entries FileStat) :
    visitsBelow path (entry :: rest) =
      entryVisits path entry ++ visitsBelow path rest := rfl

theorem visitsBelow_eq (path : Bytes) (entries : Entries FileStat) :
    visitsBelow path entries = entries.flatMap (entryVisits path) := by
  induction entries with
  | nil => rfl
  | cons entry rest ih => rw [visitsBelow_cons, ih, List.flatMap_cons]

/-- What lies behind a cut path. -/
def Visit.hidden : Visit → Tally
  | .file _ => 0
  | .cut _ node => node.weigh fileTally

/-- The file that a cut path names instead. -/
def Visit.mistaken (volume : Volume FileStat) : Visit → Tally
  | .file _ => 0
  | .cut path _ =>
      match volume.stat path with
      | some (.file found) => fileTally found
      | _ => 0

def Visit.whole : Visit → Tally
  | .file found => fileTally found
  | .cut _ _ => 0

/-- What a walk adds at a visit. -/
def Visit.seen (volume : Volume FileStat) (visit : Visit) : Tally :=
  visit.whole + visit.mistaken volume

/-- A cut path that leads to a directory with entries. -/
def Visit.Loops (volume : Volume FileStat) : Visit → Prop
  | .file _ => False
  | .cut path _ => ∃ entries, volume.opendir path = some entries ∧ entries ≠ []

def tallyAll (measure : Visit → Tally) (visits : List Visit) : Tally :=
  (visits.map measure).sum

theorem tallyAll_append (measure : Visit → Tally) (first second : List Visit) :
    tallyAll measure (first ++ second) =
      tallyAll measure first + tallyAll measure second := by
  unfold tallyAll
  rw [List.map_append, List.sum_append]

theorem tallyAll_below (measure : Visit → Tally) (path : Bytes)
    (entries : Entries FileStat) :
    tallyAll measure (visitsBelow path entries) =
      (entries.map fun entry =>
        tallyAll measure (entryVisits path entry)).sum := by
  induction entries with
  | nil => rfl
  | cons entry rest ih =>
      rw [visitsBelow_cons, tallyAll_append, ih, List.map_cons, List.sum_cons]

theorem tallyAll_add (first second : Visit → Tally) (visits : List Visit) :
    tallyAll (fun visit => first visit + second visit) visits =
      tallyAll first visits + tallyAll second visits :=
  List.sum_map_add

/-- Every file of the tree is met under its path or lies behind a cut one. -/
theorem weigh_visits (node : FileNode FileStat) (path : Bytes) :
    node.weigh fileTally =
      tallyAll (fun visit => visit.whole + visit.hidden)
        (nodeVisits path node) := by
  induction node generalizing path with
  | file found => rfl
  | dir data entries ih =>
      change weighEntries fileTally entries =
        tallyAll _ (visitsBelow path entries)
      induction entries with
      | nil => rfl
      | cons entry rest later =>
          obtain ⟨here, others⟩ := List.forall_mem_cons.mp ih
          have first : entry.2.weigh fileTally =
              tallyAll (fun visit => visit.whole + visit.hidden)
                (entryVisits path entry) := by
            unfold entryVisits
            split
            · exact here _
            · change _ = 0 + entry.2.weigh fileTally + 0
              rw [add_zero, zero_add]
          rw [visitsBelow_cons, tallyAll_append, ← later others, ← first]
          rfl

/-! ### The walk of one directory -/

section Walk

variable {volume : Volume FileStat} {path : Bytes}
  {recurse : Bytes → Option (DirTotals × Bool)}

theorem foldlM_of_gains {step : DirTotals → Bytes → Option DirTotals}
    {entries : Entries FileStat}
    (gain : EntryName × FileNode FileStat → Tally)
    (steps : ∀ entry ∈ entries, ∀ totals,
      step totals entry.1.text =
        some (totals.add (DirTotals.ofTally (gain entry)))) (totals : DirTotals) :
    (entries.map fun entry => entry.1.text).foldlM step totals =
      some (totals.add (DirTotals.ofTally (entries.map gain).sum)) := by
  induction entries generalizing totals with
  | nil => exact congrArg some totals.add_zero.symm
  | cons entry rest ih =>
      obtain ⟨here, later⟩ := List.forall_mem_cons.mp steps
      rw [List.map_cons, List.foldlM_cons, here, Option.bind_eq_bind,
        Option.bind_some, ih later, List.map_cons, List.sum_cons, ofTally_add,
        DirTotals.add_assoc]

theorem foldlM_of_stuck {step : DirTotals → Bytes → Option DirTotals}
    {names : List Bytes} {name : Bytes} (member : name ∈ names)
    (stuck : ∀ totals, step totals name = none) (totals : DirTotals) :
    names.foldlM step totals = none := by
  induction names generalizing totals with
  | nil => cases member
  | cons first rest ih =>
      rw [List.foldlM_cons, Option.bind_eq_bind]
      rcases List.mem_cons.mp member with rfl | later
      · rw [stuck, Option.bind_none]
      · cases step totals first with
        | none => rfl
        | some next => exact ih later next

/-- The dots are passed over. -/
theorem foldlM_listing (entries : Entries FileStat) :
    (listing entries).foldlM (sizeEntry volume recurse path) DirTotals.zero =
      (entries.map fun entry => entry.1.text).foldlM
        (sizeEntry volume recurse path) DirTotals.zero :=
  rfl

theorem sizeEntry_name (totals : DirTotals) (name : EntryName) :
    sizeEntry volume recurse path totals name.text =
      match volume.stat (printTo fullPathLen (path ++ slash :: name.text)) with
      | none => some totals
      | some (.dir _ _) =>
          (recurse (printTo fullPathLen (path ++ slash :: name.text))).map
            fun sub => if sub.2 then totals.add sub.1 else totals
      | some (.file found) =>
          some (totals.add { size := found.size, count := 1 }) := by
  unfold sizeEntry
  rw [if_neg]
  rintro (same | same)
  · exact name.notDot same
  · exact name.notDotDot same

theorem dirSize_succ {entries : Entries FileStat} (nonempty : path ≠ [])
    (opened : volume.opendir path = some entries) (fuel : Nat)
    (before : DirTotals) :
    dirSize volume (fuel + 1) path before =
      ((entries.map fun entry => entry.1.text).foldlM
        (sizeEntry volume
          (fun sub => dirSize volume fuel sub DirTotals.zero) path)
        DirTotals.zero).map fun totals => (totals, true) := by
  rw [dirSize, if_neg nonempty, opened]
  simp only
  rw [foldlM_listing]

theorem opendir_nonempty {entries : Entries FileStat}
    (opened : volume.opendir path = some entries) : path ≠ [] := by
  rintro rfl
  cases opened

theorem dirSize_empty (opened : volume.opendir path = some []) {fuel : Nat}
    (positive : 0 < fuel) (before : DirTotals) :
    dirSize volume fuel path before = some (DirTotals.zero, true) := by
  obtain ⟨fuel, rfl⟩ := Nat.exists_eq_succ_of_ne_zero positive.ne'
  rw [dirSize_succ (opendir_nonempty opened) opened]
  rfl

end Walk

/-! ### Paths that are cut -/

section Cut

variable {volume : Volume FileStat} {path : Bytes}

theorem printTo_whole (full : path.length = fullPathLen - 1) (more : Bytes) :
    printTo fullPathLen (path ++ more) = path := by
  unfold printTo
  rw [← full, List.take_left]

theorem length_printTo_full {text : Bytes}
    (long : ¬text.length < fullPathLen) :
    (printTo fullPathLen text).length = fullPathLen - 1 := by
  unfold printTo
  rw [List.length_take]
  omega

/-- A directory with entries is entered again and again under a path that fills
the buffer. -/
theorem dirSize_full_diverges (full : path.length = fullPathLen - 1)
    {entries : Entries FileStat} (opened : volume.opendir path = some entries)
    (listed : entries ≠ []) (fuel : Nat) (before : DirTotals) :
    dirSize volume fuel path before = none := by
  induction fuel generalizing before with
  | zero => rfl
  | succ fuel ih =>
      obtain ⟨data, found⟩ := opendir_eq_some_iff.mp opened
      obtain ⟨entry, rest, rfl⟩ := List.exists_cons_of_ne_nil listed
      have stuck : ∀ totals, sizeEntry volume
          (fun sub => dirSize volume fuel sub DirTotals.zero) path totals
            entry.1.text = none := by
        intro totals
        rw [sizeEntry_name, printTo_whole full, found]
        simp only
        rw [ih, Option.map_none]
      rw [dirSize_succ (opendir_nonempty opened) opened, List.map_cons,
        foldlM_of_stuck List.mem_cons_self stuck, Option.map_none]

/-- A call that would enter a directory under a cut path never returns. -/
theorem dirSize_diverges {node : FileNode FileStat}
    (found : volume.stat path = some node) (nonempty : path ≠ [])
    (loops : ∃ visit ∈ nodeVisits path node, visit.Loops volume) (fuel : Nat)
    (before : DirTotals) : dirSize volume fuel path before = none := by
  induction node generalizing path fuel before with
  | file data =>
      obtain ⟨visit, met, looping⟩ := loops
      rw [List.mem_singleton.mp met] at looping
      cases looping
  | dir data entries ih =>
      cases fuel with
      | zero => rfl
      | succ fuel =>
          have opened := opendir_eq_some_iff.mpr ⟨data, found⟩
          obtain ⟨visit, met, looping⟩ := loops
          obtain ⟨entry, member, inside⟩ : ∃ entry ∈ entries,
              visit ∈ entryVisits path entry := by
            rw [← List.mem_flatMap, ← visitsBelow_eq]
            exact met
          have listed := stat_below nonempty found member
          have stuck : ∀ totals, sizeEntry volume
              (fun sub => dirSize volume fuel sub DirTotals.zero) path totals
                entry.1.text = none := by
            intro totals
            rw [sizeEntry_name]
            unfold entryVisits at inside
            by_cases fits :
                (path ++ slash :: entry.1.text).length < fullPathLen
            · rw [if_pos fits] at inside
              have below := ih entry member listed (by simp)
                ⟨visit, inside, looping⟩ fuel DirTotals.zero
              rw [printTo_of_fits fits, listed]
              cases node : entry.2 with
              | file data =>
                  rw [node] at inside
                  rw [List.mem_singleton.mp inside] at looping
                  cases looping
              | dir data entries =>
                  simp only
                  rw [below, Option.map_none]
            · rw [if_neg fits] at inside
              rw [List.mem_singleton.mp inside] at looping
              obtain ⟨others, opens, present⟩ := looping
              obtain ⟨data, leads⟩ := opendir_eq_some_iff.mp opens
              rw [leads]
              simp only
              rw [dirSize_full_diverges (length_printTo_full fits) opens present,
                Option.map_none]
          rw [dirSize_succ nonempty opened,
            foldlM_of_stuck (List.mem_map.mpr ⟨entry, member, rfl⟩) stuck,
            Option.map_none]

/-- Where no cut path leads to a directory with entries, an entry adds what the
visits at it do. -/
theorem sizeEntry_gain {recurse : Bytes → Option (DirTotals × Bool)}
    {entry : EntryName × FileNode FileStat}
    (listed : volume.stat (path ++ slash :: entry.1.text) = some entry.2)
    (straight : ∀ visit ∈ entryVisits path entry, ¬visit.Loops volume)
    (below : ∀ sub, volume.stat sub = some entry.2 → sub ≠ [] →
      (∀ visit ∈ nodeVisits sub entry.2, ¬visit.Loops volume) →
      (∃ entries, volume.opendir sub = some entries) →
      recurse sub = some (DirTotals.ofTally (tallyAll (Visit.seen volume)
        (nodeVisits sub entry.2)), true))
    (empty : ∀ sub, volume.opendir sub = some [] →
      recurse sub = some (DirTotals.zero, true)) (totals : DirTotals) :
    sizeEntry volume recurse path totals entry.1.text =
      some (totals.add (DirTotals.ofTally
        (tallyAll (Visit.seen volume) (entryVisits path entry)))) := by
  have single (visit : Visit) :
      tallyAll (Visit.seen volume) [visit] = visit.seen volume := add_zero _
  rw [sizeEntry_name]
  unfold entryVisits at straight ⊢
  by_cases fits : (path ++ slash :: entry.1.text).length < fullPathLen
  · rw [if_pos fits] at straight ⊢
    rw [printTo_of_fits fits, listed]
    cases node : entry.2 with
    | file found =>
        have own : (Visit.file found).seen volume = fileTally found :=
          add_zero _
        simp only [nodeVisits]
        rw [single, own, ofTally_file]
    | dir data entries =>
        rw [node] at listed straight below
        simp only
        rw [below _ listed (by simp) straight
          ⟨entries, opendir_eq_some_iff.mpr ⟨data, listed⟩⟩, Option.map_some,
          if_pos rfl]
  · rw [if_neg fits] at straight ⊢
    have direct := straight _ List.mem_cons_self
    generalize printTo fullPathLen (path ++ slash :: entry.1.text) = cut at *
    have other : (Visit.cut cut entry.2).seen volume =
        (Visit.cut cut entry.2).mistaken volume := zero_add _
    rw [single, other]
    unfold Visit.mistaken
    cases leads : volume.stat cut with
    | none =>
        simp only [leads]
        rw [ofTally_zero, DirTotals.add_zero]
    | some node =>
        cases node with
        | file found =>
            simp only [leads]
            rw [ofTally_file]
        | dir data entries =>
            have opened := opendir_eq_some_iff.mpr ⟨data, leads⟩
            have nothing : entries = [] := by
              by_contra listed
              exact direct ⟨entries, opened, listed⟩
            rw [nothing] at opened
            simp only [leads]
            rw [empty cut opened, Option.map_some, if_pos rfl, ofTally_zero]

/-- Where no cut path leads to a directory with entries, a call returns what its
visits add. -/
theorem dirSize_returns {node : FileNode FileStat}
    (found : volume.stat path = some node) (nonempty : path ≠ [])
    (straight : ∀ visit ∈ nodeVisits path node, ¬visit.Loops volume)
    (opens : ∃ entries, volume.opendir path = some entries) {fuel : Nat}
    (enough : node.nodes ≤ fuel) (before : DirTotals) :
    dirSize volume fuel path before =
      some (DirTotals.ofTally (tallyAll (Visit.seen volume)
        (nodeVisits path node)), true) := by
  induction node generalizing path fuel before with
  | file data =>
      obtain ⟨entries, opened⟩ := opens
      obtain ⟨other, leads⟩ := opendir_eq_some_iff.mp opened
      rw [found] at leads
      cases leads
  | dir data entries ih =>
      have opened := opendir_eq_some_iff.mpr ⟨data, found⟩
      have positive := (FileNode.dir data entries).nodes_pos
      obtain ⟨fuel, rfl⟩ :=
        Nat.exists_eq_succ_of_ne_zero (positive.trans_le enough).ne'
      have gains : ∀ entry ∈ entries, ∀ totals, sizeEntry volume
          (fun sub => dirSize volume fuel sub DirTotals.zero) path totals
            entry.1.text = some (totals.add (DirTotals.ofTally
              (tallyAll (Visit.seen volume) (entryVisits path entry)))) := by
        intro entry member totals
        have smaller : entry.2.nodes < (FileNode.dir data entries).nodes :=
          FileNode.nodes_lt member
        apply sizeEntry_gain (stat_below nonempty found member)
        · intro visit inside
          apply straight visit
          change visit ∈ visitsBelow path entries
          rw [visitsBelow_eq]
          exact List.mem_flatMap.mpr ⟨entry, member, inside⟩
        · intro sub leads named direct opened
          exact ih entry member leads named direct opened (by omega) _
        · intro sub opened
          have present := entry.2.nodes_pos
          exact dirSize_empty opened (by omega) _
      rw [dirSize_succ nonempty opened, foldlM_of_gains _ gains,
        DirTotals.zero_add, ← tallyAll_below, Option.map_some]
      rfl

end Cut

/-! ### Exact sizes -/

/-- A call on a directory with these entries returns, with the bytes and the
number of all files below it. -/
def SizesTree (volume : Volume FileStat) (path : Bytes) (before : DirTotals)
    (entries : Entries FileStat) : Prop :=
  ∃ totals, Returns volume path before (totals, true) ∧
    totals.size.toNat = (weighEntries fileTally entries).1 ∧
    totals.count.toNat = (weighEntries fileTally entries).2

/-- No cut path leads to a directory with entries, and the files that cut paths
name weigh, as words, what the files behind the cut paths do. -/
def CutsHarmless (volume : Volume FileStat) (visits : List Visit) : Prop :=
  (∀ visit ∈ visits, ¬visit.Loops volume) ∧
    DirTotals.ofTally (tallyAll (Visit.mistaken volume) visits) =
      DirTotals.ofTally (tallyAll Visit.hidden visits)

/-- The totals of a tree stay below the limits of their types. -/
def BelowLimits (tally : Tally) : Prop :=
  tally.1 < 2 ^ 64 ∧ tally.2 < 2 ^ 32

theorem eq_ofTally_iff {tally : Tally} (below : BelowLimits tally)
    (totals : DirTotals) :
    totals.size.toNat = tally.1 ∧ totals.count.toNat = tally.2 ↔
      totals = DirTotals.ofTally tally := by
  obtain ⟨size, count⟩ := totals
  unfold DirTotals.ofTally
  rw [DirTotals.mk.injEq, ← UInt64.toNat_inj, ← UInt32.toNat_inj,
    UInt64.toNat_ofNat_of_lt' below.1, UInt32.toNat_ofNat_of_lt' below.2]

section Exact

variable {volume : Volume FileStat} {path : Bytes}
  {entries : Entries FileStat}

theorem returns_iff (opened : volume.opendir path = some entries)
    {before : DirTotals} {result : DirTotals × Bool} :
    Returns volume path before result ↔
      (∀ visit ∈ visitsBelow path entries, ¬visit.Loops volume) ∧
        result = (DirTotals.ofTally (tallyAll (Visit.seen volume)
          (visitsBelow path entries)), true) := by
  obtain ⟨data, found⟩ := opendir_eq_some_iff.mp opened
  have nonempty := opendir_nonempty opened
  constructor
  · rintro ⟨enough, returned⟩
    have straight : ∀ visit ∈ visitsBelow path entries,
        ¬visit.Loops volume := by
      intro visit met looping
      have stuck := dirSize_diverges found nonempty ⟨visit, met, looping⟩ enough
        before
      rw [returned enough le_rfl] at stuck
      cases stuck
    refine ⟨straight, ?_⟩
    have value := dirSize_returns found nonempty straight ⟨entries, opened⟩
      (Nat.le_max_right enough (FileNode.dir data entries).nodes) before
    rw [returned _ (Nat.le_max_left ..)] at value
    exact Option.some.inj value
  · rintro ⟨straight, rfl⟩
    refine ⟨(FileNode.dir data entries).nodes, ?_⟩
    intro fuel enough
    exact dirSize_returns found nonempty straight ⟨entries, opened⟩ enough before

/-- The walk and the tree agree exactly if the cut paths add what they hide. -/
theorem seen_eq_weigh_iff (path : Bytes) (entries : Entries FileStat) :
    DirTotals.ofTally (tallyAll (Visit.seen volume) (visitsBelow path entries)) =
        DirTotals.ofTally (weighEntries fileTally entries) ↔
      DirTotals.ofTally (tallyAll (Visit.mistaken volume)
          (visitsBelow path entries)) =
        DirTotals.ofTally (tallyAll Visit.hidden (visitsBelow path entries)) := by
  have whole : weighEntries fileTally entries =
      tallyAll (fun visit => visit.whole + visit.hidden)
        (visitsBelow path entries) :=
    weigh_visits (.dir { modified := 0, size := 0 } entries) path
  have seen : tallyAll (Visit.seen volume) (visitsBelow path entries) =
      tallyAll Visit.whole (visitsBelow path entries) +
        tallyAll (Visit.mistaken volume) (visitsBelow path entries) :=
    tallyAll_add ..
  rw [whole, seen, tallyAll_add, ofTally_add, ofTally_add,
    DirTotals.add_left_cancel]

/-- Where no path is cut, a call returns the totals of the tree as words. -/
theorem returns_of_uncut (opened : volume.opendir path = some entries)
    (uncut : ∀ visit ∈ visitsBelow path entries, ∃ found, visit = .file found)
    (before : DirTotals) :
    Returns volume path before
      (DirTotals.ofTally (weighEntries fileTally entries), true) := by
  have nothing (measure : Visit → Tally) (own : ∀ found,
      measure (.file found) = 0) :
      tallyAll measure (visitsBelow path entries) = 0 := by
    apply List.sum_eq_zero
    intro tally listed
    obtain ⟨visit, met, rfl⟩ := List.mem_map.mp listed
    obtain ⟨found, rfl⟩ := uncut visit met
    exact own found
  have straight : ∀ visit ∈ visitsBelow path entries, ¬visit.Loops volume := by
    intro visit met looping
    obtain ⟨found, rfl⟩ := uncut visit met
    exact looping
  have same : DirTotals.ofTally (tallyAll (Visit.seen volume)
      (visitsBelow path entries)) =
        DirTotals.ofTally (weighEntries fileTally entries) := by
    rw [seen_eq_weigh_iff, nothing (Visit.mistaken volume) fun _ => rfl,
      nothing Visit.hidden fun _ => rfl]
  exact (returns_iff opened).mpr ⟨straight, by rw [same]⟩

end Exact

/-- For every tree and every path to it, a call returns the totals of the tree
exactly if the paths that are cut do no harm. -/
theorem dirSize_exact_iff (volume : Volume FileStat) (path : Bytes)
    (before : DirTotals) {entries : Entries FileStat}
    (opened : volume.opendir path = some entries)
    (below : BelowLimits (weighEntries fileTally entries)) :
    SizesTree volume path before entries ↔
      CutsHarmless volume (visitsBelow path entries) := by
  unfold SizesTree CutsHarmless
  rw [← seen_eq_weigh_iff]
  constructor
  · rintro ⟨totals, returned, exact_⟩
    obtain ⟨straight, same⟩ := (returns_iff opened).mp returned
    refine ⟨straight, ?_⟩
    rw [← (eq_ofTally_iff below totals).mp exact_]
    exact (congrArg Prod.fst same).symm
  · rintro ⟨straight, same⟩
    refine ⟨DirTotals.ofTally (weighEntries fileTally entries), ?_,
      (eq_ofTally_iff below _).mpr rfl⟩
    exact (returns_iff opened).mpr ⟨straight, by rw [same]⟩

/-! ### A nested tree -/

def directory (entries : Entries FileStat) : FileNode FileStat :=
  .dir { modified := 0, size := 4096 } entries

def sized (size : UInt64) : FileNode FileStat :=
  .file { modified := 0, size := size }

/-- `x`, `d/y`, `d/e/z` and the empty directory `d/none`. -/
def nestedFiles : Entries FileStat :=
  [(.of (ofString "x") (by decide), sized 1),
    (.of (ofString "d") (by decide), directory
      [(.of (ofString "y") (by decide), sized 7),
        (.of (ofString "e") (by decide), directory
          [(.of (ofString "z") (by decide), sized 100)]),
        (.of (ofString "none") (by decide), directory [])])]

def nestedVolume : Volume FileStat where
  data := { modified := 0, size := 4096 }
  entries := nestedFiles
  distinct := by
    refine .dir (by decide) (List.forall_mem_cons.mpr ⟨.file _,
      List.forall_mem_singleton.mpr (.dir (by decide) ?_)⟩)
    exact List.forall_mem_cons.mpr ⟨.file _, List.forall_mem_cons.mpr
      ⟨distinct_single (.file _), List.forall_mem_singleton.mpr
        (.dir (by decide) (List.forall_mem_nil _))⟩⟩
  working := []

theorem dirSize_exact_iff_nested :
    SizesTree nestedVolume [slash] DirTotals.zero nestedFiles ∧
      weighEntries fileTally nestedFiles = (108, 3) := by
  refine ⟨(dirSize_exact_iff nestedVolume [slash] DirTotals.zero rfl
    ⟨by decide, by decide⟩).mpr ⟨?_, rfl⟩, by decide⟩
  exact List.forall_mem_cons.mpr ⟨id, List.forall_mem_cons.mpr
    ⟨id, List.forall_mem_singleton.mpr id⟩⟩

/-! ### Cut paths that are entered -/

def fileX : Entries FileStat :=
  [(.of (ofString "x") (by decide), sized 1)]

def wideName : EntryName := .of (List.replicate 255 97) (by decide +kernel)

def lastName : EntryName := .of (List.replicate 253 98) (by decide +kernel)

def wrapped (name : EntryName) (entries : Entries FileStat) : Entries FileStat :=
  [(name, directory entries)]

/-- The file is in a directory whose path from the root has 1023 bytes. -/
def deepVolume : Volume FileStat where
  data := { modified := 0, size := 4096 }
  entries := wrapped wideName (wrapped wideName (wrapped wideName
    (wrapped lastName fileX)))
  distinct := distinct_single (distinct_single (distinct_single
    (distinct_single (distinct_single (.file _)))))
  working := []

def deepPath : Bytes :=
  [slash] ++ slash :: wideName.text ++ slash :: wideName.text ++
    slash :: wideName.text ++ slash :: lastName.text

theorem deepPath_opens : deepVolume.opendir deepPath = some fileX := by
  have root : deepVolume.stat [slash] =
      some (.dir deepVolume.data deepVolume.entries) := rfl
  have first := stat_below (by simp) root List.mem_cons_self
  have second := stat_below (by simp) first List.mem_cons_self
  have third := stat_below (by simp) second List.mem_cons_self
  have fourth := stat_below (by simp) third List.mem_cons_self
  exact opendir_eq_some_iff.mpr ⟨_, fourth⟩

/-- The directory of the file is entered again under a path that is cut to its
own, and the call never returns. -/
theorem dirSize_never_returns :
    ¬∀ (volume : Volume FileStat) (path : Bytes) (before : DirTotals)
      (entries : Entries FileStat), volume.opendir path = some entries →
      BelowLimits (weighEntries fileTally entries) →
      SizesTree volume path before entries := by
  intro always
  obtain ⟨totals, ⟨enough, returned⟩, -⟩ := always deepVolume deepPath
    DirTotals.zero fileX deepPath_opens ⟨by decide, by decide⟩
  have stuck := dirSize_full_diverges (by decide +kernel) deepPath_opens
    (List.cons_ne_nil _ _) enough DirTotals.zero
  rw [returned enough le_rfl] at stuck
  cases stuck

end Heapstore.DirectorySize
