/-
The log statistics against the size of the log directory.

The statistics list the base directory alone, under paths in a buffer of 512
bytes, while the size also counts what the subdirectories hold.  The logger
writes its files into two of these.
-/

import Heapstore.CoreStats
import Heapstore.LogRotation
import Mathlib.Algebra.Order.BigOperators.Group.List
import Mathlib.Algebra.Order.Ring.Nat

namespace Heapstore.Core

open ByteText CivilTime OperationRun FileTrees Cleanup DirectorySize Log

/-! ### The listing -/

/-- The totals so far and the oldest time. -/
structure LogListing where
  totals : DirTotals
  oldest : Int

def loggedPath (base : Bytes) (name : EntryName) : Bytes :=
  printTo logMaxPath (base ++ slash :: name.text)

/-- A round of the loop: entries that are no regular files are passed over, and
so are the two dots, which are none. -/
def listLog (volume : Volume FileStat) (base : Bytes) (watched : Bool)
    (listing : LogListing) (entry : EntryName × FileNode FileStat) :
    LogListing :=
  match entry.2 with
  | .dir _ _ => listing
  | .file _ =>
      match volume.stat (loggedPath base entry.1) with
      | none => listing
      | some node =>
          { totals := listing.totals.add { size := node.data.size, count := 1 }
            oldest :=
              if watched = true ∧ node.data.modified < listing.oldest then
                node.data.modified
              else listing.oldest }

structure LogStatsAnswer where
  totalFiles : Option UInt32
  totalSizeBytes : Option UInt64
  oldestTimestamp : Option Int
  error : HeapstoreError
  deriving DecidableEq

/-- `heapstore_log_get_stats`, on output parameters with these values. -/
def logGetStats (volume : Volume FileStat) (base : Bytes) (now : Int)
    (totalFiles : Option UInt32) (totalSizeBytes : Option UInt64)
    (oldestTimestamp : Option Int) : LogStatsAnswer :=
  match totalFiles, totalSizeBytes with
  | some _, some _ =>
      match volume.opendir base with
      | none =>
          { totalFiles := some 0
            totalSizeBytes := some 0
            oldestTimestamp := oldestTimestamp.map fun _ => 0
            error := .success }
      | some entries =>
          let watched := oldestTimestamp.isSome
          let listed := entries.foldl (listLog volume base watched)
            { totals := DirTotals.zero, oldest := if watched then now else 0 }
          { totalFiles := some listed.totals.count
            totalSizeBytes := some listed.totals.size
            oldestTimestamp := oldestTimestamp.map fun _ =>
              if 0 < listed.totals.count then listed.oldest else 0
            error := .success }
  | _, _ =>
      { totalFiles := totalFiles
        totalSizeBytes := totalSizeBytes
        oldestTimestamp := oldestTimestamp
        error := .errInvalidParam }

/-- What an entry adds to the statistics. -/
def loggedTally (volume : Volume FileStat) (base : Bytes)
    (entry : EntryName × FileNode FileStat) : Tally :=
  match entry.2 with
  | .dir _ _ => 0
  | .file _ =>
      match volume.stat (loggedPath base entry.1) with
      | none => 0
      | some node => fileTally node.data

/-- What a regular file in the base directory weighs. -/
def ownTally (entry : EntryName × FileNode FileStat) : Tally :=
  match entry.2 with
  | .dir _ _ => 0
  | .file found => fileTally found

section Listing

variable {volume : Volume FileStat} {base : Bytes}
  {entries : Entries FileStat}

theorem listLog_totals (watched : Bool) (listing : LogListing)
    (entry : EntryName × FileNode FileStat) :
    (listLog volume base watched listing entry).totals =
      listing.totals.add (DirTotals.ofTally (loggedTally volume base entry)) := by
  unfold listLog loggedTally
  cases entry.2 with
  | dir data below => exact listing.totals.add_zero.symm
  | file found =>
      simp only
      cases volume.stat (loggedPath base entry.1) with
      | none => exact listing.totals.add_zero.symm
      | some node =>
          simp only
          rw [ofTally_file]

theorem foldl_listLog (watched : Bool) (listing : LogListing) :
    (entries.foldl (listLog volume base watched) listing).totals =
      listing.totals.add (DirTotals.ofTally
        (entries.map (loggedTally volume base)).sum) := by
  induction entries generalizing listing with
  | nil => exact listing.totals.add_zero.symm
  | cons entry rest ih =>
      rw [List.foldl_cons, ih, listLog_totals, DirTotals.add_assoc,
        List.map_cons, List.sum_cons, ofTally_add]

theorem logGetStats_totals (opened : volume.opendir base = some entries)
    (now : Int) (files : UInt32) (size : UInt64) (oldest : Option Int) :
    let totals :=
      DirTotals.ofTally (entries.map (loggedTally volume base)).sum
    let answer := logGetStats volume base now (some files) (some size) oldest
    answer.totalFiles = some totals.count ∧
      answer.totalSizeBytes = some totals.size ∧ answer.error = .success := by
  intro totals answer
  have listed (listing : LogListing) (start : listing.totals = DirTotals.zero) :
      (entries.foldl (listLog volume base oldest.isSome) listing).totals =
        totals := by
    rw [foldl_listLog, start, DirTotals.zero_add]
  unfold answer logGetStats
  simp only [opened]
  rw [listed _ rfl]
  exact ⟨rfl, rfl, trivial⟩

end Listing

/-! ### Log directories -/

/-- Files in the base directory and in its three subdirectories, under names that
a directory entry can hold. -/
structure LogTree (entries : Entries FileStat) : Prop where
  names : ∀ entry ∈ entries, entry.1.text.length ≤ 255
  below : ∀ entry ∈ entries, ∀ data files, entry.2 = .dir data files →
    entry.1.text ∈ ["kernel", "services", "apps"].map ofString ∧
      ∀ file ∈ files, file.1.text.length ≤ 255 ∧
        ∃ found, file.2 = .file found

def NoFilesBelow (entries : Entries FileStat) : Prop :=
  ∀ entry ∈ entries, ∀ data files, entry.2 = .dir data files → files = []

/-- The path of every file of the base directory, as it is cut, leads somewhere,
and what these paths lead to weighs what the files do. -/
def LogPathsHarmless (volume : Volume FileStat) (base : Bytes)
    (entries : Entries FileStat) : Prop :=
  (∀ entry ∈ entries, ∀ found, entry.2 = .file found →
      volume.stat (loggedPath base entry.1) ≠ none) ∧
    UInt64.ofNat (entries.map fun entry =>
        (loggedTally volume base entry).1).sum =
      UInt64.ofNat (entries.map fun entry => (ownTally entry).1).sum

section Tree

variable {volume : Volume FileStat} {base : Bytes}
  {entries : Entries FileStat}

/-- No path of a log directory fills the buffer of the recursive walk. -/
theorem logTree_uncut (tree : LogTree entries) (short : base.length < 512) :
    ∀ visit ∈ visitsBelow base entries, ∃ found, visit = .file found := by
  intro visit met
  rw [visitsBelow_eq] at met
  obtain ⟨entry, member, inside⟩ := List.mem_flatMap.mp met
  have name := tree.names entry member
  have length : (base ++ slash :: entry.1.text).length =
      base.length + (entry.1.text.length + 1) := List.length_append
  have fits : (base ++ slash :: entry.1.text).length < fullPathLen := by
    rw [length]
    change _ < 1024
    omega
  unfold entryVisits at inside
  rw [if_pos fits] at inside
  cases node : entry.2 with
  | file found =>
      rw [node] at inside
      exact ⟨found, List.mem_singleton.mp inside⟩
  | dir data files =>
      rw [node] at inside
      change visit ∈ visitsBelow _ files at inside
      rw [visitsBelow_eq] at inside
      obtain ⟨file, listed, last⟩ := List.mem_flatMap.mp inside
      obtain ⟨subName, found, stands⟩ :=
        (tree.below entry member data files node).2 file listed
      have whole :
          ((base ++ slash :: entry.1.text) ++ slash :: file.1.text).length <
            fullPathLen := by
        rw [List.length_append, length]
        change _ + (file.1.text.length + 1) < 1024
        omega
      unfold entryVisits at last
      rw [if_pos whole, stands] at last
      exact ⟨found, List.mem_singleton.mp last⟩

theorem sum_fst (measure : EntryName × FileNode FileStat → Tally) :
    (entries.map measure).sum.1 =
      (entries.map fun entry => (measure entry).1).sum := by
  have first := map_list_sum (AddMonoidHom.fst ℕ ℕ) (entries.map measure)
  rw [List.map_map] at first
  exact first

theorem sum_snd (measure : EntryName × FileNode FileStat → Tally) :
    (entries.map measure).sum.2 =
      (entries.map fun entry => (measure entry).2).sum := by
  have second := map_list_sum (AddMonoidHom.snd ℕ ℕ) (entries.map measure)
  rw [List.map_map] at second
  exact second

/-- The paths of a short base directory are whole. -/
theorem logPathsHarmless_of_short (tree : LogTree entries)
    (opened : volume.opendir base = some entries)
    (short : base.length ≤ 255) : LogPathsHarmless volume base entries := by
  obtain ⟨data, here⟩ := opendir_eq_some_iff.mp opened
  have found : ∀ entry ∈ entries,
      volume.stat (loggedPath base entry.1) = some entry.2 := by
    intro entry member
    have name := tree.names entry member
    have fits : (base ++ slash :: entry.1.text).length < logMaxPath := by
      rw [List.length_append]
      change _ + (entry.1.text.length + 1) < 512
      omega
    unfold loggedPath
    rw [printTo_of_fits fits]
    exact stat_below (opendir_nonempty opened) here member
  constructor
  · intro entry member data _
    rw [found entry member]
    nofun
  · congr 2
    apply List.map_congr_left
    intro entry member
    unfold loggedTally ownTally
    rw [found entry member]
    cases entry.2 <;> rfl

/-- Sums of numbers that are each at most another are equal only if each is
equal to the other. -/
theorem sum_eq_iff_of_le {Item : Type*} {items : List Item}
    {lower upper : Item → Nat}
    (bound : ∀ item ∈ items, lower item ≤ upper item) :
    (items.map lower).sum = (items.map upper).sum ↔
      ∀ item ∈ items, lower item = upper item := by
  induction items with
  | nil => exact iff_of_true rfl (List.forall_mem_nil _)
  | cons item rest ih =>
      obtain ⟨here, later⟩ := List.forall_mem_cons.mp bound
      have whole : (rest.map lower).sum ≤ (rest.map upper).sum :=
        List.sum_le_sum later
      rw [List.map_cons, List.map_cons, List.sum_cons, List.sum_cons,
        List.forall_mem_cons, ← ih later]
      omega

/-- The statistics count an entry as the size does exactly if it is a file that
is found or an empty directory. -/
theorem loggedTally_count_iff (tree : LogTree entries)
    {entry : EntryName × FileNode FileStat} (member : entry ∈ entries) :
    (loggedTally volume base entry).2 = (entry.2.weigh fileTally).2 ↔
      (∀ data files, entry.2 = .dir data files → files = []) ∧
        ∀ found, entry.2 = .file found →
          volume.stat (loggedPath base entry.1) ≠ none := by
  have files := tree.below entry member
  unfold loggedTally
  generalize entry.2 = node at files ⊢
  cases node with
  | file found =>
      rw [and_iff_right nofun]
      simp only
      cases volume.stat (loggedPath base entry.1) with
      | none =>
          apply iff_of_false
          · change ¬0 = 1
            decide
          · intro present
            exact present found rfl rfl
      | some node => exact iff_of_true rfl fun _ _ => nofun
  | dir data listed =>
      rw [and_iff_left nofun]
      simp only
      cases listed with
      | nil =>
          apply iff_of_true rfl
          intro data files same
          cases same
          rfl
      | cons file rest =>
          obtain ⟨-, found, stands⟩ :=
            (files data _ rfl).2 file List.mem_cons_self
          have one : (FileNode.weigh fileTally (.dir data (file :: rest))).2 =
              1 + (weighEntries fileTally rest).2 := by
            change (file.2.weigh fileTally + _).2 = _
            rw [stands]
            rfl
          apply iff_of_false
          · rw [one]
            change ¬0 = _
            omega
          · intro empty
            cases empty data _ rfl

theorem loggedTally_count_le (entry : EntryName × FileNode FileStat) :
    (loggedTally volume base entry).2 ≤ (entry.2.weigh fileTally).2 := by
  unfold loggedTally
  cases entry.2 with
  | dir data files => exact Nat.zero_le _
  | file found =>
      simp only
      cases volume.stat (loggedPath base entry.1) with
      | none => exact Nat.zero_le _
      | some node => exact le_rfl

theorem weigh_own (empty : NoFilesBelow entries)
    {entry : EntryName × FileNode FileStat} (member : entry ∈ entries) :
    entry.2.weigh fileTally = ownTally entry := by
  have nothing := empty entry member
  unfold ownTally
  generalize entry.2 = node at nothing ⊢
  cases node with
  | file found => rfl
  | dir data files =>
      cases nothing data files rfl
      rfl

theorem weigh_entries_own (empty : NoFilesBelow entries) :
    (weighEntries fileTally entries).1 =
      (entries.map fun entry => (ownTally entry).1).sum := by
  rw [weighEntries_eq, sum_fst]
  congr 1
  apply List.map_congr_left
  intro entry member
  rw [weigh_own empty member]

/-- The two totals agree if nothing lies in the subdirectories and the paths
that are cut do no harm. -/
theorem totals_agree_of (tree : LogTree entries)
    (empty : NoFilesBelow entries)
    (harmless : LogPathsHarmless volume base entries) :
    DirTotals.ofTally (entries.map (loggedTally volume base)).sum =
      DirTotals.ofTally (weighEntries fileTally entries) := by
  obtain ⟨present, sizes⟩ := harmless
  have count : (entries.map (loggedTally volume base)).sum.2 =
      (weighEntries fileTally entries).2 := by
    rw [weighEntries_eq, sum_snd, sum_snd]
    congr 1
    apply List.map_congr_left
    intro entry member
    exact (loggedTally_count_iff tree member).mpr
      ⟨empty entry member, present entry member⟩
  unfold DirTotals.ofTally
  rw [count, sum_fst, sizes, weigh_entries_own empty]

/-- Counts that do not wrap tell every file apart that the statistics miss. -/
theorem harmless_of_totals_agree (tree : LogTree entries)
    (few : (weighEntries fileTally entries).2 < 2 ^ 32)
    (same : DirTotals.ofTally (entries.map (loggedTally volume base)).sum =
      DirTotals.ofTally (weighEntries fileTally entries)) :
    NoFilesBelow entries ∧ LogPathsHarmless volume base entries := by
  obtain ⟨sizes, counts⟩ := DirTotals.mk.inj same
  have bound : ∀ entry ∈ entries, (loggedTally volume base entry).2 ≤
      (entry.2.weigh fileTally).2 :=
    fun entry _ => loggedTally_count_le entry
  have less : (entries.map (loggedTally volume base)).sum.2 ≤
      (weighEntries fileTally entries).2 := by
    rw [weighEntries_eq, sum_snd, sum_snd]
    exact List.sum_le_sum bound
  rw [← UInt32.toNat_inj, UInt32.toNat_ofNat_of_lt' (less.trans_lt few),
    UInt32.toNat_ofNat_of_lt' few, weighEntries_eq, sum_snd, sum_snd,
    sum_eq_iff_of_le bound] at counts
  have each := fun entry member =>
    (loggedTally_count_iff tree member).mp (counts entry member)
  have empty : NoFilesBelow entries := fun entry member =>
    (each entry member).1
  refine ⟨empty, fun entry member => (each entry member).2, ?_⟩
  rw [← sum_fst, sizes, weigh_entries_own empty]

end Tree

/-! ### The files of the logger -/

/-- A path of a file that some run of log writes or a rotation writes to. -/
def LoggerWrites (platform : Platform) (path : Bytes) : Prop :=
  let base := logBasePath platform.env platform.dataDir
  (∃ disk calls, ∃ pair ∈ (final (routedStep base)
      (routingStart platform.env platform.dataDir disk) calls).sent,
        pair.1 = path) ∨
    ∃ time, path = rotatedLogPath base time

/-- The statistics count the file at the place. -/
def CountedAt (volume : Volume FileStat) (base : Bytes)
    (entries : Entries FileStat) (place : Location) : Prop :=
  ∃ entry ∈ entries, (∃ found, entry.2 = .file found) ∧
    volume.resolve (loggedPath base entry.1) = some place

/-- A path that is printed as a name below one of two subdirectories. -/
def BelowBase (base path : Bytes) : Prop :=
  ∃ sub name, (sub = ofString "kernel" ∨ sub = ofString "services") ∧
    slash ∉ name ∧
    path = printTo logMaxPath (base ++ slash :: (sub ++ slash :: name))

theorem noSlash_pathClean {size : Nat} {input safe : Bytes}
    (cleaned : pathClean size input = some safe) : slash ∉ safe := by
  unfold pathClean at cleaned
  repeat
    split at cleaned
    · cases cleaned
  cases cleaned
  intro member
  obtain ⟨byte, _, mapped⟩ := List.mem_map.mp member
  split at mapped
  · next kept =>
      subst mapped
      revert kept
      decide
  · cases mapped

theorem noSlash_decimal (value : Nat) : slash ∉ decimal value := by
  intro member
  have digit := isDigit_of_mem_decimal member
  revert digit
  decide

theorem noSlash_twoDigits (value : Nat) : slash ∉ twoDigits value := by
  unfold twoDigits
  split
  · rw [List.mem_cons, not_or]
    exact ⟨by decide, noSlash_decimal value⟩
  · exact noSlash_decimal value

theorem noSlash_signedDecimal (value : Int) : slash ∉ signedDecimal value := by
  unfold signedDecimal
  split
  · rw [List.mem_cons, not_or]
    exact ⟨by decide, noSlash_decimal _⟩
  · exact noSlash_decimal _

section Written

variable {volume : Volume FileStat} {base path : Bytes}
  {entries : Entries FileStat}

theorem rotatedLogPath_below (time : Tm) :
    BelowBase base (rotatedLogPath base time) := by
  refine ⟨ofString "kernel",
    ofString "airy_" ++ (dateStamp time ++ (ofString "_" ++
      (timeStamp time ++ ofString ".log"))), Or.inl rfl, ?_, ?_⟩
  · unfold dateStamp timeStamp
    simp only [List.mem_append, not_or]
    exact ⟨by decide, ⟨⟨noSlash_signedDecimal _, noSlash_twoDigits _⟩,
      noSlash_twoDigits _⟩, by decide, ⟨⟨noSlash_twoDigits _,
      noSlash_twoDigits _⟩, noSlash_twoDigits _⟩, by decide⟩
  · unfold rotatedLogPath
    rw [List.append_assoc, List.append_assoc, List.append_assoc,
      List.append_assoc]
    rfl

theorem destination_below {names : List Bytes} {service : Option Bytes}
    (sent : destination base names service = some path) :
    BelowBase base path := by
  have main : BelowBase base (mainLogPath base) :=
    ⟨ofString "kernel", ofString "agentrt.log", Or.inl rfl, by decide, rfl⟩
  unfold destination at sent
  split at sent
  · cases sent
    exact main
  · cases sent
    exact main
  · split at sent
    · cases sent
    · next safe cleaned =>
        split at sent
        · cases sent
          refine ⟨ofString "services", safe ++ ofString ".log", Or.inr rfl,
            ?_, ?_⟩
          · rw [List.mem_append, not_or]
            exact ⟨noSlash_pathClean cleaned, by decide⟩
          · unfold namedLogPath
            rw [List.append_assoc, List.append_assoc]
            rfl
        · cases sent
          exact main

theorem sent_below (run : RoutedRun) (call : RoutingCall)
    (below : ∀ pair ∈ run.sent, BelowBase base pair.1) :
    ∀ pair ∈ (routedStep base run call).1.sent, BelowBase base pair.1 := by
  cases call with
  | setLevel level => exact below
  | write message =>
      intro pair member
      rcases List.mem_append.mp member with before | now
      · exact below pair before
      · obtain ⟨target, chosen, rfl⟩ := List.mem_map.mp now
        have sent := Option.mem_toList.mp chosen
        change run.routing.target base message = some target at sent
        unfold Routing.target at sent
        split at sent
        · cases sent
        · exact destination_below sent

theorem loggerWrites_below {platform : Platform}
    (writes : LoggerWrites platform path) :
    BelowBase (logBasePath platform.env platform.dataDir) path := by
  rcases writes with ⟨disk, calls, pair, member, rfl⟩ | ⟨time, rfl⟩
  · exact invariant (routedStep (logBasePath platform.env platform.dataDir))
      (fun run => ∀ pair ∈ run.sent,
        BelowBase (logBasePath platform.env platform.dataDir) pair.1)
      sent_below _ calls (List.forall_mem_nil _) pair member
  · exact rotatedLogPath_below time

/-- The path as it is cut: the base alone, a part of the name of the
subdirectory, or a part of the name in it. -/
theorem belowBase_cases (short : base.length < logMaxPath)
    (below : BelowBase base path) :
    path = base ∨
      (∃ part, slash ∉ part ∧ (base ++ slash :: part).length < logMaxPath ∧
        path = base ++ slash :: part) ∨
      ∃ sub part, (sub = ofString "kernel" ∨ sub = ofString "services") ∧
        slash ∉ part ∧ path = (base ++ slash :: sub) ++ slash :: part := by
  obtain ⟨sub, name, which, plain, rfl⟩ := below
  have plainSub : slash ∉ sub := by
    rcases which with rfl | rfl <;> decide
  have whole (rest : Bytes) : printTo logMaxPath (base ++ rest) =
      base ++ rest.take (511 - base.length) := by
    change (base ++ rest).take 511 = _
    rw [List.take_append, List.take_of_length_le (Nat.le_of_lt_succ short)]
  rw [whole]
  cases room : 511 - base.length with
  | zero =>
      left
      exact List.append_nil base
  | succ kept =>
      right
      rw [List.take_succ_cons, List.take_append]
      by_cases inside : kept ≤ sub.length
      · left
        refine ⟨sub.take kept, fun member => plainSub (List.mem_of_mem_take member),
          ?_, ?_⟩
        · rw [List.length_append, List.length_cons, List.length_take]
          change _ < 512
          omega
        · rw [Nat.sub_eq_zero_of_le inside, List.take_zero, List.append_nil]
      · right
        obtain ⟨more, beyond⟩ : ∃ more, kept - sub.length = more + 1 :=
          ⟨kept - sub.length - 1, by omega⟩
        refine ⟨sub, name.take more, which,
          fun member => plain (List.mem_of_mem_take member), ?_⟩
        rw [beyond, List.take_succ_cons, List.take_of_length_le (by omega),
          List.append_assoc]
        rfl

/-- With empty subdirectories, what the logger's paths lead to are files of the
base directory, and those are counted. -/
theorem countedAt_of_below (opened : volume.opendir base = some entries)
    (short : base.length < logMaxPath) (empty : NoFilesBelow entries)
    (below : BelowBase base path) {place : Location} {found : FileStat}
    (leads : volume.resolve path = some place)
    (file : volume.at place = some (.file found)) :
    CountedAt volume base entries place := by
  obtain ⟨data, here⟩ := opendir_eq_some_iff.mp opened
  obtain ⟨location, resolved, present⟩ := Option.bind_eq_some_iff.mp here
  have nonempty := opendir_nonempty opened
  rcases belowBase_cases short below with rfl | ⟨part, plain, fits, rfl⟩ |
      ⟨sub, part, which, plain, rfl⟩
  · rw [resolved] at leads
    cases leads
    rw [present] at file
    cases file
  · have same := leads
    rw [resolve_below nonempty plain, resolved] at leads
    obtain ⟨-, top, listed, there, entry, member, rfl, stands⟩ :=
      file_of_enter leads file
    rw [present] at there
    cases there
    refine ⟨entry, member, ⟨found, stands⟩, ?_⟩
    unfold loggedPath
    rw [printTo_of_fits fits]
    exact same
  · have ordinary : slash ∉ sub ∧ sub ≠ [] ∧ sub ≠ dot ∧ sub ≠ dotDot := by
      rcases which with rfl | rfl <;> decide
    rw [resolve_below (by simp) plain, resolve_below nonempty ordinary.1,
      resolved] at leads
    obtain ⟨inner, entered, last⟩ := Option.bind_eq_some_iff.mp leads
    obtain ⟨-, top, files, there, one, inside, -⟩ := file_of_enter last file
    obtain ⟨other, listed, base', entry, member, -, stands⟩ :=
      dir_of_enter ordinary.2 entered there
    rw [present] at base'
    cases base'
    rw [empty entry member top files stands] at inside
    cases inside

end Written

/-! ### Agreement -/

/-- The size of the log directory, the statistics of the log module and, where
the store uses the same directory, its log part have these totals, and the
statistics count every file that the logger writes. -/
structure ReportsLogs (volume : Volume FileStat) (platform : Platform)
    (entries : Entries FileStat) (totals : DirTotals) : Prop where
  size : Returns volume (logBasePath platform.env platform.dataDir)
    DirTotals.zero (totals, true)
  stats : ∀ now files bytes oldest,
    let answer := logGetStats volume (logBasePath platform.env platform.dataDir)
      now (some files) (some bytes) oldest
    answer.totalFiles = some totals.count ∧
      answer.totalSizeBytes = some totals.size ∧ answer.error = .success
  store : ∀ (process : Process) (before : HeapstoreStats),
    process.initialized = true →
    volume.resolve (usagePath (getRoot platform process).2 "logs") =
      volume.resolve (logBasePath platform.env platform.dataDir) →
    ∃ enough, ∀ fuel answer, enough ≤ fuel →
      heapstoreGetStats volume fuel platform (some before) process =
        some answer →
      ∃ reported, answer.stats = some reported ∧
        reported.logFileCount = totals.count ∧
        reported.logUsageBytes = totals.size
  written : ∀ path, LoggerWrites platform path → ∀ place found,
    volume.resolve path = some place →
    volume.at place = some (.file found) →
    CountedAt volume (logBasePath platform.env platform.dataDir) entries place

def LogStatsAgree (volume : Volume FileStat) (platform : Platform)
    (entries : Entries FileStat) : Prop :=
  ∃ totals, ReportsLogs volume platform entries totals

section Agree

variable {volume : Volume FileStat} {platform : Platform}
  {entries : Entries FileStat}

theorem length_logBasePath (env : Option Bytes) (dataDir : Bytes) :
    (logBasePath env dataDir).length < logMaxPath :=
  length_printTo_lt (by decide) _

/-- Whatever path leads to the log directory, its size is that of the tree. -/
theorem logTree_returns {base : Bytes} (tree : LogTree entries)
    (opened : volume.opendir base = some entries)
    (short : base.length < logMaxPath) :
    Returns volume base DirTotals.zero
      (DirTotals.ofTally (weighEntries fileTally entries), true) :=
  returns_of_uncut opened (logTree_uncut tree short) DirTotals.zero

/-- The counted totals are those of the tree where the reports agree. -/
theorem totals_of_agree (tree : LogTree entries)
    (opened : volume.opendir (logBasePath platform.env platform.dataDir) =
      some entries)
    (agree : LogStatsAgree volume platform entries) :
    DirTotals.ofTally (entries.map (loggedTally volume
        (logBasePath platform.env platform.dataDir))).sum =
      DirTotals.ofTally (weighEntries fileTally entries) := by
  obtain ⟨totals, reports⟩ := agree
  obtain ⟨enough, sized⟩ := reports.size
  obtain ⟨other, whole⟩ := logTree_returns tree opened (length_logBasePath ..)
  have first := sized _ (Nat.le_max_left enough other)
  rw [whole _ (Nat.le_max_right enough other)] at first
  obtain ⟨files, bytes, -⟩ := reports.stats 0 0 0 none
  obtain ⟨listedFiles, listedBytes, -⟩ := logGetStats_totals opened 0 0 0 none
  have count := Option.some.inj (listedFiles.symm.trans files)
  have size := Option.some.inj (listedBytes.symm.trans bytes)
  have same := (Prod.mk.inj (Option.some.inj first)).1
  rw [same]
  cases totals
  exact DirTotals.mk.injEq .. |>.mpr ⟨size, count⟩

end Agree

/-- For every content of a log directory the statistics, the size of the
directory and the log part of the store agree, and every file of the logger is
counted, if the subdirectories hold no file and the paths of the files in the
base directory do no harm where they are cut; and only then, as long as the
files are fewer than the counts can tell apart. -/
theorem logGetStats_agrees_iff (volume : Volume FileStat) (platform : Platform)
    {entries : Entries FileStat}
    (opened : volume.opendir (logBasePath platform.env platform.dataDir) =
      some entries)
    (tree : LogTree entries) :
    (NoFilesBelow entries ∧
        LogPathsHarmless volume (logBasePath platform.env platform.dataDir)
          entries →
      LogStatsAgree volume platform entries) ∧
    ((weighEntries fileTally entries).2 < 2 ^ 32 →
      LogStatsAgree volume platform entries →
      NoFilesBelow entries ∧
        LogPathsHarmless volume (logBasePath platform.env platform.dataDir)
          entries) := by
  constructor
  · rintro ⟨empty, harmless⟩
    have same := totals_agree_of tree empty harmless
    have short := length_logBasePath platform.env platform.dataDir
    refine ⟨DirTotals.ofTally (weighEntries fileTally entries),
      logTree_returns tree opened short, ?_, ?_, ?_⟩
    · intro now files bytes oldest
      rw [← same]
      exact logGetStats_totals opened now files bytes oldest
    · intro process before ready shared
      have there : volume.opendir (usagePath (getRoot platform process).2
          "logs") = some entries := by
        rw [← opened]
        unfold Volume.opendir Volume.stat
        rw [shared]
      obtain ⟨enough, sized⟩ := logTree_returns tree there
        (length_printTo_lt (by decide) _)
      refine ⟨enough, ?_⟩
      intro fuel answer enoughFuel ran
      obtain ⟨measured, reported, logs, present, -, bytes, files⟩ :=
        heapstoreGetStats_logs ready ran
      rw [sized fuel enoughFuel] at logs
      cases logs
      exact ⟨reported, present, files, bytes⟩
    · intro path writes place found leads file
      exact countedAt_of_below opened short empty (loggerWrites_below writes)
        leads file
  · intro few agree
    exact harmless_of_totals_agree tree few (totals_of_agree tree opened agree)

/-! ### A log directory below a short root -/

def shortPlatform : Platform where
  env := some (ofString "/r")
  dataDir := []

def kernelName : EntryName := .of (ofString "kernel") (by decide)

def logFile (size : UInt64) : FileNode FileStat :=
  .file { modified := 0, size := size }

/-- The volume with this log directory at `/r/logs`. -/
def logVolume (entries : Entries FileStat)
    (distinct : (FileNode.dir { modified := 0, size := 4096 } entries).Distinct) :
    Volume FileStat where
  data := { modified := 0, size := 4096 }
  entries := [(.of (ofString "r") (by decide),
    .dir { modified := 0, size := 4096 }
      [(.of (ofString "logs") (by decide),
        .dir { modified := 0, size := 4096 } entries)])]
  distinct := distinct_single (distinct_single distinct)
  working := []

def emptyDirectory : FileNode FileStat :=
  .dir { modified := 0, size := 4096 } []

/-- Two files in the base directory, and the subdirectories without any. -/
def flatLogs : Entries FileStat :=
  [(.of (ofString "a.log") (by decide), logFile 10), (kernelName, emptyDirectory),
    (.of (ofString "services") (by decide), emptyDirectory),
    (.of (ofString "b.log") (by decide), logFile 20),
    (.of (ofString "apps") (by decide), emptyDirectory)]

theorem flatLogs_entries {entry : EntryName × FileNode FileStat}
    (member : entry ∈ flatLogs) :
    (∃ size, entry.2 = logFile size) ∨
      entry.2 = emptyDirectory ∧
        entry.1.text ∈ ["kernel", "services", "apps"].map ofString := by
  simp only [flatLogs, List.mem_cons, List.not_mem_nil, or_false] at member
  rcases member with rfl | rfl | rfl | rfl | rfl
  · exact Or.inl ⟨10, rfl⟩
  · exact Or.inr ⟨rfl, by decide⟩
  · exact Or.inr ⟨rfl, by decide⟩
  · exact Or.inl ⟨20, rfl⟩
  · exact Or.inr ⟨rfl, by decide⟩

def flatVolume : Volume FileStat :=
  logVolume flatLogs (.dir (by decide) (by
    intro entry member
    rcases flatLogs_entries member with ⟨size, file⟩ | ⟨directory, _⟩
    · rw [file]
      exact .file _
    · rw [directory]
      exact .dir (by decide) (List.forall_mem_nil _)))

theorem logGetStats_agrees_iff_flat :
    LogStatsAgree flatVolume shortPlatform flatLogs ∧
      weighEntries fileTally flatLogs = (30, 2) := by
  have tree : LogTree flatLogs := by
    refine ⟨by decide, ?_⟩
    intro entry member data files node
    rcases flatLogs_entries member with ⟨size, file⟩ | ⟨directory, named⟩
    · rw [file] at node
      cases node
    · rw [directory] at node
      cases node
      exact ⟨named, List.forall_mem_nil _⟩
  have opened : flatVolume.opendir
      (logBasePath shortPlatform.env shortPlatform.dataDir) = some flatLogs :=
    rfl
  refine ⟨(logGetStats_agrees_iff _ shortPlatform opened tree).1
    ⟨?_, logPathsHarmless_of_short tree opened (by decide)⟩, by decide⟩
  intro entry member data files node
  rcases flatLogs_entries member with ⟨size, file⟩ | ⟨directory, _⟩
  · rw [file] at node
    cases node
  · rw [directory] at node
    cases node
    rfl

/-- The main log file in its subdirectory. -/
def kernelLogs : Entries FileStat :=
  [(kernelName, .dir { modified := 0, size := 4096 }
    [(.of (ofString "agentrt.log") (by decide), logFile 10)])]

/-- The statistics leave out the main log file. -/
theorem logGetStats_misses_main :
    ¬∀ (volume : Volume FileStat) (platform : Platform)
      (entries : Entries FileStat),
      volume.opendir (logBasePath platform.env platform.dataDir) =
        some entries →
      LogTree entries → LogStatsAgree volume platform entries := by
  intro always
  have tree : LogTree kernelLogs := by
    constructor
    · intro entry member
      rw [List.mem_singleton.mp member]
      decide
    · intro entry member data files node
      rw [List.mem_singleton.mp member] at node ⊢
      cases node
      refine ⟨by decide, ?_⟩
      intro file listed
      rw [List.mem_singleton.mp listed]
      exact ⟨by decide, _, rfl⟩
  let volume :=
    logVolume kernelLogs (distinct_single (distinct_single (.file _)))
  have opened : volume.opendir (logBasePath shortPlatform.env
      shortPlatform.dataDir) = some kernelLogs := rfl
  have same := totals_of_agree tree opened
    (always volume shortPlatform kernelLogs opened tree)
  have empty := (harmless_of_totals_agree tree (by decide) same).1
  have none_ := empty _ List.mem_cons_self _ _ rfl
  cases none_

end Heapstore.Core
