/-
The backup of a data file, chunk by chunk.

The name of the backup is printed into 512 bytes, so it is not always the path
with the suffix behind it: a path that fills the buffer is its own backup.
-/

import Heapstore.MigrationSteps
import Heapstore.Foundation.ChunkedCopy

namespace Heapstore.Migration

open ByteText

/-- The bytes of every file; a path that names none has no bytes. -/
abbrev Files := Bytes → Option Bytes

def backupSuffix : Bytes := ofString ".pre_migration_bak"

/-- The outcomes of one backup.  `kept` is how much of what was passed on is in
the backup when the copy or its sync fails. -/
structure ChunkedCalls where
  sourceOpened : Bool
  targetOpened : Bool
  rounds : Nat → ChunkedCopy.Round
  synced : Bool
  kept : Nat

/-- `mig_backup_data_file` on the bytes of the files.  Opening the backup
truncates it before anything is read. -/
def migBackupDataFileChunked (calls : ChunkedCalls) (path : Bytes)
    (files : Files) : Files × HeapstoreError :=
  match files path with
  | none => (files, .errFileOpenFailed)
  | some _ =>
      if calls.sourceOpened = false ∨ calls.targetOpened = false then
        (files, .errFileOpenFailed)
      else
        let opened := Function.update files (backupPath path) (some [])
        let holding (content : Bytes) : Files :=
          Function.update opened (backupPath path) (some content)
        match ChunkedCopy.copy 8192 calls.rounds ((opened path).getD []) []
            false with
        | .refused passed =>
            (holding (passed.take calls.kept), .errFileOperationFailed)
        | .finished copied readFailed =>
            if readFailed = true ∨ calls.synced = false then
              (holding (copied.take calls.kept), .errFileOperationFailed)
            else (holding copied, .success)

/-! ### The name of the backup -/

theorem length_backupSuffix : backupSuffix.length = 18 := by decide

theorem backupPath_eq_append {path : Bytes} (short : path.length < 494) :
    backupPath path = path ++ backupSuffix := by
  apply printTo_of_fits
  change (path ++ backupSuffix).length < 512
  rw [List.length_append, length_backupSuffix]
  omega

theorem length_backupPath {path : Bytes} (long : 494 ≤ path.length) :
    (backupPath path).length = 511 := by
  change ((path ++ backupSuffix).take 511).length = 511
  rw [List.length_take, List.length_append, length_backupSuffix]
  omega

theorem backupPath_ne_append {path : Bytes} (long : 494 ≤ path.length) :
    path ++ backupSuffix ≠ backupPath path := by
  intro same
  have lengths := congrArg List.length same
  rw [length_backupPath long, List.length_append, length_backupSuffix] at lengths
  omega

theorem append_backupSuffix_ne (path : Bytes) : path ++ backupSuffix ≠ path := by
  intro same
  have lengths := congrArg List.length same
  rw [List.length_append, length_backupSuffix] at lengths
  omega

/-- A path is its own backup exactly when it fills the name buffer. -/
theorem backupPath_eq_self_iff {path : Bytes} :
    path = backupPath path ↔ path.length = 511 := by
  constructor
  · intro same
    rcases Nat.lt_or_ge path.length 494 with short | long
    · rw [backupPath_eq_append short] at same
      exact absurd same.symm (append_backupSuffix_ne path)
    · rw [← length_backupPath long, ← same]
  · intro full
    change path = (path ++ backupSuffix).take 511
    rw [← full, List.take_left]

theorem ne_backupPath {path : Bytes} (short : path.length < 494) :
    path ≠ backupPath path := by
  intro own
  have full := backupPath_eq_self_iff.mp own
  omega

/-! ### What one backup leaves -/

/-- The bytes that the copy can read: opening the backup may have taken them
away. -/
def readable (path content : Bytes) : Bytes :=
  if path = backupPath path then [] else content

private theorem opened_path {path content : Bytes} {files : Files}
    (held : files path = some content) :
    Function.update files (backupPath path) (some []) path =
      some (readable path content) := by
  unfold readable
  by_cases own : path = backupPath path
  · rw [if_pos own, ← own, Function.update_self]
  · rw [if_neg own, Function.update_of_ne own, held]

/-- A backup does not get going, or it leaves a prefix of what it could read,
and all of it when it succeeds. -/
theorem migBackupDataFileChunked_cases (calls : ChunkedCalls)
    {path content : Bytes} {files : Files}
    (held : files path = some content) :
    migBackupDataFileChunked calls path files = (files, .errFileOpenFailed) ∨
      ∃ shown, shown <+: readable path content ∧
        ((migBackupDataFileChunked calls path files).2 = .success →
          shown = readable path content) ∧
        (migBackupDataFileChunked calls path files).1 =
          Function.update files (backupPath path) (some shown) := by
  have front := ChunkedCopy.passed_copy 8192 calls.rounds
    (readable path content) [] false
  have whole (result : Bytes) (finished : ChunkedCopy.copy 8192 calls.rounds
      (readable path content) [] false = .finished result false) :=
    ChunkedCopy.copy_finished (by decide) finished
  unfold migBackupDataFileChunked
  simp only [held, opened_path held, Option.getD_some, Function.update_idem]
  split
  · exact Or.inl rfl
  · refine Or.inr ?_
    cases copied : ChunkedCopy.copy 8192 calls.rounds (readable path content) []
        false with
    | refused passed =>
        rw [copied] at front
        exact ⟨_, (List.take_prefix ..).trans front, nofun, rfl⟩
    | finished result readFailed =>
        rw [copied] at front
        simp only
        split
        · exact ⟨_, (List.take_prefix ..).trans front, nofun, rfl⟩
        · next good =>
            rw [not_or, Bool.not_eq_true] at good
            rw [good.1] at copied
            exact ⟨_, front, fun _ => whole result copied, rfl⟩

theorem migBackupDataFileChunked_missing (calls : ChunkedCalls)
    {path : Bytes} {files : Files} (missing : files path = none) :
    migBackupDataFileChunked calls path files = (files, .errFileOpenFailed) := by
  unfold migBackupDataFileChunked
  simp only [missing]

/-- Other files are not touched. -/
theorem migBackupDataFileChunked_of_ne (calls : ChunkedCalls)
    {path other : Bytes} (files : Files) (different : other ≠ backupPath path) :
    (migBackupDataFileChunked calls path files).1 other = files other := by
  cases held : files path with
  | none => rw [migBackupDataFileChunked_missing calls held]
  | some content =>
      rcases migBackupDataFileChunked_cases calls held with
        unopened | ⟨shown, _, _, left⟩
      · rw [unopened]
      · rw [left, Function.update_of_ne different]

/-- Below the length of the name buffer a backup that succeeds is the file. -/
theorem migBackupDataFileChunked_copy {calls : ChunkedCalls}
    {path content : Bytes} {files : Files} (short : path.length < 494)
    (held : files path = some content)
    (succeeded : (migBackupDataFileChunked calls path files).2 = .success) :
    (migBackupDataFileChunked calls path files).1 =
      Function.update files (path ++ backupSuffix) (some content) := by
  have other : path ≠ backupPath path := fun own => by
    have full := backupPath_eq_self_iff.mp own
    omega
  rcases migBackupDataFileChunked_cases calls held with
    unopened | ⟨shown, _, all, left⟩
  · rw [unopened] at succeeded
    cases succeeded
  · rw [left, all succeeded, readable, if_neg other, backupPath_eq_append short]

def ChunkedCalls.ok : ChunkedCalls where
  sourceOpened := true
  targetOpened := true
  rounds := fun _ => { size := 8192, readFailed := false, written := true }
  synced := true
  kept := 0

theorem migBackupDataFileChunked_ok {path content : Bytes} {files : Files}
    (held : files path = some content) :
    migBackupDataFileChunked .ok path files =
      (Function.update files (backupPath path) (some (readable path content)),
        .success) := by
  have copied : ChunkedCopy.copy 8192 ChunkedCalls.ok.rounds
      (readable path content) [] false =
        .finished ([] ++ readable path content) false :=
    ChunkedCopy.copy_of_good _ [] (by decide) rfl fun _ => ⟨rfl, rfl⟩
  unfold migBackupDataFileChunked
  simp only [held, opened_path held, Option.getD_some, Function.update_idem,
    copied]
  rfl

/-! ### When a backup is harmless -/

/-- However the calls turn out, the file is as it was, and after a success the
file named by path and suffix holds the same bytes. -/
def BackupHarmless (path : Bytes) (files : Files) : Prop :=
  ∀ calls, let result := migBackupDataFileChunked calls path files
    result.1 path = files path ∧
      (result.2 = .success → path ++ backupSuffix ≠ path ∧
        ∃ content, files path = some content ∧
          result.1 (path ++ backupSuffix) = some content)

/-- The name fits its buffer, or the file that it should name happens to hold
the same bytes already. -/
def BackupNameFits (path : Bytes) (files : Files) : Prop :=
  path.length < 494 ∨ files path = none ∨
    ∃ content, files path = some content ∧
      files (path ++ backupSuffix) = some content ∧
      (path.length = 511 → content = [])

private theorem harmless_of_fits {path : Bytes} {files : Files}
    (fits : BackupNameFits path files) : BackupHarmless path files := by
  intro calls result
  cases held : files path with
  | none =>
      have unopened : result = (files, .errFileOpenFailed) :=
        migBackupDataFileChunked_missing calls held
      rw [unopened]
      exact ⟨held, nofun⟩
  | some content =>
      rcases migBackupDataFileChunked_cases calls held with
        unopened | ⟨shown, front, all, left⟩
      · have same : result = (files, .errFileOpenFailed) := unopened
        rw [same]
        exact ⟨held, nofun⟩
      · have after : result.1 =
            Function.update files (backupPath path) (some shown) := left
        rw [after]
        rcases fits with short | missing | ⟨other, there, copied, empty⟩
        · have own := ne_backupPath short
          refine ⟨by rw [Function.update_of_ne own, held], fun succeeded =>
            ⟨append_backupSuffix_ne path, content, rfl, ?_⟩⟩
          rw [← backupPath_eq_append short, Function.update_self, all succeeded,
            readable, if_neg own]
        · rw [held] at missing
          cases missing
        · rw [held] at there
          cases there
          constructor
          · by_cases own : path = backupPath path
            · -- The file is its own backup: it had no bytes to lose.
              rw [readable, if_pos own] at front
              rw [← own, Function.update_self, List.prefix_nil.mp front,
                empty (backupPath_eq_self_iff.mp own)]
            · rw [Function.update_of_ne own, held]
          · refine fun succeeded => ⟨append_backupSuffix_ne path, content, rfl,
              ?_⟩
            by_cases name : path ++ backupSuffix = backupPath path
            · have own : path ≠ backupPath path := by
                rw [← name]
                exact (append_backupSuffix_ne path).symm
              rw [name, Function.update_self, all succeeded, readable,
                if_neg own]
            · rw [Function.update_of_ne name, copied]

private theorem fits_of_harmless {path : Bytes} {files : Files}
    (harmless : BackupHarmless path files) : BackupNameFits path files := by
  rcases Nat.lt_or_ge path.length 494 with short | long
  · exact Or.inl short
  · refine Or.inr ?_
    cases held : files path with
    | none => exact Or.inl rfl
    | some content =>
        obtain ⟨kept, copied⟩ := harmless .ok
        rw [migBackupDataFileChunked_ok held] at kept copied
        obtain ⟨_, other, same, there⟩ := copied rfl
        rw [held] at same
        cases same
        change Function.update files _ _ (path ++ backupSuffix) = _ at there
        rw [Function.update_of_ne (backupPath_ne_append long)] at there
        refine Or.inr ⟨content, rfl, there, fun full => ?_⟩
        have own := backupPath_eq_self_iff.mpr full
        change Function.update files (backupPath path) _ path = _ at kept
        rw [← own, Function.update_self, readable, if_pos own, held] at kept
        exact (Option.some.inj kept).symm

/-- A backup never harms its file exactly when the name of the backup fits. -/
theorem backup_harmless_iff (path : Bytes) (files : Files) :
    BackupHarmless path files ↔ BackupNameFits path files :=
  ⟨fits_of_harmless, harmless_of_fits⟩

/-- A path of two components with 511 bytes in all. -/
def fullPath : Bytes :=
  ofString "/" ++ List.replicate 255 97 ++ ofString "/" ++ List.replicate 254 98

/-- A file of one byte at a path of 511 bytes is emptied by its own backup. -/
theorem backup_empties_file :
    ¬∀ (path : Bytes) (files : Files), BackupHarmless path files := by
  intro always
  have full : fullPath.length = 511 := by decide +kernel
  have own := backupPath_eq_self_iff.mpr full
  have held : Function.update (fun _ => none : Files) fullPath (some [1])
      fullPath = some [1] := Function.update_self ..
  have kept := (always fullPath
    (Function.update (fun _ => none) fullPath (some [1])) .ok).1
  simp only [migBackupDataFileChunked_ok held] at kept
  rw [← own, Function.update_self, readable, if_pos own,
    Function.update_self] at kept
  cases kept

/-! ### The backup of a migration step -/

def Files.disk (files : Files) : Disk :=
  fun path => (files path).map FileData.bytes

theorem Files.disk_update (files : Files) (path content : Bytes) :
    Files.disk (Function.update files path (some content)) =
      Disk.write files.disk path (.bytes content) := by
  funext other
  unfold Files.disk Disk.write
  by_cases same : other = path
  · rw [same, Function.update_self, Function.update_self]
    rfl
  · rw [Function.update_of_ne same, Function.update_of_ne same]

/-- The outcomes of the backup as the steps see it. -/
def ChunkedCalls.outcomes (calls : ChunkedCalls) (path content : Bytes) :
    BackupCalls :=
  let ended := ChunkedCopy.copy 8192 calls.rounds (readable path content) []
    false
  { sourceOpened := calls.sourceOpened
    targetOpened := calls.targetOpened
    copied :=
      match ended with
      | .refused _ => false
      | .finished _ readFailed => !readFailed && calls.synced
    torn := .bytes (ended.passed.take calls.kept) }

/-- A backup by chunks is a backup of a migration step. -/
theorem migBackupDataFile_outcomes (calls : ChunkedCalls) {root path : Bytes}
    (longer : root.length + 1 < path.length) (files : Files) :
    migBackupDataFile root (calls.outcomes path ((files path).getD [])) path
        files.disk =
      (Files.disk (migBackupDataFileChunked calls path files).1,
        (migBackupDataFileChunked calls path files).2) := by
  cases held : files path with
  | none =>
      rw [migBackupDataFileChunked_missing calls held]
      unfold migBackupDataFile
      rw [Disk.find_below longer]
      simp only [Files.disk, held, Option.map_none]
  | some content =>
      have here : Disk.find root files.disk path = .file (.bytes content) := by
        rw [Disk.find_below longer]
        simp only [Files.disk, held, Option.map_some]
      have opened : Disk.write files.disk (backupPath path) (.bytes []) path =
          some (.bytes (readable path content)) := by
        rw [← Files.disk_update]
        unfold Files.disk
        rw [opened_path held, Option.map_some]
      unfold migBackupDataFile migBackupDataFileChunked ChunkedCalls.outcomes
      simp only [here, held, Option.getD_some, opened_path held,
        Function.update_idem, opened, Disk.write_write]
      by_cases unopened : calls.sourceOpened = false ∨ calls.targetOpened = false
      · rw [if_pos unopened, if_pos unopened]
      · rw [if_neg unopened, if_neg unopened]
        cases copied : ChunkedCopy.copy 8192 calls.rounds
            (readable path content) [] false with
        | refused passed =>
            simp only [if_true, Files.disk_update]
            rfl
        | finished result readFailed =>
            cases readFailed with
            | true =>
                simp only [Bool.not_true, Bool.false_and, if_true, true_or,
                  Files.disk_update]
                rfl
            | false =>
                have all := ChunkedCopy.copy_finished (by decide) copied
                cases synced : calls.synced with
                | false =>
                    simp only [Bool.and_false, if_true, or_true,
                      Files.disk_update]
                    rfl
                | true =>
                    rw [List.nil_append] at all
                    simp only [Bool.not_false, Bool.and_self,
                      Bool.true_eq_false, Bool.false_eq_true, or_self, if_false,
                      Files.disk_update, all]

end Heapstore.Migration
