/-
The schema version file.

The file holds one decimal numeral.  Reading rejects everything else, writing
goes through a temporary file and a rename.  Every file operation may fail.
-/

import Heapstore.Disk
import Heapstore.Types

namespace Heapstore.Migration

open ByteText

abbrev maxPathLen : Nat := 512

def schemaVersionCurrent : UInt32 := 10000

def versionFilePath (root : Bytes) : Bytes :=
  printTo maxPathLen (root ++ ofString "/" ++ ofString ".schema_version")

def isBlank (byte : UInt8) : Bool :=
  byte = 32 || byte = 9 || byte = 13 || byte = 10

def parseNumeral (line : Bytes) : Option Nat :=
  let text := cString line
  let numeral := strtoul text
  match numeral.rest with
  | none => none
  | some rest =>
      if numeral.overflow then none
      else
        match (text.dropWhile isBlank).head? with
        | none => none
        | some first =>
            if isDigit first = false then none
            else if rest.all isBlank then some numeral.value
            else none

/-- The version keeps the low 32 bits of the numeral. -/
def parseVersion (line : Bytes) : Option UInt32 :=
  (parseNumeral line).map UInt32.ofNat

structure VersionReadCalls where
  opened : Bool
  read : Bool
  deriving DecidableEq

def VersionReadCalls.ok : VersionReadCalls := { opened := true, read := true }

/-- `heapstore_migration_get_version`.  `out` is whether the caller passed an
output; a directory opens but cannot be read. -/
def migrationGetVersion (out ready : Bool) (root : Bytes)
    (calls : VersionReadCalls) (disk : Disk) : Except HeapstoreError UInt32 :=
  if out = false then .error .errInvalidParam
  else if ready = false then .error .errNotInitialized
  else
    match disk.find root (versionFilePath root) with
    | .missing => if calls.opened then .ok 0 else .error .errFileOpenFailed
    | .directory =>
        if calls.opened then .error .errFileCorrupt
        else .error .errFileOpenFailed
    | .file data =>
        if calls.opened = false then .error .errFileOpenFailed
        else if calls.read = false then .error .errFileCorrupt
        else
          match (fgets 32 data.content).bind parseVersion with
          | none => .error .errFileCorrupt
          | some version => .ok version

/-- The outcomes of writing the version file.  `written` is how much of the
text reaches the temporary file when printing or syncing fails. -/
structure VersionWriteCalls where
  opened : Bool
  printed : Bool
  synced : Bool
  closed : Bool
  renamed : Bool
  removed : Bool
  written : Nat
  deriving DecidableEq

def VersionWriteCalls.ok : VersionWriteCalls where
  opened := true
  printed := true
  synced := true
  closed := true
  renamed := true
  removed := true
  written := 0

def versionText (version : UInt32) : Bytes :=
  decimal version.toNat ++ [10]

/-- The temporary file after a failed write, unless its removal fails too. -/
def dropTemporary (calls : VersionWriteCalls) (path : Bytes) (disk : Disk) :
    Disk :=
  if calls.removed then disk.remove path else disk

def migrationSetVersion (ready : Bool) (root : Bytes)
    (calls : VersionWriteCalls) (version : UInt32) (disk : Disk) :
    Disk × HeapstoreError :=
  let path := versionFilePath root
  let temporary := path ++ ofString ".tmp"
  if ready = false then (disk, .errNotInitialized)
  else if maxPathLen ≤ temporary.length then (disk, .errConfigInvalid)
  else if calls.opened = false then (disk, .errFileOpenFailed)
  else if calls.printed = false ∨ calls.synced = false then
    (dropTemporary calls temporary
      (disk.write temporary
        (.bytes ((versionText version).take calls.written))),
      .errFileOperationFailed)
  else
    let printed := disk.write temporary (.bytes (versionText version))
    if calls.closed = false then
      (dropTemporary calls temporary printed, .errFileOperationFailed)
    else if calls.renamed = false then
      (dropTemporary calls temporary printed, .errFileOperationFailed)
    else (printed.rename temporary path, .success)

structure VersionCheck where
  disk : Disk
  error : HeapstoreError
  needsMigration : Bool
  currentVersion : UInt32

/-- `heapstore_migration_check`.  `out` is whether the caller passed the
output flag; a directory without a version is stamped with the current one. -/
def migrationCheck (out ready : Bool) (root : Bytes) (read : VersionReadCalls)
    (stamp : VersionWriteCalls) (disk : Disk) : VersionCheck :=
  if out = false then
    { disk := disk
      error := .errInvalidParam
      needsMigration := false
      currentVersion := 0 }
  else
    match migrationGetVersion true ready root read disk with
    | .error error =>
        { disk := disk
          error := error
          needsMigration := false
          currentVersion := 0 }
    | .ok version =>
        if version = 0 then
          let stamped :=
            migrationSetVersion ready root stamp schemaVersionCurrent disk
          { disk := stamped.1
            error := stamped.2
            needsMigration := false
            currentVersion := version }
        else
          { disk := disk
            error := .success
            needsMigration := decide (version < schemaVersionCurrent)
            currentVersion := version }

/-! ### Reading back what was written -/

private theorem isDigit_not_zero {byte : UInt8} (digit : isDigit byte = true) :
    byte ≠ 0 ∧ byte ≠ 10 ∧ isBlank byte = false := by
  have low : 48 ≤ byte.toNat := by
    have bounds : 48 ≤ byte.toNat ∧ byte.toNat ≤ 57 := by
      simpa [isDigit, UInt8.le_iff_toNat_le] using digit
    exact bounds.1
  have apart (other : UInt8) (outside : other.toNat < 48) : byte ≠ other := by
    rintro rfl
    omega
  refine ⟨apart 0 (by decide), apart 10 (by decide), ?_⟩
  simp [isBlank, apart 32 (by decide), apart 9 (by decide),
    apart 13 (by decide), apart 10 (by decide)]

theorem length_decimal_version (version : UInt32) :
    (decimal version.toNat).length ≤ 10 := by
  apply length_decimal_le (by decide)
  have bound := version.toNat_lt
  omega

theorem parseNumeral_versionText (version : UInt32) :
    parseNumeral (versionText version) = some version.toNat := by
  have digits : ∀ byte ∈ decimal version.toNat, isDigit byte = true :=
    fun byte member => isDigit_of_mem_decimal member
  have clean : cString (versionText version) = versionText version := by
    apply cString_of_not_mem
    intro member
    rcases List.mem_append.mp member with digit | newline
    · exact (isDigit_not_zero (digits 0 digit)).1 rfl
    · cases List.mem_singleton.mp newline
  have value : digitsValue (decimal version.toNat) = version.toNat :=
    digitsValue_decimal version.toNat
  have numeral : strtoul (versionText version) =
      { value := version.toNat, overflow := false, rest := some [10] } := by
    unfold versionText
    rw [strtoul_digits (decimal_ne_nil version.toNat) digits (by
      intro byte first
      cases first
      rfl) (by
      rw [value]
      have bound := version.toNat_lt
      omega), value]
  obtain ⟨first, rest, shape⟩ :=
    List.exists_cons_of_ne_nil (decimal_ne_nil version.toNat)
  have firstDigit : isDigit first = true :=
    digits first (by rw [shape]; exact List.mem_cons_self)
  have scanned :
      ((versionText version).dropWhile isBlank).head? = some first := by
    unfold versionText
    rw [shape, List.cons_append, List.dropWhile_cons_of_neg (by
      simp [(isDigit_not_zero firstDigit).2.2])]
    rfl
  unfold parseNumeral
  simp only [clean, numeral, scanned, firstDigit, Bool.false_eq_true,
    if_false, Bool.true_eq_false]
  rw [if_pos (by decide)]

theorem fgets_versionText (version : UInt32) :
    fgets 32 (versionText version) = some (versionText version) := by
  have line : lineUpTo 31 (versionText version) = versionText version := by
    apply lineUpTo_append_newline []
    · intro newline
      exact (isDigit_not_zero (isDigit_of_mem_decimal newline)).2.1 rfl
    · have short := length_decimal_version version
      omega
  obtain ⟨first, rest, shape⟩ :=
    List.exists_cons_of_ne_nil (decimal_ne_nil version.toNat)
  have split : versionText version = first :: (rest ++ [10]) := by
    unfold versionText
    rw [shape]
    rfl
  unfold fgets
  rw [split] at line ⊢
  exact congrArg some line

/-! ### What a version write does -/

theorem versionFilePath_of_short {root : Bytes} (short : root.length < 496) :
    versionFilePath root = root ++ ofString "/" ++ ofString ".schema_version" := by
  apply printTo_of_fits
  rw [List.length_append, List.length_append]
  change root.length + 1 + 15 < 512
  omega

theorem versionFilePath_longer {root : Bytes} (short : root.length < 510) :
    root.length + 1 < (versionFilePath root).length := by
  unfold versionFilePath printTo maxPathLen
  rw [List.length_take, List.length_append, List.length_append]
  change root.length + 1 < min 511 (root.length + 1 + 15)
  omega

private theorem temporary_ne (path : Bytes) : path ++ ofString ".tmp" ≠ path := by
  intro same
  have lengths := congrArg List.length same
  rw [List.length_append] at lengths
  change path.length + 4 = path.length at lengths
  omega

private theorem dropTemporary_write_of_ne {calls : VersionWriteCalls}
    {disk : Disk} {path other : Bytes} {data : FileData}
    (different : other ≠ path) :
    dropTemporary calls path (disk.write path data) other = disk other := by
  unfold dropTemporary
  split
  · rw [Disk.remove_of_ne different, Disk.write_of_ne different]
  · exact Disk.write_of_ne different

/-- A write either fails and leaves the version file as it was, or succeeds
below a short root and leaves the numeral of the version there. -/
theorem migrationSetVersion_outcome (ready : Bool) (root : Bytes)
    (calls : VersionWriteCalls) (version : UInt32) (disk : Disk) :
    let result := migrationSetVersion ready root calls version disk
    (result.2 ≠ .success ∧
        result.1 (versionFilePath root) = disk (versionFilePath root)) ∨
      (result.2 = .success ∧ ready = true ∧
        (versionFilePath root ++ ofString ".tmp").length < maxPathLen ∧
        result.1 (versionFilePath root) =
          some (.bytes (versionText version))) := by
  have different := (temporary_ne (versionFilePath root)).symm
  intro result
  unfold result migrationSetVersion
  simp only
  split
  · exact Or.inl ⟨nofun, rfl⟩
  · next isReady =>
      split
      · exact Or.inl ⟨nofun, rfl⟩
      · next fits =>
          split
          · exact Or.inl ⟨nofun, rfl⟩
          · split
            · exact Or.inl ⟨nofun, dropTemporary_write_of_ne different⟩
            · split
              · exact Or.inl ⟨nofun, dropTemporary_write_of_ne different⟩
              · split
                · exact Or.inl ⟨nofun, dropTemporary_write_of_ne different⟩
                · refine Or.inr ⟨rfl, by simpa using isReady,
                    Nat.lt_of_not_le fits, ?_⟩
                  exact Disk.rename_target (Disk.write_self ..) different

theorem migrationSetVersion_of_ne {ready : Bool} {root other : Bytes}
    {calls : VersionWriteCalls} {version : UInt32} {disk : Disk}
    (notVersion : other ≠ versionFilePath root)
    (notTemporary : other ≠ versionFilePath root ++ ofString ".tmp") :
    (migrationSetVersion ready root calls version disk).1 other =
      disk other := by
  unfold migrationSetVersion
  simp only
  split
  · rfl
  · split
    · rfl
    · split
      · rfl
      · split
        · exact dropTemporary_write_of_ne notTemporary
        · split
          · exact dropTemporary_write_of_ne notTemporary
          · split
            · exact dropTemporary_write_of_ne notTemporary
            · exact (Disk.rename_of_ne notTemporary notVersion).trans
                (Disk.write_of_ne notTemporary)

/-! ### The recorded version -/

theorem migrationGetVersion_error_ne {out ready : Bool} {root : Bytes}
    {calls : VersionReadCalls} {disk : Disk} {error : HeapstoreError}
    (failed : migrationGetVersion out ready root calls disk = .error error) :
    error ≠ .success := by
  unfold migrationGetVersion at failed
  repeat' split at failed
  all_goals cases failed
  all_goals exact nofun

/-- The version a reader finds when no file operation fails. -/
def RecordedVersion (root : Bytes) (disk : Disk) (version : UInt32) : Prop :=
  migrationGetVersion true true root .ok disk = .ok version

theorem recordedVersion_unique {root : Bytes} {disk : Disk}
    {first second : UInt32} (here : RecordedVersion root disk first)
    (there : RecordedVersion root disk second) : first = second := by
  unfold RecordedVersion at here there
  rw [here] at there
  cases there
  rfl

theorem recordedVersion_of_read {out ready : Bool} {root : Bytes}
    {calls : VersionReadCalls} {disk : Disk} {version : UInt32}
    (read : migrationGetVersion out ready root calls disk = .ok version) :
    RecordedVersion root disk version := by
  unfold migrationGetVersion at read
  unfold RecordedVersion migrationGetVersion
  rcases calls with ⟨_ | _, _ | _⟩ <;> cases out <;> cases ready <;>
    cases found : disk.find root (versionFilePath root) <;>
    simp_all [VersionReadCalls.ok]

theorem recordedVersion_congr {root : Bytes} {disk other : Disk}
    (same : other (versionFilePath root) = disk (versionFilePath root))
    (version : UInt32) :
    RecordedVersion root other version ↔ RecordedVersion root disk version := by
  unfold RecordedVersion migrationGetVersion
  rw [Disk.find_congr same]

theorem short_of_temporary_fits {root : Bytes}
    (fits : (versionFilePath root ++ ofString ".tmp").length < maxPathLen) :
    root.length < 496 := by
  unfold versionFilePath printTo maxPathLen at fits
  rw [List.length_append, List.length_take, List.length_append,
    List.length_append] at fits
  change min 511 (root.length + 1 + 15) + 4 < 512 at fits
  omega

def VersionMissing (root : Bytes) (disk : Disk) : Prop :=
  disk.find root (versionFilePath root) = .missing

/-- The version file is there and its numeral passes the checks. -/
def RecordedNumeral (root : Bytes) (disk : Disk) (numeral : Nat) : Prop :=
  ∃ data, disk.find root (versionFilePath root) = .file data ∧
    (fgets 32 data.content).bind parseNumeral = some numeral

theorem recordedNumeral_congr {root : Bytes} {disk other : Disk}
    (same : other (versionFilePath root) = disk (versionFilePath root))
    (numeral : Nat) :
    RecordedNumeral root other numeral ↔ RecordedNumeral root disk numeral := by
  unfold RecordedNumeral
  rw [Disk.find_congr same]

/-- The recorded version is zero for a missing file, and otherwise the low bits
of the numeral. -/
theorem recordedVersion_iff {root : Bytes} {disk : Disk} {version : UInt32} :
    RecordedVersion root disk version ↔
      (VersionMissing root disk ∧ version = 0) ∨
        ∃ numeral, RecordedNumeral root disk numeral ∧
          version = UInt32.ofNat numeral := by
  unfold RecordedVersion VersionMissing RecordedNumeral migrationGetVersion
  simp only [Bool.true_eq_false, if_false, VersionReadCalls.ok, if_true]
  cases disk.find root (versionFilePath root) with
  | missing => simp [eq_comm]
  | directory => simp
  | file data =>
      have parsed : (fgets 32 data.content).bind parseVersion =
          ((fgets 32 data.content).bind parseNumeral).map UInt32.ofNat := by
        cases fgets 32 data.content <;> rfl
      simp only [parsed]
      constructor
      · intro read
        apply Or.inr
        cases numeral : (fgets 32 data.content).bind parseNumeral with
        | none =>
            rw [numeral] at read
            cases read
        | some value =>
            rw [numeral] at read
            cases read
            exact ⟨value, ⟨data, rfl, numeral⟩, rfl⟩
      · rintro (⟨missing, _⟩ | ⟨value, ⟨other, found, numeral⟩, rfl⟩)
        · cases missing
        · cases found
          rw [numeral]
          rfl

theorem recordedVersion_toNat {root : Bytes} {disk : Disk} {version : UInt32}
    {numeral : Nat} (recorded : RecordedVersion root disk version)
    (present : RecordedNumeral root disk numeral) :
    version.toNat = numeral % 2 ^ 32 := by
  have read : RecordedVersion root disk (UInt32.ofNat numeral) :=
    recordedVersion_iff.mpr (Or.inr ⟨numeral, present, rfl⟩)
  rw [recordedVersion_unique recorded read]
  exact UInt32.toNat_ofNat'

theorem recordedVersion_of_numeral {root : Bytes} {disk : Disk}
    {version : UInt32} (present : RecordedNumeral root disk version.toNat) :
    RecordedVersion root disk version :=
  recordedVersion_iff.mpr
    (Or.inr ⟨version.toNat, present, UInt32.ofNat_toNat.symm⟩)

theorem recordedNumeral_of_text {root : Bytes} {disk : Disk}
    {version : UInt32} (short : root.length < 510)
    (written : disk (versionFilePath root) =
      some (.bytes (versionText version))) :
    RecordedNumeral root disk version.toNat := by
  refine ⟨.bytes (versionText version), ?_, ?_⟩
  · rw [Disk.find_below (versionFilePath_longer short), written]
  · rw [FileData.content, fgets_versionText, Option.bind_some,
      parseNumeral_versionText]

theorem recordedVersion_of_text {root : Bytes} {disk : Disk}
    {version : UInt32} (short : root.length < 510)
    (written : disk (versionFilePath root) =
      some (.bytes (versionText version))) :
    RecordedVersion root disk version :=
  recordedVersion_of_numeral (recordedNumeral_of_text short written)

theorem recordedVersion_of_write {ready : Bool} {root : Bytes}
    {calls : VersionWriteCalls} {version : UInt32} {disk : Disk}
    (succeeded :
      (migrationSetVersion ready root calls version disk).2 = .success) :
    RecordedVersion root
      (migrationSetVersion ready root calls version disk).1 version := by
  rcases migrationSetVersion_outcome ready root calls version disk with
    ⟨failed, _⟩ | ⟨_, _, fits, written⟩
  · exact absurd succeeded failed
  · have short := short_of_temporary_fits fits
    exact recordedVersion_of_text (by omega) written

end Heapstore.Migration
