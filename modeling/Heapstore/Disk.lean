/-
The files below a data directory.

A path names at most one file.  A database file is kept as its tables; every
other file is kept as its bytes.  The path of the root itself, with or without
a trailing separator, names a directory.
-/

import Heapstore.Foundation.ByteText
import Heapstore.Foundation.SqlConnection

namespace Heapstore

open ByteText SqlConnection

inductive FileData where
  | bytes (content : Bytes)
  | database (tables : Database)

/-- The bytes a reader of the file sees; a database file starts with its magic. -/
def FileData.content : FileData → Bytes
  | .bytes content => content
  | .database _ => ofString "SQLite format 3" ++ [0]

/-- The tables of a file opened as a database; an empty file has none, and
other bytes are no database. -/
def FileData.tables : FileData → Option Database
  | .bytes [] => some fun _ => none
  | .bytes _ => none
  | .database tables => some tables

abbrev Disk := Bytes → Option FileData

inductive Found where
  | missing
  | directory
  | file (data : FileData)

/-- The tables a database file brings; a missing file brings none. -/
def Found.tables : Found → Option Database
  | .missing => some fun _ => none
  | .directory => none
  | .file data => data.tables

def Disk.find (root : Bytes) (disk : Disk) (path : Bytes) : Found :=
  if path = root ∨ path = root ++ ofString "/" then .directory
  else
    match disk path with
    | none => .missing
    | some data => .file data

/-- `heapstore_dir_ensure`: an empty path is refused. -/
def dirEnsure (ensured : Bytes → Bool) (path : Bytes) : Bool :=
  decide (path ≠ []) && ensured path

def Disk.write (disk : Disk) (path : Bytes) (data : FileData) : Disk :=
  Function.update disk path (some data)

def Disk.remove (disk : Disk) (path : Bytes) : Disk :=
  Function.update disk path none

/-- `heapstore_atomic_replace`: the target becomes the source, or nothing
happens. -/
def Disk.rename (disk : Disk) (source target : Bytes) : Disk :=
  match disk source with
  | none => disk
  | some data => (disk.write target data).remove source

@[simp] theorem Disk.write_self (disk : Disk) (path : Bytes) (data : FileData) :
    disk.write path data path = some data :=
  Function.update_self ..

theorem Disk.write_of_ne {disk : Disk} {path other : Bytes} {data : FileData}
    (different : other ≠ path) : disk.write path data other = disk other :=
  Function.update_of_ne different ..

theorem Disk.remove_of_ne {disk : Disk} {path other : Bytes}
    (different : other ≠ path) : disk.remove path other = disk other :=
  Function.update_of_ne different ..

@[simp] theorem Disk.write_write (disk : Disk) (path : Bytes)
    (first second : FileData) :
    (disk.write path first).write path second = disk.write path second :=
  Function.update_idem ..

@[simp] theorem Disk.remove_self (disk : Disk) (path : Bytes) :
    disk.remove path path = none :=
  Function.update_self ..

theorem Disk.rename_of_ne {disk : Disk} {source target other : Bytes}
    (notSource : other ≠ source) (notTarget : other ≠ target) :
    disk.rename source target other = disk other := by
  unfold Disk.rename
  cases disk source with
  | none => rfl
  | some data =>
      change ((disk.write target data).remove source) other = disk other
      rw [Disk.remove_of_ne notSource, Disk.write_of_ne notTarget]

theorem Disk.rename_target {disk : Disk} {source target : Bytes}
    {data : FileData} (present : disk source = some data)
    (different : target ≠ source) :
    disk.rename source target target = some data := by
  unfold Disk.rename
  rw [present]
  change ((disk.write target data).remove source) target = some data
  rw [Disk.remove_of_ne different, Disk.write_self]

theorem Disk.rename_source {disk : Disk} {source target : Bytes}
    {data : FileData} (present : disk source = some data) :
    disk.rename source target source = none := by
  unfold Disk.rename
  rw [present]
  exact Disk.remove_self ..

theorem Disk.find_congr {root path : Bytes} {disk other : Disk}
    (same : other path = disk path) :
    Disk.find root other path = Disk.find root disk path := by
  unfold Disk.find
  rw [same]

theorem Disk.of_find_file {root path : Bytes} {disk : Disk} {data : FileData}
    (found : Disk.find root disk path = .file data) : disk path = some data := by
  unfold Disk.find at found
  split at found
  · cases found
  · cases present : disk path with
    | none =>
        rw [present] at found
        cases found
    | some other =>
        rw [present] at found
        cases found
        rfl

theorem Disk.find_database {root path : Bytes} {disk : Disk}
    {database tables : Database} (present : disk path = some (.database database))
    (found : (Disk.find root disk path).tables = some tables) :
    tables = database := by
  unfold Disk.find at found
  rw [present] at found
  split at found
  · cases found
  · exact (Option.some.inj found).symm

theorem Disk.find_below {root path : Bytes} {disk : Disk}
    (longer : root.length + 1 < path.length) :
    Disk.find root disk path =
      match disk path with
      | none => .missing
      | some data => .file data := by
  have notRoot : ¬(path = root ∨ path = root ++ ofString "/") := by
    rintro (rfl | rfl)
    · omega
    · rw [List.length_append] at longer
      change root.length + 1 < root.length + 1 at longer
      omega
  unfold Disk.find
  rw [if_neg notRoot]

end Heapstore
