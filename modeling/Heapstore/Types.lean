/-
Error codes and record types shared by the subsystems.

A `char` array of a record is the string it holds.  Timestamps and counters
keep the fixed widths of the C structures.
-/

import Heapstore.Foundation.ByteText

namespace Heapstore

open ByteText

inductive HeapstoreError where
  | success
  | errInvalidParam
  | errNotInitialized
  | errAlreadyInitialized
  | errDirCreateFailed
  | errDirNotFound
  | errPermissionDenied
  | errOutOfMemory
  | errDbInitFailed
  | errDbQueryFailed
  | errFileOpenFailed
  | errConfigInvalid
  | errNotFound
  | errFileOperationFailed
  | errFileNotFound
  | errCircuitOpen
  | errTimeout
  | errNoSpace
  | errNotSupported
  | errFileCorrupt
  | errInternal
  deriving DecidableEq, Repr

/-- The codes that the syscall layer returns. -/
inductive SyscallError where
  | success
  | eNotInit
  | eInval
  | eIo
  | eNoMem
  deriving DecidableEq

def SyscallError.ofHeapstore (error : HeapstoreError) : SyscallError :=
  if error = .success then .success else .eIo

theorem SyscallError.ofHeapstore_success_iff (error : HeapstoreError) :
    SyscallError.ofHeapstore error = .success ↔ error = .success := by
  unfold SyscallError.ofHeapstore
  by_cases succeeded : error = .success
  · rw [if_pos succeeded]
    exact ⟨fun _ => succeeded, fun _ => rfl⟩
  · rw [if_neg succeeded]
    exact ⟨nofun, fun other => absurd other succeeded⟩

structure AgentRecord where
  id : CharArray 128
  name : CharArray 256
  type : CharArray 64
  version : CharArray 32
  status : CharArray 32
  configPath : CharArray 512
  createdAt : UInt64
  updatedAt : UInt64
  priority : Int32
  tags : CharArray 256
  deriving DecidableEq

def agentNamed (id : String) : AgentRecord where
  id := CharArray.copy (ofString id)
  name := CharArray.copy []
  type := CharArray.copy []
  version := CharArray.copy []
  status := CharArray.copy []
  configPath := CharArray.copy []
  createdAt := 0
  updatedAt := 0
  priority := 0
  tags := CharArray.copy []

structure SkillRecord where
  id : CharArray 128
  name : CharArray 256
  version : CharArray 32
  libraryPath : CharArray 512
  manifestPath : CharArray 512
  installedAt : UInt64
  deriving DecidableEq

structure SessionRecord where
  id : CharArray 128
  userId : CharArray 128
  createdAt : UInt64
  lastActiveAt : UInt64
  ttlSeconds : UInt32
  status : CharArray 32
  metadata : CharArray 512
  deriving DecidableEq

def sessionNamed (id : String) : SessionRecord where
  id := CharArray.copy (ofString id)
  userId := CharArray.copy []
  createdAt := 0
  lastActiveAt := 0
  ttlSeconds := 0
  status := CharArray.copy []
  metadata := CharArray.copy []

end Heapstore
