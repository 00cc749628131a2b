/-
The memory record module: its tables, its directories, its start and its end.

The tables are lists; the outcome of creating each directory is an argument.
-/

import Heapstore.Disk
import Heapstore.Types

namespace Heapstore.Memory

open ByteText

abbrev memoryMaxPath : Nat := 512

structure MemoryPool where
  poolId : CharArray 128
  name : CharArray 256
  totalSize : UInt64
  usedSize : UInt64
  blockSize : UInt64
  blockCount : UInt32
  freeBlockCount : UInt32
  createdAt : UInt64
  status : CharArray 32
  deriving DecidableEq

structure MemoryAllocation where
  allocationId : CharArray 128
  poolId : CharArray 128
  size : UInt64
  address : UInt64
  allocatedAt : UInt64
  freedAt : UInt64
  status : CharArray 32
  deriving DecidableEq

structure MemoryState where
  initialized : Bool
  memoryPath : Bytes
  pools : List MemoryPool
  allocations : List MemoryAllocation
  deriving DecidableEq

def clearedMemory : MemoryState where
  initialized := false
  memoryPath := []
  pools := []
  allocations := []

def memoryBasePath (root dataDir : Bytes) : Bytes :=
  printTo memoryMaxPath
    (if root ≠ [] then printTo 512 (root ++ ofString "/kernel/memory")
    else printTo 512 (dataDir ++ ofString "/agentrt/heapstore/kernel/memory"))

def memorySubPath (base : Bytes) (name : String) : Bytes :=
  printTo memoryMaxPath (base ++ ofString "/" ++ ofString name)

def memorySubdirs : List String := ["pools", "allocations", "stats"]

def memoryInit (root dataDir : Bytes) (ensured : Bytes → Bool)
    (state : MemoryState) : MemoryState × HeapstoreError :=
  if state.initialized then (state, .success)
  else
    let base := memoryBasePath root dataDir
    let located := { state with memoryPath := base }
    if dirEnsure ensured base = false then (located, .errDirCreateFailed)
    else if memorySubdirs.any fun name =>
        dirEnsure ensured (memorySubPath base name) = false then
      (located, .errDirCreateFailed)
    else
      ({ initialized := true
         memoryPath := base
         pools := []
         allocations := [] }, .success)

def memoryShutdown (state : MemoryState) : MemoryState :=
  if state.initialized then
    { state with initialized := false, pools := [], allocations := [] }
  else state

theorem memoryInit_success {root dataDir : Bytes} {ensured : Bytes → Bool}
    {state : MemoryState} (stopped : state.initialized = false)
    (succeeded : (memoryInit root dataDir ensured state).2 = .success) :
    (memoryInit root dataDir ensured state).1 =
      { initialized := true
        memoryPath := memoryBasePath root dataDir
        pools := []
        allocations := [] } := by
  unfold memoryInit at succeeded ⊢
  simp only [stopped, Bool.false_eq_true, if_false] at succeeded ⊢
  split at succeeded
  · cases succeeded
  · next based =>
      rw [if_neg based]
      split at succeeded
      · cases succeeded
      · next made => rw [if_neg made]

end Heapstore.Memory
