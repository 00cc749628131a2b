import Heapstore.Foundation.OperationRun
import Heapstore.Foundation.KeyedList
import Heapstore.Foundation.LinkedChain
import Heapstore.Foundation.PlacedLedger
import Heapstore.Foundation.Sweep
import Heapstore.Foundation.ByteText
import Heapstore.Foundation.SqlTable
import Heapstore.Foundation.SqlConnection
import Heapstore.Foundation.CivilTime
import Heapstore.Foundation.CircuitBreaker
import Heapstore.Foundation.TimedBreaker
import Heapstore.Foundation.Ownership
import Heapstore.Foundation.SlotArray
import Heapstore.Foundation.FirstComers
import Heapstore.Foundation.SealedPieces
import Heapstore.Foundation.FileLinks
import Heapstore.Foundation.PrintedBuffer
import Heapstore.Foundation.JsonText
import Heapstore.Foundation.JsonPrinting
import Heapstore.Foundation.ConcurrentCounters
import Heapstore.Foundation.ChunkedCopy
import Heapstore.Foundation.SqlSelection
import Heapstore.Foundation.FileTrees
import Heapstore.Foundation.LockOrder
import Heapstore.Foundation.OpenHandles
import Heapstore.Foundation.Contract
import Heapstore.Foundation.LockedCalls
import Heapstore.Foundation.OwnedChain
import Heapstore.Types
import Heapstore.Disk
import Heapstore.RegistryMemory
import Heapstore.RegistryMemoryRefinement
import Heapstore.RegistryMemoryBatch
import Heapstore.RegistryMemoryIterators
import Heapstore.RegistryMemoryIteration
import Heapstore.RegistrySqlite
import Heapstore.RegistrySqliteBatch
import Heapstore.RegistrySqliteBatchAgreement
import Heapstore.RegistrySqliteRecords
import Heapstore.RegistrySqliteQueries
import Heapstore.RegistrySqliteStepOutcomes
import Heapstore.RegistryBackendAgreement
import Heapstore.RegistrySqliteRoundTrip
import Heapstore.RegistryQueryAgreement
import Heapstore.RegistryConcurrentAdds
import Heapstore.RegistrySqliteResources
import Heapstore.BatchContext
import Heapstore.BatchMemory
import Heapstore.BatchConservation
import Heapstore.BatchCapacity
import Heapstore.BatchCommit
import Heapstore.BatchSequential
import Heapstore.MigrationVersionFile
import Heapstore.MigrationSteps
import Heapstore.MigrationForwardRuns
import Heapstore.MigrationRetry
import Heapstore.MigrationVersionGrammar
import Heapstore.MigrationVersionWrite
import Heapstore.MigrationEngine
import Heapstore.MigrationReport
import Heapstore.MigrationBackup
import Heapstore.MigrationDropColumns
import Heapstore.MigrationColumnOps
import Heapstore.MigrationStepTexts
import Heapstore.TraceBuffer
import Heapstore.TraceConservation
import Heapstore.TraceQueries
import Heapstore.TraceOwnership
import Heapstore.TraceErrorPaths
import Heapstore.TraceWritePaths
import Heapstore.TraceBufferBound
import Heapstore.TraceSpanFile
import Heapstore.TraceExport
import Heapstore.TraceExportAppends
import Heapstore.MemoryTables
import Heapstore.MemoryRecords
import Heapstore.MemoryRuns
import Heapstore.LogFiles
import Heapstore.LogWrites
import Heapstore.LogLevels
import Heapstore.LogMessages
import Heapstore.PathComponents
import Heapstore.NameEscaping
import Heapstore.LogRouting
import Heapstore.LogRotation
import Heapstore.CircuitAdapter
import Heapstore.CircuitLive
import Heapstore.CircuitProbing
import Heapstore.CircuitService
import Heapstore.CoreInit
import Heapstore.CoreStages
import Heapstore.CorePaths
import Heapstore.CoreSchema
import Heapstore.CoreSettings
import Heapstore.CoreLifecycle
import Heapstore.CoreReload
import Heapstore.CoreWrite
import Heapstore.CoreLive
import Heapstore.CircuitOpenTime
import Heapstore.CoreMetrics
import Heapstore.DirectoryClean
import Heapstore.Cleanup
import Heapstore.CleanupExact
import Heapstore.DirectorySize
import Heapstore.CoreStats
import Heapstore.LogStatistics
import Heapstore.LogOpenFiles
import Heapstore.Reinitialization
import Heapstore.SyscallSessions
import Heapstore.SyscallTraces
import Heapstore.StoreLocks
import Heapstore.LogHandles
import Heapstore.StoreHistory
import Heapstore.StoreRecords
import Heapstore.StoreStarts
import Heapstore.StoreDurability
import Heapstore.StoreRestarts
import Heapstore.MemoryThreads
import Heapstore.LogRetention
import Heapstore.RegistryThreads
import Heapstore.RegistryHeap
import Heapstore.TraceThreads
import Heapstore.Integration
import Heapstore.StoreHealth
