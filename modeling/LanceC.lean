import LanceC.Scalar.Segment
import LanceC.Logic.Except
import LanceC.Scalar.SegmentScan
import LanceC.Logic.Extremum
import LanceC.Logic.HashMap
import LanceC.Multivector.IndexedBatch
import LanceC.Multivector.MaxSim
import LanceC.Ffi.CString
import LanceC.Fts.QueryContext
import LanceC.Scanner.Builder
import LanceC.Scanner.BuilderInvariant
import LanceC.Dataset.Handle
import LanceC.Fts.PlanRewrite
import LanceC.Fts.PlanRewriteExact
import LanceC.Logic.Traced
import LanceC.Logic.Transition
import LanceC.Machine.Program
import LanceC.Ffi.Guard
import LanceC.Scanner.EntryPoint
import LanceC.Scanner.ScanAsync
import LanceC.Scanner.Poison
import LanceC.Scanner.AsyncDispatch
import LanceC.Scanner.AsyncExactlyOnce
import LanceC.Scanner.PollWaker
import LanceC.Scanner.PollWakerRetire
import LanceC.Index.ProgressGate
import LanceC.Index.SegmentBuilder
import LanceC.Index.ProgressRetire
import LanceC.Fts.Prepare
import LanceC.Logic.Keyed
import LanceC.Machine.Bytes
import LanceC.Fts.SegmentSelection
import LanceC.Machine.Body
import LanceC.Stream.ReaderOwnership
import LanceC.Ffi.StorageOptions
import LanceC.Stream.EntryPoints
import LanceC.Stream.Consumed
import LanceC.Logic.Json
import LanceC.Index.QuoteEscape
import LanceC.Index.UuidText
import LanceC.Index.IndexListing
import LanceC.Index.IndexListingRoundTrip
import LanceC.Dataset.FragmentIds
import LanceC.Logic.PartialCmp
import LanceC.Scalar.PageEstimate
import LanceC.Scalar.ProbeBudget
import LanceC.Multivector.ExactBatch
import LanceC.Multivector.ExactScore
import LanceC.Index.ModelSchema
import LanceC.Index.ModelArray
import LanceC.Index.ModelCoverage
import LanceC.Logic.Rechunk
import LanceC.Multivector.ResultWindow
import LanceC.Scanner.ResultWindow
import LanceC.Logic.Fuse
import LanceC.Stream.GuardedReader
import LanceC.Index.SchemaGraph
import LanceC.Dataset.Tuning
import LanceC.Scalar.ExpressionBudget
import LanceC.Ffi.ErrorState
import LanceC.Index.FragmentList
import LanceC.Logic.ParseInt
import LanceC.Index.ModelProvenance
import LanceC.Index.ModelTrainer
import LanceC.Index.VectorBuilder
import LanceC.Index.ModelInterchange
import LanceC.Index.ModelGate
import LanceC.Machine.Memory
import LanceC.Blob.BlobFile
import LanceC.Blob.FileContract
import LanceC.Scalar.Statistics
import LanceC.Scanner.Options
import LanceC.Scanner.Prepare
import LanceC.Scanner.PreparedRows
import LanceC.Multivector.Rewrite
import LanceC.Scanner.Execution
import LanceC.Scanner.ExecutionModes
import LanceC.Scanner.ExecutionRows
import LanceC.Scanner.SegmentStatistics
import LanceC.Index.SegmentMetadata
import LanceC.Index.SegmentTransport
import LanceC.Index.SegmentCommit
import LanceC.Index.SegmentFleet
import LanceC.Dataset.Mutations
import LanceC.Dataset.MutationArguments
import LanceC.Logic.Linearizable
import LanceC.Dataset.ConcurrentCalls
import LanceC.Cpp.Errors
import LanceC.Machine.Heap
import LanceC.Dataset.SnapshotLists
import LanceC.Cpp.SegmentMetadata
import LanceC.Cpp.SnapshotLists
import LanceC.Ffi.Process
import LanceC.Index.Segments
import LanceC.Cpp.IndexSegments
import LanceC.Cpp.Calls
import LanceC.Cpp.StreamWrappers
