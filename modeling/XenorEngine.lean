import XenorEngine.Lib.Decimal
import XenorEngine.Lib.ByteText
import XenorEngine.Lib.LineText
import XenorEngine.Lib.Fallible
import XenorEngine.Lib.PrefixReader
import XenorEngine.Rust.Canonical
import XenorEngine.Rust.Scalar
import XenorEngine.Lib.Runs
import XenorEngine.Lib.Ledger
import XenorEngine.Rust.Policy
import XenorEngine.Rust.Scheduler
import XenorEngine.Rust.Replay
import XenorEngine.Rust.Engine
import XenorEngine.Rust.EngineRun
import XenorEngine.Rust.Counter
import XenorEngine.Rust.Settlement
import XenorEngine.Rust.SettlementLedger
import XenorEngine.Lib.FieldCodec
import XenorEngine.Rust.Spelling
import XenorEngine.Rust.Serialization
import XenorEngine.Rust.Config
import XenorEngine.Rust.SnapshotArtifact
import XenorEngine.Rust.ReplayArtifact
import XenorEngine.Rust.ReplayCodec
import XenorEngine.Rust.Persistence
import XenorEngine.Rust.EngineTrace
import XenorEngine.Rust.Execution
import XenorEngine.Rust.Parity
import XenorEngine.Rust.Scenario
import XenorEngine.Rust.Fixture
import XenorEngine.Rust.Simulation
import XenorEngine.Rust.FixtureCheck
import XenorEngine.Rust.FixtureResults
import XenorEngine.Rust.Api
import XenorEngine.Rust.ReplayGuarantees
import XenorEngine.Rust.ArtifactGuarantees
import XenorEngine.Rust.FixtureGuarantees
import XenorEngine.Rust.EngineGuarantees
import XenorEngine.Rust.Checkpoints
import XenorEngine.Rust.TickOutcome
import XenorEngine.Rust.SettlementChecks
import XenorEngine.Rust.SettlementTicks
import XenorEngine.Rust.SettlementGuarantees
import XenorEngine.Rust.CounterChecks
import XenorEngine.Rust.CounterTicks
import XenorEngine.Rust.CounterGuarantees
import XenorEngine.Cpp.Core
import XenorEngine.Cpp.SnapshotBoundary
import XenorEngine.Cpp.Engine
import XenorEngine.Cpp.EngineRun
import XenorEngine.Cpp.SnapshotRestore
import XenorEngine.Cpp.RestoreGuarantees
import XenorEngine.Cpp.EngineCalls
import XenorEngine.Lib.Grouping
import XenorEngine.Rust.TickOrder
import XenorEngine.Cpp.StepGuarantees
import XenorEngine.Lib.KeyedReader
import XenorEngine.Rust.FieldOrder
import XenorEngine.Rust.FixtureSummary
import XenorEngine.Rust.ReplayTampering
import XenorEngine.Lib.ReaderFaults
import XenorEngine.Lib.TokenPattern
import XenorEngine.Rust.LinePattern
import XenorEngine.Rust.Allocations
import XenorEngine.Rust.SettlementReach
import XenorEngine.Rust.SettlementInterop
import XenorEngine.Lib.Mixing
import XenorEngine.Rust.Mixing
import XenorEngine.Cpp.Streams
import XenorEngine.Rust.Checksums
import XenorEngine.Rust.RecordSequence
import XenorEngine.Rust.TraceComparison
import XenorEngine.Rust.VisitLog
import XenorEngine.Rust.CounterStore
import XenorEngine.Rust.LineLayer
import XenorEngine.Rust.SnapshotGuarantees
import XenorEngine.Rust.SettlementNoninterference
import XenorEngine.Rust.ScenarioGuarantees
import XenorEngine.Lib.Chunks
import XenorEngine.Rust.Digests
import XenorEngine.Cpp.Sessions
import XenorEngine.Cpp.Traces
import XenorEngine.Cpp.ResourcePipeline
import XenorEngine.Cpp.ResourceReplay
import XenorEngine.Rust.Observation
import XenorEngine.Rust.ReplayPrefixes
import XenorEngine.Rust.Importers
import XenorEngine.Rust.SettlementCatalog
import XenorEngine.Lib.Reflection
import XenorEngine.Rust.SettlementForecast
import XenorEngine.Rust.SettlementComparison
import XenorEngine.Rust.CounterInterop
import XenorEngine.Rust.Resumption
import XenorEngine.Lib.TokenPattern
import XenorEngine.Rust.FailedTicks
import XenorEngine.Rust.FixtureSnapshot
