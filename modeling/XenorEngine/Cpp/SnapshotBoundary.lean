import XenorEngine.Cpp.Core

/-!
# Snapshot boundaries (snapshot_boundary)

An adapter is an object of the host: its calls may change it, and may throw. The
checks of a boundary come in two parts, those on the metadata and those that call
the adapter.
-/

namespace XenorEngine.Cpp
open XenorEngine.Lib.Fallible

def currentSnapshotBoundaryEngineVersion : UInt32 := 1

structure SnapshotBoundaryMetadata where
  engineVersion : UInt32
  tick : UInt64
  elapsed : Int64
  seed : UInt64
  stateLastCompletedTick : UInt64
  deriving DecidableEq, Repr

structure SnapshotBoundary (Payload : Type) where
  metadata : SnapshotBoundaryMetadata
  payloadVersion : UInt32
  statePayload : Payload
  deriving DecidableEq, Repr

/-- The adapter of states over `Data`; `Adapter` is the adapter object itself. -/
structure SnapshotStateAdapter (Adapter Payload Data : Type) where
  payloadVersion : EStateM Exception Adapter UInt32
  supportsPayloadVersion : UInt32 → EStateM Exception Adapter Bool
  capture : SimulationState Data → EStateM Exception Adapter Payload
  restore : Payload → UInt32 → EStateM Exception Adapter (SimulationState Data)

def validateSnapshotBoundaryEngineVersion (engineVersion : UInt32) : Except Exception Unit :=
  rejectIf (engineVersion ≠ currentSnapshotBoundaryEngineVersion)
    (.snapshotBoundaryError .incompatibleEngineVersion
      ("snapshot boundary engine version " ++ toString engineVersion ++
        " is not supported; expected " ++ toString currentSnapshotBoundaryEngineVersion))

/-- The three handlers that follow each call of an adapter. -/
def adapterHandler (code : SnapshotBoundaryErrorCode) (message : String) : Exception → Exception
  | .snapshotBoundaryError code what => .snapshotBoundaryError code what
  | exception => .snapshotBoundaryError code
      (message ++ ": " ++ exception.what?.getD "adapter threw a non-standard exception")

section Validate
variable {Adapter Payload Data : Type} (adapter : SnapshotStateAdapter Adapter Payload Data)

def validateSnapshotBoundaryPayloadVersion (payloadVersion : UInt32) :
    EStateM Exception Adapter Unit :=
  rethrow (adapterHandler .adapterContractViolation
      ("snapshot boundary adapter payload-version support check failed for version " ++
        toString payloadVersion)) do
    let supported ← adapter.supportsPayloadVersion payloadVersion
    liftExcept (rejectIf (!supported) (Exception.snapshotBoundaryError .unsupportedPayloadVersion
      ("snapshot boundary payload version " ++ toString payloadVersion ++
        " is not supported by the adapter")))

end Validate

def validateSnapshotBoundaryMetadata (metadata : SnapshotBoundaryMetadata) :
    Except Exception Unit := do
  validateSnapshotBoundaryEngineVersion metadata.engineVersion
  rejectIf (metadata.stateLastCompletedTick ≠ metadata.tick)
    (Exception.snapshotBoundaryError .invalidStateMetadata
      ("snapshot boundary state metadata is invalid: state_last_completed_tick " ++
        toString metadata.stateLastCompletedTick ++ " does not match tick " ++
        toString metadata.tick))

/-- The overload that also takes the engine's configuration. -/
def validateSnapshotBoundaryMetadataFor (metadata : SnapshotBoundaryMetadata)
    (config : SimulationConfig) : Except Exception Unit := do
  validateSnapshotBoundaryMetadata metadata
  let clock := SimulationClock.new config
  let expected ← clock.elapsedDurationAt metadata.tick
  rejectIf (metadata.elapsed ≠ expected)
    (.snapshotBoundaryError .incompatibleElapsedDuration
      ("snapshot boundary elapsed duration " ++ toString metadata.elapsed ++
        " does not match the engine configuration for tick " ++ toString metadata.tick ++
        "; expected " ++ toString expected))
  rejectIf (metadata.seed ≠ config.seed)
    (.snapshotBoundaryError .incompatibleSeed
      ("snapshot boundary seed " ++ toString metadata.seed ++
        " does not match the engine configuration seed " ++ toString config.seed))

section Boundary
variable {Adapter Payload Data : Type}

def makeSnapshotBoundaryMetadata (snapshot : SimulationSnapshot Data) :
    SnapshotBoundaryMetadata where
  engineVersion := currentSnapshotBoundaryEngineVersion
  tick := snapshot.tick
  elapsed := snapshot.elapsed
  seed := snapshot.seed
  stateLastCompletedTick := snapshot.state.lastCompletedTick

def makeSnapshotBoundary (snapshot : SimulationSnapshot Data)
    (adapter : SnapshotStateAdapter Adapter Payload Data) :
    EStateM Exception Adapter (SnapshotBoundary Payload) := do
  let metadata := makeSnapshotBoundaryMetadata snapshot
  liftExcept (validateSnapshotBoundaryMetadata metadata)
  let payloadVersion ← adapter.payloadVersion
  rethrow (adapterHandler .adapterContractViolation
      ("snapshot boundary adapter self-validation failed for payload version " ++
        toString payloadVersion)) do
    let supported ← adapter.supportsPayloadVersion payloadVersion
    liftExcept (rejectIf (!supported) (Exception.snapshotBoundaryError .adapterContractViolation
      ("snapshot boundary adapter declared payload version " ++ toString payloadVersion ++
        " but does not report support for that version")))
  let statePayload ← adapter.capture snapshot.state
  pure ⟨metadata, payloadVersion, statePayload⟩

def restoreSnapshotFromBoundary (boundary : SnapshotBoundary Payload)
    (adapter : SnapshotStateAdapter Adapter Payload Data) :
    EStateM Exception Adapter (SimulationSnapshot Data) := do
  liftExcept (validateSnapshotBoundaryMetadata boundary.metadata)
  validateSnapshotBoundaryPayloadVersion adapter boundary.payloadVersion
  let state ← rethrow (adapterHandler .adapterRestoreFailure
      ("snapshot boundary adapter restore failed for payload version " ++
        toString boundary.payloadVersion))
    (adapter.restore boundary.statePayload boundary.payloadVersion)
  let state := state.setLastCompletedTick boundary.metadata.stateLastCompletedTick
  liftExcept (rejectIf (state.lastCompletedTick ≠ boundary.metadata.stateLastCompletedTick)
    (Exception.snapshotBoundaryError .invalidStateMetadata
      ("snapshot boundary restored state metadata does not match the " ++
        "authoritative boundary metadata")))
  pure ⟨boundary.metadata.tick, boundary.metadata.elapsed, boundary.metadata.seed, state⟩

end Boundary

end XenorEngine.Cpp
