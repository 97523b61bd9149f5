import XenorEngine.Rust.EngineRun
import XenorEngine.Rust.ReplayCodec

/-!
# Recording, verifying and resuming replays (persistence/mod.rs)

`build` stands for the closure that makes the engine; it returns an `Outcome`
because one of the two engines is built with `expect`.
-/

namespace XenorEngine.Rust
open XenorEngine.Lib.ByteText XenorEngine.Lib.Fallible
open Debug (debug)

structure ArtifactSummary where
  engineFamily : String
  baseSeed : Seed
  finalTick : Tick
  finalChecksum : UInt64
  configPayloadSchemaVersion : UInt32
  configDigest : UInt64
  replayArtifactSchemaVersion : UInt32
  snapshotArtifactSchemaVersion : UInt32
  commandPayloadSchemaVersion : UInt32
  snapshotPayloadSchemaVersion : UInt32
  replayDigest : UInt64
  snapshotDigest : Option UInt64
  scenarioDigest : Option UInt64
  deriving DecidableEq, Repr

inductive ReplayExecutionMode
  | record
  | replayVerify
  | replayFromSnapshot (sourceTick : Tick)
  deriving DecidableEq, Repr

structure ReplayExecutionResult (Snapshot : Type) where
  mode : ReplayExecutionMode
  finalTick : Tick
  finalChecksum : UInt64
  finalSnapshot : Option (SnapshotArtifact Snapshot)
  summary : ArtifactSummary
  deriving DecidableEq, Repr

structure RecordedReplay (C Snapshot : Type) where
  artifact : ReplayArtifact C Snapshot
  result : ReplayExecutionResult Snapshot
  deriving DecidableEq, Repr

/-- `Option<Result<T, E>>::transpose`. -/
def transpose {ε α : Type} : Option (Except ε α) → Except ε (Option α)
  | none => pure none
  | some x => some <$> x

theorem transpose_eq_ok {ε α : Type} {x : Option (Except ε α)} {y : Option α} :
    transpose x = .ok y ↔ x = y.map .ok := by
  cases x with
  | none => cases y <;> simp [transpose]
  | some x => cases y <;> cases x <;> simp [transpose]

theorem transpose_map_ok {ε α β : Type} {f : α → Except ε β} {o : Option α}
    (h : ∀ a ∈ o, ∃ b, f a = .ok b) : ∃ y, transpose (o.map f) = .ok y := by
  cases o with
  | none => exact ⟨none, rfl⟩
  | some a =>
    obtain ⟨b, hb⟩ := h a rfl
    exact ⟨some b, transpose_eq_ok.mpr (congrArg some hb)⟩

theorem exists_transpose {ε α : Type} {encode : α → Except ε Bytes} {o : Option α}
    {P : Option Bytes → Prop} :
    (∃ y, transpose (o.map encode) = .ok y ∧ P y) ↔
      (∀ a ∈ o, ∃ b, encode a = .ok b) ∧ P (o.map (encoded encode)) := by
  cases o with
  | none => simp [transpose]
  | some a =>
    simp only [Option.map_some, transpose, map_eq_ok, Option.mem_def, Option.some.injEq,
      forall_eq']
    constructor
    · rintro ⟨_, ⟨b, hb, rfl⟩, hp⟩
      rw [(encode_eq_ok.mp hb).2] at hp
      exact ⟨⟨b, hb⟩, hp⟩
    · rintro ⟨⟨b, hb⟩, hp⟩
      rw [← (encode_eq_ok.mp hb).2] at hp
      exact ⟨_, ⟨b, hb, rfl⟩, hp⟩

/-- `records.iter().rev().find_map(|record| record.snapshot.as_ref())`. -/
def lastSnapshot {C Snapshot : Type} (records : List (ReplayTickRecord C Snapshot)) :
    Option (SnapshotRecord Snapshot) := records.reverse.findSome? (·.snapshot)

namespace ReplayArtifactSerializer
variable {C Snapshot : Type} (s : ReplayArtifactSerializer C Snapshot)

/-- The artifact of a list of records, before the records are checked. -/
def artifactOf (baseSeed : Seed) (snapshotPolicy : SnapshotPolicy)
    (configIdentity : ConfigIdentity) (records : List (ReplayTickRecord C Snapshot)) :
    ReplayArtifact C Snapshot :=
  ⟨⟨REPLAY_ARTIFACT_SCHEMA_VERSION, s.engineFamily, baseSeed, lastTick records, snapshotPolicy,
    configIdentity, s.commandSerializer.schemaVersion, s.snapshotSerializer.schemaVersion,
    records.length⟩, records⟩

def buildArtifact (baseSeed : Seed) (snapshotPolicy : SnapshotPolicy)
    (configIdentity : ConfigIdentity) (records : List (ReplayTickRecord C Snapshot)) :
    Except EngineError (ReplayArtifact C Snapshot) := do
  validateRecordSequence baseSeed snapshotPolicy s.snapshotSerializer.schemaVersion records
  pure (s.artifactOf baseSeed snapshotPolicy configIdentity records)

def buildSnapshotArtifact (baseSeed : Seed) (configIdentity : ConfigIdentity)
    (record : SnapshotRecord Snapshot) : SnapshotArtifact Snapshot :=
  ⟨⟨SNAPSHOT_ARTIFACT_SCHEMA_VERSION, s.engineFamily, baseSeed, configIdentity, record.reason,
    record.metadata⟩, record.payload⟩

def digest (artifact : ReplayArtifact C Snapshot) : Except EngineError UInt64 :=
  canonicalDigest <$> s.encode artifact

def snapshotArtifactDigest (artifact : SnapshotArtifact Snapshot) : Except EngineError UInt64 :=
  canonicalDigest <$> SnapshotArtifact.encodeSnapshotArtifactBytes s.engineFamily
    s.snapshotSerializer SNAPSHOT_ARTIFACT_SCHEMA_VERSION artifact

def summary (artifact : ReplayArtifact C Snapshot) : Except EngineError ArtifactSummary := do
  let replayDigest ← s.digest artifact
  let snapshotDigest ← transpose <| (lastSnapshot artifact.records).map fun record =>
    s.snapshotArtifactDigest (s.buildSnapshotArtifact artifact.metadata.baseSeed
      artifact.metadata.configIdentity record)
  pure {
    engineFamily := artifact.metadata.engineFamily
    baseSeed := artifact.metadata.baseSeed
    finalTick := artifact.metadata.totalTicks
    finalChecksum := lastChecksum artifact.records
    configPayloadSchemaVersion := artifact.metadata.configIdentity.payloadSchemaVersion
    configDigest := artifact.metadata.configIdentity.digest
    replayArtifactSchemaVersion := artifact.metadata.artifactSchemaVersion
    snapshotArtifactSchemaVersion := SNAPSHOT_ARTIFACT_SCHEMA_VERSION
    commandPayloadSchemaVersion := artifact.metadata.commandPayloadSchemaVersion
    snapshotPayloadSchemaVersion := artifact.metadata.snapshotPayloadSchemaVersion
    replayDigest := replayDigest
    snapshotDigest := snapshotDigest
    scenarioDigest := none }

def snapshotPayloadDigest (snapshot : Snapshot) : Except EngineError UInt64 := do
  let bytes ← (s.snapshotSerializer.encode snapshot).mapError fun error =>
    .replayMismatch none s!"failed to digest snapshot payload: {error.text}"
  pure (canonicalDigest bytes)

end ReplayArtifactSerializer

section Execution
variable {S C P V Snapshot : Type} [SimulationState S Snapshot] [StateValidator V S]
  [Phase P S C Snapshot] [Debug C] [Debug Snapshot] [DecidableEq C] [DecidableEq Snapshot]

def validateSnapshotArtifact (S : Type) {Snapshot : Type} [SimulationState S Snapshot]
    (artifact : SnapshotArtifact Snapshot) (expectedSeed : Seed)
    (expectedConfigIdentity : ConfigIdentity) : Except EngineError Unit := do
  rejectIf (artifact.metadata.baseSeed ≠ expectedSeed)
    (.seedMismatch expectedSeed artifact.metadata.baseSeed)
  rejectIf (artifact.metadata.configIdentity ≠ expectedConfigIdentity) (.configMismatch
    s!"snapshot config identity mismatch: expected {debug expectedConfigIdentity}, got {debug artifact.metadata.configIdentity}")
  rejectIf (artifact.metadata.snapshot.payloadSchemaVersion ≠
      SimulationState.snapshotSchemaVersion S)
    (.unsupportedSchemaVersion "snapshot payload" (SimulationState.snapshotSchemaVersion S)
      artifact.metadata.snapshot.payloadSchemaVersion)
  let payloadTick := SimulationState.snapshotTick S artifact.payload
  rejectIf (artifact.metadata.snapshot.sourceTick ≠ payloadTick) (.snapshotMetadataMismatch
    s!"source tick mismatch: metadata={artifact.metadata.snapshot.sourceTick}, payload={payloadTick}")
  let payloadChecksum := SimulationState.snapshotChecksum S artifact.payload
  rejectIf (artifact.metadata.snapshot.captureChecksum ≠ payloadChecksum)
    (.snapshotMetadataMismatch
      s!"capture checksum mismatch: metadata={artifact.metadata.snapshot.captureChecksum}, payload={payloadChecksum}")

def validateReplayConfigIdentity (actual expected : ConfigIdentity) : Except EngineError Unit :=
  rejectIf (actual ≠ expected) (.configMismatch
    s!"replay config identity mismatch: expected {debug expected}, got {debug actual}")

def validateRecordPayload (S : Type) {C Snapshot : Type} [SimulationState S Snapshot]
    (record : ReplayTickRecord C Snapshot) : Except EngineError Unit :=
  match record.snapshot with
  | none => pure ()
  | some snapshot => do
    let payloadTick := SimulationState.snapshotTick S snapshot.payload
    rejectIf (snapshot.metadata.sourceTick ≠ payloadTick) (.snapshotMetadataMismatch
      s!"snapshot payload tick mismatch at replay tick {record.tick}: metadata={snapshot.metadata.sourceTick}, payload={payloadTick}")
    let payloadChecksum := SimulationState.snapshotChecksum S snapshot.payload
    rejectIf (snapshot.metadata.captureChecksum ≠ payloadChecksum) (.snapshotMetadataMismatch
      s!"snapshot checksum mismatch at replay tick {record.tick}: metadata={snapshot.metadata.captureChecksum}, payload={payloadChecksum}")

def validateReplayArtifactForState (S : Type) {C Snapshot : Type} [SimulationState S Snapshot]
    (artifact : ReplayArtifact C Snapshot) : Except EngineError Unit := do
  rejectIf (artifact.metadata.snapshotPayloadSchemaVersion ≠
      SimulationState.snapshotSchemaVersion S)
    (.unsupportedSchemaVersion "replay snapshot payload" (SimulationState.snapshotSchemaVersion S)
      artifact.metadata.snapshotPayloadSchemaVersion)
  validateReplayArtifactShape artifact
  artifact.records.forM (validateRecordPayload S)

/-- `for frame in frames { engine.tick(frame)?; }` on an engine that is owned. -/
def tickFrames (engine : DeterministicEngine S C P V Snapshot) (frames : List (InputFrame C)) :
    Except EngineError (DeterministicEngine S C P V Snapshot) :=
  match DeterministicEngine.tickAll frames engine with
  | .ok _ engine => .ok engine
  | .error e _ => .error e

variable (build : Seed → SnapshotPolicy → Outcome (DeterministicEngine S C P V Snapshot))
  (serializer : ReplayArtifactSerializer C Snapshot)

def buildChecked (baseSeed : Seed) (snapshotPolicy : SnapshotPolicy) :
    Outcome (DeterministicEngine S C P V Snapshot) := do
  let engine ← build baseSeed snapshotPolicy
  orFail (rejectIf (engine.seed ≠ baseSeed) (.seedMismatch baseSeed engine.seed))
  pure engine

/-- What is returned about a list of records that has been recorded or compared. -/
def executionResult (mode : ReplayExecutionMode) (artifact : ReplayArtifact C Snapshot) :
    Except EngineError (ReplayExecutionResult Snapshot) := do
  let summary ← serializer.summary artifact
  pure ⟨mode, artifact.metadata.totalTicks, lastChecksum artifact.records,
    (lastSnapshot artifact.records).map (serializer.buildSnapshotArtifact
      artifact.metadata.baseSeed artifact.metadata.configIdentity), summary⟩

def recordReplay (baseSeed : Seed) (snapshotPolicy : SnapshotPolicy)
    (configIdentity : ConfigIdentity) (frames : List (InputFrame C)) :
    Outcome (RecordedReplay C Snapshot) := do
  let engine ← buildChecked build baseSeed snapshotPolicy
  let engine ← orFail (tickFrames engine frames)
  let artifact ← orFail
    (serializer.buildArtifact baseSeed snapshotPolicy configIdentity engine.replayRecords)
  let result ← orFail (executionResult serializer .record artifact)
  pure ⟨artifact, result⟩

def compareRecords (expected actual : List (ReplayTickRecord C Snapshot)) :
    Except EngineError Unit :=
  (compareReplayTracesWithSnapshotDigest expected actual
    serializer.snapshotPayloadDigest).mapError ReplayDivergence.toEngineError

def executeReplayVerify (artifact : ReplayArtifact C Snapshot)
    (expectedConfigIdentity : ConfigIdentity) : Outcome (ReplayExecutionResult Snapshot) := do
  orFail (validateReplayArtifactForState S artifact)
  orFail (validateReplayConfigIdentity artifact.metadata.configIdentity expectedConfigIdentity)
  let engine ←
    buildChecked build artifact.metadata.baseSeed artifact.metadata.snapshotPolicy
  let engine ← orFail (tickFrames engine (artifact.records.map (·.input)))
  orFail (compareRecords serializer artifact.records engine.replayRecords)
  orFail (executionResult serializer .replayVerify artifact)

/-- The record a resume starts from, with the records that follow it. -/
def sourceRecord (artifact : ReplayArtifact C Snapshot) (sourceTick : Tick) :
    Except EngineError (ReplayTickRecord C Snapshot × List (ReplayTickRecord C Snapshot)) :=
  match artifact.records.dropWhile (·.tick ≠ sourceTick) with
  | [] => throw (.replayContinuationMismatch
      s!"snapshot tick {sourceTick} not found in replay trace")
  | record :: continuation => pure (record, continuation)

def executeReplayFromSnapshot (snapshot : SnapshotArtifact Snapshot)
    (artifact : ReplayArtifact C Snapshot) (expectedConfigIdentity : ConfigIdentity) :
    Outcome (ReplayExecutionResult Snapshot) := do
  orFail (rejectIf (snapshot.metadata.engineFamily ≠ artifact.metadata.engineFamily)
    (.snapshotMetadataMismatch
      s!"snapshot engine family `{snapshot.metadata.engineFamily}` does not match replay engine family `{artifact.metadata.engineFamily}`"))
  orFail (validateReplayConfigIdentity artifact.metadata.configIdentity expectedConfigIdentity)
  orFail (validateSnapshotArtifact S snapshot artifact.metadata.baseSeed expectedConfigIdentity)
  let sourceTick := snapshot.metadata.snapshot.sourceTick
  let (sourceRecord, continuation) ← orFail (sourceRecord artifact sourceTick)
  let expectedSnapshot ← orFail (okOr sourceRecord.snapshot (.replayContinuationMismatch
    s!"replay tick {sourceTick} does not contain a snapshot"))
  orFail (rejectIf (expectedSnapshot.reason ≠ snapshot.metadata.captureReason
      ∨ expectedSnapshot.metadata ≠ snapshot.metadata.snapshot
      ∨ expectedSnapshot.payload ≠ snapshot.payload)
    (.snapshotMetadataMismatch
      s!"snapshot artifact does not match replay snapshot recorded at tick {sourceTick}"))
  let expectedTick := saturatingAddU64 sourceTick 1
  orFail (match continuation.head? with
    | some first =>
      rejectIf (first.tick ≠ expectedTick) (.resumeTickMismatch expectedTick first.tick)
    | none => pure ())
  orFail (validateReplayArtifactForState S artifact)
  let engine ←
    buildChecked build artifact.metadata.baseSeed artifact.metadata.snapshotPolicy
  let engine ← engine.restoreSnapshot snapshot.payload
  orFail (rejectIf (SimulationState.tick engine.state ≠ sourceTick) (.snapshotMetadataMismatch
    s!"restored engine tick mismatch: expected {sourceTick}, got {SimulationState.tick engine.state}"))
  let engine ← orFail (tickFrames engine (continuation.map (·.input)))
  orFail (compareRecords serializer continuation engine.replayRecords)
  let summary ← orFail (serializer.summary artifact)
  pure ⟨.replayFromSnapshot sourceTick,
    (continuation.getLast?.map (·.tick)).getD sourceTick,
    (continuation.getLast?.map (·.checksum)).getD snapshot.metadata.snapshot.captureChecksum,
    ((lastSnapshot continuation).map (serializer.buildSnapshotArtifact
      artifact.metadata.baseSeed artifact.metadata.configIdentity)).or (some snapshot),
    summary⟩

end Execution

end XenorEngine.Rust
