import XenorEngine.Rust.SnapshotArtifact

/-!
# Replay artifacts (persistence/mod.rs)
-/

namespace XenorEngine.Rust
open XenorEngine.Lib.ByteText XenorEngine.Lib.LineText XenorEngine.Lib.Fallible
open XenorEngine.Lib.PrefixReader XenorEngine.Lib.FieldCodec XenorEngine.Lib.Decimal
open Debug (debug)

def REPLAY_ARTIFACT_SCHEMA_VERSION : UInt32 := 2

structure ReplayArtifactMetadata where
  artifactSchemaVersion : UInt32
  engineFamily : String
  baseSeed : Seed
  totalTicks : Tick
  snapshotPolicy : SnapshotPolicy
  configIdentity : ConfigIdentity
  commandPayloadSchemaVersion : UInt32
  snapshotPayloadSchemaVersion : UInt32
  recordCount : ℕ
  deriving DecidableEq, Repr

structure ReplayArtifact (C Snapshot : Type) where
  metadata : ReplayArtifactMetadata
  records : List (ReplayTickRecord C Snapshot)
  deriving DecidableEq, Repr

/-! ### Memory

`Vec::with_capacity` panics when the allocation would exceed `isize::MAX` bytes, and the
process is aborted when the allocator refuses it. The sizes of the element types are the
compiler's choice, and the largest allocation granted is the machine's. -/

def ISIZE_MAX : ℕ := 2 ^ 63 - 1

structure Layout where
  record : ℕ
  phaseMarker : ℕ
  validationSummary : ℕ
  frame : ℕ
  /-- The largest allocation granted. -/
  limit : ℕ
  limit_le : limit ≤ ISIZE_MAX

/-- Elements of one byte, and every allocation granted that may be asked for. -/
def unitLayout : Layout := ⟨1, 1, 1, 1, ISIZE_MAX, le_refl ISIZE_MAX⟩

def withCapacity (layout : Layout) (size count : ℕ) : Outcome Unit := do
  rejectIf (ISIZE_MAX < size * count) (.panicked "capacity overflow")
  rejectIf (layout.limit < size * count)
    (.aborted s!"memory allocation of {size * count} bytes failed")

/-- What holds of every vector of such elements that is there. -/
def Allocated {α : Type} (layout : Layout) (size : ℕ) (xs : List α) : Prop :=
  xs.length ≤ USIZE_MAX ∧ size * xs.length ≤ layout.limit

structure ReplayTickRecord.Representable {C Snapshot : Type} (layout : Layout)
    (record : ReplayTickRecord C Snapshot) : Prop where
  markers : Allocated layout layout.phaseMarker record.phaseMarkers
  ordinals : ∀ marker ∈ record.phaseMarkers, marker.ordinal ≤ USIZE_MAX
  summaries : Allocated layout layout.validationSummary record.validationSummaries

structure ReplayArtifact.Representable {C Snapshot : Type} (layout : Layout)
    (a : ReplayArtifact C Snapshot) : Prop where
  records : Allocated layout layout.record a.records
  each : ∀ record ∈ a.records, record.Representable layout
  count : a.metadata.recordCount ≤ USIZE_MAX

/-! ### Validation -/

def checkpointOrder : ValidationCheckpoint → ℕ
  | .beforeTickBegin => 0
  | .afterInputApplied => 1
  | .afterSimulationGroup => 2
  | .afterFinalize => 3

section Validate
variable {C Snapshot : Type}

def validateSummariesFrom (tick expectedStateTick : Tick) :
    Option ℕ → List ValidationSummary → Except EngineError Unit
  | _, [] => pure ()
  | lastOrder, summary :: rest => do
    let order := checkpointOrder summary.checkpoint
    rejectIf (∃ previous ∈ lastOrder, order ≤ previous) (.corruptedArtifact "replay"
      s!"validation checkpoint order mismatch at tick {tick}: got `{summary.checkpoint.asStr}` after previous checkpoint")
    rejectIf (summary.stateTick ≠ expectedStateTick) (.corruptedArtifact "replay"
      s!"validation state tick mismatch at replay tick {tick}: expected {expectedStateTick}, got {summary.stateTick}")
    validateSummariesFrom tick expectedStateTick (some order) rest

def validateValidationSummaries (record : ReplayTickRecord C Snapshot) : Except EngineError Unit :=
  validateSummariesFrom record.tick (saturatingSubU64 record.tick 1) none
    record.validationSummaries

def validateSnapshotPresence (snapshotPolicy : SnapshotPolicy)
    (record : ReplayTickRecord C Snapshot) : Except EngineError Unit :=
  match snapshotPolicy, record.snapshot with
  | .never, some _ => throw (.corruptedArtifact "replay"
      s!"snapshot recorded at tick {record.tick} while snapshot policy is Never")
  | .manual, some _ => throw (.corruptedArtifact "replay"
      s!"policy replay snapshot recorded at tick {record.tick} while snapshot policy is Manual")
  | .every interval, none =>
    rejectIf (interval ≠ 0 ∧ record.tick % interval = 0) (.corruptedArtifact "replay"
      s!"missing snapshot at tick {record.tick} for every-{interval} policy")
  | .every interval, some snapshot => do
    rejectIf (interval = 0 ∨ record.tick % interval ≠ 0) (.corruptedArtifact "replay"
      s!"unexpected snapshot at tick {record.tick} for every-{interval} policy")
    rejectIf (snapshot.reason ≠ .policyInterval interval) (.corruptedArtifact "replay"
      s!"snapshot reason mismatch at tick {record.tick} for every-{interval} policy")
  | _, none => pure ()

def validateSnapshotMetadata (expectedVersion : UInt32) (record : ReplayTickRecord C Snapshot) :
    Except EngineError Unit :=
  match record.snapshot with
  | none => pure ()
  | some snapshot => do
    rejectIf (snapshot.metadata.payloadSchemaVersion ≠ expectedVersion)
      (.unsupportedSchemaVersion "replay snapshot payload" expectedVersion
        snapshot.metadata.payloadSchemaVersion)
    rejectIf (snapshot.metadata.sourceTick ≠ record.tick) (.corruptedArtifact "replay"
      s!"snapshot source tick mismatch at tick {record.tick}: got {snapshot.metadata.sourceTick}")
    rejectIf (snapshot.metadata.captureChecksum ≠ record.checksum) (.corruptedArtifact "replay"
      s!"snapshot checksum mismatch at tick {record.tick}: snapshot={snapshot.metadata.captureChecksum}, record={record.checksum}")

variable (baseSeed : Seed) (snapshotPolicy : SnapshotPolicy) (expectedVersion : UInt32)

def validateRecord (expectedTick : Tick) (record : ReplayTickRecord C Snapshot) :
    Except EngineError Unit := do
  rejectIf (record.tick ≠ expectedTick) (.corruptedArtifact "replay"
    s!"non-contiguous tick sequence: expected {expectedTick}, got {record.tick}")
  rejectIf (record.input.tick ≠ record.tick) (.corruptedArtifact "replay"
    s!"input tick mismatch at replay tick {record.tick}: input tick {record.input.tick}")
  let expectedSeed := Rust.tickSeed baseSeed record.tick
  rejectIf (record.tickSeed ≠ expectedSeed) (.corruptedArtifact "replay"
    s!"tick seed mismatch at tick {record.tick}: expected {expectedSeed}, got {record.tickSeed}")
  validateValidationSummaries record
  validateSnapshotPresence snapshotPolicy record
  validateSnapshotMetadata expectedVersion record

def validateRecordsFrom : Tick → List (ReplayTickRecord C Snapshot) → Except EngineError Unit
  | _, [] => pure ()
  | expectedTick, record :: records => do
    validateRecord baseSeed snapshotPolicy expectedVersion expectedTick record
    validateRecordsFrom (expectedTick + 1) records

def validateRecordSequence (records : List (ReplayTickRecord C Snapshot)) :
    Except EngineError Unit :=
  validateRecordsFrom baseSeed snapshotPolicy expectedVersion 1 records

/-- A record that may stand at `tick` of a trace. -/
structure LegalRecord (tick : Tick) (record : ReplayTickRecord C Snapshot) : Prop where
  tick_eq : record.tick = tick
  input_tick : record.input.tick = tick
  seed : record.tickSeed = Rust.tickSeed baseSeed tick
  ordered : (record.validationSummaries.map (checkpointOrder ·.checkpoint)).Pairwise (· < ·)
  stateTick : ∀ summary ∈ record.validationSummaries,
    summary.stateTick = saturatingSubU64 tick 1
  reason : record.snapshot.map (·.reason) = snapshotPolicy.shouldCapture tick
  metadata : ∀ snapshot ∈ record.snapshot,
    snapshot.metadata = ⟨expectedVersion, tick, record.checksum⟩

def LegalFrom : Tick → List (ReplayTickRecord C Snapshot) → Prop
  | _, [] => True
  | tick, record :: records =>
    LegalRecord baseSeed snapshotPolicy expectedVersion tick record ∧ LegalFrom (tick + 1) records

variable {baseSeed snapshotPolicy expectedVersion}

theorem validateSummariesFrom_eq_ok {tick expected : Tick} {last : Option ℕ}
    {summaries : List ValidationSummary} {u : Unit} :
    validateSummariesFrom tick expected last summaries = .ok u ↔
      (last.toList ++ summaries.map (checkpointOrder ·.checkpoint)).IsChain (· < ·) ∧
        ∀ summary ∈ summaries, summary.stateTick = expected := by
  induction summaries generalizing last with
  | nil => cases last <;> simp [validateSummariesFrom]
  | cons summary rest ih =>
    simp only [validateSummariesFrom, bind_eq_ok, rejectIf_eq_ok, exists_const, ih, ne_eq,
      not_not, List.forall_mem_cons, List.map_cons]
    cases last with
    | none => simp [and_left_comm]
    | some previous => simp [and_left_comm, and_assoc]

theorem validateValidationSummaries_eq_ok {record : ReplayTickRecord C Snapshot} {u : Unit} :
    validateValidationSummaries record = .ok u ↔
      (record.validationSummaries.map (checkpointOrder ·.checkpoint)).Pairwise (· < ·) ∧
        ∀ summary ∈ record.validationSummaries,
          summary.stateTick = saturatingSubU64 record.tick 1 := by
  rw [validateValidationSummaries, validateSummariesFrom_eq_ok, ← List.isChain_iff_pairwise]
  rfl

theorem validateSnapshotPresence_eq_ok {record : ReplayTickRecord C Snapshot} {u : Unit} :
    validateSnapshotPresence snapshotPolicy record = .ok u ↔
      record.snapshot.map (·.reason) = snapshotPolicy.shouldCapture record.tick := by
  unfold validateSnapshotPresence SnapshotPolicy.shouldCapture
  cases snapshotPolicy with
  | never => cases record.snapshot <;> simp
  | manual => cases record.snapshot <;> simp
  | every interval =>
    cases record.snapshot with
    | none =>
      simp only [rejectIf_eq_ok, Option.map_none]
      split <;> simp_all
    | some snapshot =>
      simp only [bind_eq_ok, rejectIf_eq_ok, exists_const, not_or, not_not, ne_eq,
        Option.map_some]
      split <;> simp_all

theorem validateSnapshotMetadata_eq_ok {record : ReplayTickRecord C Snapshot} {u : Unit} :
    validateSnapshotMetadata expectedVersion record = .ok u ↔
      ∀ snapshot ∈ record.snapshot,
        snapshot.metadata = ⟨expectedVersion, record.tick, record.checksum⟩ := by
  unfold validateSnapshotMetadata
  cases record.snapshot with
  | none => simp
  | some snapshot =>
    obtain ⟨⟨version, tick, checksum⟩, reason, payload⟩ := snapshot
    simp

theorem validateRecord_eq_ok {tick : Tick} {record : ReplayTickRecord C Snapshot} {u : Unit} :
    validateRecord baseSeed snapshotPolicy expectedVersion tick record = .ok u ↔
      LegalRecord baseSeed snapshotPolicy expectedVersion tick record := by
  simp only [validateRecord, bind_eq_ok, rejectIf_eq_ok, exists_const, ne_eq, not_not,
    validateValidationSummaries_eq_ok, validateSnapshotPresence_eq_ok,
    validateSnapshotMetadata_eq_ok]
  constructor
  · rintro ⟨rfl, h2, h3, ⟨h4, h5⟩, h6, h7⟩
    exact ⟨rfl, h2, h3, h4, h5, h6, h7⟩
  · rintro ⟨rfl, h2, h3, h4, h5, h6, h7⟩
    exact ⟨rfl, h2, h3, ⟨h4, h5⟩, h6, h7⟩

theorem validateRecordsFrom_eq_ok {tick : Tick} {records : List (ReplayTickRecord C Snapshot)}
    {u : Unit} :
    validateRecordsFrom baseSeed snapshotPolicy expectedVersion tick records = .ok u ↔
      LegalFrom baseSeed snapshotPolicy expectedVersion tick records := by
  induction records generalizing tick with
  | nil => simp [validateRecordsFrom, LegalFrom]
  | cons record records ih =>
    simp only [validateRecordsFrom, bind_eq_ok, exists_const, validateRecord_eq_ok, ih, LegalFrom]

theorem validateRecordSequence_eq_ok {records : List (ReplayTickRecord C Snapshot)} {u : Unit} :
    validateRecordSequence baseSeed snapshotPolicy expectedVersion records = .ok u ↔
      LegalFrom baseSeed snapshotPolicy expectedVersion 1 records :=
  validateRecordsFrom_eq_ok

def lastTick (records : List (ReplayTickRecord C Snapshot)) : Tick :=
  (records.getLast?.map (·.tick)).getD 0

def lastChecksum (records : List (ReplayTickRecord C Snapshot)) : UInt64 :=
  (records.getLast?.map (·.checksum)).getD 0

def validateReplayArtifactShape (artifact : ReplayArtifact C Snapshot) :
    Except EngineError Unit := do
  validateRecordSequence artifact.metadata.baseSeed artifact.metadata.snapshotPolicy
    artifact.metadata.snapshotPayloadSchemaVersion artifact.records
  rejectIf (artifact.metadata.recordCount ≠ artifact.records.length) (.corruptedArtifact "replay"
    s!"record count mismatch: metadata={artifact.metadata.recordCount}, actual={artifact.records.length}")
  let expectedTotalTicks := lastTick artifact.records
  rejectIf (artifact.metadata.totalTicks ≠ expectedTotalTicks) (.corruptedArtifact "replay"
    s!"total tick mismatch: metadata={artifact.metadata.totalTicks}, actual={expectedTotalTicks}")

/-- The totals in the metadata agree with the records. -/
structure TotalsMatch (artifact : ReplayArtifact C Snapshot) : Prop where
  recordCount : artifact.metadata.recordCount = artifact.records.length
  totalTicks : artifact.metadata.totalTicks = lastTick artifact.records

theorem validateReplayArtifactShape_eq_ok {artifact : ReplayArtifact C Snapshot} {u : Unit} :
    validateReplayArtifactShape artifact = .ok u ↔
      LegalFrom artifact.metadata.baseSeed artifact.metadata.snapshotPolicy
        artifact.metadata.snapshotPayloadSchemaVersion 1 artifact.records ∧ TotalsMatch artifact := by
  simp only [validateReplayArtifactShape, bind_eq_ok, rejectIf_eq_ok, exists_const, ne_eq,
    not_not, validateRecordSequence_eq_ok]
  constructor
  · rintro ⟨h1, h2, h3⟩
    exact ⟨h1, h2, h3⟩
  · rintro ⟨h1, h2, h3⟩
    exact ⟨h1, h2, h3⟩

end Validate

end XenorEngine.Rust
