import XenorEngine.Rust.Policy
import XenorEngine.Rust.Scheduler

/-!
# Replay log and trace comparison (replay/mod.rs, input/mod.rs)
-/

namespace XenorEngine.Rust
open XenorEngine.Lib.Fallible

/-! ### `{:?}` -/

class Debug (α : Type) where
  debug : α → String

open Debug (debug)

def debugFields (name : String) (fields : List (String × String)) : String :=
  name ++ " \x7b " ++ ", ".intercalate (fields.map fun f => f.1 ++ ": " ++ f.2) ++ " \x7d"

instance : Debug ℕ := ⟨toString⟩
instance : Debug UInt32 := ⟨toString⟩
instance : Debug UInt64 := ⟨toString⟩
instance : Debug Int64 := ⟨toString⟩
instance : Debug Bool := ⟨toString⟩
instance : Debug String := ⟨String.quote⟩
instance {α : Type} [Debug α] : Debug (List α) :=
  ⟨fun xs => "[" ++ ", ".intercalate (xs.map debug) ++ "]"⟩
instance {α : Type} [Debug α] : Debug (Option α) where
  debug
    | some a => "Some(" ++ debug a ++ ")"
    | none => "None"
instance : Debug PhaseGroup := ⟨PhaseGroup.asStr⟩
instance : Debug ValidationCheckpoint where
  debug
    | .beforeTickBegin => "BeforeTickBegin"
    | .afterInputApplied => "AfterInputApplied"
    | .afterSimulationGroup => "AfterSimulationGroup"
    | .afterFinalize => "AfterFinalize"
instance : Debug ValidationSummary where
  debug s := debugFields "ValidationSummary" [("checkpoint", debug s.checkpoint),
    ("state_tick", debug s.stateTick), ("state_digest", debug s.stateDigest)]
instance : Debug SnapshotCaptureReason where
  debug
    | .policyInterval interval => debugFields "PolicyInterval" [("interval", debug interval)]
    | .manual => "Manual"
instance : Debug SnapshotPolicy where
  debug
    | .never => "Never"
    | .every interval => debugFields "Every" [("interval", debug interval)]
    | .manual => "Manual"

instance : Debug ValidationPolicy where
  debug
    | .tickBoundary => "TickBoundary"
    | .everyPhase => "EveryPhase"

instance : Debug EngineError where
  debug
    | .unexpectedInputTick expected got =>
      debugFields "UnexpectedInputTick" [("expected", debug expected), ("got", debug got)]
    | .schedulerInvariant detail => debugFields "SchedulerInvariant" [("detail", debug detail)]
    | .replayLifecycle detail => debugFields "ReplayLifecycle" [("detail", debug detail)]
    | .phaseFailed tick group phase reason =>
      debugFields "PhaseFailed" [("tick", debug tick), ("group", debug group),
        ("phase", debug phase), ("reason", debug reason)]
    | .unsupportedSchemaVersion artifact expected got =>
      debugFields "UnsupportedSchemaVersion" [("artifact", debug artifact),
        ("expected", debug expected), ("got", debug got)]
    | .configDecode detail => debugFields "ConfigDecode" [("detail", debug detail)]
    | .configMismatch detail => debugFields "ConfigMismatch" [("detail", debug detail)]
    | .scenarioDecode detail => debugFields "ScenarioDecode" [("detail", debug detail)]
    | .scenarioMismatch detail => debugFields "ScenarioMismatch" [("detail", debug detail)]
    | .summaryMismatch detail => debugFields "SummaryMismatch" [("detail", debug detail)]
    | .replayDecode detail => debugFields "ReplayDecode" [("detail", debug detail)]
    | .snapshotDecode detail => debugFields "SnapshotDecode" [("detail", debug detail)]
    | .snapshotSerialization tick reason =>
      debugFields "SnapshotSerialization" [("tick", debug tick), ("reason", debug reason)]
    | .snapshotMetadataMismatch detail =>
      debugFields "SnapshotMetadataMismatch" [("detail", debug detail)]
    | .seedMismatch expected got =>
      debugFields "SeedMismatch" [("expected", debug expected), ("got", debug got)]
    | .replayContinuationMismatch detail =>
      debugFields "ReplayContinuationMismatch" [("detail", debug detail)]
    | .resumeTickMismatch expected got =>
      debugFields "ResumeTickMismatch" [("expected", debug expected), ("got", debug got)]
    | .corruptedArtifact artifact detail =>
      debugFields "CorruptedArtifact" [("artifact", debug artifact), ("detail", debug detail)]
    | .invariantViolation tick checkpoint detail =>
      debugFields "InvariantViolation" [("tick", debug tick), ("checkpoint", debug checkpoint),
        ("detail", debug detail)]
    | .replayMismatch tick detail =>
      debugFields "ReplayMismatch" [("tick", debug tick), ("detail", debug detail)]

/-! ### Records -/

structure InputFrame (C : Type) where
  tick : Tick
  command : C
  deriving DecidableEq, Repr

structure PhaseMarker where
  ordinal : ℕ
  group : PhaseGroup
  name : String
  deriving DecidableEq, Repr

def PhaseMarker.fromDescriptor (d : PhaseDescriptor) : PhaseMarker := ⟨d.ordinal, d.group, d.name⟩

structure SnapshotMetadata where
  payloadSchemaVersion : UInt32
  sourceTick : Tick
  captureChecksum : UInt64
  deriving DecidableEq, Repr

structure SnapshotRecord (Snapshot : Type) where
  metadata : SnapshotMetadata
  reason : SnapshotCaptureReason
  payload : Snapshot
  deriving DecidableEq, Repr

structure ReplayTickRecord (C Snapshot : Type) where
  tick : Tick
  input : InputFrame C
  tickSeed : Seed
  phaseMarkers : List PhaseMarker
  validationSummaries : List ValidationSummary
  checksum : UInt64
  snapshot : Option (SnapshotRecord Snapshot)
  deriving DecidableEq, Repr

structure PendingReplayTickRecord (C : Type) where
  tick : Tick
  input : InputFrame C
  tickSeed : Seed
  phaseMarkers : List PhaseMarker
  validationSummaries : List ValidationSummary
  deriving DecidableEq, Repr

instance {C : Type} [Debug C] : Debug (InputFrame C) where
  debug f := debugFields "InputFrame" [("tick", debug f.tick), ("command", debug f.command)]
instance : Debug PhaseMarker where
  debug m := debugFields "PhaseMarker" [("ordinal", debug m.ordinal), ("group", debug m.group),
    ("name", debug m.name)]
instance : Debug SnapshotMetadata where
  debug m := debugFields "SnapshotMetadata"
    [("payload_schema_version", debug m.payloadSchemaVersion),
      ("source_tick", debug m.sourceTick), ("capture_checksum", debug m.captureChecksum)]
instance {Snapshot : Type} [Debug Snapshot] : Debug (SnapshotRecord Snapshot) where
  debug s := debugFields "SnapshotRecord" [("metadata", debug s.metadata),
    ("reason", debug s.reason), ("payload", debug s.payload)]

/-! ### InMemoryReplayLog -/

structure InMemoryReplayLog (C Snapshot : Type) where
  records : List (ReplayTickRecord C Snapshot)
  pending : Option (PendingReplayTickRecord C)
  deriving DecidableEq, Repr

namespace InMemoryReplayLog
variable {C Snapshot : Type}

def default : InMemoryReplayLog C Snapshot := ⟨[], none⟩

def beginTick (log : InMemoryReplayLog C Snapshot) (frame : InputFrame C) (tickSeed : Seed) :
    Except EngineError (InMemoryReplayLog C Snapshot) :=
  match log.pending with
  | some _ =>
    .error (.replayLifecycle "attempted to begin a tick while another tick is pending")
  | none => .ok { log with pending := some ⟨frame.tick, frame, tickSeed, [], []⟩ }

def recordPhase (log : InMemoryReplayLog C Snapshot) (marker : PhaseMarker) :
    Except EngineError (InMemoryReplayLog C Snapshot) :=
  match log.pending with
  | none => .error (.replayLifecycle
      s!"attempted to record phase `{marker.name}` without a pending replay tick")
  | some pending =>
    .ok { log with
      pending := some { pending with phaseMarkers := pending.phaseMarkers ++ [marker] } }

def recordValidation (log : InMemoryReplayLog C Snapshot) (summary : ValidationSummary) :
    Except EngineError (InMemoryReplayLog C Snapshot) :=
  match log.pending with
  | none => .error (.replayLifecycle
      s!"attempted to record validation checkpoint `{summary.checkpoint.asStr}` without a pending replay tick")
  | some pending =>
    .ok { log with
      pending := some
        { pending with validationSummaries := pending.validationSummaries ++ [summary] } }

def completeTick (log : InMemoryReplayLog C Snapshot) (checksum : UInt64)
    (snapshot : Option (SnapshotRecord Snapshot)) :
    Except EngineError (InMemoryReplayLog C Snapshot) :=
  match log.pending with
  | none => .error (.replayLifecycle "attempted to finalize a replay tick without begin_tick")
  | some pending =>
    .ok ⟨log.records ++ [⟨pending.tick, pending.input, pending.tickSeed, pending.phaseMarkers,
      pending.validationSummaries, checksum, snapshot⟩], none⟩

end InMemoryReplayLog

/-! ### Inspection -/

structure StateDigestProgression where
  tick : Tick
  checkpoints : List ValidationSummary
  deriving DecidableEq, Repr

structure TickLifecycleSummary where
  tick : Tick
  inputTick : Tick
  tickSeed : Seed
  phaseMarkers : List PhaseMarker
  validationSummaries : List ValidationSummary
  stateDigestProgression : StateDigestProgression
  checksum : UInt64
  snapshotPresent : Bool
  snapshotSourceTick : Option Tick
  snapshotCaptureChecksum : Option UInt64
  deriving DecidableEq, Repr

structure ReplayInspectionView where
  recordCount : ℕ
  finalTick : Tick
  tickSummaries : List TickLifecycleSummary
  deriving DecidableEq, Repr

def inspectReplayTrace {C Snapshot : Type} (records : List (ReplayTickRecord C Snapshot)) :
    ReplayInspectionView where
  recordCount := records.length
  finalTick := (records.getLast?.map (·.tick)).getD 0
  tickSummaries := records.map fun record => {
    tick := record.tick
    inputTick := record.input.tick
    tickSeed := record.tickSeed
    phaseMarkers := record.phaseMarkers
    validationSummaries := record.validationSummaries
    stateDigestProgression := ⟨record.tick, record.validationSummaries⟩
    checksum := record.checksum
    snapshotPresent := record.snapshot.isSome
    snapshotSourceTick := record.snapshot.map (·.metadata.sourceTick)
    snapshotCaptureChecksum := record.snapshot.map (·.metadata.captureChecksum) }

/-! ### Comparison -/

inductive ReplayMismatchKind (C Snapshot : Type)
  | tickCount (expected actual : ℕ)
  | tick (expected actual : Tick)
  | input (expected actual : InputFrame C)
  | tickSeed (expected actual : Seed)
  | phaseMarkers (expected actual : List PhaseMarker)
  | validationSummaries (expected actual : List ValidationSummary)
  | checksum (expected actual : UInt64)
  | snapshotPresence (expected actual : Bool)
  | snapshotReason (expected actual : SnapshotCaptureReason)
  | snapshotMetadata (expected actual : SnapshotMetadata)
  | snapshotPayloadDigest (expected actual : UInt64)
  | snapshotPayload (expected actual : SnapshotRecord Snapshot)
  deriving DecidableEq, Repr

structure ReplayDivergence (C Snapshot : Type) where
  recordIndex : ℕ
  tick : Option Tick
  kind : ReplayMismatchKind C Snapshot
  deriving DecidableEq, Repr

section Compare
variable {C Snapshot ε : Type}

def ReplayDivergence.display [Debug C] [Debug Snapshot] (d : ReplayDivergence C Snapshot) :
    String :=
  match d.kind with
  | .tickCount expected actual =>
    s!"tick count mismatch at index {d.recordIndex}: expected {expected}, got {actual}"
  | .tick expected actual => s!"tick mismatch: expected {expected}, got {actual}"
  | .input expected actual =>
    s!"input mismatch at index {d.recordIndex}: expected {debug expected}, got {debug actual}"
  | .tickSeed expected actual =>
    s!"tick seed mismatch at index {d.recordIndex}: expected {expected}, got {actual}"
  | .phaseMarkers expected actual =>
    s!"phase marker mismatch at index {d.recordIndex}: expected {debug expected}, got {debug actual}"
  | .validationSummaries expected actual =>
    s!"validation summary mismatch at index {d.recordIndex}: expected {debug expected}, got {debug actual}"
  | .checksum expected actual =>
    s!"checksum mismatch at index {d.recordIndex}: expected {expected}, got {actual}"
  | .snapshotPresence expected actual =>
    s!"snapshot presence mismatch at index {d.recordIndex}: expected {expected}, got {actual}"
  | .snapshotReason expected actual =>
    s!"snapshot reason mismatch at index {d.recordIndex}: expected {debug expected}, got {debug actual}"
  | .snapshotMetadata expected actual =>
    s!"snapshot metadata mismatch at index {d.recordIndex}: expected {debug expected}, got {debug actual}"
  | .snapshotPayloadDigest expected actual =>
    s!"snapshot payload digest mismatch at index {d.recordIndex}: expected {expected}, got {actual}"
  | .snapshotPayload expected actual =>
    s!"snapshot payload mismatch at index {d.recordIndex}: expected {debug expected}, got {debug actual}"

def ReplayDivergence.toEngineError [Debug C] [Debug Snapshot] (d : ReplayDivergence C Snapshot) :
    EngineError := .replayMismatch d.tick d.display

variable [DecidableEq C] [DecidableEq Snapshot]

def compareSnapshots (digest : Snapshot → Except ε UInt64) (index : ℕ) (tick : Option Tick)
    (expected actual : SnapshotRecord Snapshot) : Except (ReplayDivergence C Snapshot) Unit := do
  rejectIf (expected.reason ≠ actual.reason)
    ⟨index, tick, .snapshotReason expected.reason actual.reason⟩
  rejectIf (expected.metadata ≠ actual.metadata)
    ⟨index, tick, .snapshotMetadata expected.metadata actual.metadata⟩
  rejectIf (expected.payload ≠ actual.payload) ⟨index, tick,
    match digest expected.payload, digest actual.payload with
    | .ok expectedDigest, .ok actualDigest =>
      .snapshotPayloadDigest expectedDigest actualDigest
    | _, _ => .snapshotPayload expected actual⟩

def compareRecord (digest : Snapshot → Except ε UInt64) (index : ℕ)
    (expected actual : ReplayTickRecord C Snapshot) :
    Except (ReplayDivergence C Snapshot) Unit := do
  let tick := some expected.tick
  rejectIf (expected.tick ≠ actual.tick) ⟨index, tick, .tick expected.tick actual.tick⟩
  rejectIf (expected.input ≠ actual.input) ⟨index, tick, .input expected.input actual.input⟩
  rejectIf (expected.tickSeed ≠ actual.tickSeed)
    ⟨index, tick, .tickSeed expected.tickSeed actual.tickSeed⟩
  rejectIf (expected.phaseMarkers ≠ actual.phaseMarkers)
    ⟨index, tick, .phaseMarkers expected.phaseMarkers actual.phaseMarkers⟩
  rejectIf (expected.validationSummaries ≠ actual.validationSummaries)
    ⟨index, tick, .validationSummaries expected.validationSummaries actual.validationSummaries⟩
  rejectIf (expected.checksum ≠ actual.checksum)
    ⟨index, tick, .checksum expected.checksum actual.checksum⟩
  rejectIf (expected.snapshot.isSome ≠ actual.snapshot.isSome)
    ⟨index, tick, .snapshotPresence expected.snapshot.isSome actual.snapshot.isSome⟩
  match expected.snapshot, actual.snapshot with
  | some expectedSnapshot, some actualSnapshot =>
    compareSnapshots digest index tick expectedSnapshot actualSnapshot
  | _, _ => pure ()

/-- The loop over `0..shared_len`, then the check that neither list goes on. -/
def compareFrom (digest : Snapshot → Except ε UInt64) :
    ℕ → List (ReplayTickRecord C Snapshot) → List (ReplayTickRecord C Snapshot) →
      Except (ReplayDivergence C Snapshot) Unit
  | index, expected :: es, actual :: as => do
    compareRecord digest index expected actual
    compareFrom digest (index + 1) es as
  | _, [], [] => pure ()
  | index, expected :: es, [] =>
    throw ⟨index, some expected.tick, .tickCount (index + (es.length + 1)) index⟩
  | index, [], actual :: as =>
    throw ⟨index, some actual.tick, .tickCount index (index + (as.length + 1))⟩

def compareReplayTracesWithSnapshotDigest (expected actual : List (ReplayTickRecord C Snapshot))
    (digest : Snapshot → Except ε UInt64) : Except (ReplayDivergence C Snapshot) Unit :=
  compareFrom digest 0 expected actual

omit [DecidableEq C] in
theorem compareSnapshots_eq_ok {digest : Snapshot → Except ε UInt64} {index : ℕ}
    {tick : Option Tick} {expected actual : SnapshotRecord Snapshot} {u : Unit} :
    (compareSnapshots digest index tick expected actual :
      Except (ReplayDivergence C Snapshot) Unit) = .ok u ↔ expected = actual := by
  simp only [compareSnapshots, bind_eq_ok, rejectIf_eq_ok, exists_const, ne_eq, not_not]
  cases expected
  cases actual
  simp only [SnapshotRecord.mk.injEq]
  tauto

theorem compareRecord_eq_ok {digest : Snapshot → Except ε UInt64} {index : ℕ}
    {expected actual : ReplayTickRecord C Snapshot} {u : Unit} :
    compareRecord digest index expected actual = .ok u ↔ expected = actual := by
  simp only [compareRecord, bind_eq_ok, rejectIf_eq_ok, exists_const, ne_eq, not_not]
  obtain ⟨t, i, ts, pm, vs, cs, sn⟩ := expected
  obtain ⟨t', i', ts', pm', vs', cs', sn'⟩ := actual
  simp only [ReplayTickRecord.mk.injEq]
  cases sn with
  | none =>
    cases sn' with
    | none => simp
    | some s' => simp
  | some s =>
    cases sn' with
    | none => simp
    | some s' => simp [compareSnapshots_eq_ok]

theorem compareFrom_eq_ok {digest : Snapshot → Except ε UInt64} {index : ℕ}
    {expected actual : List (ReplayTickRecord C Snapshot)} {u : Unit} :
    compareFrom digest index expected actual = .ok u ↔ expected = actual := by
  induction expected generalizing index actual with
  | nil =>
    cases actual with
    | nil => simp [compareFrom]
    | cons a as => simp [compareFrom]
  | cons e es ih =>
    cases actual with
    | nil => simp [compareFrom]
    | cons a as =>
      simp only [compareFrom, bind_eq_ok, compareRecord_eq_ok, ih, exists_const, List.cons.injEq]

theorem compare_traces_eq_ok {digest : Snapshot → Except ε UInt64}
    {expected actual : List (ReplayTickRecord C Snapshot)} {u : Unit} :
    compareReplayTracesWithSnapshotDigest expected actual digest = .ok u ↔ expected = actual :=
  compareFrom_eq_ok

end Compare

end XenorEngine.Rust
