import XenorEngine.Rust.ReplayArtifact

/-!
# The replay artifact codec (persistence/mod.rs)

Writer and reader of replay artifacts over any payload serializers, and the law
between them: what is written is read back exactly when the totals in the
metadata match the records, which the reader checks and the writer does not.
-/

namespace XenorEngine.Rust
open XenorEngine.Lib.ByteText XenorEngine.Lib.LineText XenorEngine.Lib.Fallible
open XenorEngine.Lib.PrefixReader XenorEngine.Lib.FieldCodec XenorEngine.Lib.Decimal
open Debug (debug)

structure ReplayArtifactSerializer (C Snapshot : Type) where
  engineFamily : String
  commandSerializer : Serializer C
  snapshotSerializer : Serializer Snapshot

namespace ReplayArtifactSerializer

def schemaVersion : UInt32 := REPLAY_ARTIFACT_SCHEMA_VERSION
def label : String := "replay artifact"

def replayCorruptedCanonical (error : CanonicalError) : EngineError :=
  .corruptedArtifact "replay" error.detail

def replayCorrupted (error : CanonicalError) : Failure := .error (replayCorruptedCanonical error)

def readReplay {α : Type} (key : String) (parse : String → Except EngineError α) :
    Reader Line Failure α :=
  readField replayCorrupted label key fun v => orFail (parse v)

def expectReplay (key expected : String) : Reader Line Failure Unit :=
  expectField replayCorrupted label key expected

def parseReplayBool (value : String) : Except EngineError Bool :=
  okOr (boolOf value) (.corruptedArtifact "replay" s!"invalid bool `{value}`")

def parseReplayPolicy (value : String) : Except EngineError SnapshotPolicy :=
  okOr (SnapshotPolicy.parse value)
    (.corruptedArtifact "replay" s!"invalid snapshot policy `{value}`")

variable {C Snapshot : Type} (s : ReplayArtifactSerializer C Snapshot)

/-! ### Writing -/

def headLines (m : ReplayArtifactMetadata) : CanonicalLineWriter :=
  [("artifact", "replay"),
   ("canonical_encoding", CANONICAL_TEXT_ENCODING),
   ("artifact_schema_version", toString m.artifactSchemaVersion),
   ("engine_family_hex", encodeHex (utf8 m.engineFamily)),
   ("base_seed", toString m.baseSeed),
   ("total_ticks", toString m.totalTicks),
   ("snapshot_policy", m.snapshotPolicy.canonicalString),
   ("config_payload_schema_version", toString m.configIdentity.payloadSchemaVersion),
   ("config_digest", toString m.configIdentity.digest),
   ("command_payload_schema_version", toString m.commandPayloadSchemaVersion),
   ("snapshot_payload_schema_version", toString m.snapshotPayloadSchemaVersion),
   ("record_count", toString m.recordCount)]

def phaseLines (index phaseIndex : ℕ) (marker : PhaseMarker) : CanonicalLineWriter :=
  [(s!"record.{index}.phase.{phaseIndex}.ordinal", toString marker.ordinal),
   (s!"record.{index}.phase.{phaseIndex}.group", marker.group.asStr),
   (s!"record.{index}.phase.{phaseIndex}.name_hex", encodeHex (utf8 marker.name))]

def validationLines (index validationIndex : ℕ) (summary : ValidationSummary) :
    CanonicalLineWriter :=
  [(s!"record.{index}.validation.{validationIndex}.checkpoint", summary.checkpoint.asStr),
   (s!"record.{index}.validation.{validationIndex}.state_tick", toString summary.stateTick),
   (s!"record.{index}.validation.{validationIndex}.state_digest", toString summary.stateDigest)]

def snapshotLines (index : ℕ) (snapshot : SnapshotRecord Snapshot) (payloadBytes : Bytes) :
    CanonicalLineWriter :=
  [(s!"record.{index}.snapshot.reason", encodeSnapshotCaptureReason snapshot.reason),
   (s!"record.{index}.snapshot.payload_schema_version",
     toString snapshot.metadata.payloadSchemaVersion),
   (s!"record.{index}.snapshot.source_tick", toString snapshot.metadata.sourceTick),
   (s!"record.{index}.snapshot.capture_checksum", toString snapshot.metadata.captureChecksum),
   (s!"record.{index}.snapshot.payload_hex", encodeHex payloadBytes)]

def recordLines (index : ℕ) (record : ReplayTickRecord C Snapshot) (commandBytes : Bytes)
    (snapshot : CanonicalLineWriter) : CanonicalLineWriter :=
  [(s!"record.{index}.tick", toString record.tick),
   (s!"record.{index}.input.tick", toString record.input.tick),
   (s!"record.{index}.command_hex", encodeHex commandBytes),
   (s!"record.{index}.tick_seed", toString record.tickSeed),
   (s!"record.{index}.phase_count", toString record.phaseMarkers.length)]
  ++ (writeFrom (phaseLines index) 0 record.phaseMarkers
  ++ ((s!"record.{index}.validation_count", toString record.validationSummaries.length) ::
  (writeFrom (validationLines index) 0 record.validationSummaries
  ++ ((s!"record.{index}.checksum", toString record.checksum) ::
  ((s!"record.{index}.snapshot.present", encodeBool record.snapshot.isSome) ::
  snapshot)))))

def encodeSnapshot (index : ℕ) (snapshot : SnapshotRecord Snapshot) :
    Except EngineError CanonicalLineWriter := do
  let payloadBytes ← (s.snapshotSerializer.encode snapshot.payload).mapError fun error =>
    .snapshotSerialization snapshot.metadata.sourceTick error.text
  pure (snapshotLines index snapshot payloadBytes)

def encodeRecord (index : ℕ) (record : ReplayTickRecord C Snapshot) :
    Except EngineError CanonicalLineWriter := do
  let commandBytes ← (s.commandSerializer.encode record.input.command).mapError fun error =>
    .replayDecode s!"failed to encode command at tick {record.tick}: {error.text}"
  match record.snapshot with
  | none => pure (recordLines index record commandBytes [])
  | some snapshot => do
    let lines ← s.encodeSnapshot index snapshot
    pure (recordLines index record commandBytes lines)

def encodeRecords : ℕ → List (ReplayTickRecord C Snapshot) →
    Except EngineError CanonicalLineWriter
  | _, [] => pure []
  | index, record :: records => do
    let lines ← s.encodeRecord index record
    let rest ← encodeRecords (index + 1) records
    pure (lines ++ rest)

def encode (value : ReplayArtifact C Snapshot) : Except EngineError Bytes := do
  rejectIf (value.metadata.artifactSchemaVersion ≠ schemaVersion)
    (.unsupportedSchemaVersion "replay artifact" schemaVersion
      value.metadata.artifactSchemaVersion)
  rejectIf (value.metadata.engineFamily ≠ s.engineFamily) (.replayDecode
    s!"engine family mismatch: expected `{s.engineFamily}`, got `{value.metadata.engineFamily}`")
  rejectIf (value.metadata.commandPayloadSchemaVersion ≠ s.commandSerializer.schemaVersion)
    (.unsupportedSchemaVersion "replay command payload" s.commandSerializer.schemaVersion
      value.metadata.commandPayloadSchemaVersion)
  rejectIf (value.metadata.snapshotPayloadSchemaVersion ≠ s.snapshotSerializer.schemaVersion)
    (.unsupportedSchemaVersion "replay snapshot payload" s.snapshotSerializer.schemaVersion
      value.metadata.snapshotPayloadSchemaVersion)
  validateRecordSequence value.metadata.baseSeed value.metadata.snapshotPolicy
    value.metadata.snapshotPayloadSchemaVersion value.records
  let records ← s.encodeRecords 0 value.records
  pure (CanonicalLineWriter.finish (headLines value.metadata ++ records))

/-! ### Reading -/

def phaseFields (index phaseIndex : ℕ) : Reader Line Failure PhaseMarker := do
  let ordinal ← readReplay s!"record.{index}.phase.{phaseIndex}.ordinal"
    (parseNumber fromStrUsize "replay" "phase ordinal")
  let group ← readReplay s!"record.{index}.phase.{phaseIndex}.group" fun v =>
    okOr (PhaseGroup.parse v) (.corruptedArtifact "replay"
      s!"invalid phase group at record {index}, phase {phaseIndex}")
  let name ← readReplay s!"record.{index}.phase.{phaseIndex}.name_hex" fun v =>
    (decodeHexString v "replay artifact phase name").mapError replayCorruptedCanonical
  pure ⟨ordinal, group, name⟩

def validationFields (index validationIndex : ℕ) : Reader Line Failure ValidationSummary := do
  let checkpoint ← readReplay s!"record.{index}.validation.{validationIndex}.checkpoint" fun v =>
    okOr (ValidationCheckpoint.parse v) (.corruptedArtifact "replay"
      s!"invalid validation checkpoint at record {index}, validation {validationIndex}")
  let stateTick ← readReplay s!"record.{index}.validation.{validationIndex}.state_tick"
    (parseNumber fromStrU64 "replay" "validation state tick")
  let stateDigest ← readReplay s!"record.{index}.validation.{validationIndex}.state_digest"
    (parseNumber fromStrU64 "replay" "validation state digest")
  pure ⟨checkpoint, stateTick, stateDigest⟩

def decodeSnapshotPayload (sourceTick : Tick) (payloadHex : String) :
    Except EngineError Snapshot := do
  let payloadBytes ←
    (decodeHex payloadHex "replay artifact snapshot payload").mapError replayCorruptedCanonical
  (s.snapshotSerializer.decode payloadBytes).mapError fun error =>
    .replayDecode s!"failed to decode snapshot payload at tick {sourceTick}: {error.text}"

def snapshotFields (index : ℕ) : Reader Line Failure (SnapshotRecord Snapshot) := do
  let reason ← readReplay s!"record.{index}.snapshot.reason" parseSnapshotCaptureReason
  let payloadSchemaVersion ← readReplay s!"record.{index}.snapshot.payload_schema_version"
    (parseNumber fromStrU32 "replay" "snapshot payload schema version")
  let sourceTick ← readReplay s!"record.{index}.snapshot.source_tick"
    (parseNumber fromStrU64 "replay" "snapshot source tick")
  let captureChecksum ← readReplay s!"record.{index}.snapshot.capture_checksum"
    (parseNumber fromStrU64 "replay" "snapshot capture checksum")
  let payload ← readReplay s!"record.{index}.snapshot.payload_hex"
    (s.decodeSnapshotPayload sourceTick)
  pure ⟨⟨payloadSchemaVersion, sourceTick, captureChecksum⟩, reason, payload⟩

def decodeCommand (tick : Tick) (commandHex : String) : Except EngineError C := do
  let commandBytes ←
    (decodeHex commandHex "replay artifact command").mapError replayCorruptedCanonical
  (s.commandSerializer.decode commandBytes).mapError fun error =>
    .replayDecode s!"failed to decode command at tick {tick}: {error.text}"

variable (layout : Layout)

def recordFields (index : ℕ) : Reader Line Failure (ReplayTickRecord C Snapshot) := do
  let tick ← readReplay s!"record.{index}.tick" (parseNumber fromStrU64 "replay" "record tick")
  let inputTick ← readReplay s!"record.{index}.input.tick"
    (parseNumber fromStrU64 "replay" "record input tick")
  let command ← readReplay s!"record.{index}.command_hex" (s.decodeCommand tick)
  let tickSeedValue ← readReplay s!"record.{index}.tick_seed"
    (parseNumber fromStrU64 "replay" "record tick seed")
  let phaseCount ← readReplay s!"record.{index}.phase_count"
    (parseNumber fromStrUsize "replay" "phase count")
  lift (withCapacity layout layout.phaseMarker phaseCount)
  let phaseMarkers ← forRange (phaseFields index) 0 phaseCount
  let validationCount ← readReplay s!"record.{index}.validation_count"
    (parseNumber fromStrUsize "replay" "validation count")
  lift (withCapacity layout layout.validationSummary validationCount)
  let validationSummaries ← forRange (validationFields index) 0 validationCount
  let checksum ← readReplay s!"record.{index}.checksum"
    (parseNumber fromStrU64 "replay" "record checksum")
  let snapshotPresent ← readReplay s!"record.{index}.snapshot.present" parseReplayBool
  let snapshot ← optionally snapshotPresent (s.snapshotFields index)
  pure ⟨tick, ⟨inputTick, command⟩, tickSeedValue, phaseMarkers, validationSummaries, checksum,
    snapshot⟩

def fields : Reader Line Failure (ReplayArtifact C Snapshot) := do
  expectReplay "artifact" "replay"
  expectReplay "canonical_encoding" CANONICAL_TEXT_ENCODING
  let artifactSchemaVersion ← readReplay "artifact_schema_version"
    (parseNumber fromStrU32 "replay" "artifact schema version")
  lift (orFail (rejectIf (artifactSchemaVersion ≠ schemaVersion)
    (.unsupportedSchemaVersion "replay artifact" schemaVersion artifactSchemaVersion)))
  let engineFamily ← readReplay "engine_family_hex" fun v =>
    (decodeHexString v "replay artifact engine family").mapError replayCorruptedCanonical
  lift (orFail (rejectIf (engineFamily ≠ s.engineFamily) (.replayDecode
    s!"engine family mismatch: expected `{s.engineFamily}`, got `{engineFamily}`")))
  let baseSeed ← readReplay "base_seed" (parseNumber fromStrU64 "replay" "base seed")
  let totalTicks ← readReplay "total_ticks" (parseNumber fromStrU64 "replay" "total ticks")
  let snapshotPolicy ← readReplay "snapshot_policy" parseReplayPolicy
  let configPayloadSchemaVersion ← readReplay "config_payload_schema_version"
    (parseNumber fromStrU32 "replay" "config payload schema version")
  let configDigest ← readReplay "config_digest" (parseNumber fromStrU64 "replay" "config digest")
  let commandPayloadSchemaVersion ← readReplay "command_payload_schema_version"
    (parseNumber fromStrU32 "replay" "command payload schema version")
  lift (orFail (rejectIf (commandPayloadSchemaVersion ≠ s.commandSerializer.schemaVersion)
    (.unsupportedSchemaVersion "replay command payload" s.commandSerializer.schemaVersion
      commandPayloadSchemaVersion)))
  let snapshotPayloadSchemaVersion ← readReplay "snapshot_payload_schema_version"
    (parseNumber fromStrU32 "replay" "snapshot payload schema version")
  lift (orFail (rejectIf (snapshotPayloadSchemaVersion ≠ s.snapshotSerializer.schemaVersion)
    (.unsupportedSchemaVersion "replay snapshot payload" s.snapshotSerializer.schemaVersion
      snapshotPayloadSchemaVersion)))
  let recordCount ← readReplay "record_count" (parseNumber fromStrUsize "replay" "record count")
  lift (withCapacity layout layout.record recordCount)
  let records ← forRange (s.recordFields layout) 0 recordCount
  pure ⟨⟨artifactSchemaVersion, engineFamily, baseSeed, totalTicks, snapshotPolicy,
    ⟨configPayloadSchemaVersion, configDigest⟩, commandPayloadSchemaVersion,
    snapshotPayloadSchemaVersion, recordCount⟩, records⟩

def decode (bytes : Bytes) : Outcome (ReplayArtifact C Snapshot) := do
  let artifact ← readAll bytes label replayCorrupted (s.fields layout)
  orFail (validateReplayArtifactShape artifact)
  pure artifact

/-! ### The law -/

section Law
variable {s layout}

theorem spells_orFail {α : Type} {plainValue : String → Bool} {parse : String → Except EngineError α}
    {print : α → String} {dom : α → Prop} (h : Spells plainValue parse print dom) :
    Spells plainValue (fun v => orFail (parse v)) print dom :=
  spells_congr h fun _ _ => mapError_eq_ok

theorem orFail_eq_ok {α : Type} {x : Except EngineError α} {a : α} :
    orFail x = .ok a ↔ x = .ok a := mapError_eq_ok

theorem orFail_eq_error {α : Type} {x : Except EngineError α} {f : Failure} :
    orFail x = .error f ↔ ∃ e, x = .error e ∧ f = .error e := by
  cases x with
  | ok a => simp [orFail, Except.mapError]
  | error e => simp [orFail, Except.mapError, eq_comm]

theorem withCapacity_eq_ok {size count : ℕ} {u : Unit} :
    withCapacity layout size count = .ok u ↔ size * count ≤ layout.limit := by
  simp only [withCapacity, bind_eq_ok, rejectIf_eq_ok, exists_const, not_lt]
  exact and_iff_right_of_imp fun h => h.trans layout.limit_le

theorem phaseFields_codec (nested : Bytes → Bool) (index phaseIndex : ℕ) :
    CodecOn (lineSpelling nested) (fun marker : PhaseMarker => marker.ordinal ≤ USIZE_MAX)
      (phaseFields index phaseIndex) (phaseLines index phaseIndex) := by
  have hpre : CleanText (toString "record." ++ toString index ++ toString ".phase." ++
      toString phaseIndex) :=
    cleanText_append (cleanText_append (cleanText_append (by decide) (cleanText_nat index))
      (by decide)) (cleanText_nat phaseIndex)
  refine codec_field .text PhaseMarker.ordinal (goodKey_append hpre (by decide) (by decide))
    (spells_orFail (spells_parseNumber spells_usize _ _)) (fun _ h => h) ?_
  intro ordinal hordinal
  refine codec_value .text PhaseMarker.group (goodKey_append hpre (by decide) (by decide))
    (spells_orFail (spells_phaseGroup _)) ?_
  intro group
  refine codec_value .hex PhaseMarker.name (goodKey_append hpre (by decide) (by decide))
    (spells_orFail (spells_hexStringError _ _)) ?_
  intro name
  refine codec_pure ?_
  rintro ⟨ordinal', group', name'⟩
  simp only [PhaseMarker.mk.injEq, and_assoc]
  constructor
  · exact fun h => h.2
  · rintro ⟨rfl, rest⟩
    exact ⟨hordinal, rfl, rest⟩

theorem validationFields_codec (nested : Bytes → Bool) (index validationIndex : ℕ) :
    CodecOn (lineSpelling nested) (fun _ => True) (validationFields index validationIndex)
      (validationLines index validationIndex) := by
  have hpre : CleanText (toString "record." ++ toString index ++ toString ".validation." ++
      toString validationIndex) :=
    cleanText_append (cleanText_append (cleanText_append (by decide) (cleanText_nat index))
      (by decide)) (cleanText_nat validationIndex)
  refine codec_value .text ValidationSummary.checkpoint
    (goodKey_append hpre (by decide) (by decide)) (spells_orFail (spells_checkpoint _)) ?_
  intro checkpoint
  refine codec_value .text ValidationSummary.stateTick (goodKey_append hpre (by decide) (by decide))
    (spells_orFail (spells_parseNumber spells_u64 _ _)) ?_
  intro stateTick
  refine codec_value .text ValidationSummary.stateDigest
    (goodKey_append hpre (by decide) (by decide))
    (spells_orFail (spells_parseNumber spells_u64 _ _)) ?_
  intro stateDigest
  refine codec_pure ?_
  rintro ⟨checkpoint', stateTick', stateDigest'⟩
  simp only [true_and, and_assoc, ValidationSummary.mk.injEq]

/- The payload serializers keep their law. -/
variable {depth n : ℕ}

theorem snapshotFields_codec (hn : depth ≤ n)
    (hsnap : CodecLaw s.snapshotSerializer.encode s.snapshotSerializer.decode (fun _ => True) depth)
    (index : ℕ) :
    CodecOn (lineSpelling (plainSpelling n))
      (fun sn : SnapshotRecord Snapshot => ∃ b, s.snapshotSerializer.encode sn.payload = .ok b)
      (s.snapshotFields index)
      (fun sn => snapshotLines index sn (encoded s.snapshotSerializer.encode sn.payload)) := by
  have hpre : CleanText (toString "record." ++ toString index) :=
    cleanText_append (by decide) (cleanText_nat index)
  refine codec_value .text (fun sn : SnapshotRecord Snapshot => sn.reason)
    (goodKey_append hpre (by decide) (by decide)) (spells_orFail spells_captureReason) ?_
  intro reason
  refine codec_value .text (fun sn : SnapshotRecord Snapshot => sn.metadata.payloadSchemaVersion)
    (goodKey_append hpre (by decide) (by decide))
    (spells_orFail (spells_parseNumber spells_u32 _ _)) ?_
  intro version
  refine codec_value .text (fun sn : SnapshotRecord Snapshot => sn.metadata.sourceTick)
    (goodKey_append hpre (by decide) (by decide))
    (spells_orFail (spells_parseNumber spells_u64 _ _)) ?_
  intro sourceTick
  refine codec_value .text (fun sn : SnapshotRecord Snapshot => sn.metadata.captureChecksum)
    (goodKey_append hpre (by decide) (by decide))
    (spells_orFail (spells_parseNumber spells_u64 _ _)) ?_
  intro checksum
  refine codec_field .nested (fun sn : SnapshotRecord Snapshot => sn.payload)
    (goodKey_append hpre (by decide) (by decide))
    (spells_nested "replay artifact snapshot payload" hsnap hn ?_)
    (fun _ h => ⟨h.1.1.1.1, trivial⟩) ?_
  · intro v a
    simp only [orFail_eq_ok, decodeSnapshotPayload, bind_eq_ok, mapError_eq_ok]
  intro payload hpayload
  refine codec_pure ?_
  rintro ⟨⟨version', sourceTick', checksum'⟩, reason', payload'⟩
  simp only [SnapshotRecord.mk.injEq, SnapshotMetadata.mk.injEq, and_assoc]
  constructor
  · rintro ⟨-, hr, hv, ht, hc, hp⟩
    exact ⟨hv, ht, hc, hr, hp⟩
  · rintro ⟨hv, ht, hc, hr, rfl⟩
    exact ⟨hpayload.1, hr, hv, ht, hc, rfl⟩

/-- A record every payload of which can be written. -/
structure Writable (s : ReplayArtifactSerializer C Snapshot)
    (record : ReplayTickRecord C Snapshot) : Prop where
  command : ∃ b, s.commandSerializer.encode record.input.command = .ok b
  snapshot : ∀ sn ∈ record.snapshot, ∃ b, s.snapshotSerializer.encode sn.payload = .ok b

def recordOut (s : ReplayArtifactSerializer C Snapshot) (index : ℕ)
    (record : ReplayTickRecord C Snapshot) : CanonicalLineWriter :=
  recordLines index record (encoded s.commandSerializer.encode record.input.command)
    (writeOption (fun sn => snapshotLines index sn
      (encoded s.snapshotSerializer.encode sn.payload)) record.snapshot)

theorem recordFields_codec (hn : depth ≤ n)
    (hcmd : CodecLaw s.commandSerializer.encode s.commandSerializer.decode (fun _ => True) depth)
    (hsnap : CodecLaw s.snapshotSerializer.encode s.snapshotSerializer.decode (fun _ => True) depth)
    (index : ℕ) :
    CodecOn (lineSpelling (plainSpelling n))
      (fun record => s.Writable record ∧ record.Representable layout)
      (s.recordFields layout index) (s.recordOut index) := by
  have hpre : CleanText (toString "record." ++ toString index) :=
    cleanText_append (by decide) (cleanText_nat index)
  unfold recordOut recordLines
  refine codec_value .text (fun r : ReplayTickRecord C Snapshot => r.tick)
    (goodKey_append hpre (by decide) (by decide))
    (spells_orFail (spells_parseNumber spells_u64 _ _)) ?_
  intro tick
  refine codec_value .text (fun r : ReplayTickRecord C Snapshot => r.input.tick)
    (goodKey_append hpre (by decide) (by decide))
    (spells_orFail (spells_parseNumber spells_u64 _ _)) ?_
  intro inputTick
  refine codec_field .nested (fun r : ReplayTickRecord C Snapshot => r.input.command)
    (goodKey_append hpre (by decide) (by decide))
    (spells_nested "replay artifact command" hcmd hn ?_)
    (fun _ h => ⟨h.1.1.1.command, trivial⟩) ?_
  · intro v a
    simp only [orFail_eq_ok, decodeCommand, bind_eq_ok, mapError_eq_ok]
  intro command hcommand
  refine codec_value .text (fun r : ReplayTickRecord C Snapshot => r.tickSeed)
    (goodKey_append hpre (by decide) (by decide))
    (spells_orFail (spells_parseNumber spells_u64 _ _)) ?_
  intro tickSeedValue
  refine codec_field .text (fun r : ReplayTickRecord C Snapshot => r.phaseMarkers.length)
    (goodKey_append hpre (by decide) (by decide))
    (spells_orFail (spells_parseNumber spells_usize _ _))
    (fun _ h => h.1.1.1.1.2.markers.1) ?_
  intro phaseCount hphase
  refine codec_check (fun r h => ?_) fun hphaseCap => ?_
  · rw [withCapacity_eq_ok, ← h.2]
    exact h.1.1.1.1.1.2.markers.2
  refine codec_bind (fun r : ReplayTickRecord C Snapshot => r.phaseMarkers)
    (codec_forRange (phaseFields_codec _ index) 0 _)
    (fun _ h => ⟨h.2, h.1.1.1.1.1.2.ordinals⟩) ?_
  intro phaseMarkers hmarkers
  refine codec_field .text (fun r : ReplayTickRecord C Snapshot => r.validationSummaries.length)
    (goodKey_append hpre (by decide) (by decide))
    (spells_orFail (spells_parseNumber spells_usize _ _))
    (fun _ h => h.1.1.1.1.1.1.2.summaries.1) ?_
  intro validationCount hvalidation
  refine codec_check (fun r h => ?_) fun hvalidationCap => ?_
  · rw [withCapacity_eq_ok, ← h.2]
    exact h.1.1.1.1.1.1.1.2.summaries.2
  refine codec_bind (fun r : ReplayTickRecord C Snapshot => r.validationSummaries)
    (codec_forRange (validationFields_codec _ index) 0 _) (fun _ h => ⟨h.2, fun _ _ => trivial⟩) ?_
  intro validationSummaries hsummaries
  refine codec_value .text (fun r : ReplayTickRecord C Snapshot => r.checksum)
    (goodKey_append hpre (by decide) (by decide))
    (spells_orFail (spells_parseNumber spells_u64 _ _)) ?_
  intro checksum
  refine codec_value .text (fun r : ReplayTickRecord C Snapshot => r.snapshot.isSome)
    (goodKey_append hpre (by decide) (by decide)) (spells_orFail (spells_bool _)) ?_
  intro snapshotPresent
  refine codec_last (fun r : ReplayTickRecord C Snapshot => r.snapshot)
    (codec_optionally (s.snapshotFields_codec hn hsnap index) _)
    (fun _ h => ⟨h.2, h.1.1.1.1.1.1.1.1.1.1.1.snapshot⟩) ?_
  intro snapshot hsnapshot
  rw [withCapacity_eq_ok] at hphaseCap hvalidationCap
  rintro ⟨t, ⟨it, c⟩, ts, pm, vs, cs, sn⟩
  simp only [ReplayTickRecord.mk.injEq, InputFrame.mk.injEq, and_assoc]
  constructor
  · rintro ⟨-, -, h1, h2, h3, h4, -, h5, -, h6, h7, -, h8⟩
    exact ⟨h1, h2, h3, h4, h5, h6, h7, h8⟩
  · rintro ⟨rfl, rfl, rfl, rfl, rfl, rfl, rfl, rfl⟩
    obtain ⟨rfl, hordinals⟩ := hmarkers
    obtain ⟨rfl, -⟩ := hsummaries
    exact ⟨⟨hcommand.1, hsnapshot.2⟩, ⟨⟨hphase, hphaseCap⟩, hordinals, ⟨hvalidation,
      hvalidationCap⟩⟩, rfl, rfl, rfl, rfl, rfl, rfl, rfl, rfl, rfl, hsnapshot.1, rfl⟩

theorem encodeRecord_eq_ok {index : ℕ} {record : ReplayTickRecord C Snapshot}
    {ls : CanonicalLineWriter} :
    s.encodeRecord index record = .ok ls ↔ s.Writable record ∧ ls = s.recordOut index record := by
  unfold encodeRecord encodeSnapshot recordOut
  obtain ⟨t, ⟨it, c⟩, ts, pm, vs, cs, sn⟩ := record
  cases sn with
  | none =>
    simp only [bind_eq_ok, mapError_eq_ok, pure_eq_ok, exists_encode, writeOption]
    constructor
    · rintro ⟨hc, hls⟩
      exact ⟨⟨hc, fun _ h => absurd h (by simp)⟩, hls.symm⟩
    · rintro ⟨hw, hls⟩
      exact ⟨hw.command, hls.symm⟩
  | some sn =>
    simp only [bind_eq_ok, mapError_eq_ok, pure_eq_ok, exists_encode, writeOption]
    constructor
    · rintro ⟨hc, _, ⟨hs, rfl⟩, hls⟩
      refine ⟨⟨hc, ?_⟩, hls.symm⟩
      rintro sn' hsn'
      rwa [← Option.some.inj hsn']
    · rintro ⟨hw, hls⟩
      exact ⟨hw.command, _, ⟨hw.snapshot sn rfl, rfl⟩, hls.symm⟩

theorem encodeRecords_eq_ok {index : ℕ} {records : List (ReplayTickRecord C Snapshot)}
    {ls : CanonicalLineWriter} :
    s.encodeRecords index records = .ok ls ↔
      (∀ record ∈ records, s.Writable record) ∧ ls = writeFrom s.recordOut index records := by
  induction records generalizing index ls with
  | nil =>
    rw [encodeRecords, pure_eq_ok, eq_comm]
    simp [writeFrom]
  | cons record records ih =>
    simp only [encodeRecords, bind_eq_ok, pure_eq_ok, encodeRecord_eq_ok, ih, writeFrom,
      List.forall_mem_cons]
    constructor
    · rintro ⟨_, ⟨hw, rfl⟩, _, ⟨hws, rfl⟩, hls⟩
      exact ⟨⟨hw, hws⟩, hls.symm⟩
    · rintro ⟨⟨hw, hws⟩, hls⟩
      exact ⟨_, ⟨hw, rfl⟩, _, ⟨hws, rfl⟩, hls.symm⟩

/-- The metadata a serializer accepts, apart from the totals. -/
structure OwnMetadata (s : ReplayArtifactSerializer C Snapshot) (m : ReplayArtifactMetadata) :
    Prop where
  version : m.artifactSchemaVersion = schemaVersion
  family : m.engineFamily = s.engineFamily
  command : m.commandPayloadSchemaVersion = s.commandSerializer.schemaVersion
  snapshot : m.snapshotPayloadSchemaVersion = s.snapshotSerializer.schemaVersion

/-- What an artifact has to satisfy to be written. -/
structure Valid (s : ReplayArtifactSerializer C Snapshot) (a : ReplayArtifact C Snapshot) :
    Prop where
  own : s.OwnMetadata a.metadata
  legal : LegalFrom a.metadata.baseSeed a.metadata.snapshotPolicy
    a.metadata.snapshotPayloadSchemaVersion 1 a.records
  writable : ∀ record ∈ a.records, s.Writable record

def out (s : ReplayArtifactSerializer C Snapshot) (a : ReplayArtifact C Snapshot) :
    CanonicalLineWriter :=
  headLines a.metadata ++ writeFrom s.recordOut 0 a.records

theorem encode_eq_ok' {a : ReplayArtifact C Snapshot} {b : Bytes} :
    s.encode a = .ok b ↔ s.Valid a ∧ b = CanonicalLineWriter.finish (s.out a) := by
  simp only [encode, bind_eq_ok, rejectIf_eq_ok, exists_const, pure_eq_ok, ne_eq, not_not,
    validateRecordSequence_eq_ok, encodeRecords_eq_ok]
  constructor
  · rintro ⟨h1, h2, h3, h4, h5, ls, ⟨h6, rfl⟩, hb⟩
    exact ⟨⟨⟨h1, h2, h3, h4⟩, h5, h6⟩, hb.symm⟩
  · rintro ⟨⟨⟨h1, h2, h3, h4⟩, h5, h6⟩, hb⟩
    exact ⟨h1, h2, h3, h4, h5, _, ⟨h6, rfl⟩, hb.symm⟩

theorem spells_replayPolicy :
    Spells plainScalar parseReplayPolicy SnapshotPolicy.canonicalString fun _ => True :=
  spells_snapshotPolicy _

theorem fields_codec (hn : depth ≤ n)
    (hcmd : CodecLaw s.commandSerializer.encode s.commandSerializer.decode (fun _ => True) depth)
    (hsnap : CodecLaw s.snapshotSerializer.encode s.snapshotSerializer.decode (fun _ => True)
      depth) :
    CodecOn (lineSpelling (plainSpelling n))
      (fun a => s.OwnMetadata a.metadata ∧ a.metadata.recordCount = a.records.length ∧
        (∀ record ∈ a.records, s.Writable record) ∧ a.Representable layout)
      (s.fields layout) s.out := by
  unfold out headLines
  refine codec_expect (by decide) (by decide) (by decide) ?_
  refine codec_expect (by decide) (by decide) (by decide) ?_
  refine codec_value .text (fun a : ReplayArtifact C Snapshot => a.metadata.artifactSchemaVersion)
    (by decide) (spells_orFail (spells_parseNumber spells_u32 _ _)) ?_
  intro version
  refine codec_check (fun a h => ?_) fun hversion => ?_
  · rw [orFail_eq_ok, rejectIf_eq_ok, not_not, ← h.2, h.1.1.version]
  refine codec_value .hex (fun a : ReplayArtifact C Snapshot => a.metadata.engineFamily) (by decide)
    (spells_orFail (spells_hexStringError _ _)) ?_
  intro family
  refine codec_check (fun a h => ?_) fun hfamily => ?_
  · rw [orFail_eq_ok, rejectIf_eq_ok, not_not, ← h.2, h.1.1.1.family]
  refine codec_value .text (fun a : ReplayArtifact C Snapshot => a.metadata.baseSeed) (by decide)
    (spells_orFail (spells_parseNumber spells_u64 _ _)) ?_
  intro baseSeed
  refine codec_value .text (fun a : ReplayArtifact C Snapshot => a.metadata.totalTicks) (by decide)
    (spells_orFail (spells_parseNumber spells_u64 _ _)) ?_
  intro totalTicks
  refine codec_value .text (fun a : ReplayArtifact C Snapshot => a.metadata.snapshotPolicy)
    (by decide) (spells_orFail spells_replayPolicy) ?_
  intro policy
  refine codec_value .text
    (fun a : ReplayArtifact C Snapshot => a.metadata.configIdentity.payloadSchemaVersion)
    (by decide) (spells_orFail (spells_parseNumber spells_u32 _ _)) ?_
  intro configVersion
  refine codec_value .text (fun a : ReplayArtifact C Snapshot => a.metadata.configIdentity.digest)
    (by decide) (spells_orFail (spells_parseNumber spells_u64 _ _)) ?_
  intro configDigest
  refine codec_value .text
    (fun a : ReplayArtifact C Snapshot => a.metadata.commandPayloadSchemaVersion) (by decide)
    (spells_orFail (spells_parseNumber spells_u32 _ _)) ?_
  intro commandVersion
  refine codec_check (fun a h => ?_) fun hcommand => ?_
  · rw [orFail_eq_ok, rejectIf_eq_ok, not_not, ← h.2, h.1.1.1.1.1.1.1.1.1.command]
  refine codec_value .text
    (fun a : ReplayArtifact C Snapshot => a.metadata.snapshotPayloadSchemaVersion) (by decide)
    (spells_orFail (spells_parseNumber spells_u32 _ _)) ?_
  intro snapshotVersion
  refine codec_check (fun a h => ?_) fun hsnapshot => ?_
  · rw [orFail_eq_ok, rejectIf_eq_ok, not_not, ← h.2, h.1.1.1.1.1.1.1.1.1.1.snapshot]
  refine codec_field .text (fun a : ReplayArtifact C Snapshot => a.metadata.recordCount)
    (by decide) (spells_orFail (spells_parseNumber spells_usize _ _))
    (fun _ h => h.1.1.1.1.1.1.1.1.1.2.2.2.count) ?_
  intro recordCount hcount
  refine codec_check (fun a h => ?_) fun hcap => ?_
  · rw [withCapacity_eq_ok, ← h.2, h.1.1.1.1.1.1.1.1.1.1.2.1]
    exact h.1.1.1.1.1.1.1.1.1.1.2.2.2.records.2
  refine codec_last (fun a : ReplayArtifact C Snapshot => a.records)
    (codec_forRange (s.recordFields_codec hn hcmd hsnap) 0 _) ?_ ?_
  · intro a h
    have ha := h.1.1.1.1.1.1.1.1.1.1
    exact ⟨ha.2.1.symm.trans h.2, fun r hr => ⟨ha.2.2.1 r hr, ha.2.2.2.each r hr⟩⟩
  intro records hrecords
  rw [orFail_eq_ok, rejectIf_eq_ok, not_not] at hversion hfamily hcommand hsnapshot
  rw [withCapacity_eq_ok] at hcap
  rintro ⟨⟨v, f, sd, tt, sp, ⟨cv, cd⟩, cpv, spv, rc⟩, rs⟩
  simp only [ReplayArtifact.mk.injEq, ReplayArtifactMetadata.mk.injEq, ConfigIdentity.mk.injEq,
    and_assoc]
  constructor
  · rintro ⟨-, -, -, -, rest⟩
    exact rest
  · rintro ⟨rfl, rfl, rfl, rfl, rfl, rfl, rfl, rfl, rfl, rfl, rfl⟩
    obtain ⟨hlen, hall⟩ := hrecords
    refine ⟨⟨hversion, hfamily, hcommand, hsnapshot⟩, hlen.symm, fun r hr => (hall r hr).1,
      ⟨?_, fun r hr => (hall r hr).2, hcount⟩, rfl, rfl, rfl, rfl, rfl, rfl, rfl, rfl, rfl, rfl,
      rfl⟩
    rw [Allocated, hlen]
    exact ⟨hcount, hcap⟩

theorem codec_law
    (hcmd : CodecLaw s.commandSerializer.encode s.commandSerializer.decode (fun _ => True) depth)
    (hsnap : CodecLaw s.snapshotSerializer.encode s.snapshotSerializer.decode (fun _ => True)
      depth) :
    CodecLaw s.encode (s.decode layout)
      (fun a => a.Representable layout ∧ TotalsMatch a) (depth + 1) := by
  refine codecLaw_of_fields (fun _ hn => @fields_codec _ _ s layout _ _ hn hcmd hsnap) label
    replayCorrupted s.Valid (fun a => LegalFrom a.metadata.baseSeed a.metadata.snapshotPolicy
      a.metadata.snapshotPayloadSchemaVersion 1 a.records ∧ TotalsMatch a) ?_ ?_ ?_ ?_
  · exact fun _ _ => encode_eq_ok'
  · intro bytes a
    rw [decode, checked_eq_ok, orFail_eq_ok, validateReplayArtifactShape_eq_ok]
  · intro a
    constructor
    · rintro ⟨⟨hown, -, hw, hr⟩, hlegal, htotals⟩
      exact ⟨⟨hown, hlegal, hw⟩, hr, htotals⟩
    · rintro ⟨⟨hown, hlegal, hw⟩, hr, htotals⟩
      exact ⟨⟨hown, htotals.recordCount, hw, hr⟩, hlegal, htotals⟩
  · exact fun _ => List.cons_ne_nil _ _

end Law

end ReplayArtifactSerializer

end XenorEngine.Rust
