import XenorEngine.Rust.Config
import XenorEngine.Rust.Replay

/-!
# Snapshot artifacts (persistence/mod.rs)
-/

namespace XenorEngine.Rust
open XenorEngine.Lib.ByteText XenorEngine.Lib.LineText XenorEngine.Lib.Fallible
open XenorEngine.Lib.PrefixReader XenorEngine.Lib.FieldCodec XenorEngine.Lib.Decimal
open Debug (debug)

def SNAPSHOT_ARTIFACT_SCHEMA_VERSION : UInt32 := 2

structure SnapshotArtifactMetadata where
  artifactSchemaVersion : UInt32
  engineFamily : String
  baseSeed : Seed
  configIdentity : ConfigIdentity
  captureReason : SnapshotCaptureReason
  snapshot : SnapshotMetadata
  deriving DecidableEq, Repr

structure SnapshotArtifact (Snapshot : Type) where
  metadata : SnapshotArtifactMetadata
  payload : Snapshot
  deriving DecidableEq, Repr

/-! ### Capture reasons -/

def encodeSnapshotCaptureReason : SnapshotCaptureReason → String
  | .policyInterval interval => "policy_interval:" ++ toString interval
  | .manual => "manual"

def invalidCaptureReason (value : String) : EngineError :=
  .corruptedArtifact "replay" s!"invalid snapshot capture reason `{value}`"

def parseSnapshotCaptureReason (value : String) : Except EngineError SnapshotCaptureReason :=
  if value = "manual" then pure .manual
  else
    match splitOnce ':' value.toList with
    | none => throw (invalidCaptureReason value)
    | some (kind, rawInterval) => do
      rejectIf (String.ofList kind ≠ "policy_interval") (invalidCaptureReason value)
      let interval ← parseNumber fromStrU64 "replay" "snapshot capture reason interval"
        (String.ofList rawInterval)
      pure (.policyInterval interval)

theorem parseSnapshotCaptureReason_eq_ok {value : String} {reason : SnapshotCaptureReason} :
    parseSnapshotCaptureReason value = .ok reason ↔
      (value = "manual" ∧ reason = .manual) ∨
        ∃ text interval, value = "policy_interval" ++ ":" ++ text ∧
          fromStrU64 text = .ok interval ∧ reason = .policyInterval interval := by
  unfold parseSnapshotCaptureReason
  split
  · rename_i hm
    subst hm
    simp only [pure_eq_ok, true_and]
    constructor
    · rintro rfl
      exact .inl rfl
    · rintro (rfl | ⟨text, interval, hv, -, -⟩)
      · rfl
      · have hl := congrArg (fun s : String => s.toList.head?) hv
        simp only [String.toList_append] at hl
        change some 'm' = some 'p' at hl
        exact absurd hl (by decide)
  · rename_i hm
    cases hs : splitOnce ':' value.toList with
    | none =>
      simp only [throw_ne_ok, false_iff, hm, false_and, false_or]
      rintro ⟨text, interval, rfl, -, -⟩
      have hcolon : ("policy_interval" ++ ":" ++ text).toList =
          "policy_interval".toList ++ ':' :: text.toList := by
        rw [String.toList_append, String.toList_append, List.append_assoc]
        rfl
      rw [hcolon, splitOnce_append _ _ (by decide)] at hs
      cases hs
    | some p =>
      obtain ⟨kind, raw⟩ := p
      obtain ⟨hv, -⟩ := splitOnce_some hs
      simp only [bind_eq_ok, rejectIf_eq_ok, ne_eq, not_not, exists_const, parseNumber,
        mapError_eq_ok, pure_eq_ok, hm, false_and, false_or]
      constructor
      · rintro ⟨hk, interval, hi, rfl⟩
        refine ⟨String.ofList raw, interval, ?_, hi, rfl⟩
        rw [← hk]
        apply String.toList_inj.mp
        rw [hv]
        simp
      · rintro ⟨text, interval, rfl, hi, rfl⟩
        have hcolon : ("policy_interval" ++ ":" ++ text).toList =
            "policy_interval".toList ++ ':' :: text.toList := by
          rw [String.toList_append, String.toList_append, List.append_assoc]
          rfl
        rw [hcolon, splitOnce_append _ _ (by decide)] at hs
        simp only [Option.some.injEq, Prod.mk.injEq] at hs
        obtain ⟨rfl, rfl⟩ := hs
        rw [String.ofList_toList, String.ofList_toList]
        exact ⟨rfl, interval, hi, rfl⟩

theorem spells_captureReason :
    Spells plainScalar parseSnapshotCaptureReason encodeSnapshotCaptureReason fun _ => True where
  parse_print reason _ := by
    rw [parseSnapshotCaptureReason_eq_ok]
    cases reason with
    | manual => exact .inl ⟨rfl, rfl⟩
    | policyInterval interval =>
      exact .inr ⟨toString interval, interval, rfl, fromStrU64_toString interval, rfl⟩
  clean reason _ := by
    cases reason with
    | manual => decide
    | policyInterval interval => exact cleanText_append (by decide) (cleanText_u64 interval)
  sound v reason h := by
    refine ⟨trivial, ?_⟩
    rcases parseSnapshotCaptureReason_eq_ok.mp h with ⟨rfl, rfl⟩ | ⟨text, interval, rfl, hi, rfl⟩
    · decide
    · exact interval_plain "policy_interval" (by decide) (fun _ => rfl) hi

/-! ### The serializer -/

def snapshotCorruptedCanonical (error : CanonicalError) : EngineError :=
  .corruptedArtifact "snapshot" error.detail

namespace SnapshotArtifact
variable {Snapshot : Type} (engineFamily : String) (payloadSerializer : Serializer Snapshot)
  (artifactSchemaVersion : UInt32)

def lines (value : SnapshotArtifact Snapshot) (payload : Bytes) : CanonicalLineWriter :=
  [("artifact", "snapshot"),
   ("canonical_encoding", CANONICAL_TEXT_ENCODING),
   ("artifact_schema_version", toString value.metadata.artifactSchemaVersion),
   ("engine_family_hex", encodeHex (utf8 value.metadata.engineFamily)),
   ("base_seed", toString value.metadata.baseSeed),
   ("config_payload_schema_version",
     toString value.metadata.configIdentity.payloadSchemaVersion),
   ("config_digest", toString value.metadata.configIdentity.digest),
   ("capture_reason", encodeSnapshotCaptureReason value.metadata.captureReason),
   ("snapshot_payload_schema_version", toString value.metadata.snapshot.payloadSchemaVersion),
   ("source_tick", toString value.metadata.snapshot.sourceTick),
   ("capture_checksum", toString value.metadata.snapshot.captureChecksum),
   ("payload_hex", encodeHex payload)]

def encodeSnapshotArtifactBytes (value : SnapshotArtifact Snapshot) : Except EngineError Bytes := do
  rejectIf (value.metadata.artifactSchemaVersion ≠ artifactSchemaVersion)
    (.unsupportedSchemaVersion "snapshot artifact" artifactSchemaVersion
      value.metadata.artifactSchemaVersion)
  rejectIf (value.metadata.engineFamily ≠ engineFamily) (.snapshotMetadataMismatch
    s!"engine family mismatch: expected `{engineFamily}`, got `{value.metadata.engineFamily}`")
  rejectIf (value.metadata.snapshot.payloadSchemaVersion ≠ payloadSerializer.schemaVersion)
    (.unsupportedSchemaVersion "snapshot payload" payloadSerializer.schemaVersion
      value.metadata.snapshot.payloadSchemaVersion)
  let payload ← (payloadSerializer.encode value.payload).mapError fun error =>
    .snapshotSerialization value.metadata.snapshot.sourceTick error.text
  pure (CanonicalLineWriter.finish (lines value payload))

def label : String := "snapshot artifact"

def decodePayload (payloadHex : String) : Except EngineError Snapshot := do
  let payloadBytes ←
    (decodeHex payloadHex "snapshot artifact payload").mapError snapshotCorruptedCanonical
  (payloadSerializer.decode payloadBytes).mapError fun error => .snapshotDecode error.text

def fields : Reader Line EngineError (SnapshotArtifact Snapshot) := do
  expectField snapshotCorruptedCanonical label "artifact" "snapshot"
  expectField snapshotCorruptedCanonical label "canonical_encoding" CANONICAL_TEXT_ENCODING
  let decodedArtifactSchemaVersion ← readField snapshotCorruptedCanonical label
    "artifact_schema_version" (parseNumber fromStrU32 "snapshot" "artifact schema version")
  lift (rejectIf (decodedArtifactSchemaVersion ≠ artifactSchemaVersion)
    (EngineError.unsupportedSchemaVersion "snapshot artifact" artifactSchemaVersion
      decodedArtifactSchemaVersion))
  let decodedEngineFamily ← readField snapshotCorruptedCanonical label "engine_family_hex"
    fun v => (decodeHexString v "snapshot artifact engine family").mapError snapshotCorruptedCanonical
  lift (rejectIf (decodedEngineFamily ≠ engineFamily) (EngineError.snapshotDecode
    s!"engine family mismatch: expected `{engineFamily}`, got `{decodedEngineFamily}`"))
  let baseSeed ← readField snapshotCorruptedCanonical label "base_seed"
    (parseNumber fromStrU64 "snapshot" "base seed")
  let configPayloadSchemaVersion ← readField snapshotCorruptedCanonical label
    "config_payload_schema_version"
    (parseNumber fromStrU32 "snapshot" "config payload schema version")
  let configDigest ← readField snapshotCorruptedCanonical label "config_digest"
    (parseNumber fromStrU64 "snapshot" "config digest")
  let captureReason ← readField snapshotCorruptedCanonical label "capture_reason"
    parseSnapshotCaptureReason
  let payloadSchemaVersion ← readField snapshotCorruptedCanonical label
    "snapshot_payload_schema_version"
    (parseNumber fromStrU32 "snapshot" "snapshot payload schema version")
  lift (rejectIf (payloadSchemaVersion ≠ payloadSerializer.schemaVersion)
    (EngineError.unsupportedSchemaVersion "snapshot payload" payloadSerializer.schemaVersion
      payloadSchemaVersion))
  let sourceTick ← readField snapshotCorruptedCanonical label "source_tick"
    (parseNumber fromStrU64 "snapshot" "source tick")
  let captureChecksum ← readField snapshotCorruptedCanonical label "capture_checksum"
    (parseNumber fromStrU64 "snapshot" "capture checksum")
  let payload ← readField snapshotCorruptedCanonical label "payload_hex"
    (decodePayload payloadSerializer)
  pure ⟨⟨decodedArtifactSchemaVersion, decodedEngineFamily, baseSeed,
    ⟨configPayloadSchemaVersion, configDigest⟩, captureReason,
    ⟨payloadSchemaVersion, sourceTick, captureChecksum⟩⟩, payload⟩

def decodeSnapshotArtifactBytes (bytes : Bytes) : Except EngineError (SnapshotArtifact Snapshot) :=
  readAll bytes label snapshotCorruptedCanonical
    (fields engineFamily payloadSerializer artifactSchemaVersion)

/-- What an artifact has to satisfy to be written. -/
structure Valid (a : SnapshotArtifact Snapshot) : Prop where
  version : a.metadata.artifactSchemaVersion = artifactSchemaVersion
  family : a.metadata.engineFamily = engineFamily
  payloadVersion : a.metadata.snapshot.payloadSchemaVersion = payloadSerializer.schemaVersion
  payload : ∃ b, payloadSerializer.encode a.payload = .ok b

variable {engineFamily payloadSerializer artifactSchemaVersion}

theorem encodeSnapshotArtifactBytes_eq_ok {a : SnapshotArtifact Snapshot} {b : Bytes} :
    encodeSnapshotArtifactBytes engineFamily payloadSerializer artifactSchemaVersion a = .ok b ↔
      Valid engineFamily payloadSerializer artifactSchemaVersion a ∧ b =
        CanonicalLineWriter.finish (lines a (encoded payloadSerializer.encode a.payload)) := by
  simp only [encodeSnapshotArtifactBytes, bind_eq_ok, rejectIf_eq_ok, exists_const,
    mapError_eq_ok, exists_encode, pure_eq_ok, ne_eq, not_not]
  constructor
  · rintro ⟨h1, h2, h3, h4, h5⟩
    exact ⟨⟨h1, h2, h3, h4⟩, h5.symm⟩
  · rintro ⟨⟨h1, h2, h3, h4⟩, h5⟩
    exact ⟨h1, h2, h3, h4, h5.symm⟩

variable (engineFamily artifactSchemaVersion) in
theorem fields_codec {fits : Snapshot → Prop} {depth n : ℕ}
    (h : CodecLaw payloadSerializer.encode payloadSerializer.decode fits depth) (hn : depth ≤ n) :
    CodecOn (lineSpelling (plainSpelling n))
      (fun a : SnapshotArtifact Snapshot => a.metadata.artifactSchemaVersion =
          artifactSchemaVersion ∧ a.metadata.engineFamily = engineFamily ∧
        a.metadata.snapshot.payloadSchemaVersion = payloadSerializer.schemaVersion ∧
        (∃ b, payloadSerializer.encode a.payload = .ok b) ∧ fits a.payload)
      (fields engineFamily payloadSerializer artifactSchemaVersion)
      (fun a => lines a (encoded payloadSerializer.encode a.payload)) := by
  refine codec_expect (by decide) (by decide) (by decide) ?_
  refine codec_expect (by decide) (by decide) (by decide) ?_
  refine codec_value .text (fun a : SnapshotArtifact Snapshot => a.metadata.artifactSchemaVersion)
    (by decide) (spells_parseNumber spells_u32 _ _) ?_
  intro version
  refine codec_check (fun a ha => ?_) fun hversion => ?_
  · rw [rejectIf_eq_ok, not_not, ← ha.2, ha.1.1]
  refine codec_value .hex (fun a : SnapshotArtifact Snapshot => a.metadata.engineFamily) (by decide)
    (spells_hexStringError _ _) ?_
  intro family
  refine codec_check (fun a ha => ?_) fun hfamily => ?_
  · rw [rejectIf_eq_ok, not_not, ← ha.2, ha.1.1.2.1]
  refine codec_value .text (fun a : SnapshotArtifact Snapshot => a.metadata.baseSeed) (by decide)
    (spells_parseNumber spells_u64 _ _) ?_
  intro baseSeed
  refine codec_value .text
    (fun a : SnapshotArtifact Snapshot => a.metadata.configIdentity.payloadSchemaVersion)
    (by decide) (spells_parseNumber spells_u32 _ _) ?_
  intro configVersion
  refine codec_value .text (fun a : SnapshotArtifact Snapshot => a.metadata.configIdentity.digest)
    (by decide) (spells_parseNumber spells_u64 _ _) ?_
  intro configDigest
  refine codec_value .text (fun a : SnapshotArtifact Snapshot => a.metadata.captureReason)
    (by decide) spells_captureReason ?_
  intro reason
  refine codec_value .text
    (fun a : SnapshotArtifact Snapshot => a.metadata.snapshot.payloadSchemaVersion) (by decide)
    (spells_parseNumber spells_u32 _ _) ?_
  intro payloadVersion
  refine codec_check (fun a ha => ?_) fun hpayload => ?_
  · rw [rejectIf_eq_ok, not_not, ← ha.2, ha.1.1.1.1.1.1.1.2.2.1]
  refine codec_value .text (fun a : SnapshotArtifact Snapshot => a.metadata.snapshot.sourceTick)
    (by decide) (spells_parseNumber spells_u64 _ _) ?_
  intro sourceTick
  refine codec_value .text
    (fun a : SnapshotArtifact Snapshot => a.metadata.snapshot.captureChecksum) (by decide)
    (spells_parseNumber spells_u64 _ _) ?_
  intro checksum
  refine codec_field .nested SnapshotArtifact.payload (by decide)
    (spells_nested "snapshot artifact payload" h hn ?_)
    (fun a ha => ha.1.1.1.1.1.1.1.1.1.2.2.2) ?_
  · intro v a
    simp only [decodePayload, bind_eq_ok, mapError_eq_ok]
  intro payload hpay
  refine codec_pure ?_
  rw [rejectIf_eq_ok, not_not] at hversion hfamily hpayload
  rintro ⟨⟨v, f, s, ⟨cv, cd⟩, r, ⟨pv, st, cs⟩⟩, p⟩
  simp only [SnapshotArtifact.mk.injEq, SnapshotArtifactMetadata.mk.injEq,
    ConfigIdentity.mk.injEq, SnapshotMetadata.mk.injEq, and_assoc]
  constructor
  · rintro ⟨-, -, -, -, -, rest⟩
    exact rest
  · rintro ⟨rfl, rfl, rfl, rfl, rfl, rfl, rfl, rfl, rfl, rfl⟩
    exact ⟨hversion, hfamily, hpayload, hpay.1, hpay.2, rfl, rfl, rfl, rfl, rfl, rfl, rfl, rfl,
      rfl, rfl⟩

theorem codec_law {fits : Snapshot → Prop} {depth : ℕ}
    (h : CodecLaw payloadSerializer.encode payloadSerializer.decode fits depth) :
    CodecLaw (encodeSnapshotArtifactBytes engineFamily payloadSerializer artifactSchemaVersion)
      (decodeSnapshotArtifactBytes engineFamily payloadSerializer artifactSchemaVersion)
      (fun a => fits a.payload) (depth + 1) := by
  refine codecLaw_of_fields
    (fun _ hn => fields_codec engineFamily artifactSchemaVersion h hn) label
    snapshotCorruptedCanonical
    (Valid engineFamily payloadSerializer artifactSchemaVersion) (fun _ => True) ?_ ?_ ?_ ?_
  · exact fun _ _ => encodeSnapshotArtifactBytes_eq_ok
  · intro bytes a
    rw [decodeSnapshotArtifactBytes, and_true]
  · intro a
    constructor
    · rintro ⟨⟨hv, hf, hp, he, hfits⟩, -⟩
      exact ⟨⟨hv, hf, hp, he⟩, hfits⟩
    · rintro ⟨⟨hv, hf, hp, he⟩, hfits⟩
      exact ⟨⟨hv, hf, hp, he, hfits⟩, trivial⟩
  · exact fun _ => List.cons_ne_nil _ _

end SnapshotArtifact

structure SnapshotArtifactSerializer (Snapshot : Type) where
  engineFamily : String
  payloadSerializer : Serializer Snapshot

namespace SnapshotArtifactSerializer
variable {Snapshot : Type} (s : SnapshotArtifactSerializer Snapshot)

def schemaVersion : UInt32 := SNAPSHOT_ARTIFACT_SCHEMA_VERSION

def buildArtifact (baseSeed : Seed) (configIdentity : ConfigIdentity)
    (record : SnapshotRecord Snapshot) : SnapshotArtifact Snapshot :=
  ⟨⟨SNAPSHOT_ARTIFACT_SCHEMA_VERSION, s.engineFamily, baseSeed, configIdentity, record.reason,
    record.metadata⟩, record.payload⟩

def encode (value : SnapshotArtifact Snapshot) : Except EngineError Bytes :=
  SnapshotArtifact.encodeSnapshotArtifactBytes s.engineFamily s.payloadSerializer schemaVersion
    value

def decode (bytes : Bytes) : Except EngineError (SnapshotArtifact Snapshot) :=
  SnapshotArtifact.decodeSnapshotArtifactBytes s.engineFamily s.payloadSerializer schemaVersion
    bytes

def digest (artifact : SnapshotArtifact Snapshot) : Except EngineError UInt64 :=
  canonicalDigest <$> s.encode artifact

def payloadDigest (payload : Snapshot) : Except EngineError UInt64 := do
  let bytes ← (s.payloadSerializer.encode payload).mapError fun error =>
    .snapshotDecode s!"failed to digest snapshot payload: {error.text}"
  pure (canonicalDigest bytes)

end SnapshotArtifactSerializer

end XenorEngine.Rust
