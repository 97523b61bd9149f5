import XenorEngine.Rust.Serialization

/-!
# Config artifacts (config/mod.rs)
-/

namespace XenorEngine.Rust
open XenorEngine.Lib.ByteText XenorEngine.Lib.LineText XenorEngine.Lib.Fallible
open XenorEngine.Lib.PrefixReader XenorEngine.Lib.FieldCodec XenorEngine.Lib.Decimal
open Debug (debug)

def CONFIG_ARTIFACT_SCHEMA_VERSION : UInt32 := 1

structure ConfigIdentity where
  payloadSchemaVersion : UInt32
  digest : UInt64
  deriving DecidableEq, Repr

structure ConfigArtifactMetadata where
  artifactSchemaVersion : UInt32
  engineFamily : String
  identity : ConfigIdentity
  deriving DecidableEq, Repr

structure ConfigArtifact (Config : Type) where
  metadata : ConfigArtifactMetadata
  payload : Config
  deriving DecidableEq, Repr

instance : Debug ConfigIdentity where
  debug i := debugFields "ConfigIdentity"
    [("payload_schema_version", debug i.payloadSchemaVersion), ("digest", debug i.digest)]
instance : Debug ConfigArtifactMetadata where
  debug m := debugFields "ConfigArtifactMetadata"
    [("artifact_schema_version", debug m.artifactSchemaVersion),
      ("engine_family", debug m.engineFamily), ("identity", debug m.identity)]
instance {Config : Type} [Debug Config] : Debug (ConfigArtifact Config) where
  debug a := debugFields "ConfigArtifact" [("metadata", debug a.metadata),
    ("payload", debug a.payload)]

/-! ### Numbers in artifacts -/

/-- The `parse_*` helpers of the artifact modules: the error names artifact and field. -/
def parseNumber {α : Type} (fromStr : String → Except NumberFault α) (artifact field : String)
    (value : String) : Except EngineError α :=
  (fromStr value).mapError fun error =>
    .corruptedArtifact artifact s!"invalid {field} `{value}`: {parseIntErrorText error}"

theorem spells_parseNumber {α : Type} {fromStr : String → Except NumberFault α}
    {print : α → String} {dom : α → Prop} (h : Spells plainScalar fromStr print dom)
    (artifact field : String) :
    Spells plainScalar (parseNumber fromStr artifact field) print dom :=
  spells_congr h fun _ _ => mapError_eq_ok

theorem spells_hexStringError {ε : Type} (label : String) (wrap : CanonicalError → ε) :
    Spells plainHex (fun v => (decodeHexString v label).mapError wrap)
      (fun s => encodeHex (utf8 s)) fun _ => True :=
  spells_congr (spells_hexString label) fun _ _ => mapError_eq_ok

/-! ### The serializer -/

structure ConfigArtifactSerializer (Config : Type) where
  engineFamily : String
  payloadSerializer : Serializer Config

namespace ConfigArtifactSerializer

def schemaVersion : UInt32 := CONFIG_ARTIFACT_SCHEMA_VERSION

def configCorruptedCanonical (error : CanonicalError) : EngineError :=
  .corruptedArtifact "config" error.detail

def parseU32 (value : String) : Except EngineError UInt32 :=
  parseNumber fromStrU32 "config" "u32" value
def parseU64 (value : String) : Except EngineError UInt64 :=
  parseNumber fromStrU64 "config" "u64" value

variable {Config : Type} (s : ConfigArtifactSerializer Config)

def encodePayload (payload : Config) : Except EngineError Bytes :=
  (s.payloadSerializer.encode payload).mapError fun error =>
    .configDecode s!"failed to encode config payload: {error.text}"

def identity (payload : Config) : Except EngineError ConfigIdentity := do
  let payloadBytes ← s.encodePayload payload
  pure ⟨s.payloadSerializer.schemaVersion, canonicalDigest payloadBytes⟩

def buildArtifact (payload : Config) : Except EngineError (ConfigArtifact Config) := do
  let identity ← s.identity payload
  pure ⟨⟨CONFIG_ARTIFACT_SCHEMA_VERSION, s.engineFamily, identity⟩, payload⟩

def lines (value : ConfigArtifact Config) (payloadBytes : Bytes) : CanonicalLineWriter :=
  [("artifact", "config"),
   ("canonical_encoding", CANONICAL_TEXT_ENCODING),
   ("artifact_schema_version", toString value.metadata.artifactSchemaVersion),
   ("engine_family_hex", encodeHex (utf8 value.metadata.engineFamily)),
   ("config_payload_schema_version", toString value.metadata.identity.payloadSchemaVersion),
   ("config_digest", toString value.metadata.identity.digest),
   ("payload_hex", encodeHex payloadBytes)]

def encode (value : ConfigArtifact Config) : Except EngineError Bytes := do
  rejectIf (value.metadata.artifactSchemaVersion ≠ schemaVersion)
    (.unsupportedSchemaVersion "config artifact" schemaVersion
      value.metadata.artifactSchemaVersion)
  rejectIf (value.metadata.engineFamily ≠ s.engineFamily) (.configMismatch
    s!"config engine family mismatch: expected `{s.engineFamily}`, got `{value.metadata.engineFamily}`")
  rejectIf (value.metadata.identity.payloadSchemaVersion ≠ s.payloadSerializer.schemaVersion)
    (.unsupportedSchemaVersion "config payload" s.payloadSerializer.schemaVersion
      value.metadata.identity.payloadSchemaVersion)
  let payloadBytes ← s.encodePayload value.payload
  let payloadDigest := canonicalDigest payloadBytes
  rejectIf (payloadDigest ≠ value.metadata.identity.digest) (.configMismatch
    s!"config digest mismatch: metadata={value.metadata.identity.digest}, payload={payloadDigest}")
  pure (CanonicalLineWriter.finish (lines value payloadBytes))

def digest (artifact : ConfigArtifact Config) : Except EngineError UInt64 :=
  canonicalDigest <$> s.encode artifact

def label : String := "config artifact"

def decodePayload (payloadHex : String) : Except EngineError Config := do
  let payloadBytes ←
    (decodeHex payloadHex "config artifact payload").mapError configCorruptedCanonical
  (s.payloadSerializer.decode payloadBytes).mapError fun error => .configDecode error.text

def fields : Reader Line EngineError (ConfigArtifact Config) := do
  expectField configCorruptedCanonical label "artifact" "config"
  expectField configCorruptedCanonical label "canonical_encoding" CANONICAL_TEXT_ENCODING
  let artifactSchemaVersion ←
    readField configCorruptedCanonical label "artifact_schema_version" parseU32
  lift (rejectIf (artifactSchemaVersion ≠ schemaVersion)
    (EngineError.unsupportedSchemaVersion "config artifact" schemaVersion artifactSchemaVersion))
  let engineFamily ← readField configCorruptedCanonical label "engine_family_hex" fun v =>
    (decodeHexString v "config artifact engine family").mapError configCorruptedCanonical
  lift (rejectIf (engineFamily ≠ s.engineFamily) (EngineError.configDecode
    s!"engine family mismatch: expected `{s.engineFamily}`, got `{engineFamily}`"))
  let payloadSchemaVersion ←
    readField configCorruptedCanonical label "config_payload_schema_version" parseU32
  lift (rejectIf (payloadSchemaVersion ≠ s.payloadSerializer.schemaVersion)
    (EngineError.unsupportedSchemaVersion "config payload" s.payloadSerializer.schemaVersion
      payloadSchemaVersion))
  let digest ← readField configCorruptedCanonical label "config_digest" parseU64
  let payload ← readField configCorruptedCanonical label "payload_hex" s.decodePayload
  pure ⟨⟨artifactSchemaVersion, engineFamily, ⟨payloadSchemaVersion, digest⟩⟩, payload⟩

/-- The digest line is compared with the identity recomputed from the payload. -/
def decode (bytes : Bytes) : Except EngineError (ConfigArtifact Config) := do
  let artifact ← readAll bytes label configCorruptedCanonical s.fields
  let computedIdentity ← s.identity artifact.payload
  rejectIf (computedIdentity.digest ≠ artifact.metadata.identity.digest) (.configMismatch
    s!"config digest mismatch: metadata={artifact.metadata.identity.digest}, payload={computedIdentity.digest}")
  pure { artifact with metadata := { artifact.metadata with identity := computedIdentity } }

/-! ### The codec -/

/-- What an artifact has to satisfy to be written. -/
structure Valid (a : ConfigArtifact Config) : Prop where
  version : a.metadata.artifactSchemaVersion = schemaVersion
  family : a.metadata.engineFamily = s.engineFamily
  payloadVersion : a.metadata.identity.payloadSchemaVersion = s.payloadSerializer.schemaVersion
  payload : ∃ b, s.payloadSerializer.encode a.payload = .ok b
  digest : canonicalDigest (encoded s.payloadSerializer.encode a.payload) =
    a.metadata.identity.digest

variable {s}

theorem identity_eq_ok {payload : Config} {identity : ConfigIdentity} :
    s.identity payload = .ok identity ↔ (∃ b, s.payloadSerializer.encode payload = .ok b) ∧
      identity = ⟨s.payloadSerializer.schemaVersion,
        canonicalDigest (encoded s.payloadSerializer.encode payload)⟩ := by
  simp only [ConfigArtifactSerializer.identity, encodePayload, bind_eq_ok, mapError_eq_ok,
    pure_eq_ok, exists_encode]
  exact and_congr_right fun _ => eq_comm

theorem encode_eq_ok' {a : ConfigArtifact Config} {b : Bytes} :
    s.encode a = .ok b ↔ s.Valid a ∧ b =
      CanonicalLineWriter.finish (lines a (encoded s.payloadSerializer.encode a.payload)) := by
  simp only [encode, encodePayload, bind_eq_ok, rejectIf_eq_ok, exists_const, mapError_eq_ok,
    exists_encode, pure_eq_ok, ne_eq, not_not]
  constructor
  · rintro ⟨h1, h2, h3, h4, h5, rfl⟩
    exact ⟨⟨h1, h2, h3, h4, h5⟩, rfl⟩
  · rintro ⟨⟨h1, h2, h3, h4, h5⟩, rfl⟩
    exact ⟨h1, h2, h3, h4, h5, rfl⟩

theorem decode_eq_ok {a : ConfigArtifact Config} {b : Bytes} :
    s.decode b = .ok a ↔ readAll b label configCorruptedCanonical s.fields = .ok a ∧
      s.identity a.payload = .ok a.metadata.identity := by
  simp only [decode, bind_eq_ok, rejectIf_eq_ok, exists_const, pure_eq_ok, ne_eq, not_not]
  constructor
  · rintro ⟨r, hr, i, hi, hd, rfl⟩
    refine ⟨?_, hi⟩
    obtain ⟨ls, -, -, -, hreads⟩ := readAll_eq_ok.mp hr
    have hv : r.metadata.identity.payloadSchemaVersion = s.payloadSerializer.schemaVersion := by
      simp only [fields, bind_reads, expectField_reads, readField_reads, lift_reads,
        rejectIf_eq_ok, ne_eq, not_not, pure_reads] at hreads
      grind
    have hsame : i = r.metadata.identity := by
      have hi' := (identity_eq_ok.mp hi).2
      obtain ⟨⟨v, f, ⟨pv, dg⟩⟩, p⟩ := r
      obtain ⟨iv, id⟩ := i
      simp only [ConfigIdentity.mk.injEq] at hi' hv hd ⊢
      exact ⟨hi'.1.trans hv.symm, hd⟩
    rw [hsame]
    exact hr
  · rintro ⟨hr, hi⟩
    exact ⟨a, hr, _, hi, rfl, rfl⟩

theorem fields_codec {fits : Config → Prop} {depth n : ℕ}
    (h : CodecLaw s.payloadSerializer.encode s.payloadSerializer.decode fits depth)
    (hn : depth ≤ n) :
    CodecOn (lineSpelling (plainSpelling n))
      (fun a : ConfigArtifact Config => a.metadata.artifactSchemaVersion = schemaVersion ∧
        a.metadata.engineFamily = s.engineFamily ∧
        a.metadata.identity.payloadSchemaVersion = s.payloadSerializer.schemaVersion ∧
        (∃ b, s.payloadSerializer.encode a.payload = .ok b) ∧ fits a.payload)
      s.fields (fun a => lines a (encoded s.payloadSerializer.encode a.payload)) := by
  refine codec_expect (by decide) (by decide) (by decide) ?_
  refine codec_expect (by decide) (by decide) (by decide) ?_
  refine codec_value .text (fun a : ConfigArtifact Config => a.metadata.artifactSchemaVersion)
    (by decide) (spells_parseNumber spells_u32 _ _) ?_
  intro artifactSchemaVersion
  refine codec_check (fun a ha => ?_) fun hversion => ?_
  · rw [rejectIf_eq_ok, not_not, ← ha.2, ha.1.1]
  refine codec_value .hex (fun a : ConfigArtifact Config => a.metadata.engineFamily) (by decide)
    (spells_hexStringError _ _) ?_
  intro engineFamily
  refine codec_check (fun a ha => ?_) fun hfamily => ?_
  · rw [rejectIf_eq_ok, not_not, ← ha.2, ha.1.1.2.1]
  refine codec_value .text
    (fun a : ConfigArtifact Config => a.metadata.identity.payloadSchemaVersion) (by decide)
    (spells_parseNumber spells_u32 _ _) ?_
  intro payloadSchemaVersion
  refine codec_check (fun a ha => ?_) fun hpayload => ?_
  · rw [rejectIf_eq_ok, not_not, ← ha.2, ha.1.1.1.2.2.1]
  refine codec_value .text (fun a : ConfigArtifact Config => a.metadata.identity.digest) (by decide)
    (spells_parseNumber spells_u64 _ _) ?_
  intro digest
  refine codec_field .nested ConfigArtifact.payload (by decide)
    (spells_nested "config artifact payload" h hn ?_)
    (fun a ha => ha.1.1.1.1.2.2.2) ?_
  · intro v a
    simp only [decodePayload, bind_eq_ok, mapError_eq_ok]
  intro payload hpay
  refine codec_pure ?_
  rw [rejectIf_eq_ok, not_not] at hversion hfamily hpayload
  rintro ⟨⟨v, f, ⟨pv, dg⟩⟩, p⟩
  simp only [ConfigArtifact.mk.injEq, ConfigArtifactMetadata.mk.injEq, ConfigIdentity.mk.injEq]
  constructor
  · rintro ⟨⟨⟨⟨⟨-, rfl⟩, rfl⟩, rfl⟩, rfl⟩, rfl⟩
    exact ⟨⟨rfl, rfl, rfl, rfl⟩, rfl⟩
  · rintro ⟨⟨rfl, rfl, rfl, rfl⟩, rfl⟩
    exact ⟨⟨⟨⟨⟨⟨hversion, hfamily, hpayload, hpay⟩, rfl⟩, rfl⟩, rfl⟩, rfl⟩, rfl⟩

theorem codec_law {fits : Config → Prop} {depth : ℕ}
    (h : CodecLaw s.payloadSerializer.encode s.payloadSerializer.decode fits depth) :
    CodecLaw s.encode s.decode (fun a => fits a.payload) (depth + 1) := by
  refine codecLaw_of_fields (fun _ hn => fields_codec h hn) label configCorruptedCanonical s.Valid
    (fun a => s.identity a.payload = .ok a.metadata.identity) ?_ ?_ ?_ ?_
  · exact fun _ _ => encode_eq_ok'
  · exact fun _ _ => decode_eq_ok
  · intro a
    rw [identity_eq_ok]
    constructor
    · rintro ⟨⟨hv, hf, hp, he, hfits⟩, -, hi⟩
      exact ⟨⟨hv, hf, hp, he, by rw [hi]⟩, hfits⟩
    · rintro ⟨⟨hv, hf, hp, he, hd⟩, hfits⟩
      refine ⟨⟨hv, hf, hp, he, hfits⟩, he, ?_⟩
      rw [← hp, hd]
  · exact fun _ => List.cons_ne_nil _ _

end ConfigArtifactSerializer

end XenorEngine.Rust
