import XenorEngine.Rust.Persistence

/-!
# Artifact summaries (parity/mod.rs)

Comparing two summaries, and the lines scenarios and fixtures carry them in.
-/

namespace XenorEngine.Rust
open XenorEngine.Lib.ByteText XenorEngine.Lib.LineText XenorEngine.Lib.Fallible
open XenorEngine.Lib.PrefixReader XenorEngine.Lib.FieldCodec XenorEngine.Lib.Decimal
open Debug (debug)

/-- Both have the fields of `ArtifactSummary`, and the `From` impls copy every one. -/
abbrev ParityArtifactSummary := ArtifactSummary
abbrev GoldenFixtureSummary := ArtifactSummary

inductive ParityMismatch
  | baseSeed (expected actual : Seed)
  | finalTick (expected actual : Tick)
  | finalChecksum (expected actual : UInt64)
  | configSchemaVersion (expected actual : UInt32)
  | configDigest (expected actual : UInt64)
  | replayDigest (expected actual : UInt64)
  | snapshotDigest (expected actual : Option UInt64)
  | scenarioDigest (expected actual : Option UInt64)
  deriving DecidableEq, Repr

def ParityMismatch.display : ParityMismatch → String
  | .baseSeed expected actual => s!"base seed mismatch: expected {expected}, got {actual}"
  | .finalTick expected actual => s!"final tick mismatch: expected {expected}, got {actual}"
  | .finalChecksum expected actual =>
    s!"final checksum mismatch: expected {expected}, got {actual}"
  | .configSchemaVersion expected actual =>
    s!"config schema version mismatch: expected {expected}, got {actual}"
  | .configDigest expected actual => s!"config digest mismatch: expected {expected}, got {actual}"
  | .replayDigest expected actual => s!"replay digest mismatch: expected {expected}, got {actual}"
  | .snapshotDigest expected actual =>
    s!"snapshot digest mismatch: expected {debug expected}, got {debug actual}"
  | .scenarioDigest expected actual =>
    s!"scenario digest mismatch: expected {debug expected}, got {debug actual}"

structure ParityComparison where
  expected : ParityArtifactSummary
  actual : ParityArtifactSummary
  mismatches : List ParityMismatch
  deriving DecidableEq, Repr

namespace ParityComparison

def isMatch (c : ParityComparison) : Bool := c.mismatches.isEmpty
def firstMismatch (c : ParityComparison) : Option ParityMismatch := c.mismatches.head?

def display (c : ParityComparison) : String :=
  if c.mismatches.isEmpty then
    s!"parity match at final tick {c.actual.finalTick} with replay digest {c.actual.replayDigest}"
  else "parity mismatch: " ++ "; ".intercalate (c.mismatches.map (·.display))

end ParityComparison

def mismatchOf {α : Type} [DecidableEq α] (mismatch : α → α → ParityMismatch)
    (expected actual : α) : List ParityMismatch :=
  if expected ≠ actual then [mismatch expected actual] else []

def compareParitySummaries (expected actual : ParityArtifactSummary) : ParityComparison :=
  ⟨expected, actual,
    mismatchOf .baseSeed expected.baseSeed actual.baseSeed ++
    mismatchOf .finalTick expected.finalTick actual.finalTick ++
    mismatchOf .finalChecksum expected.finalChecksum actual.finalChecksum ++
    mismatchOf .configSchemaVersion expected.configPayloadSchemaVersion
      actual.configPayloadSchemaVersion ++
    mismatchOf .configDigest expected.configDigest actual.configDigest ++
    mismatchOf .replayDigest expected.replayDigest actual.replayDigest ++
    mismatchOf .snapshotDigest expected.snapshotDigest actual.snapshotDigest ++
    mismatchOf .scenarioDigest expected.scenarioDigest actual.scenarioDigest⟩

/-- The fields that are compared. -/
structure SameParity (expected actual : ParityArtifactSummary) : Prop where
  baseSeed : expected.baseSeed = actual.baseSeed
  finalTick : expected.finalTick = actual.finalTick
  finalChecksum : expected.finalChecksum = actual.finalChecksum
  configSchemaVersion : expected.configPayloadSchemaVersion = actual.configPayloadSchemaVersion
  configDigest : expected.configDigest = actual.configDigest
  replayDigest : expected.replayDigest = actual.replayDigest
  snapshotDigest : expected.snapshotDigest = actual.snapshotDigest
  scenarioDigest : expected.scenarioDigest = actual.scenarioDigest

theorem sameParity_refl (summary : ParityArtifactSummary) : SameParity summary summary :=
  ⟨rfl, rfl, rfl, rfl, rfl, rfl, rfl, rfl⟩

theorem sameParity_symm {a b : ParityArtifactSummary} (h : SameParity a b) : SameParity b a :=
  ⟨h.1.symm, h.2.symm, h.3.symm, h.4.symm, h.5.symm, h.6.symm, h.7.symm, h.8.symm⟩

theorem sameParity_trans {a b c : ParityArtifactSummary} (h : SameParity a b)
    (h' : SameParity b c) : SameParity a c :=
  ⟨h.1.trans h'.1, h.2.trans h'.2, h.3.trans h'.3, h.4.trans h'.4, h.5.trans h'.5,
    h.6.trans h'.6, h.7.trans h'.7, h.8.trans h'.8⟩

theorem mismatchOf_eq_nil {α : Type} [DecidableEq α] {mismatch : α → α → ParityMismatch}
    {expected actual : α} : mismatchOf mismatch expected actual = [] ↔ expected = actual := by
  unfold mismatchOf
  split
  · rename_i h
    exact ⟨fun hnil => absurd hnil (List.cons_ne_nil _ _), fun he => absurd he h⟩
  · rename_i h
    exact ⟨fun _ => not_not.mp h, fun _ => rfl⟩

theorem compareParitySummaries_isMatch {expected actual : ParityArtifactSummary} :
    (compareParitySummaries expected actual).isMatch = true ↔ SameParity expected actual := by
  simp only [ParityComparison.isMatch, compareParitySummaries, List.isEmpty_iff,
    List.append_eq_nil_iff, mismatchOf_eq_nil, and_assoc]
  constructor
  · rintro ⟨h1, h2, h3, h4, h5, h6, h7, h8⟩
    exact ⟨h1, h2, h3, h4, h5, h6, h7, h8⟩
  · rintro ⟨h1, h2, h3, h4, h5, h6, h7, h8⟩
    exact ⟨h1, h2, h3, h4, h5, h6, h7, h8⟩

theorem firstMismatch_eq_none {c : ParityComparison} :
    c.firstMismatch = none ↔ c.isMatch = true := by
  rw [ParityComparison.firstMismatch, ParityComparison.isMatch, List.head?_eq_none_iff,
    List.isEmpty_iff]

/- The error type of a decoder does not matter. -/
theorem CodecLaw.orFail {T : Type} {encode : T → Except EngineError Bytes}
    {decode : Bytes → Except EngineError T} {fits : T → Prop} {depth : ℕ}
    (h : CodecLaw encode decode fits depth) :
    CodecLaw encode (fun bytes => Rust.orFail (decode bytes)) fits depth where
  roundTrip he hf := ReplayArtifactSerializer.orFail_eq_ok.mpr (h.roundTrip he hf)
  sound hd := h.sound (ReplayArtifactSerializer.orFail_eq_ok.mp hd)

/-! ### Lines of a summary

`encode_parity_summary` and `encode_fixture_summary` differ in the prefix of the keys, their
readers also in the texts of the errors. -/

def summaryDigestLines (key : String) (digest : UInt64) : CanonicalLineWriter :=
  [(key, toString digest)]

def summaryLines (pre : String) (summary : ArtifactSummary) : CanonicalLineWriter :=
  [(s!"{pre}.engine_family_hex", encodeHex (utf8 summary.engineFamily)),
   (s!"{pre}.base_seed", toString summary.baseSeed),
   (s!"{pre}.final_tick", toString summary.finalTick),
   (s!"{pre}.final_checksum", toString summary.finalChecksum),
   (s!"{pre}.config_payload_schema_version", toString summary.configPayloadSchemaVersion),
   (s!"{pre}.config_digest", toString summary.configDigest),
   (s!"{pre}.replay_artifact_schema_version", toString summary.replayArtifactSchemaVersion),
   (s!"{pre}.snapshot_artifact_schema_version",
     toString summary.snapshotArtifactSchemaVersion),
   (s!"{pre}.command_payload_schema_version", toString summary.commandPayloadSchemaVersion),
   (s!"{pre}.snapshot_payload_schema_version", toString summary.snapshotPayloadSchemaVersion),
   (s!"{pre}.replay_digest", toString summary.replayDigest),
   (s!"{pre}.snapshot_digest.present", encodeBool summary.snapshotDigest.isSome)]
  ++ (writeOption (summaryDigestLines s!"{pre}.snapshot_digest") summary.snapshotDigest
  ++ ((s!"{pre}.scenario_digest.present", encodeBool summary.scenarioDigest.isSome) ::
  writeOption (summaryDigestLines s!"{pre}.scenario_digest") summary.scenarioDigest))

/-- The artifact being read: its name in errors, and its label in errors of the line layer. -/
structure Reading where
  artifact : String
  label : String

namespace Reading
variable (r : Reading)

def corrupted (error : CanonicalError) : Failure := .error (.corruptedArtifact r.artifact error.detail)

def readValue {α : Type} (key : String) (parse : String → Except EngineError α) :
    Reader Line Failure α := readField r.corrupted r.label key fun v => orFail (parse v)

def expectValue (key expected : String) : Reader Line Failure Unit :=
  expectField r.corrupted r.label key expected

/-- A field that carries the bytes of another format. -/
def readNested {α : Type} (key hexLabel : String) (decode : Bytes → Outcome α) :
    Reader Line Failure α :=
  readField r.corrupted r.label key fun hex => do
    let bytes ← (decodeHex hex hexLabel).mapError r.corrupted
    decode bytes

def parseBool (value : String) : Except EngineError Bool :=
  okOr (boolOf value) (.corruptedArtifact r.artifact s!"invalid bool `{value}`")
def parseU32 (value : String) : Except EngineError UInt32 :=
  parseNumber fromStrU32 r.artifact "u32" value
def parseU64 (value : String) : Except EngineError UInt64 :=
  parseNumber fromStrU64 r.artifact "u64" value
def parseUsize (value : String) : Except EngineError ℕ :=
  parseNumber fromStrUsize r.artifact "usize" value

def summaryFields (familyLabel pre : String) : Reader Line Failure ArtifactSummary := do
  let engineFamily ← r.readValue s!"{pre}.engine_family_hex" fun v =>
    (decodeHexString v familyLabel).mapError fun error =>
      .corruptedArtifact r.artifact error.detail
  let baseSeed ← r.readValue s!"{pre}.base_seed" r.parseU64
  let finalTick ← r.readValue s!"{pre}.final_tick" r.parseU64
  let finalChecksum ← r.readValue s!"{pre}.final_checksum" r.parseU64
  let configPayloadSchemaVersion ←
    r.readValue s!"{pre}.config_payload_schema_version" r.parseU32
  let configDigest ← r.readValue s!"{pre}.config_digest" r.parseU64
  let replayArtifactSchemaVersion ←
    r.readValue s!"{pre}.replay_artifact_schema_version" r.parseU32
  let snapshotArtifactSchemaVersion ←
    r.readValue s!"{pre}.snapshot_artifact_schema_version" r.parseU32
  let commandPayloadSchemaVersion ←
    r.readValue s!"{pre}.command_payload_schema_version" r.parseU32
  let snapshotPayloadSchemaVersion ←
    r.readValue s!"{pre}.snapshot_payload_schema_version" r.parseU32
  let replayDigest ← r.readValue s!"{pre}.replay_digest" r.parseU64
  let snapshotPresent ← r.readValue s!"{pre}.snapshot_digest.present" r.parseBool
  let snapshotDigest ←
    optionally snapshotPresent (r.readValue s!"{pre}.snapshot_digest" r.parseU64)
  let scenarioPresent ← r.readValue s!"{pre}.scenario_digest.present" r.parseBool
  let scenarioDigest ←
    optionally scenarioPresent (r.readValue s!"{pre}.scenario_digest" r.parseU64)
  pure ⟨engineFamily, baseSeed, finalTick, finalChecksum, configPayloadSchemaVersion,
    configDigest, replayArtifactSchemaVersion, snapshotArtifactSchemaVersion,
    commandPayloadSchemaVersion, snapshotPayloadSchemaVersion, replayDigest, snapshotDigest,
    scenarioDigest⟩

variable {r}

theorem spells_u32 : Spells plainScalar (fun v => orFail (r.parseU32 v)) toString fun _ => True :=
  ReplayArtifactSerializer.spells_orFail (spells_parseNumber Rust.spells_u32 _ _)

theorem spells_u64 : Spells plainScalar (fun v => orFail (r.parseU64 v)) toString fun _ => True :=
  ReplayArtifactSerializer.spells_orFail (spells_parseNumber Rust.spells_u64 _ _)

theorem spells_usize :
    Spells plainScalar (fun v => orFail (r.parseUsize v)) toString fun n => n ≤ USIZE_MAX :=
  ReplayArtifactSerializer.spells_orFail (spells_parseNumber Rust.spells_usize _ _)

theorem spells_bool :
    Spells plainScalar (fun v => orFail (r.parseBool v)) encodeBool fun _ => True :=
  ReplayArtifactSerializer.spells_orFail (Rust.spells_bool _)

theorem readNested_codec {α : Type} {encode : α → Except EngineError Bytes}
    {decode : Bytes → Outcome α} {fits : α → Prop} {depth n : ℕ} {key : String}
    (hk : GoodKey .nested key) (hexLabel : String) (h : CodecLaw encode decode fits depth)
    (hn : depth ≤ n) :
    CodecOn (lineSpelling (plainSpelling n)) (fun a => (∃ b, encode a = .ok b) ∧ fits a)
      (r.readNested key hexLabel decode) (fun a => [(key, encodeHex (encoded encode a))]) := by
  refine readField_codec hk (spells_nested hexLabel h hn ?_)
  intro v a
  simp only [bind_eq_ok, mapError_eq_ok]

theorem summaryFields_codec (nested : Bytes → Bool) (familyLabel : String) {pre : String}
    (hpre : CleanText pre) :
    CodecOn (lineSpelling nested) (fun _ => True) (r.summaryFields familyLabel pre)
      (summaryLines pre) := by
  have hdigest : ∀ key : String, GoodKey .text key → CodecOn (lineSpelling nested)
      (fun _ => True) (r.readValue key r.parseU64) (summaryDigestLines key) :=
    fun key hkey => readField_codec hkey spells_u64
  unfold summaryLines
  refine codec_value .hex ArtifactSummary.engineFamily (goodKey_append hpre (by decide) (by decide))
    (ReplayArtifactSerializer.spells_orFail (spells_hexStringError _ _)) ?_
  intro engineFamily
  refine codec_value .text ArtifactSummary.baseSeed (goodKey_append hpre (by decide) (by decide))
    spells_u64 ?_
  intro baseSeed
  refine codec_value .text ArtifactSummary.finalTick (goodKey_append hpre (by decide) (by decide))
    spells_u64 ?_
  intro finalTick
  refine codec_value .text ArtifactSummary.finalChecksum
    (goodKey_append hpre (by decide) (by decide)) spells_u64 ?_
  intro finalChecksum
  refine codec_value .text ArtifactSummary.configPayloadSchemaVersion
    (goodKey_append hpre (by decide) (by decide)) spells_u32 ?_
  intro configVersion
  refine codec_value .text ArtifactSummary.configDigest
    (goodKey_append hpre (by decide) (by decide)) spells_u64 ?_
  intro configDigest
  refine codec_value .text ArtifactSummary.replayArtifactSchemaVersion
    (goodKey_append hpre (by decide) (by decide)) spells_u32 ?_
  intro replayVersion
  refine codec_value .text ArtifactSummary.snapshotArtifactSchemaVersion
    (goodKey_append hpre (by decide) (by decide)) spells_u32 ?_
  intro snapshotVersion
  refine codec_value .text ArtifactSummary.commandPayloadSchemaVersion
    (goodKey_append hpre (by decide) (by decide)) spells_u32 ?_
  intro commandVersion
  refine codec_value .text ArtifactSummary.snapshotPayloadSchemaVersion
    (goodKey_append hpre (by decide) (by decide)) spells_u32 ?_
  intro payloadVersion
  refine codec_value .text ArtifactSummary.replayDigest
    (goodKey_append hpre (by decide) (by decide)) spells_u64 ?_
  intro replayDigest
  refine codec_value .text (fun s : ArtifactSummary => s.snapshotDigest.isSome)
    (goodKey_append hpre (by decide) (by decide)) spells_bool ?_
  intro snapshotPresent
  refine codec_bind ArtifactSummary.snapshotDigest
    (codec_optionally (hdigest _ (goodKey_append hpre (by decide) (by decide))) _)
    (fun _ h => ⟨h.2, fun _ _ => trivial⟩) ?_
  intro snapshotDigest hsnapshot
  refine codec_value .text (fun s : ArtifactSummary => s.scenarioDigest.isSome)
    (goodKey_append hpre (by decide) (by decide)) spells_bool ?_
  intro scenarioPresent
  refine codec_last ArtifactSummary.scenarioDigest
    (codec_optionally (hdigest _ (goodKey_append hpre (by decide) (by decide))) _)
    (fun _ h => ⟨h.2, fun _ _ => trivial⟩) ?_
  intro scenarioDigest hscenario
  rintro ⟨f1, f2, f3, f4, f5, f6, f7, f8, f9, f10, f11, f12, f13⟩
  simp only [true_and, and_assoc, ArtifactSummary.mk.injEq]
  constructor
  · rintro ⟨h1, h2, h3, h4, h5, h6, h7, h8, h9, h10, h11, -, h12, -, h13⟩
    exact ⟨h1, h2, h3, h4, h5, h6, h7, h8, h9, h10, h11, h12, h13⟩
  · rintro ⟨rfl, rfl, rfl, rfl, rfl, rfl, rfl, rfl, rfl, rfl, rfl, rfl, rfl⟩
    exact ⟨rfl, rfl, rfl, rfl, rfl, rfl, rfl, rfl, rfl, rfl, rfl, hsnapshot.1, rfl,
      hscenario.1, rfl⟩

end Reading

end XenorEngine.Rust
