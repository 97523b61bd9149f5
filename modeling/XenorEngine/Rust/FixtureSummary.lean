import XenorEngine.Rust.FieldOrder
import XenorEngine.Rust.FixtureGuarantees

/-!
# The summary of a fixture (fixture/mod.rs)

Reading a fixture recomputes its summary and compares the two as parity summaries,
which have five fields more than are compared. What the file says in these five
lines is what the summary of the fixture says.
-/

namespace XenorEngine.Rust
open XenorEngine.Lib.ByteText XenorEngine.Lib.LineText XenorEngine.Lib.Fallible
open XenorEngine.Lib.PrefixReader XenorEngine.Lib.FieldCodec XenorEngine.Lib.KeyedReader
open ReplayArtifactSerializer (orFail_eq_ok)

/-- Where a summary comes from. Parity summaries are not compared in these fields. -/
structure Origin where
  engineFamily : String
  replayArtifactSchemaVersion : UInt32
  snapshotArtifactSchemaVersion : UInt32
  commandPayloadSchemaVersion : UInt32
  snapshotPayloadSchemaVersion : UInt32
  deriving DecidableEq, Repr

def ArtifactSummary.origin (summary : ArtifactSummary) : Origin where
  engineFamily := summary.engineFamily
  replayArtifactSchemaVersion := summary.replayArtifactSchemaVersion
  snapshotArtifactSchemaVersion := summary.snapshotArtifactSchemaVersion
  commandPayloadSchemaVersion := summary.commandPayloadSchemaVersion
  snapshotPayloadSchemaVersion := summary.snapshotPayloadSchemaVersion

theorem eq_of_sameParity {a b : ArtifactSummary} (h : SameParity a b) :
    b = a ↔ b.origin = a.origin := by
  constructor
  · exact congrArg ArtifactSummary.origin
  · intro ho
    obtain ⟨f1, f2, f3, f4, f5, f6, f7, f8, f9, f10, f11, f12, f13⟩ := a
    obtain ⟨g1, g2, g3, g4, g5, g6, g7, g8, g9, g10, g11, g12, g13⟩ := b
    obtain ⟨h1, h2, h3, h4, h5, h6, h7, h8⟩ := h
    obtain ⟨h9, h10, h11, h12, h13⟩ := Origin.mk.inj ho
    simp only at h1 h2 h3 h4 h5 h6 h7 h8 h9 h10 h11 h12 h13
    simp only [h1, h2, h3, h4, h5, h6, h7, h8, h9, h10, h11, h12, h13]

/-! ### The lines of a summary -/

def summaryKeys (pre : String) : List String :=
  [s!"{pre}.engine_family_hex", s!"{pre}.base_seed", s!"{pre}.final_tick",
   s!"{pre}.final_checksum", s!"{pre}.config_payload_schema_version", s!"{pre}.config_digest",
   s!"{pre}.replay_artifact_schema_version", s!"{pre}.snapshot_artifact_schema_version",
   s!"{pre}.command_payload_schema_version", s!"{pre}.snapshot_payload_schema_version",
   s!"{pre}.replay_digest", s!"{pre}.snapshot_digest.present", s!"{pre}.snapshot_digest",
   s!"{pre}.scenario_digest.present", s!"{pre}.scenario_digest"]

/-- The lines that are not compared name the origin `o`. -/
structure OriginLines (ls : List Line) (pre familyLabel : String) (o : Origin) : Prop where
  engineFamily : LineSays ls s!"{pre}.engine_family_hex" (fun v => decodeHexString v familyLabel)
    o.engineFamily
  replayVersion : LineSays ls s!"{pre}.replay_artifact_schema_version" fromStrU32
    o.replayArtifactSchemaVersion
  snapshotVersion : LineSays ls s!"{pre}.snapshot_artifact_schema_version" fromStrU32
    o.snapshotArtifactSchemaVersion
  commandVersion : LineSays ls s!"{pre}.command_payload_schema_version" fromStrU32
    o.commandPayloadSchemaVersion
  payloadVersion : LineSays ls s!"{pre}.snapshot_payload_schema_version" fromStrU32
    o.snapshotPayloadSchemaVersion

theorem originLines_mono {ls ms : List Line} {pre familyLabel : String} {o : Origin}
    (h : OriginLines ls pre familyLabel o) (hsub : ∀ l ∈ ls, l ∈ ms) :
    OriginLines ms pre familyLabel o :=
  ⟨lineSays_mono h.1 hsub, lineSays_mono h.2 hsub, lineSays_mono h.3 hsub,
    lineSays_mono h.4 hsub, lineSays_mono h.5 hsub⟩

theorem originLines_iff {ls : List Line} {pre familyLabel : String} {a b : Origin}
    (hnodup : (ls.map Prod.fst).Nodup) (h : OriginLines ls pre familyLabel a) :
    OriginLines ls pre familyLabel b ↔ a = b := by
  constructor
  · intro hb
    obtain ⟨a1, a2, a3, a4, a5⟩ := a
    obtain ⟨b1, b2, b3, b4, b5⟩ := b
    rw [Origin.mk.injEq]
    exact ⟨(lineSays_iff hnodup h.1).mp hb.1, (lineSays_iff hnodup h.2).mp hb.2,
      (lineSays_iff hnodup h.3).mp hb.3, (lineSays_iff hnodup h.4).mp hb.4,
      (lineSays_iff hnodup h.5).mp hb.5⟩
  · rintro rfl
    exact h

namespace Reading
variable {r : Reading} {familyLabel pre : String}

theorem readValue_reads {α : Type} {key : String} {parse : String → Except EngineError α}
    {ls : List Line} {a : α} :
    (r.readValue key parse).Reads ls a ↔ ∃ v, ls = [(key, v)] ∧ parse v = .ok a := by
  simp only [readValue, readField_reads, orFail_eq_ok]

theorem parseU32_eq_ok {v : String} {n : UInt32} :
    r.parseU32 v = .ok n ↔ fromStrU32 v = .ok n := mapError_eq_ok

theorem summaryFields_origin {ls : List Line} {summary : ArtifactSummary}
    (h : (r.summaryFields familyLabel pre).Reads ls summary) :
    OriginLines ls pre familyLabel summary.origin := by
  unfold summaryFields at h
  obtain ⟨l1, r1, family, rfl, h1, h⟩ := bind_reads.mp h
  obtain ⟨l2, r2, seed, rfl, -, h⟩ := bind_reads.mp h
  obtain ⟨l3, r3, tick, rfl, -, h⟩ := bind_reads.mp h
  obtain ⟨l4, r4, checksum, rfl, -, h⟩ := bind_reads.mp h
  obtain ⟨l5, r5, configVersion, rfl, -, h⟩ := bind_reads.mp h
  obtain ⟨l6, r6, configDigest, rfl, -, h⟩ := bind_reads.mp h
  obtain ⟨l7, r7, replayVersion, rfl, h7, h⟩ := bind_reads.mp h
  obtain ⟨l8, r8, snapshotVersion, rfl, h8, h⟩ := bind_reads.mp h
  obtain ⟨l9, r9, commandVersion, rfl, h9, h⟩ := bind_reads.mp h
  obtain ⟨l10, r10, payloadVersion, rfl, h10, h⟩ := bind_reads.mp h
  obtain ⟨l11, r11, replayDigest, rfl, -, h⟩ := bind_reads.mp h
  obtain ⟨l12, r12, snapshotPresent, rfl, -, h⟩ := bind_reads.mp h
  obtain ⟨l13, r13, snapshotDigest, rfl, -, h⟩ := bind_reads.mp h
  obtain ⟨l14, r14, scenarioPresent, rfl, -, h⟩ := bind_reads.mp h
  obtain ⟨l15, r15, scenarioDigest, rfl, -, h⟩ := bind_reads.mp h
  obtain ⟨rfl, rfl⟩ := pure_reads.mp h
  obtain ⟨v1, rfl, hv1⟩ := readValue_reads.mp h1
  obtain ⟨v7, rfl, hv7⟩ := readValue_reads.mp h7
  obtain ⟨v8, rfl, hv8⟩ := readValue_reads.mp h8
  obtain ⟨v9, rfl, hv9⟩ := readValue_reads.mp h9
  obtain ⟨v10, rfl, hv10⟩ := readValue_reads.mp h10
  rw [parseU32_eq_ok] at hv7 hv8 hv9 hv10
  exact ⟨⟨v1, by simp, mapError_eq_ok.mp hv1⟩, ⟨v7, by simp, hv7⟩, ⟨v8, by simp, hv8⟩,
    ⟨v9, by simp, hv9⟩, ⟨v10, by simp, hv10⟩⟩

theorem summaryFields_keyed :
    Keyed (fun l : Line => l.1) (withKeys (summaryKeys pre) ∅)
      (r.summaryFields familyLabel pre) := by
  unfold summaryFields summaryKeys
  refine keyed_field (fun _ => rfl) (by simp [withKeys, toString]) fun family => ?_
  refine keyed_field (fun _ => rfl) (by simp [withKeys, toString]) fun seed => ?_
  refine keyed_field (fun _ => rfl) (by simp [withKeys, toString]) fun tick => ?_
  refine keyed_field (fun _ => rfl) (by simp [withKeys, toString]) fun checksum => ?_
  refine keyed_field (fun _ => rfl) (by simp [withKeys, toString]) fun configVersion => ?_
  refine keyed_field (fun _ => rfl) (by simp [withKeys, toString]) fun configDigest => ?_
  refine keyed_field (fun _ => rfl) (by simp [withKeys, toString]) fun replayVersion => ?_
  refine keyed_field (fun _ => rfl) (by simp [withKeys, toString]) fun snapshotVersion => ?_
  refine keyed_field (fun _ => rfl) (by simp [withKeys, toString]) fun commandVersion => ?_
  refine keyed_field (fun _ => rfl) (by simp [withKeys, toString]) fun payloadVersion => ?_
  refine keyed_field (fun _ => rfl) (by simp [withKeys, toString]) fun replayDigest => ?_
  refine keyed_field (fun _ => rfl) (by simp [withKeys, toString]) fun snapshotPresent => ?_
  refine keyed_optional (fun _ => rfl) (by simp [withKeys, toString]) fun snapshotDigest => ?_
  refine keyed_field (fun _ => rfl) (by simp [withKeys, toString]) fun scenarioPresent => ?_
  refine keyed_optional (fun _ => rfl) (by simp [withKeys, toString]) fun scenarioDigest => ?_
  exact keyed_last (keyed_pure _)

end Reading

/-! ### The file -/

namespace GoldenFixtureSerializer
variable {C Snapshot Config : Type} {s : GoldenFixtureSerializer C Snapshot Config}
  {layout : Layout}

/-- The fields around the summary. -/
def headKeys : List String := ["artifact", "canonical_encoding", "artifact_schema_version"]
def artifactKeys : List String :=
  ["config_artifact_hex", "scenario_artifact.present", "scenario_artifact_hex",
   "replay_artifact_hex", "snapshot_artifact.present", "snapshot_artifact_hex"]

theorem fields_keyed :
    Keyed (fun l : Line => l.1)
      (withKeys headKeys (withKeys (summaryKeys "summary") ∅ ∪ withKeys artifactKeys ∅))
      (s.fields layout) := by
  unfold fields headKeys artifactKeys
  refine keyed_expect (fun _ => rfl) (by simp [withKeys, summaryKeys, toString]) fun _ => ?_
  refine keyed_expect (fun _ => rfl) (by simp [withKeys, summaryKeys, toString]) fun _ => ?_
  refine keyed_field (fun _ => rfl) (by simp [withKeys, summaryKeys, toString]) fun version => ?_
  refine keyed_lift_bind fun _ => keyed_last (keyed_bind Reading.summaryFields_keyed ?_ ?_)
  · intro summary
    refine keyed_field (fun _ => rfl) (by simp [withKeys]) fun configArtifact => ?_
    refine keyed_field (fun _ => rfl) (by simp [withKeys]) fun scenarioPresent => ?_
    refine keyed_optional (fun _ => rfl) (by simp [withKeys]) fun scenarioArtifact => ?_
    refine keyed_field (fun _ => rfl) (by simp [withKeys]) fun replayArtifact => ?_
    refine keyed_field (fun _ => rfl) (by simp [withKeys]) fun snapshotPresent => ?_
    refine keyed_optional (fun _ => rfl) (by simp [withKeys]) fun snapshotArtifact => ?_
    exact keyed_last (keyed_pure _)
  · simp [withKeys, summaryKeys, toString]

theorem fields_origin {ls : List Line} {f : GoldenFixture C Snapshot Config}
    (h : (s.fields layout).Reads ls f) :
    OriginLines ls "summary" "golden fixture summary engine family" f.summary.origin := by
  unfold fields at h
  obtain ⟨l1, r1, _, rfl, -, h⟩ := bind_reads.mp h
  obtain ⟨l2, r2, _, rfl, -, h⟩ := bind_reads.mp h
  obtain ⟨l3, r3, version, rfl, -, h⟩ := bind_reads.mp h
  obtain ⟨l4, r4, _, rfl, -, h⟩ := bind_reads.mp h
  obtain ⟨l5, r5, summary, rfl, hsummary, h⟩ := bind_reads.mp h
  obtain ⟨l6, r6, configArtifact, rfl, -, h⟩ := bind_reads.mp h
  obtain ⟨l7, r7, scenarioPresent, rfl, -, h⟩ := bind_reads.mp h
  obtain ⟨l8, r8, scenarioArtifact, rfl, -, h⟩ := bind_reads.mp h
  obtain ⟨l9, r9, replayArtifact, rfl, -, h⟩ := bind_reads.mp h
  obtain ⟨l10, r10, snapshotPresent, rfl, -, h⟩ := bind_reads.mp h
  obtain ⟨l11, r11, snapshotArtifact, rfl, -, h⟩ := bind_reads.mp h
  obtain ⟨rfl, rfl⟩ := pure_reads.mp h
  refine originLines_mono (Reading.summaryFields_origin hsummary) fun l hl => ?_
  simp only [List.mem_append]
  tauto

/-- The summary is the one recomputed from the artifacts, in every field. -/
def SummaryAuthentic (s : GoldenFixtureSerializer C Snapshot Config)
    (f : GoldenFixture C Snapshot Config) : Prop :=
  ∃ expected, s.fixtureSummaryFromArtifacts f.replayArtifact f.snapshotArtifact
    f.scenarioArtifact = .ok expected ∧ f.summary = expected

/-- The origin the serializers of a fixture write into every summary. -/
def origin (s : GoldenFixtureSerializer C Snapshot Config) : Origin where
  engineFamily := s.replaySerializer.engineFamily
  replayArtifactSchemaVersion := REPLAY_ARTIFACT_SCHEMA_VERSION
  snapshotArtifactSchemaVersion := SNAPSHOT_ARTIFACT_SCHEMA_VERSION
  commandPayloadSchemaVersion := s.replaySerializer.commandSerializer.schemaVersion
  snapshotPayloadSchemaVersion := s.replaySerializer.snapshotSerializer.schemaVersion

theorem origin_of_artifacts {replay : ReplayArtifact C Snapshot}
    {snapshot : Option (SnapshotArtifact Snapshot)}
    {scenario : Option (SimulationScenario C Config)} {summary : GoldenFixtureSummary}
    (h : s.fixtureSummaryFromArtifacts replay snapshot scenario = .ok summary) :
    summary.origin = s.origin := by
  obtain ⟨base, snapshotDigest, scenarioDigest, hbase, -, -, rfl⟩ := fixtureSummary_eq_ok.mp h
  have hown := (ReplayArtifactSerializer.valid_of_summary hbase).own
  simp only [ReplayArtifactSerializer.summary, bind_eq_ok, pure_eq_ok] at hbase
  obtain ⟨-, -, -, -, rfl⟩ := hbase
  rw [ArtifactSummary.origin, origin, Origin.mk.injEq]
  exact ⟨hown.family, hown.version, rfl, hown.command, hown.snapshot⟩

/-- The lines of a file that name the origin of its summary. -/
def NamesOrigin (bytes : Bytes) (o : Origin) : Prop :=
  ∃ reader, CanonicalLineReader.new bytes reading.label = .ok reader ∧
    OriginLines reader.rest "summary" "golden fixture summary engine family" o

section Decode
variable [SimulationConfig Config] [DecidableEq C] [DecidableEq Config] [Debug C] [Debug Config]

/- Of the fixtures that are read, those have an authentic summary whose file names the
origin of the serializers that read it. -/
theorem summary_authentic_iff (s : GoldenFixtureSerializer C Snapshot Config) (layout : Layout)
    (bytes : Bytes) (f : GoldenFixture C Snapshot Config) (h : s.decode layout bytes = .ok f) :
    s.SummaryAuthentic f ↔ NamesOrigin bytes s.origin := by
  simp only [decode, bind_eq_ok, orFail_eq_ok, validateFixture_eq_ok, pure_eq_ok,
    exists_const] at h
  obtain ⟨_, hread, hc, rfl⟩ := h
  rename_i f
  obtain ⟨ls, hne, hclean, rfl, hreads⟩ := readAll_eq_ok.mp hread
  obtain ⟨expected, hexpected, hparity⟩ := hc.summary
  have hnew := reader_new_finish hne hclean reading.label
  have hauthentic : s.SummaryAuthentic f ↔ f.summary.origin = s.origin := by
    rw [← origin_of_artifacts hexpected, ← eq_of_sameParity hparity]
    constructor
    · rintro ⟨other, hother, he⟩
      rw [he]
      exact (Except.ok.inj (hexpected.symm.trans hother)).symm
    · exact fun he => ⟨expected, hexpected, he⟩
  rw [hauthentic, ← originLines_iff (fields_keyed.nodup hreads) (fields_origin hreads)]
  constructor
  · exact fun hown => ⟨_, hnew, hown⟩
  · rintro ⟨reader, hreader, hown⟩
    rw [hnew] at hreader
    rwa [← Except.ok.inj hreader] at hown

end Decode

end GoldenFixtureSerializer

/- The summary of the two ticks, read back. -/
theorem summary_authentic_iff_own : ∃ b f, counterGoldenFixtureCodec.decode unitLayout b = .ok f ∧
    f.replayArtifact.records.map (·.snapshot.isSome) = [true, true] ∧
    GoldenFixtureSerializer.NamesOrigin b counterGoldenFixtureCodec.origin := by
  obtain ⟨f, b, _, _, hf⟩ := exists_twoSteps_fixture
  exact ⟨b, f, hf.decodes, hf.snapshots, (GoldenFixtureSerializer.summary_authentic_iff
    counterGoldenFixtureCodec unitLayout b f hf.decodes).mp ⟨_, hf.generated.summary, rfl⟩⟩

/- A summary that names another engine family is read back with the counter's artifacts. -/
theorem fixture_with_foreign_summary :
    ¬ ∀ (layout : Layout) (b : Bytes) (f : CounterGoldenFixture),
      counterGoldenFixtureCodec.decode layout b = .ok f →
        counterGoldenFixtureCodec.SummaryAuthentic f := by
  intro hall
  obtain ⟨b, f, expected, hdecode, -, -, hexpected, hsummary⟩ :=
    @exists_stray_fixture none (by rintro a ⟨⟩)
      (fun summary => { summary with engineFamily := summary.engineFamily ++ "?" })
      fun _ => ⟨rfl, rfl, rfl, rfl, rfl, rfl, rfl, rfl⟩
  obtain ⟨other, hother, he⟩ := hall _ b f hdecode
  obtain rfl := Except.ok.inj (hexpected.symm.trans hother)
  rw [hsummary] at he
  have hfamily := congrArg (fun summary => summary.engineFamily.length) he
  simp at hfamily

end XenorEngine.Rust
