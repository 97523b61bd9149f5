import XenorEngine.Rust.FixtureSummary
import XenorEngine.Rust.ReplayTampering

/-!
# The importers (api/mod.rs, api/settlement.rs)

Every artifact names its kind and, itself or through the config artifact in it, the engine
family. Of the ten importers at most one takes a file, and none takes it after a change
to its lines.
-/

namespace XenorEngine.Rust
open XenorEngine.Lib.ByteText XenorEngine.Lib.LineText XenorEngine.Lib.Fallible
open XenorEngine.Lib.PrefixReader XenorEngine.Lib.FieldCodec XenorEngine.Lib.KeyedReader
open ReplayArtifactSerializer (orFail_eq_ok orFail_eq_error lineSegments)

/-! ### The importers -/

inductive ArtifactKind
  | config
  | scenario
  | replay
  | snapshot
  | goldenFixture
  deriving DecidableEq, Repr

/-- The value of the first line. -/
def ArtifactKind.asStr : ArtifactKind → String
  | .config => "config"
  | .scenario => "scenario"
  | .replay => "replay"
  | .snapshot => "snapshot"
  | .goldenFixture => "golden_fixture"

theorem asStr_injective {kind kind' : ArtifactKind} (h : kind.asStr = kind'.asStr) :
    kind = kind' := by
  cases kind <;> cases kind' <;> first | rfl | exact absurd h (by decide)

namespace Simulation
variable {Config S C P V Snapshot : Type} (sim : Simulation Config S C P V Snapshot)
  [SimulationConfig Config] [DecidableEq C] [DecidableEq Config] [Debug C] [Debug Config]

/-- `import_*_config_artifact`, `import_*_scenario` and so on, their results dropped. -/
def importArtifact (layout : Layout) : ArtifactKind → Bytes → Outcome Unit
  | .config, bytes => do
    let _ ← orFail (sim.configArtifactCodec.decode bytes)
    pure ()
  | .scenario, bytes => do
    let _ ← sim.scenarioCodec.decode layout bytes
    pure ()
  | .replay, bytes => do
    let _ ← sim.replayArtifactCodec.decode layout bytes
    pure ()
  | .snapshot, bytes => do
    let _ ← orFail (sim.snapshotArtifactCodec.decode bytes)
    pure ()
  | .goldenFixture, bytes => do
    let _ ← sim.goldenFixtureCodec.decode layout bytes
    pure ()

end Simulation

/-! ### The keys of the other artifacts -/

theorem ConfigArtifactSerializer.fields_keyed {Config : Type}
    {s : ConfigArtifactSerializer Config} :
    Keyed (fun l : Line => l.1) (withKeys ["artifact", "canonical_encoding",
      "artifact_schema_version", "engine_family_hex", "config_payload_schema_version",
      "config_digest", "payload_hex"] ∅) s.fields := by
  unfold fields
  refine keyed_expect (fun _ => rfl) (by simp [withKeys]) fun _ => ?_
  refine keyed_expect (fun _ => rfl) (by simp [withKeys]) fun _ => ?_
  refine keyed_field (fun _ => rfl) (by simp [withKeys]) fun version => ?_
  refine keyed_lift_bind fun _ => ?_
  refine keyed_field (fun _ => rfl) (by simp [withKeys]) fun family => ?_
  refine keyed_lift_bind fun _ => ?_
  refine keyed_field (fun _ => rfl) (by simp [withKeys]) fun payloadVersion => ?_
  refine keyed_lift_bind fun _ => ?_
  refine keyed_field (fun _ => rfl) (by simp [withKeys]) fun digest => ?_
  refine keyed_field (fun _ => rfl) (by simp [withKeys]) fun payload => ?_
  exact keyed_last (keyed_pure _)

theorem SnapshotArtifact.fields_keyed {Snapshot : Type} {engineFamily : String}
    {payloadSerializer : Serializer Snapshot} {version : UInt32} :
    Keyed (fun l : Line => l.1) (withKeys ["artifact", "canonical_encoding",
      "artifact_schema_version", "engine_family_hex", "base_seed",
      "config_payload_schema_version", "config_digest", "capture_reason",
      "snapshot_payload_schema_version", "source_tick", "capture_checksum", "payload_hex"] ∅)
      (fields engineFamily payloadSerializer version) := by
  unfold fields
  refine keyed_expect (fun _ => rfl) (by simp [withKeys]) fun _ => ?_
  refine keyed_expect (fun _ => rfl) (by simp [withKeys]) fun _ => ?_
  refine keyed_field (fun _ => rfl) (by simp [withKeys]) fun decodedVersion => ?_
  refine keyed_lift_bind fun _ => ?_
  refine keyed_field (fun _ => rfl) (by simp [withKeys]) fun family => ?_
  refine keyed_lift_bind fun _ => ?_
  refine keyed_field (fun _ => rfl) (by simp [withKeys]) fun baseSeed => ?_
  refine keyed_field (fun _ => rfl) (by simp [withKeys]) fun configVersion => ?_
  refine keyed_field (fun _ => rfl) (by simp [withKeys]) fun configDigest => ?_
  refine keyed_field (fun _ => rfl) (by simp [withKeys]) fun reason => ?_
  refine keyed_field (fun _ => rfl) (by simp [withKeys]) fun payloadVersion => ?_
  refine keyed_lift_bind fun _ => ?_
  refine keyed_field (fun _ => rfl) (by simp [withKeys]) fun sourceTick => ?_
  refine keyed_field (fun _ => rfl) (by simp [withKeys]) fun checksum => ?_
  refine keyed_field (fun _ => rfl) (by simp [withKeys]) fun payload => ?_
  exact keyed_last (keyed_pure _)

namespace SimulationScenarioSerializer
variable {C Config : Type} {s : SimulationScenarioSerializer C Config} {layout : Layout}

/-- The keys of frame `i`. -/
def frameKeys (i : ℕ) : Set String := {k | ∃ leaf, segments k = ["frame", toString i, leaf]}

theorem segments_frame (i : ℕ) (leaf : String) {dotted : String} (hdotted : dotted = "." ++ leaf)
    (hleaf : segments leaf = [leaf]) :
    segments (toString "frame." ++ toString i ++ toString dotted) =
      ["frame", toString i, leaf] := by
  have hkey : toString "frame." ++ toString i ++ toString dotted =
      "frame" ++ "." ++ (toString i ++ "." ++ leaf) := by
    have hpre : toString "frame." = "frame" ++ "." := rfl
    rw [hdotted, hpre]
    simp only [String.append_assoc, toString]
  have hframe : segments "frame" = ["frame"] := by decide
  rw [hkey, segments_dot, segments_dot, segments_index, hleaf, hframe]
  rfl

theorem frameFields_keyed (i : ℕ) :
    Keyed (fun l : Line => l.1) (frameKeys i) (s.frameFields i) := by
  have hkeys : Keyed lineSegments (withKeys [["frame", toString i, "tick"],
      ["frame", toString i, "command_hex"]] ∅) (s.frameFields i) := by
    unfold frameFields
    refine keyed_field (fun _ => segments_frame i "tick" rfl (by decide))
      (by simp [withKeys]) fun tick => ?_
    refine keyed_field (fun _ => segments_frame i "command_hex" rfl (by decide))
      (by simp [withKeys]) fun command => ?_
    exact keyed_last (keyed_pure _)
  refine keyed_mono (keyed_of_comp hkeys) fun k hk => ?_
  simp only [withKeys, Set.mem_preimage, Set.mem_ofPred_eq, List.mem_cons, List.not_mem_nil,
    or_false, Set.mem_empty_iff_false] at hk
  rcases hk with hk | hk
  · exact ⟨_, hk⟩
  · exact ⟨_, hk⟩

theorem frameKeys_disjoint (i j : ℕ) (h : i ≠ j) : ∀ k ∈ frameKeys i, k ∉ frameKeys j := by
  rintro k ⟨leaf, hk⟩ ⟨leaf', hk'⟩
  rw [hk] at hk'
  simp only [List.cons.injEq, true_and] at hk'
  exact h (index_injective hk'.1)

theorem frameKeys_first {k : String} {i : ℕ} (h : k ∈ frameKeys i) :
    (segments k).head? = some "frame" := by
  obtain ⟨leaf, hk⟩ := h
  rw [hk]
  rfl

def headKeys : List String :=
  ["artifact", "canonical_encoding", "artifact_schema_version", "config_artifact_hex",
   "base_seed", "frame_count"]
def parityKeys : List String := "expected_parity.present" :: summaryKeys "expected_parity"

theorem parityKeys_first : ∀ k ∈ headKeys ++ parityKeys, (segments k).head? ≠ some "frame" := by
  decide

/-- The keys after the head: those of the frames and of the expected summary. -/
def bodyKeys : Set String :=
  {k | ∃ i, 0 ≤ i ∧ k ∈ frameKeys i} ∪ withKeys parityKeys ∅

theorem notMem_frameKeys {k : String} (h : k ∈ headKeys ++ parityKeys) :
    ¬ ∃ i, 0 ≤ i ∧ k ∈ frameKeys i := by
  rintro ⟨i, -, hk⟩
  exact parityKeys_first k h (frameKeys_first hk)

theorem notMem_body {k : String} {ks : List String} (hk : k ∈ headKeys) (hks : k ∉ ks) :
    k ∉ withKeys ks bodyKeys := by
  have hhead : ∀ k ∈ headKeys, k ∉ parityKeys := by decide
  rintro (h | h | h | h)
  · exact hks h
  · exact notMem_frameKeys (List.mem_append_left _ hk) h
  · exact hhead k hk h
  · exact absurd h (Set.notMem_empty k)

theorem parity_keyed {familyLabel : String}
    {f : Option ArtifactSummary → SimulationScenario C Config} :
    Keyed (fun l : Line => l.1) (withKeys parityKeys ∅) (do
      let present ← reading.readValue "expected_parity.present" reading.parseBool
      let summary ← optionally present (reading.summaryFields familyLabel "expected_parity")
      pure (f summary)) := by
  have hsummary (present : Bool) := keyed_bind
    (keyed_optionally (@Reading.summaryFields_keyed reading familyLabel "expected_parity") present)
    (fun summary => keyed_pure (f summary)) fun _ _ => Set.notMem_empty _
  refine keyed_cons (keyed_readField fun _ => rfl) ?_ fun present => ?_
  · simp [withKeys, summaryKeys, toString]
  · exact keyed_mono (hsummary present) (Set.union_subset (Set.Subset.refl _)
      (Set.empty_subset _))

theorem fields_keyed :
    Keyed (fun l : Line => l.1) (withKeys headKeys bodyKeys) (s.fields layout) := by
  unfold fields headKeys
  refine keyed_expect (fun _ => rfl) (notMem_body (by decide) (by decide)) fun _ => ?_
  refine keyed_expect (fun _ => rfl) (notMem_body (by decide) (by decide)) fun _ => ?_
  refine keyed_field (fun _ => rfl) (notMem_body (by decide) (by decide)) fun version => ?_
  refine keyed_lift_bind fun _ => ?_
  refine keyed_field (fun _ => rfl) (notMem_body (by decide) (by decide)) fun config => ?_
  refine keyed_field (fun _ => rfl) (notMem_body (by decide) (by decide)) fun baseSeed => ?_
  refine keyed_field (fun _ => rfl) (notMem_body (by decide) (by decide)) fun frameCount => ?_
  refine keyed_lift_bind fun _ => keyed_last (keyed_bind
    (keyed_forRange frameFields_keyed frameKeys_disjoint 0 frameCount)
    (fun frames => parity_keyed) ?_)
  rintro k hk (h | h)
  · exact notMem_frameKeys (List.mem_append_right _ h) hk
  · exact absurd h (Set.notMem_empty k)

end SimulationScenarioSerializer

/-! ### One key in each place -/

namespace Reading
variable {r : Reading}

theorem corrupted_isError (error : CanonicalError) : (r.corrupted error).IsError := ⟨_, rfl⟩

theorem strict_readValue {α : Type} {key : String} {parse : String → Except EngineError α} :
    Strict (fun l : Line => l.1) Failure.IsError (r.readValue key parse) :=
  strict_field corrupted_isError

theorem strict_expectValue {key expected : String} :
    Strict (fun l : Line => l.1) Failure.IsError (r.expectValue key expected) :=
  strict_expect corrupted_isError

theorem strict_readNested {α : Type} {key hexLabel : String} {decode : Bytes → Outcome α} :
    Strict (fun l : Line => l.1) Failure.IsError (r.readNested key hexLabel decode) :=
  strict_field corrupted_isError

theorem summaryFields_strict {familyLabel pre : String} :
    Strict (fun l : Line => l.1) Failure.IsError (r.summaryFields familyLabel pre) := by
  unfold summaryFields
  refine strict_bind strict_readValue fun family => ?_
  refine strict_bind strict_readValue fun seed => ?_
  refine strict_bind strict_readValue fun tick => ?_
  refine strict_bind strict_readValue fun checksum => ?_
  refine strict_bind strict_readValue fun configVersion => ?_
  refine strict_bind strict_readValue fun configDigest => ?_
  refine strict_bind strict_readValue fun replayVersion => ?_
  refine strict_bind strict_readValue fun snapshotVersion => ?_
  refine strict_bind strict_readValue fun commandVersion => ?_
  refine strict_bind strict_readValue fun payloadVersion => ?_
  refine strict_bind strict_readValue fun replayDigest => ?_
  refine strict_bind strict_readValue fun snapshotPresent => ?_
  refine strict_bind (strict_optionally strict_readValue snapshotPresent) fun snapshotDigest => ?_
  refine strict_bind strict_readValue fun scenarioPresent => ?_
  exact strict_bind (strict_optionally strict_readValue scenarioPresent) fun _ => strict_pure _

end Reading

theorem ConfigArtifactSerializer.fields_strict {Config : Type}
    {s : ConfigArtifactSerializer Config} :
    Strict (fun l : Line => l.1) (fun _ => True) s.fields := by
  have hbad : ∀ e : CanonicalError, True := fun _ => trivial
  unfold fields
  refine strict_bind (strict_expect hbad) fun _ => ?_
  refine strict_bind (strict_expect hbad) fun _ => ?_
  refine strict_bind (strict_field hbad) fun version => ?_
  refine strict_bind (strict_lift _) fun _ => ?_
  refine strict_bind (strict_field hbad) fun family => ?_
  refine strict_bind (strict_lift _) fun _ => ?_
  refine strict_bind (strict_field hbad) fun payloadVersion => ?_
  refine strict_bind (strict_lift _) fun _ => ?_
  refine strict_bind (strict_field hbad) fun digest => ?_
  exact strict_bind (strict_field hbad) fun payload => strict_pure _

theorem SnapshotArtifact.fields_strict {Snapshot : Type} {engineFamily : String}
    {payloadSerializer : Serializer Snapshot} {version : UInt32} :
    Strict (fun l : Line => l.1) (fun _ => True)
      (fields engineFamily payloadSerializer version) := by
  have hbad : ∀ e : CanonicalError, True := fun _ => trivial
  unfold fields
  refine strict_bind (strict_expect hbad) fun _ => ?_
  refine strict_bind (strict_expect hbad) fun _ => ?_
  refine strict_bind (strict_field hbad) fun decodedVersion => ?_
  refine strict_bind (strict_lift _) fun _ => ?_
  refine strict_bind (strict_field hbad) fun family => ?_
  refine strict_bind (strict_lift _) fun _ => ?_
  refine strict_bind (strict_field hbad) fun baseSeed => ?_
  refine strict_bind (strict_field hbad) fun configVersion => ?_
  refine strict_bind (strict_field hbad) fun configDigest => ?_
  refine strict_bind (strict_field hbad) fun reason => ?_
  refine strict_bind (strict_field hbad) fun payloadVersion => ?_
  refine strict_bind (strict_lift _) fun _ => ?_
  refine strict_bind (strict_field hbad) fun sourceTick => ?_
  refine strict_bind (strict_field hbad) fun checksum => ?_
  exact strict_bind (strict_field hbad) fun payload => strict_pure _

namespace SimulationScenarioSerializer
variable {C Config : Type} {s : SimulationScenarioSerializer C Config} {layout : Layout}

theorem frameFields_strict (i : ℕ) :
    Strict (fun l : Line => l.1) Failure.IsError (s.frameFields i) := by
  unfold frameFields
  refine strict_bind Reading.strict_readValue fun tick => ?_
  exact strict_bind Reading.strict_readValue fun command => strict_pure _

theorem fields_strict : Strict (fun l : Line => l.1) Failure.IsError (s.fields layout) := by
  unfold fields
  refine strict_bind Reading.strict_expectValue fun _ => ?_
  refine strict_bind Reading.strict_expectValue fun _ => ?_
  refine strict_bind Reading.strict_readValue fun version => ?_
  refine strict_bind (strict_lift _) fun _ => ?_
  refine strict_bind Reading.strict_readValue fun config => ?_
  refine strict_bind Reading.strict_readValue fun baseSeed => ?_
  refine strict_bind Reading.strict_readValue fun frameCount => ?_
  refine strict_bind (strict_lift _) fun _ => ?_
  refine strict_bind (strict_forRange frameFields_strict 0 frameCount) fun frames => ?_
  refine strict_bind Reading.strict_readValue fun present => ?_
  exact strict_bind (strict_optionally Reading.summaryFields_strict present) fun _ =>
    strict_pure _

end SimulationScenarioSerializer

theorem GoldenFixtureSerializer.fields_strict {C Snapshot Config : Type}
    {s : GoldenFixtureSerializer C Snapshot Config} {layout : Layout} :
    Strict (fun l : Line => l.1) Failure.IsError (s.fields layout) := by
  unfold fields
  refine strict_bind Reading.strict_expectValue fun _ => ?_
  refine strict_bind Reading.strict_expectValue fun _ => ?_
  refine strict_bind Reading.strict_readValue fun version => ?_
  refine strict_bind (strict_lift _) fun _ => ?_
  refine strict_bind Reading.summaryFields_strict fun summary => ?_
  refine strict_bind Reading.strict_readNested fun config => ?_
  refine strict_bind Reading.strict_readValue fun scenarioPresent => ?_
  refine strict_bind (strict_optionally Reading.strict_readNested scenarioPresent) fun _ => ?_
  refine strict_bind Reading.strict_readNested fun replay => ?_
  refine strict_bind Reading.strict_readValue fun snapshotPresent => ?_
  exact strict_bind (strict_optionally Reading.strict_readNested snapshotPresent) fun _ =>
    strict_pure _

/-! ### What the lines of an artifact say -/

/-- The family, itself or by a config artifact that it takes. -/
def SaysFamily (family : String) (takes : Bytes → Prop) : ArtifactKind → List Line → Prop
  | .config, ls => LineSays ls "engine_family_hex"
      (fun v => decodeHexString v "config artifact engine family") family
  | .scenario, ls => ∃ bytes, LineSays ls "config_artifact_hex"
      (fun v => decodeHex v "scenario config artifact") bytes ∧ takes bytes
  | .replay, ls => LineSays ls "engine_family_hex"
      (fun v => decodeHexString v "replay artifact engine family") family
  | .snapshot, ls => LineSays ls "engine_family_hex"
      (fun v => decodeHexString v "snapshot artifact engine family") family
  | .goldenFixture, ls => ∃ bytes, LineSays ls "config_artifact_hex"
      (fun v => decodeHex v "golden fixture config artifact") bytes ∧ takes bytes

/-- The lines say which kind of artifact they are and which family it belongs to, each in one
place. -/
structure Certifies (family : String) (takes : Bytes → Prop) (kind : ArtifactKind)
    (ls : List Line) : Prop where
  nodup : (ls.map Prod.fst).Nodup
  saysKind : ("artifact", kind.asStr) ∈ ls
  saysFamily : SaysFamily family takes kind ls

section Certify
variable {takes : Bytes → Prop} {ls : List Line}

theorem ConfigArtifactSerializer.fields_certify {Config : Type}
    {s : ConfigArtifactSerializer Config} {a : ConfigArtifact Config} (h : s.fields.Reads ls a) :
    Certifies s.engineFamily takes .config ls := by
  have hnodup := fields_keyed.nodup h
  unfold fields at h
  obtain ⟨l1, r1, _, rfl, h1, h⟩ := bind_reads.mp h
  obtain ⟨l2, r2, _, rfl, -, h⟩ := bind_reads.mp h
  obtain ⟨l3, r3, version, rfl, -, h⟩ := bind_reads.mp h
  obtain ⟨l4, r4, _, rfl, -, h⟩ := bind_reads.mp h
  obtain ⟨l5, r5, family, rfl, h5, h⟩ := bind_reads.mp h
  obtain ⟨l6, r6, _, rfl, h6, -⟩ := bind_reads.mp h
  obtain ⟨v, rfl, hv⟩ := readField_reads.mp h5
  have hfamily := (lift_reads.mp h6).2
  rw [rejectIf_eq_ok, not_not] at hfamily
  rw [hfamily] at hv
  rw [expectField_reads.mp h1] at hnodup ⊢
  exact ⟨hnodup, List.mem_append_left _ (List.mem_singleton_self _),
    v, by simp, mapError_eq_ok.mp hv⟩

theorem SnapshotArtifact.fields_certify {Snapshot : Type} {engineFamily : String}
    {payloadSerializer : Serializer Snapshot} {version : UInt32} {a : SnapshotArtifact Snapshot}
    (h : (fields engineFamily payloadSerializer version).Reads ls a) :
    Certifies engineFamily takes .snapshot ls := by
  have hnodup := fields_keyed.nodup h
  unfold fields at h
  obtain ⟨l1, r1, _, rfl, h1, h⟩ := bind_reads.mp h
  obtain ⟨l2, r2, _, rfl, -, h⟩ := bind_reads.mp h
  obtain ⟨l3, r3, version, rfl, -, h⟩ := bind_reads.mp h
  obtain ⟨l4, r4, _, rfl, -, h⟩ := bind_reads.mp h
  obtain ⟨l5, r5, family, rfl, h5, h⟩ := bind_reads.mp h
  obtain ⟨l6, r6, _, rfl, h6, -⟩ := bind_reads.mp h
  obtain ⟨v, rfl, hv⟩ := readField_reads.mp h5
  have hfamily := (lift_reads.mp h6).2
  rw [rejectIf_eq_ok, not_not] at hfamily
  rw [hfamily] at hv
  rw [expectField_reads.mp h1] at hnodup ⊢
  exact ⟨hnodup, List.mem_append_left _ (List.mem_singleton_self _),
    v, by simp, mapError_eq_ok.mp hv⟩

theorem ReplayArtifactSerializer.fields_certify {C Snapshot : Type}
    {s : ReplayArtifactSerializer C Snapshot} {layout : Layout} {a : ReplayArtifact C Snapshot}
    (h : (s.fields layout).Reads ls a) : Certifies s.engineFamily takes .replay ls := by
  have hkeyed : Keyed (fun l : Line => l.1) _ (s.fields layout) := keyed_of_comp fields_keyed
  have hnodup := hkeyed.nodup h
  unfold fields at h
  obtain ⟨l1, r1, _, rfl, h1, h⟩ := bind_reads.mp h
  obtain ⟨l2, r2, _, rfl, -, h⟩ := bind_reads.mp h
  obtain ⟨l3, r3, version, rfl, -, h⟩ := bind_reads.mp h
  obtain ⟨l4, r4, _, rfl, -, h⟩ := bind_reads.mp h
  obtain ⟨l5, r5, family, rfl, h5, h⟩ := bind_reads.mp h
  obtain ⟨l6, r6, _, rfl, h6, -⟩ := bind_reads.mp h
  obtain ⟨v, rfl, hv⟩ := readField_reads.mp h5
  have hfamily := (lift_reads.mp h6).2
  rw [orFail_eq_ok, rejectIf_eq_ok, not_not] at hfamily
  rw [hfamily] at hv
  rw [expectField_reads.mp h1] at hnodup ⊢
  exact ⟨hnodup, List.mem_append_left _ (List.mem_singleton_self _),
    v, by simp, mapError_eq_ok.mp (mapError_eq_ok.mp hv)⟩

theorem SimulationScenarioSerializer.fields_certify {C Config : Type} {family : String}
    {s : SimulationScenarioSerializer C Config} {layout : Layout} {a : SimulationScenario C Config}
    (htakes : ∀ bytes config, s.configArtifactSerializer.decode bytes = .ok config → takes bytes)
    (h : (s.fields layout).Reads ls a) : Certifies family takes .scenario ls := by
  have hnodup := fields_keyed.nodup h
  unfold fields at h
  obtain ⟨l1, r1, _, rfl, h1, h⟩ := bind_reads.mp h
  obtain ⟨l2, r2, _, rfl, -, h⟩ := bind_reads.mp h
  obtain ⟨l3, r3, version, rfl, -, h⟩ := bind_reads.mp h
  obtain ⟨l4, r4, _, rfl, -, h⟩ := bind_reads.mp h
  obtain ⟨l5, r5, config, rfl, h5, -⟩ := bind_reads.mp h
  obtain ⟨v, rfl, hv⟩ := Reading.readValue_reads.mp h5
  rw [decodeConfigArtifact, bind_eq_ok] at hv
  obtain ⟨bytes, hbytes, hconfig⟩ := hv
  rw [expectField_reads.mp h1] at hnodup ⊢
  exact ⟨hnodup, List.mem_append_left _ (List.mem_singleton_self _),
    bytes, ⟨v, by simp, mapError_eq_ok.mp hbytes⟩, htakes bytes config hconfig⟩

theorem GoldenFixtureSerializer.fields_certify {C Snapshot Config : Type} {family : String}
    {s : GoldenFixtureSerializer C Snapshot Config} {layout : Layout}
    {a : GoldenFixture C Snapshot Config}
    (htakes : ∀ bytes config, s.configArtifactSerializer.decode bytes = .ok config → takes bytes)
    (h : (s.fields layout).Reads ls a) : Certifies family takes .goldenFixture ls := by
  have hnodup := fields_keyed.nodup h
  unfold fields at h
  obtain ⟨l1, r1, _, rfl, h1, h⟩ := bind_reads.mp h
  obtain ⟨l2, r2, _, rfl, -, h⟩ := bind_reads.mp h
  obtain ⟨l3, r3, version, rfl, -, h⟩ := bind_reads.mp h
  obtain ⟨l4, r4, _, rfl, -, h⟩ := bind_reads.mp h
  obtain ⟨l5, r5, summary, rfl, -, h⟩ := bind_reads.mp h
  obtain ⟨l6, r6, config, rfl, h6, -⟩ := bind_reads.mp h
  obtain ⟨v, rfl, hv⟩ := readField_reads.mp h6
  rw [bind_eq_ok] at hv
  obtain ⟨bytes, hbytes, hconfig⟩ := hv
  rw [expectField_reads.mp h1] at hnodup ⊢
  exact ⟨hnodup, List.mem_append_left _ (List.mem_singleton_self _),
    bytes, ⟨v, by simp, mapError_eq_ok.mp hbytes⟩, htakes bytes config (orFail_eq_ok.mp hconfig)⟩

end Certify

/-! ### Files -/

namespace Simulation
variable {Config S C P V Snapshot : Type} {sim : Simulation Config S C P V Snapshot}
  [SimulationConfig Config] [DecidableEq C] [DecidableEq Config] [Debug C] [Debug Config]
  {layout : Layout} {kind : ArtifactKind} {bytes : Bytes}

/-- All codecs of the simulation write this family. -/
structure OfFamily (sim : Simulation Config S C P V Snapshot) (family : String) : Prop where
  config : sim.configArtifactCodec.engineFamily = family
  replay : sim.replayArtifactCodec.engineFamily = family
  snapshot : sim.snapshotArtifactCodec.engineFamily = family

theorem import_certifies {family : String} (hf : sim.OfFamily family) {takes : Bytes → Prop}
    (htakes : ∀ b config, sim.configArtifactCodec.decode b = .ok config → takes b)
    (h : sim.importArtifact layout kind bytes = .ok ()) :
    ∃ ls, ls ≠ [] ∧ (∀ l ∈ ls, Clean l) ∧ bytes = CanonicalLineWriter.finish ls ∧
      Certifies family takes kind ls := by
  cases kind with
  | config =>
    simp only [importArtifact, bind_eq_ok, orFail_eq_ok, pure_eq_ok] at h
    obtain ⟨a, ha, -⟩ := h
    obtain ⟨ls, hne, hclean, rfl, hreads⟩ :=
      readAll_eq_ok.mp (ConfigArtifactSerializer.decode_eq_ok.mp ha).1
    exact ⟨ls, hne, hclean, rfl, hf.config ▸ ConfigArtifactSerializer.fields_certify hreads⟩
  | scenario =>
    simp only [importArtifact, bind_eq_ok, pure_eq_ok] at h
    obtain ⟨a, ha, -⟩ := h
    obtain ⟨ls, hne, hclean, rfl, hreads⟩ := readAll_eq_ok.mp ha
    exact ⟨ls, hne, hclean, rfl,
      SimulationScenarioSerializer.fields_certify (s := sim.scenarioCodec) htakes hreads⟩
  | replay =>
    simp only [importArtifact, bind_eq_ok, pure_eq_ok, ReplayArtifactSerializer.decode] at h
    obtain ⟨a, ⟨b, hb, -⟩, -⟩ := h
    obtain ⟨ls, hne, hclean, rfl, hreads⟩ := readAll_eq_ok.mp hb
    exact ⟨ls, hne, hclean, rfl, hf.replay ▸ ReplayArtifactSerializer.fields_certify hreads⟩
  | snapshot =>
    simp only [importArtifact, bind_eq_ok, orFail_eq_ok, pure_eq_ok] at h
    obtain ⟨a, ha, -⟩ := h
    obtain ⟨ls, hne, hclean, rfl, hreads⟩ := readAll_eq_ok.mp ha
    exact ⟨ls, hne, hclean, rfl, hf.snapshot ▸ SnapshotArtifact.fields_certify hreads⟩
  | goldenFixture =>
    simp only [importArtifact, bind_eq_ok, pure_eq_ok, GoldenFixtureSerializer.decode] at h
    obtain ⟨a, ⟨b, hb, -⟩, -⟩ := h
    obtain ⟨ls, hne, hclean, rfl, hreads⟩ := readAll_eq_ok.mp hb
    exact ⟨ls, hne, hclean, rfl,
      GoldenFixtureSerializer.fields_certify (s := sim.goldenFixtureCodec) htakes hreads⟩

/- After one change to its lines a file is refused with an error. -/
theorem import_tampered (h : sim.importArtifact layout kind bytes = .ok ()) :
    joinByteLines (byteLines bytes) = bytes ∧
      ∀ changed, Tampered NewLine (byteLines bytes) changed →
        ∃ e, sim.importArtifact layout kind (joinByteLines changed) = .error (.error e) := by
  cases kind with
  | config =>
    simp only [importArtifact, bind_eq_ok, orFail_eq_ok, pure_eq_ok] at h
    obtain ⟨a, ha, -⟩ := h
    obtain ⟨hjoin, hall⟩ := readAll_tampered ConfigArtifactSerializer.fields_keyed
      ConfigArtifactSerializer.fields_strict (fun _ => trivial)
      (ConfigArtifactSerializer.decode_eq_ok.mp ha).1
    refine ⟨hjoin, fun changed ht => ?_⟩
    obtain ⟨e, he, -⟩ := hall changed ht
    refine ⟨e, ?_⟩
    rw [importArtifact, ConfigArtifactSerializer.decode, he]
    rfl
  | scenario =>
    simp only [importArtifact, bind_eq_ok, pure_eq_ok] at h
    obtain ⟨a, ha, -⟩ := h
    obtain ⟨hjoin, hall⟩ := readAll_tampered SimulationScenarioSerializer.fields_keyed
      SimulationScenarioSerializer.fields_strict Reading.corrupted_isError ha
    refine ⟨hjoin, fun changed ht => ?_⟩
    obtain ⟨-, he, e, rfl⟩ := hall changed ht
    refine ⟨e, ?_⟩
    rw [importArtifact, SimulationScenarioSerializer.decode, he]
    rfl
  | replay =>
    simp only [importArtifact, bind_eq_ok, pure_eq_ok, ReplayArtifactSerializer.decode] at h
    obtain ⟨a, ⟨b, hb, -⟩, -⟩ := h
    obtain ⟨hjoin, hall⟩ := readAll_tampered
      (keyed_of_comp ReplayArtifactSerializer.fields_keyed) ReplayArtifactSerializer.fields_strict
      ReplayArtifactSerializer.replayCorrupted_isError hb
    refine ⟨hjoin, fun changed ht => ?_⟩
    obtain ⟨-, he, e, rfl⟩ := hall changed ht
    refine ⟨e, ?_⟩
    rw [importArtifact, ReplayArtifactSerializer.decode, he]
    rfl
  | snapshot =>
    simp only [importArtifact, bind_eq_ok, orFail_eq_ok, pure_eq_ok] at h
    obtain ⟨a, ha, -⟩ := h
    obtain ⟨hjoin, hall⟩ := readAll_tampered SnapshotArtifact.fields_keyed
      SnapshotArtifact.fields_strict (fun _ => trivial) ha
    refine ⟨hjoin, fun changed ht => ?_⟩
    obtain ⟨e, he, -⟩ := hall changed ht
    refine ⟨e, ?_⟩
    rw [importArtifact, SnapshotArtifactSerializer.decode,
      SnapshotArtifact.decodeSnapshotArtifactBytes, he]
    rfl
  | goldenFixture =>
    simp only [importArtifact, bind_eq_ok, pure_eq_ok, GoldenFixtureSerializer.decode] at h
    obtain ⟨a, ⟨b, hb, -⟩, -⟩ := h
    obtain ⟨hjoin, hall⟩ := readAll_tampered GoldenFixtureSerializer.fields_keyed
      GoldenFixtureSerializer.fields_strict Reading.corrupted_isError hb
    refine ⟨hjoin, fun changed ht => ?_⟩
    obtain ⟨-, he, e, rfl⟩ := hall changed ht
    refine ⟨e, ?_⟩
    rw [importArtifact, GoldenFixtureSerializer.decode, he]
    rfl

end Simulation

/-! ### Both engines -/

inductive EngineFamily
  | counter
  | settlement
  deriving DecidableEq, Repr

def EngineFamily.asStr : EngineFamily → String
  | .counter => COUNTER_ENGINE_FAMILY
  | .settlement => SETTLEMENT_ENGINE_FAMILY

def importArtifact (layout : Layout) : EngineFamily → ArtifactKind → Bytes → Outcome Unit
  | .counter => counterSimulation.importArtifact layout
  | .settlement => settlementSimulation.importArtifact layout

/-- The config artifacts of a family, whatever the machine they are read on. -/
def TakesConfig (family : EngineFamily) (bytes : Bytes) : Prop :=
  ∃ layout, importArtifact layout family .config bytes = .ok ()

theorem importArtifact_certifies {layout : Layout} {family : EngineFamily} {kind : ArtifactKind}
    {bytes : Bytes} (h : importArtifact layout family kind bytes = .ok ()) :
    ∃ ls, ls ≠ [] ∧ (∀ l ∈ ls, Clean l) ∧ bytes = CanonicalLineWriter.finish ls ∧
      Certifies family.asStr (TakesConfig family) kind ls := by
  cases family with
  | counter =>
    refine Simulation.import_certifies ⟨rfl, rfl, rfl⟩ (fun b config hb => ⟨layout, ?_⟩) h
    simp only [importArtifact, Simulation.importArtifact, hb]
    rfl
  | settlement =>
    refine Simulation.import_certifies ⟨rfl, rfl, rfl⟩ (fun b config hb => ⟨layout, ?_⟩) h
    simp only [importArtifact, Simulation.importArtifact, hb]
    rfl

theorem family_of_config {family family' : EngineFamily} {bytes : Bytes}
    (h : TakesConfig family bytes) (h' : TakesConfig family' bytes) : family = family' := by
  obtain ⟨layout, h⟩ := h
  obtain ⟨layout', h'⟩ := h'
  obtain ⟨ls, hne, hclean, rfl, hc⟩ := importArtifact_certifies h
  obtain ⟨ms, hms, hmsClean, hbytes, hc'⟩ := importArtifact_certifies h'
  obtain rfl := finish_injective hne hms hclean hmsClean hbytes
  have hstr := (lineSays_iff hc.nodup hc.saysFamily).mp hc'.saysFamily
  cases family <;> cases family' <;> first | rfl | exact absurd hstr (by decide)

section Agree
variable {family family' : EngineFamily} {kind kind' : ArtifactKind} {ls ms : List Line}

theorem saysFamily_mono {f : String} {takes : Bytes → Prop} (h : SaysFamily f takes kind ls)
    (hsub : ∀ l ∈ ls, l ∈ ms) : SaysFamily f takes kind ms := by
  cases kind with
  | config => exact lineSays_mono h hsub
  | scenario =>
    obtain ⟨bytes, hbytes, htakes⟩ := h
    exact ⟨bytes, lineSays_mono hbytes hsub, htakes⟩
  | replay => exact lineSays_mono h hsub
  | snapshot => exact lineSays_mono h hsub
  | goldenFixture =>
    obtain ⟨bytes, hbytes, htakes⟩ := h
    exact ⟨bytes, lineSays_mono hbytes hsub, htakes⟩

theorem family_of_certified (hnodup : (ls.map Prod.fst).Nodup)
    (h : SaysFamily family.asStr (TakesConfig family) kind ls)
    (h' : SaysFamily family'.asStr (TakesConfig family') kind ls) : family = family' := by
  have hstr {f f' : EngineFamily} (he : f.asStr = f'.asStr) : f = f' := by
    cases f <;> cases f' <;> first | rfl | exact absurd he (by decide)
  cases kind with
  | config => exact hstr ((lineSays_iff hnodup h).mp h')
  | scenario =>
    obtain ⟨bytes, hbytes, htakes⟩ := h
    obtain ⟨bytes', hbytes', htakes'⟩ := h'
    obtain rfl := (lineSays_iff hnodup hbytes).mp hbytes'
    exact family_of_config htakes htakes'
  | replay => exact hstr ((lineSays_iff hnodup h).mp h')
  | snapshot => exact hstr ((lineSays_iff hnodup h).mp h')
  | goldenFixture =>
    obtain ⟨bytes, hbytes, htakes⟩ := h
    obtain ⟨bytes', hbytes', htakes'⟩ := h'
    obtain rfl := (lineSays_iff hnodup hbytes).mp hbytes'
    exact family_of_config htakes htakes'

/- Lines that are certified among others, of which each key stands once, decide both. -/
theorem agree_of_certified (h : Certifies family.asStr (TakesConfig family) kind ls)
    (h' : Certifies family'.asStr (TakesConfig family') kind' ms) (hsub : ∀ l ∈ ls, l ∈ ms) :
    family = family' ∧ kind = kind' := by
  have hkind : kind = kind' := by
    refine asStr_injective ?_
    have hline := List.inj_on_of_nodup_map h'.nodup (hsub _ h.saysKind) h'.saysKind rfl
    exact (Prod.mk.inj hline).2
  subst hkind
  exact ⟨family_of_certified h'.nodup (saysFamily_mono h.saysFamily hsub) h'.saysFamily, rfl⟩

theorem lineBytes_injective {l m : Line} (hl : Clean l) (hm : Clean m)
    (h : lineBytes l = lineBytes m) : l = m := by
  have hfinish : CanonicalLineWriter.finish [l] = CanonicalLineWriter.finish [m] := by
    rw [finish_eq_joinByteLines (List.cons_ne_nil _ _),
      finish_eq_joinByteLines (List.cons_ne_nil _ _), List.map_singleton, List.map_singleton, h]
  have hlines := finish_injective (List.cons_ne_nil _ _) (List.cons_ne_nil _ _)
    (fun x hx => List.mem_singleton.mp hx ▸ hl) (fun x hx => List.mem_singleton.mp hx ▸ hm) hfinish
  exact List.singleton_inj.mp hlines

theorem mem_of_lineBytes {l : Line} (hl : Clean l) (hclean : ∀ l ∈ ls, Clean l)
    (h : lineBytes l ∈ ls.map lineBytes) : l ∈ ls := by
  obtain ⟨m, hm, he⟩ := List.mem_map.mp h
  rw [← lineBytes_injective (hclean m hm) hl he]
  exact hm

/- Of two files one of which is the other after a change, one holds the lines of the other. -/
theorem lines_of_tampered (hne : ls ≠ []) (hclean : ∀ l ∈ ls, Clean l) (hms : ms ≠ [])
    (hmsClean : ∀ l ∈ ms, Clean l) {changed : List Bytes}
    (ht : Tampered NewLine (byteLines (CanonicalLineWriter.finish ls)) changed)
    (h : joinByteLines changed = CanonicalLineWriter.finish ms) :
    (∀ l ∈ ms, l ∈ ls) ∨ ∀ l ∈ ls, l ∈ ms := by
  have hlines (hnewline : ∀ b ∈ changed, 10 ∉ b) : changed = ms.map lineBytes := by
    rw [← byteLines_join hnewline, h, byteLines_finish hms hmsClean]
  have hnewline : ∀ b ∈ ls.map lineBytes, 10 ∉ b := by
    intro b hb
    obtain ⟨l, hl, rfl⟩ := List.mem_map.mp hb
    exact lineBytes_newline (hclean l hl)
  rw [byteLines_finish hne hclean] at ht
  rcases tampered_map ht with ⟨ls', rfl, ht'⟩ | ⟨t, hnew, rfl⟩
  · have hsub := tampered_subset ht'
    have hsame := hlines fun b hb => by
      obtain ⟨l, hl, rfl⟩ := List.mem_map.mp hb
      exact lineBytes_newline (hclean l (hsub l hl))
    refine Or.inl fun l hl => hsub l (mem_of_lineBytes (hmsClean l hl)
      (fun x hx => hclean x (hsub x hx)) ?_)
    rw [hsame]
    exact List.mem_map_of_mem hl
  · have hsame := hlines fun b hb => by
      rcases List.mem_append.mp hb with hb | hb
      · exact hnewline b hb
      · rw [List.mem_singleton.mp hb]
        exact hnew.2
    refine Or.inr fun l hl => mem_of_lineBytes (hclean l hl) hmsClean ?_
    rw [← hsame]
    exact List.mem_append_left _ (List.mem_map_of_mem hl)

end Agree

theorem importers_disjoint (bytes : Bytes) :
    {format : EngineFamily × ArtifactKind |
      ∃ layout, importArtifact layout format.1 format.2 bytes = .ok ()}.Subsingleton := by
  rintro ⟨family, kind⟩ ⟨layout, h⟩ ⟨family', kind'⟩ ⟨layout', h'⟩
  obtain ⟨ls, hne, hclean, rfl, hc⟩ := importArtifact_certifies h
  obtain ⟨ms, hms, hmsClean, hbytes, hc'⟩ := importArtifact_certifies h'
  obtain rfl := finish_injective hne hms hclean hmsClean hbytes
  obtain ⟨rfl, rfl⟩ := agree_of_certified hc hc' fun _ hl => hl
  rfl

/- The importer that took the file refuses it with an error, and no other one takes it. -/
theorem tampered_artifacts_rejected (layout : Layout) (family : EngineFamily)
    (kind : ArtifactKind) (bytes : Bytes)
    (h : importArtifact layout family kind bytes = .ok ()) :
    joinByteLines (byteLines bytes) = bytes ∧
      ∀ changed, Tampered NewLine (byteLines bytes) changed →
        (∃ e, importArtifact layout family kind (joinByteLines changed) = .error (.error e)) ∧
        ∀ (family' : EngineFamily) (kind' : ArtifactKind),
          importArtifact layout family' kind' (joinByteLines changed) ≠ .ok () := by
  have hown : joinByteLines (byteLines bytes) = bytes ∧
      ∀ changed, Tampered NewLine (byteLines bytes) changed →
        ∃ e, importArtifact layout family kind (joinByteLines changed) = .error (.error e) := by
    cases family with
    | counter => exact Simulation.import_tampered h
    | settlement => exact Simulation.import_tampered h
  obtain ⟨hjoin, hrefused⟩ := hown
  refine ⟨hjoin, fun changed ht => ⟨hrefused changed ht, fun family' kind' h' => ?_⟩⟩
  obtain ⟨e, he⟩ := hrefused changed ht
  obtain ⟨ls, hne, hclean, rfl, hc⟩ := importArtifact_certifies h
  obtain ⟨ms, hms, hmsClean, hbytes, hc'⟩ := importArtifact_certifies h'
  have hagree : family = family' ∧ kind = kind' := by
    rcases lines_of_tampered hne hclean hms hmsClean ht hbytes with hsub | hsub
    · obtain ⟨hfamily, hkind⟩ := agree_of_certified hc' hc hsub
      exact ⟨hfamily.symm, hkind.symm⟩
    · exact agree_of_certified hc hc' hsub
  obtain ⟨rfl, rfl⟩ := hagree
  rw [he] at h'
  cases h'

theorem GoldenFixtureSerializer.fields_first {C Snapshot Config : Type}
    {s : GoldenFixtureSerializer C Snapshot Config} {layout : Layout} {ls : List Line}
    {f : GoldenFixture C Snapshot Config} (h : (s.fields layout).Reads ls f) :
    ∃ tail, ls = ("artifact", "golden_fixture") ::
      ("canonical_encoding", CANONICAL_TEXT_ENCODING) :: tail := by
  unfold fields at h
  obtain ⟨l1, r1, _, rfl, hkind, h1⟩ := bind_reads.mp h
  obtain ⟨l2, r2, _, rfl, hencoding, -⟩ := bind_reads.mp h1
  rw [expectField_reads.mp hkind, expectField_reads.mp hencoding]
  exact ⟨_, rfl⟩

/- The fixture of the two ticks without its first line, with it twice, with the first two
lines exchanged, and with a line after its end. -/
theorem tampered_artifacts_rejected_two_ticks : ∃ b f first second tail,
    counterGoldenFixtureCodec.decode unitLayout b = .ok f ∧
      f.replayArtifact.records.map (·.snapshot.isSome) = [true, true] ∧
      importArtifact unitLayout .counter .goldenFixture b = .ok () ∧
      byteLines b = first :: second :: tail ∧
      ∀ changed ∈ [second :: tail, first :: first :: second :: tail, second :: first :: tail,
          first :: second :: tail ++ [[120]]],
        (∃ e, importArtifact unitLayout .counter .goldenFixture (joinByteLines changed) =
          .error (.error e)) ∧
        ∀ (family' : EngineFamily) (kind' : ArtifactKind),
          importArtifact unitLayout family' kind' (joinByteLines changed) ≠ .ok () := by
  obtain ⟨f, b, _, _, hf⟩ := exists_twoSteps_fixture
  have himport : importArtifact unitLayout .counter .goldenFixture b = .ok () := by
    have hfixture : counterSimulation.goldenFixtureCodec.decode unitLayout b = .ok f := hf.decodes
    simp only [importArtifact, Simulation.importArtifact, hfixture]
    rfl
  obtain ⟨_, hread, -⟩ := bind_eq_ok.mp hf.decodes
  obtain ⟨ls, hne, hclean, hbytes, hreads⟩ := readAll_eq_ok.mp hread
  obtain ⟨tail, hls⟩ := GoldenFixtureSerializer.fields_first hreads
  obtain ⟨-, hrejected⟩ :=
    tampered_artifacts_rejected unitLayout .counter .goldenFixture b himport
  have hlines : byteLines b = ls.map lineBytes := by rw [hbytes, byteLines_finish hne hclean]
  rw [hls, List.map_cons, List.map_cons] at hlines
  refine ⟨b, f, _, _, _, hf.decodes, hf.snapshots, himport, hlines, ?_⟩
  rw [hlines] at hrejected
  simp only [List.forall_mem_cons]
  exact ⟨hrejected _ (.delete [] ..), hrejected _ (.duplicate [] _ _ (by simp)),
    hrejected _ (.exchange [] _ [] ..), hrejected _ (.append _ [120] ⟨by decide, by decide⟩),
    List.forall_mem_nil _⟩

end XenorEngine.Rust
