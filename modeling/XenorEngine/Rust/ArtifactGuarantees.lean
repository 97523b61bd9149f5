import XenorEngine.Rust.ScenarioRuns

/-!
# Codecs and fixtures, for both simulations
-/

namespace XenorEngine.Rust
open XenorEngine.Lib.ByteText XenorEngine.Lib.LineText XenorEngine.Lib.Fallible
open XenorEngine.Lib.PrefixReader XenorEngine.Lib.FieldCodec
open ReplayArtifactSerializer (orFail_eq_ok executionResult_eq_ok)

/-! ### Payloads -/

/-- What a serializer encodes it decodes to the same value, so no two values share an
encoding. `fits` are the values that exist in memory. -/
structure Serializer.RoundTrips {T : Type} (s : Serializer T) (fits : T → Prop) : Prop where
  decodes : ∀ (v : T) (b : Bytes), fits v → s.encode v = .ok b → s.decode b = .ok v
  injective : ∀ (v w : T) (b : Bytes), fits v → fits w → s.encode v = .ok b →
    s.encode w = .ok b → v = w

theorem roundTrips_of_law {T : Type} {s : Serializer T} {fits : T → Prop} {depth : ℕ}
    (h : CodecLaw s.encode s.decode fits depth) : s.RoundTrips fits where
  decodes _ _ hf hb := h.roundTrip hb hf
  injective v w b hv hw hvb hwb := by
    have hdecode := h.roundTrip hvb hv
    rw [h.roundTrip hwb hw] at hdecode
    exact (Except.ok.inj hdecode).symm

/- Every value of the six payloads that is accepted. The number of entities of a counter
config is a `usize`. -/
theorem payloads_round_trip :
    counterCommandTextSerializer.RoundTrips (fun _ => True) ∧
    counterSnapshotTextSerializer.RoundTrips (fun _ => True) ∧
    counterConfigTextSerializer.RoundTrips CounterSimulationConfig.Representable ∧
    settlementCommandTextSerializer.RoundTrips (fun _ => True) ∧
    settlementSnapshotTextSerializer.RoundTrips (fun _ => True) ∧
    settlementConfigTextSerializer.RoundTrips (fun _ => True) :=
  ⟨roundTrips_of_law CounterCommandTextSerializer.codec_law,
    roundTrips_of_law CounterSnapshotTextSerializer.codec_law,
    roundTrips_of_law CounterConfigTextSerializer.codec_law,
    roundTrips_of_law SettlementCommandTextSerializer.codec_law,
    roundTrips_of_law SettlementSnapshotTextSerializer.codec_law,
    roundTrips_of_law SettlementConfigTextSerializer.codec_law⟩

/- Commands, the snapshot of three entities and the default configs are read back, and
commands of opposite delta have different bytes. -/
theorem payloads_round_trip_three_entities :
    (∃ b, counterCommandTextSerializer.encode ⟨-3, true⟩ = .ok b ∧
      counterCommandTextSerializer.decode b = .ok ⟨-3, true⟩ ∧
      counterCommandTextSerializer.encode ⟨3, true⟩ ≠ .ok b) ∧
    (∃ b, counterSnapshotTextSerializer.encode
        (CounterState.withInitialEntities 3 1 [⟨3, 1⟩, ⟨4, -1⟩]).snapshot = .ok b ∧
      counterSnapshotTextSerializer.decode b =
        .ok (CounterState.withInitialEntities 3 1 [⟨3, 1⟩, ⟨4, -1⟩]).snapshot) ∧
    (∃ b, counterConfigTextSerializer.encode .default = .ok b ∧
      counterConfigTextSerializer.decode b = .ok .default) ∧
    (∃ b, settlementCommandTextSerializer.encode (.setWorkerAllocation ⟨2, 1⟩) = .ok b ∧
      settlementCommandTextSerializer.decode b = .ok (.setWorkerAllocation ⟨2, 1⟩)) ∧
    ∃ b, settlementConfigTextSerializer.encode .default = .ok b ∧
      settlementConfigTextSerializer.decode b = .ok .default := by
  obtain ⟨hcommand, hsnapshot, hconfig, hallocation, -, hsettlement⟩ := payloads_round_trip
  refine ⟨⟨_, rfl, hcommand.decodes _ _ trivial rfl, fun h => ?_⟩,
    ⟨_, rfl, hsnapshot.decodes _ _ trivial rfl⟩,
    ⟨_, rfl, hconfig.decodes _ _ (Nat.zero_le _) rfl⟩,
    ⟨_, rfl, hallocation.decodes _ _ trivial rfl⟩, ⟨_, rfl, hsettlement.decodes _ _ trivial rfl⟩⟩
  have hsame := hcommand.injective _ _ _ trivial trivial h rfl
  exact absurd hsame (by decide)

/-! ### Replay artifacts -/

/- The encoder writes the totals of the metadata without looking at the records. -/
theorem replay_round_trip_iff (layout : Layout) :
    (∀ (a : CounterReplayArtifact) (b : Bytes), a.Representable layout →
      counterReplayArtifactCodec.encode a = .ok b →
      (counterReplayArtifactCodec.decode layout b = .ok a ↔
        a.metadata.recordCount = a.records.length ∧
          a.metadata.totalTicks = lastTick a.records)) ∧
    (∀ (a : SettlementReplayArtifact) (b : Bytes), a.Representable layout →
      settlementReplayArtifactCodec.encode a = .ok b →
      (settlementReplayArtifactCodec.decode layout b = .ok a ↔
        a.metadata.recordCount = a.records.length ∧
          a.metadata.totalTicks = lastTick a.records)) := by
  constructor
  · intro a b hr hb
    exact Simulation.replay_decodes_iff counter_lawful layout hr hb
  · intro a b hr hb
    exact Simulation.replay_decodes_iff settlement_lawful layout hr hb

/-- A replay of no frames that says it holds `count` of them. -/
def miscountedReplay (count : ℕ) : CounterReplayArtifact :=
  let a := counterReplayArtifactCodec.artifactOf 7 .never (counterSimulation.identityOf .default) []
  { a with metadata := { a.metadata with recordCount := count } }

theorem miscountedReplay_encode (count : ℕ) :
    ∃ b, counterReplayArtifactCodec.encode (miscountedReplay count) = .ok b := by
  refine ReplayArtifactSerializer.exists_encode_of_valid ⟨⟨rfl, rfl, rfl, rfl⟩, trivial, ?_⟩
  intro record hr
  cases hr

theorem miscountedReplay_representable {layout : Layout} {count : ℕ} (h : count ≤ USIZE_MAX) :
    (miscountedReplay count).Representable layout := by
  refine ⟨⟨by simp [miscountedReplay, ReplayArtifactSerializer.artifactOf], ?_⟩, ?_, h⟩
  · simp [miscountedReplay, ReplayArtifactSerializer.artifactOf]
  · intro record hr
    cases hr

theorem replay_round_trip_two_ticks : ∃ recorded b,
    recordCounterReplayWithConfig .default 7 twoStepsScenario.frames = .ok recorded ∧
      recorded.artifact.records.map (·.snapshot.isSome) = [true, true] ∧
      counterReplayArtifactCodec.encode recorded.artifact = .ok b ∧
      counterReplayArtifactCodec.decode unitLayout b = .ok recorded.artifact := by
  obtain ⟨recorded, _, h, -⟩ := twoSteps_recorded
  obtain ⟨b, hb⟩ := h.encodes
  exact ⟨recorded, b, h.records, h.snapshots, hb, ((replay_round_trip_iff unitLayout).1 _ b
    h.representable hb).mpr ⟨h.totals.recordCount, h.totals.totalTicks⟩⟩

/- What the encoder writes for a miscounted replay, the decoder rejects. -/
theorem miscounted_replay_does_not_read_back :
    ¬ ∀ (layout : Layout) (a : CounterReplayArtifact) (b : Bytes), a.Representable layout →
      counterReplayArtifactCodec.encode a = .ok b →
        counterReplayArtifactCodec.decode layout b = .ok a := by
  intro hall
  obtain ⟨b, hb⟩ := miscountedReplay_encode 1
  have h := hall unitLayout _ b (miscountedReplay_representable (by decide)) hb
  obtain ⟨⟨-, hcount, -⟩, -⟩ := (Simulation.replay_codec_law counter_lawful unitLayout).sound h
  exact absurd hcount (by decide)

/-! ### Spellings -/

/-- What is accepted for `a` reads as `encode a`, and is `encode a` iff it is plainly spelled. -/
def AcceptsSpellings {ε ε' T : Type} (encode : T → Except ε Bytes)
    (decode : Bytes → Except ε' T) : Prop :=
  ∀ b a, decode b = .ok a → ∃ b', encode a = .ok b' ∧ decode b' = .ok a ∧
    (b' = b ↔ plainSpelling 4 b = true)

theorem acceptsSpellings_of_law {ε ε' T : Type} {encode : T → Except ε Bytes}
    {decode : Bytes → Except ε' T} {fits : T → Prop} {depth : ℕ}
    (h : CodecLaw encode decode fits depth) (hdepth : depth ≤ 4) :
    AcceptsSpellings encode decode := by
  intro b a hb
  obtain ⟨hfits, b', hb', hplain⟩ := h.sound hb
  exact ⟨b', hb', h.roundTrip hb' hfits, eq_comm.trans (hplain 4 hdepth).symm⟩

theorem artifact_codecs_accept_spellings (layout : Layout) :
    (AcceptsSpellings counterConfigArtifactCodec.encode counterConfigArtifactCodec.decode ∧
      AcceptsSpellings counterScenarioCodec.encode (counterScenarioCodec.decode layout) ∧
      AcceptsSpellings counterReplayArtifactCodec.encode
        (counterReplayArtifactCodec.decode layout) ∧
      AcceptsSpellings counterSnapshotArtifactCodec.encode counterSnapshotArtifactCodec.decode ∧
      AcceptsSpellings counterGoldenFixtureCodec.encode
        (counterGoldenFixtureCodec.decode layout)) ∧
    (AcceptsSpellings settlementConfigArtifactCodec.encode settlementConfigArtifactCodec.decode ∧
      AcceptsSpellings settlementScenarioCodec.encode (settlementScenarioCodec.decode layout) ∧
      AcceptsSpellings settlementReplayArtifactCodec.encode
        (settlementReplayArtifactCodec.decode layout) ∧
      AcceptsSpellings settlementSnapshotArtifactCodec.encode
        settlementSnapshotArtifactCodec.decode ∧
      AcceptsSpellings settlementGoldenFixtureCodec.encode
        (settlementGoldenFixtureCodec.decode layout)) := by
  refine ⟨⟨?_, ?_, ?_, ?_, ?_⟩, ?_, ?_, ?_, ?_, ?_⟩
  · exact acceptsSpellings_of_law (Simulation.config_codec_law counter_lawful) (by decide)
  · exact acceptsSpellings_of_law (Simulation.scenario_codec_law counter_lawful layout) (by decide)
  · exact acceptsSpellings_of_law (Simulation.replay_codec_law counter_lawful layout) (by decide)
  · exact acceptsSpellings_of_law (Simulation.snapshot_codec_law counter_lawful) (by decide)
  · exact acceptsSpellings_of_law (Simulation.fixture_codec_law counter_lawful layout) (by decide)
  · exact acceptsSpellings_of_law (Simulation.config_codec_law settlement_lawful) (by decide)
  · exact acceptsSpellings_of_law (Simulation.scenario_codec_law settlement_lawful layout)
      (by decide)
  · exact acceptsSpellings_of_law (Simulation.replay_codec_law settlement_lawful layout)
      (by decide)
  · exact acceptsSpellings_of_law (Simulation.snapshot_codec_law settlement_lawful) (by decide)
  · exact acceptsSpellings_of_law (Simulation.fixture_codec_law settlement_lawful layout)
      (by decide)

/-- The default config artifact, its engine family spelled with upper-case digits. -/
def upperCaseLines : CanonicalLineWriter :=
  [("artifact", "config"),
   ("canonical_encoding", CANONICAL_TEXT_ENCODING),
   ("artifact_schema_version", toString CONFIG_ARTIFACT_SCHEMA_VERSION),
   ("engine_family_hex", "78656E6F722D656E67696E652D727573742F636F756E746572"),
   ("config_payload_schema_version", toString counterConfigTextSerializer.schemaVersion),
   ("config_digest", toString (counterSimulation.identityOf .default).digest),
   ("payload_hex", encodeHex (encoded counterConfigTextSerializer.encode .default))]

theorem upperCase_engineFamily : decodeHexString
    "78656E6F722D656E67696E652D727573742F636F756E746572" "config artifact engine family" =
      .ok COUNTER_ENGINE_FAMILY := by
  decide +kernel

/-- The same artifact, as the encoder spells it. -/
def lowerCaseLines : CanonicalLineWriter :=
  ConfigArtifactSerializer.lines (counterSimulation.configArtifactOf .default)
    (encoded counterConfigTextSerializer.encode .default)

theorem lowerCase_encode :
    counterConfigArtifactCodec.encode (counterSimulation.configArtifactOf .default) =
      .ok (CanonicalLineWriter.finish lowerCaseLines) :=
  ConfigArtifactSerializer.encode_eq_ok'.mpr
    ⟨⟨rfl, rfl, rfl, (counter_lawful.config .default).mpr rfl, rfl⟩, rfl⟩

theorem lowerCase_clean : ∀ l ∈ lowerCaseLines, Clean l :=
  (ConfigArtifactSerializer.fields_codec (s := counterConfigArtifactCodec)
    CounterConfigTextSerializer.codec_law le_rfl).legal
      (counterSimulation.configArtifactOf .default)
      ⟨rfl, rfl, rfl, (counter_lawful.config .default).mpr rfl, Nat.zero_le _⟩

theorem upperCase_clean : ∀ l ∈ upperCaseLines, Clean l := by
  have hlower := lowerCase_clean
  simp only [lowerCaseLines, ConfigArtifactSerializer.lines, List.forall_mem_cons] at hlower
  obtain ⟨h1, h2, h3, -, h5, h6, h7, h8⟩ := hlower
  simp only [upperCaseLines, List.forall_mem_cons]
  refine ⟨h1, h2, h3, ?_, h5, h6, h7, h8⟩
  exact clean_of_goodKey (by decide : GoodKey .hex _) (by decide)

theorem defaultConfig_payload :
    counterConfigArtifactCodec.decodePayload
      (encodeHex (encoded counterConfigTextSerializer.encode .default)) = .ok .default := by
  have henc : counterConfigTextSerializer.encode .default =
      .ok (encoded counterConfigTextSerializer.encode .default) :=
    CounterConfigTextSerializer.encode_eq_ok.mpr ⟨rfl, rfl⟩
  refine bind_eq_ok.mpr ⟨_, mapError_eq_ok.mpr (decodeHex_encodeHex _ _), mapError_eq_ok.mpr ?_⟩
  exact CounterConfigTextSerializer.codec_law.roundTrip henc (Nat.zero_le _)

theorem upperCase_decode :
    counterConfigArtifactCodec.decode (CanonicalLineWriter.finish upperCaseLines) =
      .ok (counterSimulation.configArtifactOf .default) := by
  refine ConfigArtifactSerializer.decode_eq_ok.mpr ⟨readAll_eq_ok.mpr ⟨upperCaseLines,
    List.cons_ne_nil _ _, upperCase_clean, rfl, ?_⟩,
    ConfigArtifactSerializer.identity_eq_ok.mpr ⟨(counter_lawful.config .default).mpr rfl, rfl⟩⟩
  unfold ConfigArtifactSerializer.fields upperCaseLines
  refine bind_reads.mpr ⟨[_], _, (), rfl, expectField_reads.mpr rfl, ?_⟩
  refine bind_reads.mpr ⟨[_], _, (), rfl, expectField_reads.mpr rfl, ?_⟩
  refine bind_reads.mpr ⟨[_], _, CONFIG_ARTIFACT_SCHEMA_VERSION, rfl,
    readField_reads.mpr ⟨_, rfl, rfl⟩, ?_⟩
  refine bind_reads.mpr ⟨[], _, (), rfl, lift_reads.mpr ⟨rfl, rfl⟩, ?_⟩
  refine bind_reads.mpr ⟨[_], _, COUNTER_ENGINE_FAMILY, rfl, readField_reads.mpr
    ⟨_, rfl, mapError_eq_ok.mpr upperCase_engineFamily⟩, ?_⟩
  refine bind_reads.mpr ⟨[], _, (), rfl, lift_reads.mpr ⟨rfl, rfl⟩, ?_⟩
  refine bind_reads.mpr ⟨[_], _, counterConfigTextSerializer.schemaVersion, rfl,
    readField_reads.mpr ⟨_, rfl, rfl⟩, ?_⟩
  refine bind_reads.mpr ⟨[], _, (), rfl, lift_reads.mpr ⟨rfl, rfl⟩, ?_⟩
  refine bind_reads.mpr ⟨[_], _, (counterSimulation.identityOf .default).digest, rfl,
    readField_reads.mpr ⟨_, rfl, ?_⟩, ?_⟩
  · exact (spells_parseNumber spells_u64 _ _).parse_print _ trivial
  refine bind_reads.mpr ⟨[_], [], .default, rfl,
    readField_reads.mpr ⟨_, rfl, defaultConfig_payload⟩, pure_reads.mpr ⟨rfl, rfl⟩⟩

/- Two spellings of the default config are accepted, and one of them is written. -/
theorem upper_case_artifact_is_written_differently :
    ¬ ∀ (b : Bytes) (a : CounterConfigArtifact), counterConfigArtifactCodec.decode b = .ok a →
      counterConfigArtifactCodec.encode a = .ok b := by
  intro hall
  have h := (hall _ _ upperCase_decode).symm.trans lowerCase_encode
  have hupper : CanonicalLineReader.new (CanonicalLineWriter.finish upperCaseLines) "" =
      .ok (Cursor.start upperCaseLines) :=
    reader_new_finish (List.cons_ne_nil _ _) upperCase_clean ""
  have hlower : CanonicalLineReader.new (CanonicalLineWriter.finish lowerCaseLines) "" =
      .ok (Cursor.start lowerCaseLines) :=
    reader_new_finish (List.cons_ne_nil _ _) lowerCase_clean ""
  rw [← Except.ok.inj h, hupper, Except.ok.injEq] at hlower
  have hlines := congrArg (fun c => (c.rest[3]?).map (·.2)) hlower
  exact absurd hlines (by decide +kernel)

end XenorEngine.Rust
