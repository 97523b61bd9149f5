import XenorEngine.Rust.ReplayGuarantees

/-!
# Golden fixtures, for both simulations
-/

namespace XenorEngine.Rust
open XenorEngine.Lib.ByteText XenorEngine.Lib.Fallible XenorEngine.Lib.Runs
open ReplayArtifactSerializer (orFail_eq_ok executionResult_eq_ok)

/-- The fixtures a decoder can return. -/
abbrev CounterGoldenFixture.Representable (layout : Layout) (f : CounterGoldenFixture) : Prop :=
  GoldenFixtureSerializer.Representable layout CounterSimulationConfig.Representable f

abbrev SettlementGoldenFixture.Representable (layout : Layout) (f : SettlementGoldenFixture) :
    Prop := GoldenFixtureSerializer.Representable layout (fun _ => True) f

/-! ### Generated fixtures -/

namespace Simulation
variable {Config S C P V Snapshot : Type} {sim : Simulation Config S C P V Snapshot}
  [SimulationState S Snapshot] [LawfulSimulationState S Snapshot] [StateValidator V S]
  [Phase P S C Snapshot] [PurePhase P S C Snapshot] [QuietPhase P S C Snapshot]
  [SimulationConfig Config] [DecidableEq C] [DecidableEq Snapshot] [DecidableEq Config]
  [Debug C] [Debug Snapshot] [Debug Config] {fits : Config → Prop}

theorem generated_fixture_verifies (hl : sim.Lawful fits) (layout : Layout)
    {scenario : SimulationScenario C Config} (hv : sim.scenarioCodec.Valid scenario)
    {execution : ScenarioExecutionResult C Snapshot}
    (hexec : sim.executeScenario scenario = .ok execution) :
    ∃ f b result, sim.generateGoldenFixtureFromScenario scenario = .ok f ∧
      f.replayArtifact = execution.replay.artifact ∧
      sim.goldenFixtureCodec.encode f = .ok b ∧
      (GoldenFixtureSerializer.Representable layout fits f →
        sim.goldenFixtureCodec.decode layout b = .ok f) ∧
      sim.verifyGoldenFixture f = .ok result ∧ result.passed = true := by
  obtain ⟨f, hgenerate, hgenerated, hw, hc, ht⟩ := generate_of_executed hl hv hexec
  obtain ⟨result, hverify, hpassed⟩ := verify_of_generated hl hexec hgenerated hw hc ht
  have hencode := GoldenFixtureSerializer.encode_eq_ok'.mpr ⟨⟨hw, hc⟩, rfl⟩
  exact ⟨f, _, result, hgenerate, hgenerated.replay, hencode,
    fun hr => (fixture_codec_law hl layout).roundTrip hencode ⟨hr, ht⟩, hverify, hpassed⟩

end Simulation

/- A scenario that runs makes a fixture that survives export and import and verifies.
Vectors that exist in memory are representable. -/
theorem scenario_fixture_verifies (layout : Layout) :
    (∀ (configArtifact : CounterConfigArtifact) (configBytes : Bytes) (seed : Seed)
      (frames : List (InputFrame CounterCommand)) (parity : Option ParityArtifactSummary)
      (execution : CounterScenarioExecutionResult),
      counterConfigArtifactCodec.encode configArtifact = .ok configBytes →
      executeCounterScenario (SimulationScenarioSerializer.buildScenario configArtifact seed frames
        parity) = .ok execution →
      ∃ f b result, generateCounterGoldenFixtureFromScenario
          (SimulationScenarioSerializer.buildScenario configArtifact seed frames parity) = .ok f ∧
        f.replayArtifact = execution.replay.artifact ∧
        counterGoldenFixtureCodec.encode f = .ok b ∧
        (CounterGoldenFixture.Representable layout f →
          counterGoldenFixtureCodec.decode layout b = .ok f) ∧
        verifyCounterGoldenFixture f = .ok result ∧ result.passed = true) ∧
    (∀ (configArtifact : SettlementConfigArtifact) (configBytes : Bytes) (seed : Seed)
      (frames : List (InputFrame SettlementCommand)) (parity : Option ParityArtifactSummary)
      (execution : SettlementScenarioExecutionResult),
      settlementConfigArtifactCodec.encode configArtifact = .ok configBytes →
      executeSettlementScenario (SimulationScenarioSerializer.buildScenario configArtifact seed
        frames parity) = .ok execution →
      ∃ f b result, generateSettlementGoldenFixtureFromScenario
          (SimulationScenarioSerializer.buildScenario configArtifact seed frames parity) = .ok f ∧
        f.replayArtifact = execution.replay.artifact ∧
        settlementGoldenFixtureCodec.encode f = .ok b ∧
        (SettlementGoldenFixture.Representable layout f →
          settlementGoldenFixtureCodec.decode layout b = .ok f) ∧
        verifySettlementGoldenFixture f = .ok result ∧ result.passed = true) := by
  constructor
  · intro configArtifact configBytes seed frames parity execution hconfig hexec
    have hvalid : counterSimulation.scenarioCodec.Valid (SimulationScenarioSerializer.buildScenario
        configArtifact seed frames parity) := ⟨rfl, ⟨configBytes, hconfig⟩, fun _ _ => ⟨_, rfl⟩⟩
    exact Simulation.generated_fixture_verifies counter_lawful layout hvalid hexec
  · intro configArtifact configBytes seed frames parity execution hconfig hexec
    have hvalid : settlementSimulation.scenarioCodec.Valid (SimulationScenarioSerializer.buildScenario
        configArtifact seed frames parity) := ⟨rfl, ⟨configBytes, hconfig⟩, fun _ _ => ⟨_, rfl⟩⟩
    exact Simulation.generated_fixture_verifies settlement_lawful layout hvalid hexec

/-- A fixture of the two ticks, with the bytes it is read back from and its verification. -/
structure TwoStepsFixture (f : CounterGoldenFixture) (b : Bytes) (result : GoldenFixtureResult)
    (execution : CounterScenarioExecutionResult) : Prop where
  executes : executeCounterScenario twoStepsScenario = .ok execution
  generates : generateCounterGoldenFixtureFromScenario twoStepsScenario = .ok f
  generated : counterSimulation.Generated twoStepsScenario execution f
  representable : CounterGoldenFixture.Representable unitLayout f
  snapshots : f.replayArtifact.records.map (·.snapshot.isSome) = [true, true]
  snapshot : f.snapshotArtifact.isSome = true
  decodes : counterGoldenFixtureCodec.decode unitLayout b = .ok f
  verifies : verifyCounterGoldenFixture f = .ok result
  passed : result.passed = true

theorem exists_twoSteps_fixture : ∃ f b result execution, TwoStepsFixture f b result execution := by
  obtain ⟨recorded, execution, hrecorded, hexec, hreplay, hfinal⟩ := twoSteps_recorded
  obtain ⟨f, hgenerate, hgenerated, hw, hc, ht⟩ :=
    Simulation.generate_of_executed counter_lawful twoSteps_valid hexec
  obtain ⟨result, hverify, hpassed⟩ :=
    Simulation.verify_of_generated counter_lawful hexec hgenerated hw hc ht
  have hrep : CounterGoldenFixture.Representable unitLayout f :=
    Simulation.representable_of_generated counter_lawful counter_hasPhases twoSteps_holds
      (Nat.zero_le _) hexec hgenerated
  have hencode := GoldenFixtureSerializer.encode_eq_ok'.mpr ⟨⟨hw, hc⟩, rfl⟩
  refine ⟨f, _, result, execution, ⟨hexec, hgenerate, hgenerated, hrep, ?_, ?_,
    (Simulation.fixture_codec_law counter_lawful unitLayout).roundTrip hencode ⟨hrep, ht⟩,
    hverify, hpassed⟩⟩
  · rw [hgenerated.replay, hreplay]
    exact hrecorded.snapshots
  · rw [hgenerated.snapshot, hfinal]
    exact hrecorded.snapshot

theorem scenario_fixture_verifies_two_ticks : ∃ f b result,
    generateCounterGoldenFixtureFromScenario twoStepsScenario = .ok f ∧
      f.replayArtifact.records.map (·.snapshot.isSome) = [true, true] ∧
      f.snapshotArtifact.isSome = true ∧
      counterGoldenFixtureCodec.encode f = .ok b ∧
      counterGoldenFixtureCodec.decode unitLayout b = .ok f ∧
      verifyCounterGoldenFixture f = .ok result ∧ result.passed = true := by
  obtain ⟨f', _, _, execution, hf⟩ := exists_twoSteps_fixture
  obtain ⟨configBytes, hconfig⟩ := twoSteps_valid.config
  obtain ⟨f, b, result, hgenerate, -, hencode, hdecode, hverify, hpassed⟩ :=
    (scenario_fixture_verifies unitLayout).1 _ configBytes 7 _ none execution hconfig hf.executes
  obtain rfl := Except.ok.inj (hf.generates.symm.trans hgenerate)
  exact ⟨f', b, result, hgenerate, hf.snapshots, hf.snapshot, hencode,
    hdecode hf.representable, hverify, hpassed⟩

/-! ### What passing means -/

/- Of the fixtures that are read, those pass whose replay and snapshot are the rerun's. -/
theorem fixture_passed_iff (layout : Layout) :
    (∀ (b : Bytes) (f : CounterGoldenFixture) (result : GoldenFixtureResult),
      counterGoldenFixtureCodec.decode layout b = .ok f →
      verifyCounterGoldenFixture f = .ok result →
      (result.passed = true ↔ ∃ recorded, recordCounterReplayWithConfig
          f.effectiveConfig.payload f.effectiveSeed f.effectiveFrames = .ok recorded ∧
        f.replayArtifact = recorded.artifact ∧
        f.snapshotArtifact = recorded.result.finalSnapshot)) ∧
    (∀ (b : Bytes) (f : SettlementGoldenFixture) (result : GoldenFixtureResult),
      settlementGoldenFixtureCodec.decode layout b = .ok f →
      verifySettlementGoldenFixture f = .ok result →
      (result.passed = true ↔ ∃ recorded, recordSettlementReplayWithConfig
          f.effectiveConfig.payload f.effectiveSeed f.effectiveFrames = .ok recorded ∧
        f.replayArtifact = recorded.artifact ∧
        f.snapshotArtifact = recorded.result.finalSnapshot)) :=
  ⟨fun _ _ _ hdecode hverify => Simulation.passed_iff_of_decode counter_lawful hdecode hverify,
    fun _ _ _ hdecode hverify => Simulation.passed_iff_of_decode settlement_lawful hdecode hverify⟩

theorem fixture_passed_iff_two_ticks :
    ∃ (f : CounterGoldenFixture) (recorded : CounterRecordedReplay),
      f.replayArtifact.records.map (·.snapshot.isSome) = [true, true] ∧
      f.snapshotArtifact.isSome = true ∧
      recordCounterReplayWithConfig f.effectiveConfig.payload f.effectiveSeed f.effectiveFrames =
        .ok recorded ∧
      f.replayArtifact = recorded.artifact ∧
      f.snapshotArtifact = recorded.result.finalSnapshot := by
  obtain ⟨f, b, result, _, hf⟩ := exists_twoSteps_fixture
  obtain ⟨recorded, hrec, hreplay, hsnapshot⟩ :=
    ((fixture_passed_iff unitLayout).1 b f result hf.decodes hf.verifies).mp hf.passed
  exact ⟨f, recorded, hf.snapshots, hf.snapshot, hrec, hreplay, hsnapshot⟩

/-! ### Fixtures with a snapshot of their own -/

/-- The initial counter, presented as the snapshot of a tick the replay does not have. -/
def straySnapshot : CounterSnapshotArtifact :=
  counterSnapshotArtifactCodec.buildArtifact 7 (counterSimulation.identityOf .default)
    ⟨⟨2, 1, 0⟩, .manual, (CounterState.withInitialEntities 0 0 []).snapshot⟩

theorem straySnapshot_encodes : ∃ b, counterSnapshotArtifactCodec.encode straySnapshot = .ok b := by
  have hvalid : (CounterState.withInitialEntities 0 0 []).snapshot.Valid := by
    refine CounterState.snapshot_valid (CounterState.withInitialEntities_counted 0 0 []) ?_
    intro id hid
    rw [List.mem_singleton.mp hid]
    decide
  exact ⟨_, SnapshotArtifact.encodeSnapshotArtifactBytes_eq_ok.mpr ⟨⟨rfl, rfl, rfl,
    ⟨_, CounterSnapshotTextSerializer.encode_eq_ok.mpr ⟨hvalid, rfl⟩⟩⟩, rfl⟩⟩

/- An empty replay with or without the stray snapshot can be written and is read back,
whatever its summary says where summaries are not compared. -/
theorem exists_stray_fixture {snapshot : Option CounterSnapshotArtifact}
    (hsnapshot : ∀ a ∈ snapshot, a = straySnapshot) (edit : ArtifactSummary → ArtifactSummary)
    (hedit : ∀ summary, SameParity summary (edit summary)) :
    ∃ b f expected, counterGoldenFixtureCodec.decode unitLayout b = .ok f ∧
      f.snapshotArtifact = snapshot ∧ f.replayArtifact = emptyReplay .default (.every 1) ∧
      counterGoldenFixtureCodec.fixtureSummaryFromArtifacts f.replayArtifact f.snapshotArtifact
        f.scenarioArtifact = .ok expected ∧ f.summary = edit expected := by
  have hvalid : counterReplayArtifactCodec.Valid (emptyReplay .default (.every 1)) :=
    ReplayArtifactSerializer.valid_artifactOf trivial (by simp)
  obtain ⟨base, hbase⟩ := ReplayArtifactSerializer.exists_summary hvalid
  have hstray : ∀ a ∈ snapshot, ∃ d, counterSnapshotArtifactCodec.digest a = .ok d := by
    intro a ha
    rw [hsnapshot a ha]
    obtain ⟨b, hb⟩ := straySnapshot_encodes
    exact ⟨_, map_eq_ok.mpr ⟨b, hb, rfl⟩⟩
  obtain ⟨digest, hdigest⟩ := transpose_map_ok hstray
  obtain ⟨expected, hexpected⟩ : ∃ expected, counterGoldenFixtureCodec.fixtureSummaryFromArtifacts
      (emptyReplay .default (.every 1)) snapshot none = .ok expected :=
    ⟨_, GoldenFixtureSerializer.fixtureSummary_eq_ok.mpr
      ⟨base, digest, none, hbase, hdigest, rfl, rfl⟩⟩
  let f : CounterGoldenFixture := ⟨⟨GOLDEN_FIXTURE_SCHEMA_VERSION⟩,
    counterSimulation.configArtifactOf .default, none, emptyReplay .default (.every 1), snapshot,
    edit expected⟩
  have hw : counterGoldenFixtureCodec.Writable f := by
    refine ⟨rfl, Simulation.configArtifactOf_encodes counter_lawful rfl, by rintro a ⟨⟩,
      ReplayArtifactSerializer.exists_encode_of_valid hvalid, fun a ha => ?_⟩
    rw [hsnapshot a ha]
    exact straySnapshot_encodes
  have hc : counterGoldenFixtureCodec.Consistent f := by
    refine ⟨⟨rfl, rfl, fun a ha => ?_, by rintro a ⟨⟩⟩, by rintro a ⟨⟩, expected, hexpected,
      hedit expected⟩
    rw [hsnapshot a ha]
    exact ⟨rfl, rfl⟩
  have hencode := GoldenFixtureSerializer.encode_eq_ok'.mpr ⟨⟨hw, hc⟩, rfl⟩
  have hrep : CounterGoldenFixture.Representable unitLayout f :=
    ⟨Nat.zero_le _, by rintro a ⟨⟩, ⟨Nat.zero_le _, Nat.zero_le _⟩, by rintro r ⟨⟩, Nat.zero_le _⟩
  exact ⟨_, f, expected, (Simulation.fixture_codec_law counter_lawful unitLayout).roundTrip
    hencode ⟨hrep, ⟨rfl, rfl⟩⟩, rfl, rfl, hexpected, rfl⟩

end XenorEngine.Rust
