import XenorEngine.Rust.FixtureCheck
import XenorEngine.Rust.Simulation

/-!
# Fixtures of a lawful simulation

A scenario that runs makes a fixture that can be written, read back and verified.
Of a fixture that was read, verification accepts the faithful ones.
-/

namespace XenorEngine.Rust
open XenorEngine.Lib.ByteText XenorEngine.Lib.Fallible XenorEngine.Lib.Runs
open ReplayArtifactSerializer (orFail_eq_ok executionResult_eq_ok)
open Debug (debug)

namespace Simulation
variable {Config S C P V Snapshot : Type} {sim : Simulation Config S C P V Snapshot}
  [SimulationState S Snapshot] [LawfulSimulationState S Snapshot] [StateValidator V S]
  [Phase P S C Snapshot] [PurePhase P S C Snapshot] [QuietPhase P S C Snapshot]
  [SimulationConfig Config] {fits : Config → Prop}

/-! ### The codecs of a lawful simulation -/

section Codecs
variable (hl : sim.Lawful fits) (layout : Layout)
include hl

omit [LawfulSimulationState S Snapshot] [PurePhase P S C Snapshot] [QuietPhase P S C Snapshot]

theorem config_codec_law : CodecLaw sim.configArtifactCodec.encode sim.configArtifactCodec.decode
    (fun a => fits a.payload) 2 :=
  ConfigArtifactSerializer.codec_law hl.configLaw

theorem scenario_codec_law : CodecLaw sim.scenarioCodec.encode (sim.scenarioCodec.decode layout)
    (SimulationScenarioSerializer.Representable layout fits) 3 :=
  SimulationScenarioSerializer.codec_law hl.commandLaw (config_codec_law hl)

theorem replay_codec_law :
    CodecLaw sim.replayArtifactCodec.encode (sim.replayArtifactCodec.decode layout)
      (fun a => a.Representable layout ∧ TotalsMatch a) 2 :=
  ReplayArtifactSerializer.codec_law hl.commandLaw hl.snapshotLaw

/- The decoder takes an artifact back when the totals it was written with are its own. -/
theorem replay_decodes_iff {a : ReplayArtifact C Snapshot} {b : Bytes}
    (hr : a.Representable layout) (hb : sim.replayArtifactCodec.encode a = .ok b) :
    sim.replayArtifactCodec.decode layout b = .ok a ↔
      a.metadata.recordCount = a.records.length ∧
        a.metadata.totalTicks = lastTick a.records := by
  have hlaw := replay_codec_law hl layout
  constructor
  · intro h
    obtain ⟨⟨-, hcount, hticks⟩, -⟩ := hlaw.sound h
    exact ⟨hcount, hticks⟩
  · rintro ⟨hcount, hticks⟩
    exact hlaw.roundTrip hb ⟨hr, hcount, hticks⟩

theorem snapshot_codec_law :
    CodecLaw sim.snapshotArtifactCodec.encode sim.snapshotArtifactCodec.decode
      (fun _ => True) 2 := by
  rw [hl.snapshotCodec]
  exact SnapshotArtifact.codec_law hl.snapshotLaw

theorem fixture_codec_law [DecidableEq C] [DecidableEq Config] [Debug C] [Debug Config] :
    CodecLaw sim.goldenFixtureCodec.encode (sim.goldenFixtureCodec.decode layout)
      (fun f => GoldenFixtureSerializer.Representable layout fits f ∧
        TotalsMatch f.replayArtifact) 4 :=
  GoldenFixtureSerializer.codec_law (config_codec_law hl) (scenario_codec_law hl layout)
    (replay_codec_law hl layout) (snapshot_codec_law hl)

end Codecs

/-! ### Configs that can be written -/

omit [LawfulSimulationState S Snapshot] [PurePhase P S C Snapshot] [QuietPhase P S C Snapshot] in
theorem configArtifact_of_encode (hl : sim.Lawful fits) {a : ConfigArtifact Config}
    (h : ∃ b, sim.configArtifactCodec.encode a = .ok b) :
    sim.validate a.payload = .ok () ∧ a.metadata.identity = sim.identityOf a.payload := by
  obtain ⟨b, hb⟩ := h
  have hv := (ConfigArtifactSerializer.encode_eq_ok'.mp hb).1
  refine ⟨(hl.config a.payload).mp hv.payload, ?_⟩
  obtain ⟨⟨version, family, ⟨payloadVersion, digest⟩⟩, payload⟩ := a
  have h1 := hv.payloadVersion
  have h2 := hv.digest
  simp only at h1 h2
  rw [h1, ← h2]
  rfl

omit [LawfulSimulationState S Snapshot] [PurePhase P S C Snapshot] [QuietPhase P S C Snapshot] in
theorem configArtifactOf_encodes (hl : sim.Lawful fits) {config : Config}
    (hv : sim.validate config = .ok ()) :
    ∃ b, sim.configArtifactCodec.encode (sim.configArtifactOf config) = .ok b :=
  ⟨_, ConfigArtifactSerializer.encode_eq_ok'.mpr
    ⟨⟨rfl, rfl, rfl, (hl.config config).mpr hv, rfl⟩, rfl⟩⟩

/-! ### Generating -/

section Generate
variable [DecidableEq C] [DecidableEq Config] [Debug C] [Debug Config]
  {scenario : SimulationScenario C Config}

omit [LawfulSimulationState S Snapshot] [PurePhase P S C Snapshot] [QuietPhase P S C Snapshot]
  [DecidableEq C] [DecidableEq Config] [Debug C] [Debug Config] in
theorem executeScenario_eq_ok {execution : ScenarioExecutionResult C Snapshot} :
    sim.executeScenario scenario = .ok execution ↔ ∃ digest recorded,
      sim.scenarioCodec.digest scenario = .ok digest ∧
      recordReplay (fun seed _ => sim.buildEngineInternal seed scenario.configArtifact.payload)
        sim.replayArtifactCodec scenario.baseSeed
        (SimulationConfig.snapshotPolicy scenario.configArtifact.payload)
        scenario.configArtifact.metadata.identity scenario.frames = .ok recorded ∧
      execution = ⟨digest, ⟨recorded.artifact, { recorded.result with summary :=
          { recorded.result.summary with scenarioDigest := some digest } }⟩,
        { recorded.result.summary with scenarioDigest := some digest },
        recorded.result.finalSnapshot, inspectReplayTrace recorded.artifact.records⟩ := by
  simp only [executeScenario, SimulationScenarioSerializer.execute, bind_eq_ok, orFail_eq_ok,
    pure_eq_ok]
  constructor
  · rintro ⟨digest, h1, recorded, h2, rfl⟩
    exact ⟨digest, recorded, h1, h2, rfl⟩
  · rintro ⟨digest, recorded, h1, h2, rfl⟩
    exact ⟨digest, h1, recorded, h2, rfl⟩

omit [DecidableEq C] [DecidableEq Config] [Debug C] [Debug Config] in
/- The run behind an execution: the digest has been taken, so the config is a valid one. -/
theorem executed_run (hl : sim.Lawful fits) {execution : ScenarioExecutionResult C Snapshot}
    (h : sim.executeScenario scenario = .ok execution) :
    ∃ (digest : UInt64) (recorded : RecordedReplay C Snapshot)
      (e : DeterministicEngine S C P V Snapshot) (Inv : S → Prop) (s' : S)
      (records : List (ReplayTickRecord C Snapshot)),
      sim.scenarioCodec.digest scenario = .ok digest ∧
      Runs (fun seed _ => sim.buildEngineInternal seed scenario.configArtifact.payload)
        sim.replayArtifactCodec scenario.baseSeed
        (SimulationConfig.snapshotPolicy scenario.configArtifact.payload) e Inv ∧
      e.machine.run e.state scenario.frames = .ok (s', records) ∧
      recorded.artifact = sim.replayArtifactCodec.artifactOf scenario.baseSeed
        (SimulationConfig.snapshotPolicy scenario.configArtifact.payload)
        scenario.configArtifact.metadata.identity records ∧
      executionResult sim.replayArtifactCodec .record recorded.artifact = .ok recorded.result ∧
      execution = ⟨digest, ⟨recorded.artifact, { recorded.result with summary :=
          { recorded.result.summary with scenarioDigest := some digest } }⟩,
        { recorded.result.summary with scenarioDigest := some digest },
        recorded.result.finalSnapshot, inspectReplayTrace recorded.artifact.records⟩ := by
  obtain ⟨digest, recorded, hdigest, hrec, hexecution⟩ := executeScenario_eq_ok.mp h
  obtain ⟨hvalid, -⟩ := configArtifact_of_encode hl
    (SimulationScenarioSerializer.exists_digest.mp ⟨digest, hdigest⟩).1
  obtain ⟨e, Inv, hruns⟩ := hl.runs scenario.configArtifact.payload scenario.baseSeed hvalid
  obtain ⟨s', records, hrun, hartifact, hresult⟩ := (recordReplay_runs hruns).mp hrec
  exact ⟨digest, recorded, e, Inv, s', records, hdigest, hruns, hrun, hartifact, hresult,
    hexecution⟩

/-- The fixture made from a scenario, before its summary is known. -/
structure Generated (sim : Simulation Config S C P V Snapshot)
    (scenario : SimulationScenario C Config) (execution : ScenarioExecutionResult C Snapshot)
    (f : GoldenFixture C Snapshot Config) : Prop where
  version : f.metadata.artifactSchemaVersion = GOLDEN_FIXTURE_SCHEMA_VERSION
  config : f.configArtifact = scenario.configArtifact
  scenario : f.scenarioArtifact = some scenario
  replay : f.replayArtifact = execution.replay.artifact
  snapshot : f.snapshotArtifact = execution.finalSnapshot
  summary : sim.goldenFixtureCodec.fixtureSummaryFromArtifacts f.replayArtifact
    f.snapshotArtifact f.scenarioArtifact = .ok f.summary

omit [LawfulSimulationState S Snapshot] [PurePhase P S C Snapshot] [QuietPhase P S C Snapshot]
  [DecidableEq C] [DecidableEq Config] [Debug C] [Debug Config] in
theorem sameSnapshots (hl : sim.Lawful fits) : sim.goldenFixtureCodec.SameSnapshots :=
  hl.snapshotCodec

omit [LawfulSimulationState S Snapshot] [PurePhase P S C Snapshot] [QuietPhase P S C Snapshot]
  [DecidableEq C] [DecidableEq Config] [Debug C] [Debug Config] in
/- The artifacts of a run have a summary. -/
theorem fixtureSummary_of_recorded (hl : sim.Lawful fits) {digest : UInt64}
    {recorded : RecordedReplay C Snapshot}
    (hdigest : sim.scenarioCodec.digest scenario = .ok digest)
    (hresult : executionResult sim.replayArtifactCodec .record recorded.artifact =
      .ok recorded.result) :
    ∃ summary, sim.goldenFixtureCodec.fixtureSummaryFromArtifacts recorded.artifact
      recorded.result.finalSnapshot (some scenario) = .ok summary := by
  obtain ⟨hsummary, -, -, -, hfinal⟩ := executionResult_eq_ok.mp hresult
  have hsnapshot : transpose (recorded.result.finalSnapshot.map
      sim.snapshotArtifactCodec.digest) = .ok recorded.result.summary.snapshotDigest := by
    rw [hfinal]
    exact GoldenFixtureSerializer.finalSnapshot_digest (sameSnapshots hl) hsummary
  have hscenario : transpose ((some scenario).map sim.scenarioCodec.digest) = .ok (some digest) := by
    rw [transpose_eq_ok, Option.map_some, hdigest]
    rfl
  exact ⟨_, GoldenFixtureSerializer.fixtureSummary_eq_ok.mpr
    ⟨_, _, _, hsummary, hsnapshot, hscenario, rfl⟩⟩

omit [LawfulSimulationState S Snapshot] [StateValidator V S] [Phase P S C Snapshot]
  [PurePhase P S C Snapshot] [QuietPhase P S C Snapshot] [SimulationConfig Config]
  [DecidableEq C] [DecidableEq Config] [Debug C] [Debug Config] [SimulationState S Snapshot] in
/- So does the final snapshot. -/
theorem finalSnapshot_valid {serializer : ReplayArtifactSerializer C Snapshot}
    {mode : ReplayExecutionMode} {artifact : ReplayArtifact C Snapshot}
    {result : ReplayExecutionResult Snapshot} (hvalid : serializer.Valid artifact)
    (hresult : executionResult serializer mode artifact = .ok result)
    {a : SnapshotArtifact Snapshot} (ha : a ∈ result.finalSnapshot) :
    SnapshotArtifact.Valid serializer.engineFamily serializer.snapshotSerializer
        SNAPSHOT_ARTIFACT_SCHEMA_VERSION a ∧
      a.metadata.baseSeed = artifact.metadata.baseSeed ∧
      a.metadata.configIdentity = artifact.metadata.configIdentity := by
  obtain ⟨-, -, -, -, hfinal⟩ := executionResult_eq_ok.mp hresult
  rw [hfinal] at ha
  obtain ⟨snapshot, hlast, rfl⟩ := Option.map_eq_some_iff.mp ha
  obtain ⟨record, hr, hs⟩ := lastSnapshot_some hlast
  exact ⟨ReplayArtifactSerializer.snapshotArtifact_valid hvalid hr hs _, rfl, rfl⟩

omit [DecidableEq C] [Debug C] in
theorem generate_of_executed (hl : sim.Lawful fits) (hv : sim.scenarioCodec.Valid scenario)
    {execution : ScenarioExecutionResult C Snapshot}
    (hexec : sim.executeScenario scenario = .ok execution) :
    ∃ f, sim.generateGoldenFixtureFromScenario scenario = .ok f ∧
      sim.Generated scenario execution f ∧ sim.goldenFixtureCodec.Writable f ∧
      sim.goldenFixtureCodec.Consistent f ∧ TotalsMatch f.replayArtifact := by
  obtain ⟨digest, recorded, e, Inv, s', records, hdigest, hruns, hrun, hartifact, hresult,
    hexecution⟩ := executed_run hl hexec
  obtain ⟨summary, hfixture⟩ := fixtureSummary_of_recorded hl hdigest hresult
  have hwritable := hruns.valid hrun scenario.configArtifact.metadata.identity
  rw [← hartifact] at hwritable
  have hsnapshot := fun a => finalSnapshot_valid hwritable hresult (a := a)
  have hidentity : recorded.artifact.metadata.configIdentity =
      scenario.configArtifact.metadata.identity := by rw [hartifact]; rfl
  have hpolicy : recorded.artifact.metadata.snapshotPolicy =
      SimulationConfig.snapshotPolicy scenario.configArtifact.payload := by rw [hartifact]; rfl
  have hseed : recorded.artifact.metadata.baseSeed = scenario.baseSeed := by rw [hartifact]; rfl
  have hframes : recorded.artifact.records.map (·.input) = scenario.frames := by
    rw [hartifact]
    exact (hruns.recorded hrun).inputs
  have hcontract : FixtureContract scenario.configArtifact (some scenario) recorded.artifact
      recorded.result.finalSnapshot := by
    refine ⟨hidentity, hpolicy, fun a ha => ?_, fun a ha => ?_⟩
    · obtain ⟨-, h1, h2⟩ := hsnapshot a ha
      exact ⟨h1, h2.trans hidentity⟩
    · obtain rfl := Option.some.inj ha
      rfl
  let f : GoldenFixture C Snapshot Config := ⟨⟨GOLDEN_FIXTURE_SCHEMA_VERSION⟩,
    scenario.configArtifact, some scenario, recorded.artifact, recorded.result.finalSnapshot,
    summary⟩
  have hbuild : sim.goldenFixtureCodec.buildFixture scenario.configArtifact (some scenario)
      recorded.artifact recorded.result.finalSnapshot = .ok f :=
    bind_eq_ok.mpr ⟨(), validateFixtureContract_eq_ok.mpr hcontract,
      bind_eq_ok.mpr ⟨summary, hfixture, rfl⟩⟩
  refine ⟨f, ?_, ?_, ?_, ?_, ?_⟩
  · rw [hexecution] at hexec
    exact bind_eq_ok.mpr ⟨_, hexec, orFail_eq_ok.mpr hbuild⟩
  · rw [hexecution]
    exact ⟨rfl, rfl, rfl, rfl, rfl, hfixture⟩
  · refine ⟨rfl, hv.config, fun a ha => ?_, ?_, fun a ha => ?_⟩
    · obtain rfl := Option.some.inj ha
      exact ⟨_, SimulationScenarioSerializer.encode_eq_ok'.mpr ⟨hv, rfl⟩⟩
    · exact ReplayArtifactSerializer.exists_encode_of_valid hwritable
    · change ∃ b, sim.snapshotArtifactCodec.encode a = .ok b
      rw [hl.snapshotCodec]
      exact ⟨_, SnapshotArtifact.encodeSnapshotArtifactBytes_eq_ok.mpr ⟨(hsnapshot a ha).1, rfl⟩⟩
  · refine ⟨hcontract, fun a ha => ?_, summary, hfixture, sameParity_refl _⟩
    obtain rfl := Option.some.inj ha
    exact ⟨rfl, hseed.symm, hframes.symm⟩
  · change TotalsMatch recorded.artifact
    rw [hartifact]
    exact ReplayArtifactSerializer.totalsMatch_artifactOf ..

omit [LawfulSimulationState S Snapshot] [PurePhase P S C Snapshot] [QuietPhase P S C Snapshot] in
/- A generated fixture passes. -/
theorem verify_of_generated [DecidableEq Snapshot] [Debug Snapshot] (hl : sim.Lawful fits)
    {execution : ScenarioExecutionResult C Snapshot}
    (hexec : sim.executeScenario scenario = .ok execution) {f : GoldenFixture C Snapshot Config}
    (hf : sim.Generated scenario execution f) (hw : sim.goldenFixtureCodec.Writable f)
    (hc : sim.goldenFixtureCodec.Consistent f) (ht : TotalsMatch f.replayArtifact) :
    ∃ result, sim.verifyGoldenFixture f = .ok result ∧ result.passed = true := by
  obtain ⟨digest, recorded, hdigest, hrec, hexecution⟩ := executeScenario_eq_ok.mp hexec
  have hrerun : sim.goldenFixtureCodec.rerunOf f = .ok
      ⟨scenario.configArtifact, scenario.baseSeed, scenario.frames, some digest⟩ :=
    GoldenFixtureSerializer.rerunOf_eq_ok.mpr (.inl ⟨scenario, digest, hf.scenario, hdigest, rfl⟩)
  have hreplay : f.replayArtifact = recorded.artifact := by rw [hf.replay, hexecution]
  have hsnapshot : f.snapshotArtifact = recorded.result.finalSnapshot := by
    rw [hf.snapshot, hexecution]
  have hpasses := (GoldenFixtureSerializer.passes_iff
    (sameSnapshots hl) hw ht hc hrerun hrec).mpr ⟨hreplay, hsnapshot⟩
  exact ⟨_, GoldenFixtureSerializer.verifyFixture_eq_ok.mpr
    ⟨_, recorded, none, hrerun, hrec, hpasses.snapshot, rfl⟩,
    (GoldenFixtureSerializer.report_passed hpasses.snapshot).mpr hpasses⟩

end Generate

/-! ### Reading -/

section Read
variable [DecidableEq C] [DecidableEq Config] [Debug C] [Debug Config]
  {layout : Layout} {b : Bytes} {f : GoldenFixture C Snapshot Config}

omit [LawfulSimulationState S Snapshot] [PurePhase P S C Snapshot] [QuietPhase P S C Snapshot] in
/- What is known of a fixture that was read. -/
theorem fixture_of_decode (hl : sim.Lawful fits)
    (h : sim.goldenFixtureCodec.decode layout b = .ok f) :
    sim.goldenFixtureCodec.Writable f ∧ sim.goldenFixtureCodec.Consistent f ∧
      f.replayArtifact.Representable layout ∧ TotalsMatch f.replayArtifact := by
  obtain ⟨⟨hr, ht⟩, b', hb', -⟩ := (fixture_codec_law hl layout).sound h
  obtain ⟨⟨hw, hc⟩, -⟩ := GoldenFixtureSerializer.encode_eq_ok'.mp hb'
  exact ⟨hw, hc, hr.replay, ht⟩

omit [LawfulSimulationState S Snapshot] [PurePhase P S C Snapshot] [QuietPhase P S C Snapshot] in
/- Of the fixtures that were read, the faithful ones pass. -/
theorem passed_iff_of_decode [DecidableEq Snapshot] [Debug Snapshot] (hl : sim.Lawful fits)
    (hdecode : sim.goldenFixtureCodec.decode layout b = .ok f) {result : GoldenFixtureResult}
    (hverify : sim.verifyGoldenFixture f = .ok result) :
    result.passed = true ↔ ∃ recorded,
      sim.recordReplayWithConfig f.effectiveConfig.payload f.effectiveSeed f.effectiveFrames =
        .ok recorded ∧
      f.replayArtifact = recorded.artifact ∧
      f.snapshotArtifact = recorded.result.finalSnapshot := by
  obtain ⟨hw, hc, -, ht⟩ := fixture_of_decode hl hdecode
  obtain ⟨rerun, recorded, mismatch, hrerun, hrec, hcompare, rfl⟩ :=
    GoldenFixtureSerializer.verifyFixture_eq_ok.mp hverify
  rw [GoldenFixtureSerializer.report_passed hcompare,
    GoldenFixtureSerializer.passes_iff (sameSnapshots hl) hw ht hc hrerun hrec]
  obtain ⟨hconfig, hseed, hframes⟩ := GoldenFixtureSerializer.rerun_effective hrerun
  have hown : rerun.effectiveConfig = f.configArtifact :=
    (GoldenFixtureSerializer.rerun_config hc hrerun).1
  obtain ⟨hvalid, hidentity⟩ := configArtifact_of_encode hl hw.config
  rw [← hown] at hvalid hidentity
  have hrecord : sim.recordReplayWithConfig f.effectiveConfig.payload f.effectiveSeed
      f.effectiveFrames = .ok recorded := by
    rw [← hconfig, ← hseed, ← hframes]
    refine (recordReplayWithConfig_eq_ok hl).mpr ⟨hvalid, ?_⟩
    rw [← hidentity]
    exact hrec
  rw [hrecord]
  constructor
  · rintro ⟨h1, h2⟩
    exact ⟨recorded, rfl, h1, h2⟩
  · rintro ⟨_, hsame, h1, h2⟩
    obtain rfl := Except.ok.inj hsame
    exact ⟨h1, h2⟩

omit [LawfulSimulationState S Snapshot] [PurePhase P S C Snapshot] [QuietPhase P S C Snapshot] in
theorem snapshotRecorded_of_decode (hl : sim.Lawful fits)
    (hdecode : sim.goldenFixtureCodec.decode layout b = .ok f)
    {a : SnapshotArtifact Snapshot} (ha : a ∈ f.snapshotArtifact) :
    SnapshotRecorded f.replayArtifact a ↔ SnapshotExpected f.replayArtifact a := by
  obtain ⟨hw, -, hr, ht⟩ := fixture_of_decode hl hdecode
  obtain ⟨b', hb'⟩ := hw.replay
  have hvalid := (ReplayArtifactSerializer.encode_eq_ok'.mp hb').1
  obtain ⟨b'', hb''⟩ := hw.snapshot a ha
  have hsnapshot := (SnapshotArtifact.encodeSnapshotArtifactBytes_eq_ok.mp hb'').1.payloadVersion
  refine snapshotRecorded_iff hvalid.legal hr.records.1 ht (hsnapshot.trans ?_)
  change sim.snapshotArtifactCodec.payloadSerializer.schemaVersion = _
  rw [hl.snapshotCodec]
  exact hvalid.own.snapshot.symm

end Read

end Simulation

end XenorEngine.Rust
