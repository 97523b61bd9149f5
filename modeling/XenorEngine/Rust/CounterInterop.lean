import XenorEngine.Rust.FixtureGuarantees
import XenorEngine.Rust.Resumption
import XenorEngine.Rust.ScenarioRuns
import XenorEngine.Rust.SettlementCatalog

/-!
# Bundles of the counter, and who receives one (api/mod.rs)

A bundle carries the artifacts of a run as bytes. Whoever has these bytes alone can
read every artifact back, verify the run, resume it and arrive at what the bundle says.
-/

namespace XenorEngine.Rust
open XenorEngine.Lib.ByteText XenorEngine.Lib.Fallible XenorEngine.Lib.Runs
open ReplayArtifactSerializer (orFail_eq_ok)
open Debug (debug)

/-! ### Exports -/

def exportCounterConfigArtifact (artifact : CounterConfigArtifact) : Except EngineError Bytes :=
  counterConfigArtifactCodec.encode artifact

def counterConfigArtifactDigest (artifact : CounterConfigArtifact) : Except EngineError UInt64 :=
  counterConfigArtifactCodec.digest artifact

def exportCounterScenario (scenario : CounterScenario) : Except EngineError Bytes :=
  counterScenarioCodec.encode scenario

def counterScenarioDigest (scenario : CounterScenario) : Except EngineError UInt64 :=
  counterScenarioCodec.digest scenario

def exportCounterReplayArtifact (artifact : CounterReplayArtifact) : Except EngineError Bytes :=
  counterReplayArtifactCodec.encode artifact

def counterReplayArtifactDigest (artifact : CounterReplayArtifact) : Except EngineError UInt64 :=
  counterReplayArtifactCodec.digest artifact

def exportCounterSnapshotArtifact (artifact : CounterSnapshotArtifact) :
    Except EngineError Bytes := counterSnapshotArtifactCodec.encode artifact

def counterSnapshotArtifactDigest (artifact : CounterSnapshotArtifact) :
    Except EngineError UInt64 := counterSnapshotArtifactCodec.digest artifact

def exportCounterGoldenFixture (fixture : CounterGoldenFixture) : Except EngineError Bytes :=
  counterGoldenFixtureCodec.encode fixture

def counterGoldenFixtureDigest (fixture : CounterGoldenFixture) : Except EngineError UInt64 :=
  counterGoldenFixtureCodec.digest fixture

/-! ### Bundles -/

structure CounterInteropArtifacts where
  configArtifact : Bytes
  scenarioArtifact : Option Bytes
  replayArtifact : Bytes
  snapshotArtifact : Option Bytes
  goldenFixture : Option Bytes

structure CounterArtifactDigests where
  configArtifact : UInt64
  scenarioArtifact : Option UInt64
  replayArtifact : UInt64
  snapshotArtifact : Option UInt64
  goldenFixture : Option UInt64

structure CounterScenarioInteropBundle where
  artifacts : CounterInteropArtifacts
  digests : CounterArtifactDigests
  summary : ArtifactSummary
  paritySummary : ParityArtifactSummary
  inspection : ReplayInspectionView

structure CounterFixtureInteropBundle where
  artifacts : CounterInteropArtifacts
  digests : CounterArtifactDigests
  summary : GoldenFixtureSummary
  paritySummary : ParityArtifactSummary

def executeCounterScenarioInteropBundle (scenario : CounterScenario) :
    Outcome CounterScenarioInteropBundle := do
  let execution ← executeCounterScenario scenario
  orFail do
    let configArtifact ← exportCounterConfigArtifact scenario.configArtifact
    let scenarioArtifact ← exportCounterScenario scenario
    let replayArtifact ← exportCounterReplayArtifact execution.replay.artifact
    let snapshotArtifact ←
      transpose (execution.finalSnapshot.map exportCounterSnapshotArtifact)
    let configDigest ← counterConfigArtifactDigest scenario.configArtifact
    let scenarioDigest ← counterScenarioDigest scenario
    let replayDigest ← counterReplayArtifactDigest execution.replay.artifact
    let snapshotDigest ← transpose (execution.finalSnapshot.map counterSnapshotArtifactDigest)
    pure {
      artifacts := ⟨configArtifact, some scenarioArtifact, replayArtifact, snapshotArtifact, none⟩
      digests := ⟨configDigest, some scenarioDigest, replayDigest, snapshotDigest, none⟩
      summary := execution.replay.result.summary
      paritySummary := execution.paritySummary
      inspection := execution.inspection }

def exportCounterFixtureInteropBundle (fixture : CounterGoldenFixture) :
    Except EngineError CounterFixtureInteropBundle := do
  let configArtifact ← exportCounterConfigArtifact fixture.configArtifact
  let scenarioArtifact ← transpose (fixture.scenarioArtifact.map exportCounterScenario)
  let replayArtifact ← exportCounterReplayArtifact fixture.replayArtifact
  let snapshotArtifact ← transpose (fixture.snapshotArtifact.map exportCounterSnapshotArtifact)
  let goldenFixture ← exportCounterGoldenFixture fixture
  let configDigest ← counterConfigArtifactDigest fixture.configArtifact
  let scenarioDigest ← transpose (fixture.scenarioArtifact.map counterScenarioDigest)
  let replayDigest ← counterReplayArtifactDigest fixture.replayArtifact
  let snapshotDigest ← transpose (fixture.snapshotArtifact.map counterSnapshotArtifactDigest)
  let fixtureDigest ← counterGoldenFixtureDigest fixture
  pure {
    artifacts := ⟨configArtifact, scenarioArtifact, replayArtifact, snapshotArtifact,
      some goldenFixture⟩
    digests := ⟨configDigest, scenarioDigest, replayDigest, snapshotDigest, some fixtureDigest⟩
    summary := fixture.summary
    paritySummary := fixture.summary }

/-! ### Receiving -/

/-- The artifacts of one run, as they are sent. -/
structure ArtifactBytes where
  config : Bytes
  contract : Bytes
  replay : Bytes
  snapshot : Option Bytes

namespace Simulation
variable {Config S C P V Snapshot : Type} {sim : Simulation Config S C P V Snapshot}
  [SimulationState S Snapshot] [LawfulSimulationState S Snapshot] [StateValidator V S]
  [Phase P S C Snapshot] [PurePhase P S C Snapshot] [QuietPhase P S C Snapshot]
  [SimulationConfig Config] [DecidableEq C] [DecidableEq Snapshot] [Debug C] [Debug Snapshot]
  {fits : Config → Prop} {layout : Layout} {scenario : SimulationScenario C Config}
  {execution : ScenarioExecutionResult C Snapshot}

/-- The artifacts of an execution in bytes. -/
structure Exported (sim : Simulation Config S C P V Snapshot)
    (scenario : SimulationScenario C Config) (execution : ScenarioExecutionResult C Snapshot)
    (sent : ArtifactBytes) : Prop where
  config : sim.configArtifactCodec.encode scenario.configArtifact = .ok sent.config
  contract : sim.scenarioCodec.encode scenario = .ok sent.contract
  replay : sim.replayArtifactCodec.encode execution.replay.artifact = .ok sent.replay
  snapshot : transpose (execution.finalSnapshot.map sim.snapshotArtifactCodec.encode) =
    .ok sent.snapshot

/-- What the bytes alone lead to: the scenario, the replay, and its verification, which
repeats the summary. -/
structure Received (sim : Simulation Config S C P V Snapshot) (layout : Layout)
    (sent : ArtifactBytes) (summary : ArtifactSummary) (inspection : ReplayInspectionView)
    (scenario : SimulationScenario C Config) (artifact : ReplayArtifact C Snapshot)
    (result : ReplayExecutionResult Snapshot) : Prop where
  config : sim.configArtifactCodec.decode sent.config = .ok scenario.configArtifact
  contract : sim.scenarioCodec.decode layout sent.contract = .ok scenario
  replay : sim.replayArtifactCodec.decode layout sent.replay = .ok artifact
  inspects : inspectReplayTrace artifact.records = inspection
  verifies : sim.verifyReplayWithConfig scenario.configArtifact.payload artifact = .ok result
  summarizes : ∃ digest, sim.scenarioCodec.digest scenario = .ok digest ∧
    summary = { result.summary with scenarioDigest := some digest }
  resumes : ∀ bytes ∈ sent.snapshot, ∃ source,
    sim.snapshotArtifactCodec.decode bytes = .ok source ∧
    sim.resumeReplayFromSnapshotWithConfig scenario.configArtifact.payload source artifact =
      .ok { result with mode := .replayFromSnapshot source.metadata.snapshot.sourceTick }

/- The final snapshot of a recording resumes it. -/
theorem resumes_final (hl : sim.Lawful fits) {config : Config} {seed : Seed}
    {frames : List (InputFrame C)} {recorded : RecordedReplay C Snapshot}
    (hrec : sim.recordReplayWithConfig config seed frames = .ok recorded)
    {source : SnapshotArtifact Snapshot} (hs : recorded.result.finalSnapshot = some source) :
    sim.resumeReplayFromSnapshotWithConfig config source recorded.artifact = .ok
      { recorded.result with
        mode := .replayFromSnapshot source.metadata.snapshot.sourceTick } := by
  obtain ⟨hvalid, hrecord⟩ := (recordReplayWithConfig_eq_ok hl).mp hrec
  obtain ⟨e, Inv, hruns⟩ := hl.runs config seed hvalid
  obtain ⟨s', records, hrun, hartifact, hresult⟩ := (recordReplay_runs hruns).mp hrecord
  obtain ⟨-, -, -, -, hfinal⟩ := ReplayArtifactSerializer.executionResult_eq_ok.mp hresult
  rw [hfinal] at hs
  obtain ⟨snapshot, hlast, rfl⟩ := Option.map_eq_some_iff.mp hs
  obtain ⟨record, hr, hsnapshot⟩ := lastSnapshot_some hlast
  obtain ⟨source, hsource, -, hresume⟩ := resumeReplayWithConfig_recorded hl hrec hr hsnapshot
  have hsame : sim.replayArtifactCodec.buildSnapshotArtifact
      recorded.artifact.metadata.baseSeed recorded.artifact.metadata.configIdentity snapshot =
        source := by
    have hfind := find_of_recorded hl hrec hr
    simp only [snapshotArtifactAtTick, hfind, Option.bind_some, hsnapshot, okOr,
      hl.snapshotCodec] at hsource
    exact Except.ok.inj hsource
  have htick : snapshot.metadata.sourceTick = record.tick := by
    have hlegal := hruns.legal hrun
    rw [hartifact] at hr
    rw [(legalFrom_mem hlegal hr).metadata snapshot hsnapshot]
  rw [← hsame, ← htick] at hresume
  exact hresume

theorem received_of_exported (hl : sim.Lawful fits)
    (hscenario : SimulationScenarioSerializer.Representable layout fits scenario)
    (hreplay : execution.replay.artifact.Representable layout)
    (hexec : sim.executeScenario scenario = .ok execution) {sent : ArtifactBytes}
    (h : sim.Exported scenario execution sent) :
    ∃ result, sim.Received layout sent execution.replay.result.summary execution.inspection
      scenario execution.replay.artifact result := by
  obtain ⟨digest, recorded, hdigest, hrec, rfl⟩ := exists_recorded hl hexec
  have hverify := verifyReplayWithConfig_recorded hl hrec
  have htotals : TotalsMatch recorded.artifact := by
    obtain ⟨-, -, -, ha⟩ := recorded_of_verified hl hverify
    rw [ha]
    exact ReplayArtifactSerializer.totalsMatch_artifactOf ..
  refine ⟨_, (config_codec_law hl).roundTrip h.config hscenario.2,
    (scenario_codec_law hl layout).roundTrip h.contract hscenario,
    (replay_codec_law hl layout).roundTrip h.replay ⟨hreplay, htotals⟩, rfl, hverify,
    ⟨digest, hdigest, rfl⟩, fun bytes hbytes => ?_⟩
  have hsnapshot := h.snapshot
  rw [transpose_eq_ok, Option.mem_def.mp hbytes] at hsnapshot
  obtain ⟨source, hs, hencode⟩ := Option.map_eq_some_iff.mp hsnapshot
  exact ⟨source, (snapshot_codec_law hl).roundTrip hencode trivial, resumes_final hl hrec hs⟩

omit [DecidableEq C] [DecidableEq Snapshot] [Debug C] [Debug Snapshot] in
/- Of an execution, only the scenario may fail to be written. -/
theorem exists_exported (hl : sim.Lawful fits)
    (hexec : sim.executeScenario scenario = .ok execution) {scenarioBytes : Bytes}
    (hscenario : sim.scenarioCodec.encode scenario = .ok scenarioBytes) :
    ∃ sent, sim.Exported scenario execution sent := by
  obtain ⟨configBytes, hconfig⟩ :=
    (SimulationScenarioSerializer.encode_eq_ok'.mp hscenario).1.config
  obtain ⟨digest, recorded, e, Inv, s', records, -, hruns, hrun, hartifact, hresult, rfl⟩ :=
    executed_run hl hexec
  have hvalid := ReplayArtifactSerializer.valid_of_summary
    (ReplayArtifactSerializer.executionResult_eq_ok.mp hresult).1
  obtain ⟨replayBytes, hreplay⟩ := ReplayArtifactSerializer.exists_encode_of_valid hvalid
  obtain ⟨snapshotBytes, hsnapshot⟩ := transpose_map_ok (f := sim.snapshotArtifactCodec.encode)
    (o := recorded.result.finalSnapshot) fun a ha => by
      rw [hl.snapshotCodec]
      exact ⟨_, SnapshotArtifact.encodeSnapshotArtifactBytes_eq_ok.mpr
        ⟨(finalSnapshot_valid hvalid hresult ha).1, rfl⟩⟩
  exact ⟨⟨configBytes, scenarioBytes, replayBytes, snapshotBytes⟩,
    hconfig, hscenario, hreplay, hsnapshot⟩

omit [DecidableEq C] [DecidableEq Snapshot] [Debug C] [Debug Snapshot] in
/- A fixture has the summary of its scenario's execution. -/
theorem generated_summary (hl : sim.Lawful fits)
    (hexec : sim.executeScenario scenario = .ok execution) {f : GoldenFixture C Snapshot Config}
    (hf : sim.Generated scenario execution f) :
    f.summary = execution.replay.result.summary := by
  obtain ⟨digest, recorded, e, Inv, s', records, hdigest, -, -, -, hresult, rfl⟩ :=
    executed_run hl hexec
  obtain ⟨hsummary, -, -, -, hfinal⟩ := ReplayArtifactSerializer.executionResult_eq_ok.mp hresult
  obtain ⟨base, snapshotDigest, scenarioDigest, hbase, hsnapshot, hscenario, hfixture⟩ :=
    GoldenFixtureSerializer.fixtureSummary_eq_ok.mp hf.summary
  rw [hf.replay] at hbase
  obtain rfl := Except.ok.inj (hbase.symm.trans hsummary)
  rw [hf.snapshot] at hsnapshot
  rw [hf.scenario, transpose_eq_ok] at hscenario
  have hlast := GoldenFixtureSerializer.finalSnapshot_digest (sameSnapshots hl) hsummary
  have hsame : snapshotDigest = recorded.result.summary.snapshotDigest := by
    have hlast' : transpose (recorded.result.finalSnapshot.map
        sim.goldenFixtureCodec.snapshotSerializer.digest) =
          .ok recorded.result.summary.snapshotDigest := by
      rw [hfinal]
      exact hlast
    exact Except.ok.inj (hsnapshot.symm.trans hlast')
  have hnamed : scenarioDigest = some digest := by
    cases scenarioDigest with
    | none => cases hscenario
    | some other =>
      have hother := Option.some.inj hscenario
      exact congrArg some (Except.ok.inj (hother.symm.trans hdigest))
  rw [hfixture, hsame, hnamed, Option.or_self]
  rfl

end Simulation

/-! ### The bundles -/

theorem counterBundle_eq_ok {scenario : CounterScenario} {bundle : CounterScenarioInteropBundle} :
    executeCounterScenarioInteropBundle scenario = .ok bundle ↔
      ∃ execution sent digest,
        executeCounterScenario scenario = .ok execution ∧
        counterSimulation.Exported scenario execution sent ∧
        counterScenarioDigest scenario = .ok digest ∧
        bundle = ⟨⟨sent.config, some sent.contract, sent.replay, sent.snapshot, none⟩,
          ⟨canonicalDigest sent.config, some digest, canonicalDigest sent.replay,
            sent.snapshot.map canonicalDigest, none⟩,
          execution.replay.result.summary, execution.paritySummary, execution.inspection⟩ := by
  simp only [executeCounterScenarioInteropBundle, bind_eq_ok, orFail_eq_ok, pure_eq_ok]
  constructor
  · rintro ⟨execution, hexec, cb, hcb, sb, hsb, rb, hrb, xb, hxb, cd, hcd, sd, hsd, rd, hrd, xd,
      hxd, rfl⟩
    obtain rfl := eq_of_digest hcb hcd
    obtain rfl := eq_of_digest hrb hrd
    obtain rfl := eq_of_digests hxb hxd
    exact ⟨execution, ⟨cb, sb, rb, xb⟩, sd, hexec, ⟨hcb, hsb, hrb, hxb⟩, hsd, rfl⟩
  · rintro ⟨execution, sent, digest, hexec, h, hdigest, rfl⟩
    exact ⟨execution, hexec, _, h.config, _, h.contract, _, h.replay, _, h.snapshot, _,
      digest_of_encode h.config, digest, hdigest, _, digest_of_encode h.replay, _,
      digests_of_encode h.snapshot, rfl⟩

/- A scenario has a bundle as soon as it runs and can be written. -/
theorem exists_counterBundle {scenario : CounterScenario} :
    (∃ bundle, executeCounterScenarioInteropBundle scenario = .ok bundle) ↔
      (∃ execution, executeCounterScenario scenario = .ok execution) ∧
        ∃ bytes, exportCounterScenario scenario = .ok bytes := by
  constructor
  · rintro ⟨bundle, hbundle⟩
    obtain ⟨execution, sent, digest, hexec, hexported, -, -⟩ := counterBundle_eq_ok.mp hbundle
    exact ⟨⟨execution, hexec⟩, sent.contract, hexported.contract⟩
  · rintro ⟨⟨execution, hexec⟩, bytes, hbytes⟩
    obtain ⟨sent, hexported⟩ := Simulation.exists_exported counter_lawful hexec hbytes
    obtain ⟨digest, recorded, hdigest, -, -⟩ := Simulation.exists_recorded counter_lawful hexec
    exact ⟨_, counterBundle_eq_ok.mpr ⟨execution, sent, digest, hexec, hexported, hdigest, rfl⟩⟩

theorem counterFixtureBundle_of_generated {scenario : CounterScenario}
    {execution : CounterScenarioExecutionResult} {fixture : CounterGoldenFixture}
    {sent : ArtifactBytes} {fixtureBytes : Bytes} {digest : UInt64}
    (h : counterSimulation.Exported scenario execution sent)
    (hdigest : counterScenarioDigest scenario = .ok digest)
    (hf : counterSimulation.Generated scenario execution fixture)
    (hfixture : exportCounterGoldenFixture fixture = .ok fixtureBytes) :
    exportCounterFixtureInteropBundle fixture = .ok
      ⟨⟨sent.config, some sent.contract, sent.replay, sent.snapshot, some fixtureBytes⟩,
        ⟨canonicalDigest sent.config, some digest, canonicalDigest sent.replay,
          sent.snapshot.map canonicalDigest, some (canonicalDigest fixtureBytes)⟩,
        fixture.summary, fixture.summary⟩ := by
  have hcontract : transpose (fixture.scenarioArtifact.map exportCounterScenario) =
      .ok (some sent.contract) := by
    rw [hf.scenario, transpose_eq_ok]
    exact congrArg some h.contract
  have hnamed : transpose (fixture.scenarioArtifact.map counterScenarioDigest) =
      .ok (some digest) := by
    rw [hf.scenario, transpose_eq_ok]
    exact congrArg some hdigest
  have hsnapshot : transpose (fixture.snapshotArtifact.map exportCounterSnapshotArtifact) =
      .ok sent.snapshot := by
    rw [hf.snapshot]
    exact h.snapshot
  have hsnapshotDigest : transpose (fixture.snapshotArtifact.map counterSnapshotArtifactDigest) =
      .ok (sent.snapshot.map canonicalDigest) := digests_of_encode hsnapshot
  simp only [exportCounterFixtureInteropBundle, bind_eq_ok, pure_eq_ok]
  refine ⟨sent.config, ?_, some sent.contract, hcontract, sent.replay, ?_, sent.snapshot,
    hsnapshot, fixtureBytes, hfixture, _, ?_, some digest, hnamed, _, ?_, _, hsnapshotDigest, _,
    digest_of_encode hfixture, rfl⟩
  · rw [hf.config]
    exact h.config
  · rw [hf.replay]
    exact h.replay
  · rw [hf.config]
    exact digest_of_encode h.config
  · rw [hf.replay]
    exact digest_of_encode h.replay

/- The bytes of a bundle are enough to arrive at what the bundle says. -/
theorem bundles_are_received (layout : Layout) :
    (∀ (scenario : CounterScenario) (bundle : CounterScenarioInteropBundle),
      layout.Holds 5 scenario.frames →
      CounterSimulationConfig.Representable scenario.configArtifact.payload →
      executeCounterScenarioInteropBundle scenario = .ok bundle →
      ∃ sent artifact result,
        bundle.artifacts = ⟨sent.config, some sent.contract, sent.replay, sent.snapshot, none⟩ ∧
        counterSimulation.Received layout sent bundle.summary bundle.inspection scenario artifact
          result) ∧
    (∀ (scenario : SettlementScenario) (bundle : SettlementScenarioInteropBundle),
      layout.Holds 7 scenario.frames →
      executeSettlementScenarioInteropBundle scenario = .ok bundle →
      ∃ sent artifact result,
        bundle.artifacts = ⟨sent.config, some sent.contract, sent.replay, sent.snapshot, none⟩ ∧
        settlementSimulation.Received layout sent bundle.summary bundle.inspection scenario
          artifact result) := by
  constructor
  · intro scenario bundle hholds hconfig hbundle
    obtain ⟨execution, sent, digest, hexec, hexported, -, rfl⟩ := counterBundle_eq_ok.mp hbundle
    obtain ⟨result, hreceived⟩ :=
      Simulation.received_of_exported counter_lawful ⟨hholds.inputs, hconfig⟩
        (Simulation.representable_of_executed counter_lawful counter_hasPhases hholds hexec) hexec
        hexported
    exact ⟨sent, execution.replay.artifact, result, rfl, hreceived⟩
  · intro scenario bundle hholds hbundle
    simp only [executeSettlementScenarioInteropBundle, bind_eq_ok, orFail_eq_ok] at hbundle
    obtain ⟨execution, hexec, hbundle⟩ := hbundle
    obtain ⟨configBytes, scenarioBytes, replayBytes, snapshot, snapshotBytes, digest, hconfig,
      hscenario, hreplay, hs, hsnapshot, -, -, hartifacts, -, -, hsummary, -, hinspection⟩ :=
      bundle_parts hbundle
    have hexported : settlementSimulation.Exported scenario execution
        ⟨configBytes, scenarioBytes, replayBytes, some snapshotBytes⟩ := by
      refine ⟨hconfig, hscenario, hreplay, ?_⟩
      rw [hs, transpose_eq_ok]
      exact congrArg some hsnapshot
    obtain ⟨result, hreceived⟩ :=
      Simulation.received_of_exported settlement_lawful ⟨hholds.inputs, trivial⟩
        (Simulation.representable_of_executed settlement_lawful settlement_hasPhases hholds hexec)
        hexec hexported
    rw [← hsummary, ← hinspection] at hreceived
    exact ⟨_, execution.replay.artifact, result, hartifacts, hreceived⟩

theorem exists_twoSteps_bundle :
    ∃ bundle, executeCounterScenarioInteropBundle twoStepsScenario = .ok bundle := by
  obtain ⟨recorded, execution, -, hexec, -⟩ := twoSteps_recorded
  exact exists_counterBundle.mpr ⟨⟨execution, hexec⟩, _,
    SimulationScenarioSerializer.encode_eq_ok'.mpr ⟨twoSteps_valid, rfl⟩⟩

theorem bundles_are_received_short :
    (∃ bundle sent artifact result,
      executeCounterScenarioInteropBundle twoStepsScenario = .ok bundle ∧
      counterSimulation.Received unitLayout sent bundle.summary bundle.inspection
        twoStepsScenario artifact result) ∧
    ∃ bundle sent artifact result,
      executeSettlementScenarioInteropBundle threeHoldsScenario = .ok bundle ∧
      settlementSimulation.Received unitLayout sent bundle.summary bundle.inspection
        threeHoldsScenario artifact result := by
  constructor
  · obtain ⟨bundle, hbundle⟩ := exists_twoSteps_bundle
    obtain ⟨sent, artifact, result, -, hreceived⟩ :=
      (bundles_are_received unitLayout).1 _ bundle twoSteps_holds (Nat.zero_le _) hbundle
    exact ⟨bundle, sent, artifact, result, hbundle, hreceived⟩
  · obtain ⟨bundle, hbundle⟩ := exists_bundle_of_accepted threeHoldsScenario_accepted
      threeHoldsScenario_captures
    have hholds : Layout.Holds unitLayout 7 threeHoldsScenario.frames :=
      ⟨⟨by decide, by decide⟩, by decide, by decide, by decide⟩
    obtain ⟨sent, artifact, result, -, hreceived⟩ :=
      (bundles_are_received unitLayout).2 _ bundle hholds hbundle
    exact ⟨bundle, sent, artifact, result, hbundle, hreceived⟩

/- A scenario of the counter that has a bundle has a fixture, whose bundle is the same with
the fixture's bytes added. -/
theorem counter_fixture_extends_bundle (layout : Layout) (scenario : CounterScenario)
    (bundle : CounterScenarioInteropBundle)
    (hholds : layout.Holds 5 scenario.frames)
    (hconfig : CounterSimulationConfig.Representable scenario.configArtifact.payload)
    (hbundle : executeCounterScenarioInteropBundle scenario = .ok bundle) :
    ∃ fixture bytes result,
      generateCounterGoldenFixtureFromScenario scenario = .ok fixture ∧
      exportCounterFixtureInteropBundle fixture = .ok
        ⟨{ bundle.artifacts with goldenFixture := some bytes },
          { bundle.digests with goldenFixture := some (canonicalDigest bytes) },
          bundle.summary, bundle.paritySummary⟩ ∧
      counterGoldenFixtureCodec.decode layout bytes = .ok fixture ∧
      verifyCounterGoldenFixture fixture = .ok result ∧ result.passed = true := by
  obtain ⟨execution, sent, digest, hexec, hexported, hdigest, rfl⟩ :=
    counterBundle_eq_ok.mp hbundle
  have hvalid := (SimulationScenarioSerializer.encode_eq_ok'.mp hexported.contract).1
  obtain ⟨fixture, hgenerate, hf, hw, hc, ht⟩ :=
    Simulation.generate_of_executed counter_lawful hvalid hexec
  obtain ⟨result, hverify, hpassed⟩ :=
    Simulation.verify_of_generated counter_lawful hexec hf hw hc ht
  have hencode := GoldenFixtureSerializer.encode_eq_ok'.mpr ⟨⟨hw, hc⟩, rfl⟩
  have hsummary := Simulation.generated_summary counter_lawful hexec hf
  have hparity : execution.paritySummary = execution.replay.result.summary := by
    obtain ⟨_, _, -, -, rfl⟩ := Simulation.exists_recorded counter_lawful hexec
    rfl
  have hrepresentable : CounterGoldenFixture.Representable layout fixture :=
    Simulation.representable_of_generated counter_lawful counter_hasPhases hholds hconfig hexec hf
  have hexport := counterFixtureBundle_of_generated hexported hdigest hf hencode
  rw [hsummary] at hexport
  rw [hparity]
  exact ⟨fixture, _, result, hgenerate, hexport,
    (Simulation.fixture_codec_law counter_lawful layout).roundTrip hencode ⟨hrepresentable, ht⟩,
    hverify, hpassed⟩

theorem counter_fixture_extends_bundle_short : ∃ bundle fixture bytes result,
    executeCounterScenarioInteropBundle twoStepsScenario = .ok bundle ∧
      exportCounterFixtureInteropBundle fixture = .ok
        ⟨{ bundle.artifacts with goldenFixture := some bytes },
          { bundle.digests with goldenFixture := some (canonicalDigest bytes) },
          bundle.summary, bundle.paritySummary⟩ ∧
      verifyCounterGoldenFixture fixture = .ok result ∧ result.passed = true := by
  obtain ⟨bundle, hbundle⟩ := exists_twoSteps_bundle
  obtain ⟨fixture, bytes, result, -, hexport, -, hverify, hpassed⟩ :=
    counter_fixture_extends_bundle unitLayout _ bundle twoSteps_holds (Nat.zero_le _) hbundle
  exact ⟨bundle, fixture, bytes, result, hbundle, hexport, hverify, hpassed⟩

end XenorEngine.Rust
