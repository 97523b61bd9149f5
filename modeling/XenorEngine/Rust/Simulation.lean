import XenorEngine.Rust.Execution
import XenorEngine.Rust.Fixture

/-!
# A simulation on the engine (api/mod.rs, api/settlement.rs)

Both simulations are wired to the codecs and executions in the same way. `Lawful`
says what that takes; the results below hold of every lawful simulation.
-/

namespace XenorEngine.Rust
open XenorEngine.Lib.ByteText XenorEngine.Lib.Fallible XenorEngine.Lib.Runs
open ReplayArtifactSerializer (orFail_eq_ok)
open Debug (debug)

structure Simulation (Config S C P V Snapshot : Type) where
  configArtifactCodec : ConfigArtifactSerializer Config
  replayArtifactCodec : ReplayArtifactSerializer C Snapshot
  snapshotArtifactCodec : SnapshotArtifactSerializer Snapshot
  validate : Config → Except EngineError Unit
  buildEngineInternal : Seed → Config → Outcome (DeterministicEngine S C P V Snapshot)

namespace Simulation
variable {Config S C P V Snapshot : Type} (sim : Simulation Config S C P V Snapshot)

def scenarioCodec : SimulationScenarioSerializer C Config :=
  ⟨sim.replayArtifactCodec.commandSerializer, sim.configArtifactCodec⟩

def goldenFixtureCodec : GoldenFixtureSerializer C Snapshot Config :=
  ⟨sim.replayArtifactCodec, sim.snapshotArtifactCodec, sim.configArtifactCodec,
    sim.scenarioCodec⟩

def buildConfigArtifact (config : Config) : Except EngineError (ConfigArtifact Config) := do
  sim.validate config
  sim.configArtifactCodec.buildArtifact config

def buildScenario (config : Config) (seed : Seed) (frames : List (InputFrame C))
    (expectedParitySummary : Option ParityArtifactSummary) :
    Except EngineError (SimulationScenario C Config) := do
  let configArtifact ← sim.buildConfigArtifact config
  pure (SimulationScenarioSerializer.buildScenario configArtifact seed frames
    expectedParitySummary)

def snapshotArtifactAtTick (artifact : ReplayArtifact C Snapshot) (tick : Tick) :
    Except EngineError (SnapshotArtifact Snapshot) := do
  let snapshot ← okOr ((artifact.records.find? (·.tick = tick)).bind (·.snapshot))
    (.replayContinuationMismatch s!"no snapshot recorded at tick {tick}")
  pure (sim.snapshotArtifactCodec.buildArtifact artifact.metadata.baseSeed
    artifact.metadata.configIdentity snapshot)

section Execute
variable [SimulationState S Snapshot] [StateValidator V S] [Phase P S C Snapshot]
  [SimulationConfig Config] [DecidableEq C] [DecidableEq Snapshot] [DecidableEq Config]
  [Debug C] [Debug Snapshot] [Debug Config]

def recordReplayWithConfig (config : Config) (seed : Seed) (frames : List (InputFrame C)) :
    Outcome (RecordedReplay C Snapshot) := do
  let configArtifact ← orFail (sim.buildConfigArtifact config)
  recordReplay (fun seed _ => sim.buildEngineInternal seed config) sim.replayArtifactCodec seed
    (SimulationConfig.snapshotPolicy config) configArtifact.metadata.identity frames

def verifyReplayWithConfig (config : Config) (artifact : ReplayArtifact C Snapshot) :
    Outcome (ReplayExecutionResult Snapshot) := do
  let configArtifact ← orFail (sim.buildConfigArtifact config)
  executeReplayVerify (fun seed _ => sim.buildEngineInternal seed config)
    sim.replayArtifactCodec artifact configArtifact.metadata.identity

def resumeReplayFromSnapshotWithConfig (config : Config) (snapshot : SnapshotArtifact Snapshot)
    (artifact : ReplayArtifact C Snapshot) : Outcome (ReplayExecutionResult Snapshot) := do
  let configArtifact ← orFail (sim.buildConfigArtifact config)
  executeReplayFromSnapshot (fun seed _ => sim.buildEngineInternal seed config)
    sim.replayArtifactCodec snapshot artifact configArtifact.metadata.identity

def executeScenario (scenario : SimulationScenario C Config) :
    Outcome (ScenarioExecutionResult C Snapshot) :=
  sim.scenarioCodec.execute scenario sim.buildEngineInternal sim.replayArtifactCodec

def verifyScenario (scenario : SimulationScenario C Config) :
    Outcome (ScenarioVerificationResult C Snapshot) :=
  sim.scenarioCodec.verify scenario sim.buildEngineInternal sim.replayArtifactCodec

def generateGoldenFixtureFromScenario (scenario : SimulationScenario C Config) :
    Outcome (GoldenFixture C Snapshot Config) :=
  sim.goldenFixtureCodec.generateFixtureFromScenario scenario sim.buildEngineInternal

def verifyGoldenFixture (fixture : GoldenFixture C Snapshot Config) :
    Outcome GoldenFixtureResult :=
  sim.goldenFixtureCodec.verifyFixture fixture sim.buildEngineInternal

end Execute

/-! ### Lawful simulations -/

section Lawful
variable [SimulationState S Snapshot] [LawfulSimulationState S Snapshot] [StateValidator V S]
  [Phase P S C Snapshot] [PurePhase P S C Snapshot] [QuietPhase P S C Snapshot]
  [SimulationConfig Config]

/-- `fits`: the configs a decoder can return. -/
structure Lawful (fits : Config → Prop) : Prop where
  runs : ∀ (config : Config) (seed : Seed), sim.validate config = .ok () →
    ∃ (e : DeterministicEngine S C P V Snapshot) (Inv : S → Prop),
      Runs (fun seed _ => sim.buildEngineInternal seed config) sim.replayArtifactCodec seed
        (SimulationConfig.snapshotPolicy config) e Inv
  config : ∀ config : Config,
    (∃ b, sim.configArtifactCodec.payloadSerializer.encode config = .ok b) ↔
      sim.validate config = .ok ()
  configLaw : CodecLaw sim.configArtifactCodec.payloadSerializer.encode
    sim.configArtifactCodec.payloadSerializer.decode fits 1
  commandLaw : CodecLaw sim.replayArtifactCodec.commandSerializer.encode
    sim.replayArtifactCodec.commandSerializer.decode (fun _ => True) 1
  snapshotLaw : CodecLaw sim.replayArtifactCodec.snapshotSerializer.encode
    sim.replayArtifactCodec.snapshotSerializer.decode (fun _ => True) 1
  snapshotCodec : sim.snapshotArtifactCodec =
    ⟨sim.replayArtifactCodec.engineFamily, sim.replayArtifactCodec.snapshotSerializer⟩

variable {sim} {fits : Config → Prop}

def identityOf (sim : Simulation Config S C P V Snapshot) (config : Config) : ConfigIdentity :=
  ⟨sim.configArtifactCodec.payloadSerializer.schemaVersion,
    canonicalDigest (encoded sim.configArtifactCodec.payloadSerializer.encode config)⟩

def configArtifactOf (sim : Simulation Config S C P V Snapshot) (config : Config) :
    ConfigArtifact Config :=
  ⟨⟨CONFIG_ARTIFACT_SCHEMA_VERSION, sim.configArtifactCodec.engineFamily,
    sim.identityOf config⟩, config⟩

omit [LawfulSimulationState S Snapshot] [PurePhase P S C Snapshot]
  [QuietPhase P S C Snapshot] in
theorem buildConfigArtifact_eq_ok (hl : sim.Lawful fits) {config : Config}
    {artifact : ConfigArtifact Config} :
    sim.buildConfigArtifact config = .ok artifact ↔
      sim.validate config = .ok () ∧ artifact = sim.configArtifactOf config := by
  simp only [buildConfigArtifact, ConfigArtifactSerializer.buildArtifact, bind_eq_ok,
    ConfigArtifactSerializer.identity_eq_ok, hl.config, pure_eq_ok, Unique.exists_iff,
    PUnit.default_eq_unit]
  constructor
  · rintro ⟨hv, _, ⟨-, rfl⟩, rfl⟩
    exact ⟨hv, rfl⟩
  · rintro ⟨hv, rfl⟩
    exact ⟨hv, _, ⟨hv, rfl⟩, rfl⟩

/-! ### Recording and verifying -/

omit [LawfulSimulationState S Snapshot] [PurePhase P S C Snapshot]
  [QuietPhase P S C Snapshot] in
theorem recordReplayWithConfig_eq_ok (hl : sim.Lawful fits) {config : Config} {seed : Seed}
    {frames : List (InputFrame C)} {recorded : RecordedReplay C Snapshot} :
    sim.recordReplayWithConfig config seed frames = .ok recorded ↔
      sim.validate config = .ok () ∧
        recordReplay (fun seed _ => sim.buildEngineInternal seed config) sim.replayArtifactCodec
          seed (SimulationConfig.snapshotPolicy config) (sim.identityOf config) frames =
            .ok recorded := by
  simp only [recordReplayWithConfig, bind_eq_ok, orFail_eq_ok, buildConfigArtifact_eq_ok hl]
  constructor
  · rintro ⟨_, ⟨hv, rfl⟩, h⟩
    exact ⟨hv, h⟩
  · rintro ⟨hv, h⟩
    exact ⟨_, ⟨hv, rfl⟩, h⟩

/- Ticks that succeed one by one make a recording. -/
theorem exists_recordReplayWithConfig (hl : sim.Lawful fits) {config : Config} {seed : Seed}
    {frames : List (InputFrame C)} {e e' : DeterministicEngine S C P V Snapshot}
    (hvalid : sim.validate config = .ok ()) (hbuild : sim.buildEngineInternal seed config = .ok e)
    (hticks : tickFrames e frames = .ok e') :
    ∃ recorded, sim.recordReplayWithConfig config seed frames = .ok recorded ∧
      recorded.artifact.records = e'.replayRecords := by
  obtain ⟨e1, Inv, hruns⟩ := hl.runs config seed hvalid
  have hsame : e1 = e := Except.ok.inj (hruns.builds.symm.trans hbuild)
  subst hsame
  have hfresh := hruns.traceable.nothingRecorded
  obtain ⟨s', records, hrun, rfl⟩ := (tickFrames_eq_ok hruns.traceable.ordered hfresh).mp hticks
  obtain ⟨recorded, hrec, hartifact, -⟩ :=
    exists_recordReplay hruns hrun (sim.identityOf config)
  refine ⟨recorded, (recordReplayWithConfig_eq_ok hl).mpr ⟨hvalid, hrec⟩, ?_⟩
  rw [hartifact, replayRecords_advance hfresh]
  rfl

section Verify
variable [DecidableEq C] [DecidableEq Snapshot] [Debug C] [Debug Snapshot]

theorem verifyReplayWithConfig_recorded (hl : sim.Lawful fits) {config : Config} {seed : Seed}
    {frames : List (InputFrame C)} {recorded : RecordedReplay C Snapshot}
    (hrec : sim.recordReplayWithConfig config seed frames = .ok recorded) :
    sim.verifyReplayWithConfig config recorded.artifact =
      .ok { recorded.result with mode := .replayVerify } := by
  obtain ⟨hvalid, hrec⟩ := (recordReplayWithConfig_eq_ok hl).mp hrec
  obtain ⟨e, Inv, hruns⟩ := hl.runs config seed hvalid
  have hbuild := (buildConfigArtifact_eq_ok hl).mpr ⟨hvalid, rfl⟩
  simp only [verifyReplayWithConfig, hbuild]
  exact executeReplayVerify_recorded hruns hrec

/- What passes verification is what recording its frames gives, but for the policy. -/
theorem recorded_of_verified (hl : sim.Lawful fits) {config : Config}
    {a : ReplayArtifact C Snapshot} {result : ReplayExecutionResult Snapshot}
    (h : sim.verifyReplayWithConfig config a = .ok result) :
    ∃ recorded, sim.recordReplayWithConfig config a.metadata.baseSeed
        (a.records.map (·.input)) = .ok recorded ∧
      recorded.artifact = sim.replayArtifactCodec.artifactOf a.metadata.baseSeed
        (SimulationConfig.snapshotPolicy config) a.metadata.configIdentity a.records ∧
      a = sim.replayArtifactCodec.artifactOf a.metadata.baseSeed a.metadata.snapshotPolicy
        a.metadata.configIdentity a.records := by
  simp only [verifyReplayWithConfig, bind_eq_ok, orFail_eq_ok, buildConfigArtifact_eq_ok hl] at h
  obtain ⟨_, ⟨hvalid, rfl⟩, hverify⟩ := h
  obtain ⟨e, Inv, hruns⟩ := hl.runs config a.metadata.baseSeed hvalid
  have hbuilds : Builds (fun seed _ => sim.buildEngineInternal seed config) a.metadata.baseSeed
      a.metadata.snapshotPolicy e :=
    ⟨hruns.builds, hruns.seed, hruns.traceable.ordered, hruns.traceable.nothingRecorded⟩
  obtain ⟨hvalidated, hidentity, ⟨s', hrun⟩, hresult⟩ :=
    (executeReplayVerify_eq_ok hbuilds).mp hverify
  obtain ⟨-, ⟨-, htotals⟩, -⟩ := validateReplayArtifactForState_eq_ok.mp hvalidated
  have hown := (ReplayArtifactSerializer.valid_of_summary
    (ReplayArtifactSerializer.executionResult_eq_ok.mp hresult).1).own
  obtain ⟨recorded, hrec, hartifact, -⟩ :=
    exists_recordReplay hruns hrun (sim.identityOf config)
  refine ⟨recorded, (recordReplayWithConfig_eq_ok hl).mpr ⟨hvalid, hrec⟩, ?_,
    ReplayArtifactSerializer.eq_artifactOf hown htotals⟩
  rw [hartifact, hidentity]
  rfl

/- At every recorded snapshot the run can be resumed. -/
theorem resumeReplayWithConfig_recorded (hl : sim.Lawful fits) {config : Config} {seed : Seed}
    {frames : List (InputFrame C)} {recorded : RecordedReplay C Snapshot}
    (hrec : sim.recordReplayWithConfig config seed frames = .ok recorded)
    {record : ReplayTickRecord C Snapshot} (hr : record ∈ recorded.artifact.records)
    {snapshot : SnapshotRecord Snapshot} (hs : record.snapshot = some snapshot) :
    ∃ source, sim.snapshotArtifactAtTick recorded.artifact record.tick = .ok source ∧
      source.payload = snapshot.payload ∧
      sim.resumeReplayFromSnapshotWithConfig config source recorded.artifact =
        .ok { recorded.result with mode := .replayFromSnapshot record.tick } := by
  obtain ⟨hvalid, hrec⟩ := (recordReplayWithConfig_eq_ok hl).mp hrec
  obtain ⟨e, Inv, hruns⟩ := hl.runs config seed hvalid
  have hbuild := (buildConfigArtifact_eq_ok hl).mpr ⟨hvalid, rfl⟩
  obtain ⟨s', records, -, hartifact, -⟩ := (recordReplay_runs hruns).mp hrec
  have hresume := executeReplayFromSnapshot_recorded hruns hrec hr hs
  have hfind := find_recorded hruns hrec hr
  refine ⟨sim.replayArtifactCodec.buildSnapshotArtifact seed (sim.identityOf config) snapshot,
    ?_, rfl, ?_⟩
  · have hseed : recorded.artifact.metadata.baseSeed = seed := by rw [hartifact]; rfl
    have hidentity : recorded.artifact.metadata.configIdentity = sim.identityOf config := by
      rw [hartifact]; rfl
    simp only [snapshotArtifactAtTick, hfind, Option.bind_some, hs, okOr, hl.snapshotCodec, hseed,
      hidentity]
    rfl
  · simp only [resumeReplayFromSnapshotWithConfig, hbuild]
    exact hresume

end Verify

end Lawful

end Simulation

end XenorEngine.Rust
