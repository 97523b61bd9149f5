import XenorEngine.Rust.Counter
import XenorEngine.Rust.FixtureResults
import XenorEngine.Rust.Serialization
import XenorEngine.Rust.SettlementChecks

/-!
# The two simulations (api/mod.rs, api/settlement.rs)

Each simulation wires its engine to the codecs. Its public functions are those of
`Simulation` under the names of the source; that it is lawful makes every result
about simulations one about them.
-/

namespace XenorEngine.Rust
open XenorEngine.Lib.ByteText XenorEngine.Lib.Fallible
open ReplayArtifactSerializer (orFail_eq_ok)

/-! ### Counter -/

def COUNTER_ENGINE_FAMILY : String := "xenor-engine-rust/counter"

instance : SimulationConfig CounterSimulationConfig := ⟨CounterSimulationConfig.snapshotPolicy⟩

abbrev CounterConfigArtifact := ConfigArtifact CounterSimulationConfig
abbrev CounterReplayArtifact := ReplayArtifact CounterCommand CounterSnapshot
abbrev CounterSnapshotArtifact := SnapshotArtifact CounterSnapshot
abbrev CounterRecordedReplay := RecordedReplay CounterCommand CounterSnapshot
abbrev CounterReplayResult := ReplayExecutionResult CounterSnapshot
abbrev CounterScenario := SimulationScenario CounterCommand CounterSimulationConfig
abbrev CounterScenarioExecutionResult := ScenarioExecutionResult CounterCommand CounterSnapshot
abbrev CounterScenarioVerificationResult :=
  ScenarioVerificationResult CounterCommand CounterSnapshot
abbrev CounterGoldenFixture :=
  GoldenFixture CounterCommand CounterSnapshot CounterSimulationConfig

def counterConfigArtifactCodec : ConfigArtifactSerializer CounterSimulationConfig :=
  ⟨COUNTER_ENGINE_FAMILY, counterConfigTextSerializer⟩

def counterReplayArtifactCodec : ReplayArtifactSerializer CounterCommand CounterSnapshot :=
  ⟨COUNTER_ENGINE_FAMILY, counterCommandTextSerializer, counterSnapshotTextSerializer⟩

def counterSnapshotArtifactCodec : SnapshotArtifactSerializer CounterSnapshot :=
  ⟨COUNTER_ENGINE_FAMILY, counterSnapshotTextSerializer⟩

def counterScenarioCodec : SimulationScenarioSerializer CounterCommand CounterSimulationConfig :=
  ⟨counterCommandTextSerializer, counterConfigArtifactCodec⟩

def counterGoldenFixtureCodec :
    GoldenFixtureSerializer CounterCommand CounterSnapshot CounterSimulationConfig :=
  ⟨counterReplayArtifactCodec, counterSnapshotArtifactCodec, counterConfigArtifactCodec,
    counterScenarioCodec⟩

def counterSimulation : Simulation CounterSimulationConfig CounterState CounterCommand CounterPhase
    CounterStateValidator CounterSnapshot where
  configArtifactCodec := counterConfigArtifactCodec
  replayArtifactCodec := counterReplayArtifactCodec
  snapshotArtifactCodec := counterSnapshotArtifactCodec
  validate := CounterSimulationConfig.validate
  buildEngineInternal seed config :=
    .ok (buildCounterEngineInternal seed defaultCounterScheduler config)

def buildCounterConfigArtifact (config : CounterSimulationConfig) :
    Except EngineError CounterConfigArtifact := counterSimulation.buildConfigArtifact config

def buildCounterScenario (config : CounterSimulationConfig) (seed : Seed)
    (frames : List (InputFrame CounterCommand))
    (expectedParitySummary : Option ParityArtifactSummary) : Except EngineError CounterScenario :=
  counterSimulation.buildScenario config seed frames expectedParitySummary

def executeCounterScenario (scenario : CounterScenario) :
    Outcome CounterScenarioExecutionResult := counterSimulation.executeScenario scenario

def verifyCounterScenario (scenario : CounterScenario) :
    Outcome CounterScenarioVerificationResult := counterSimulation.verifyScenario scenario

def recordCounterReplayWithConfig (config : CounterSimulationConfig) (seed : Seed)
    (frames : List (InputFrame CounterCommand)) : Outcome CounterRecordedReplay :=
  counterSimulation.recordReplayWithConfig config seed frames

def verifyCounterReplayWithConfig (config : CounterSimulationConfig)
    (artifact : CounterReplayArtifact) : Outcome CounterReplayResult :=
  counterSimulation.verifyReplayWithConfig config artifact

def counterSnapshotArtifactAtTick (artifact : CounterReplayArtifact) (tick : Tick) :
    Except EngineError CounterSnapshotArtifact :=
  counterSimulation.snapshotArtifactAtTick artifact tick

def resumeCounterReplayFromSnapshotWithConfig (config : CounterSimulationConfig)
    (snapshot : CounterSnapshotArtifact) (artifact : CounterReplayArtifact) :
    Outcome CounterReplayResult :=
  counterSimulation.resumeReplayFromSnapshotWithConfig config snapshot artifact

def generateCounterGoldenFixtureFromScenario (scenario : CounterScenario) :
    Outcome CounterGoldenFixture := counterSimulation.generateGoldenFixtureFromScenario scenario

def verifyCounterGoldenFixture (fixture : CounterGoldenFixture) : Outcome GoldenFixtureResult :=
  counterSimulation.verifyGoldenFixture fixture

/-! ### The counter is lawful -/

theorem counter_traceable (seed : Seed) (config : CounterSimulationConfig) :
    Traceable counterReplayArtifactCodec
      (buildCounterEngineInternal seed defaultCounterScheduler config)
      (CounterState.Counted (config.initialEntities.length + 1)) where
  ordered := defaultCounterScheduler_ordered
  nothingRecorded := rfl
  start_tick := CounterState.withInitialEntities_tick _ _ _
  start := CounterState.withInitialEntities_counted _ _ _
  aligned _ _ h := (counter_validate_ok h).1
  checkpoints := by
    change ((checkpointsUpTo config.validationPolicy defaultCounterScheduler.phasePlan
      defaultCounterScheduler.phasePlan.length).map checkpointOrder).Pairwise (· < ·)
    rw [defaultCounterScheduler_plan]
    cases config.validationPolicy <;> decide
  keeps s s' frame record hs h := by
    obtain ⟨hcounted, hvalid⟩ := counter_tickStep defaultCounterScheduler_ordered hs h
    exact ⟨hcounted, ⟨_, CounterSnapshotTextSerializer.encode_eq_ok.mpr ⟨hvalid, rfl⟩⟩,
      fun t => CounterState.restore_snapshot t hvalid⟩
  commands _ := ⟨_, rfl⟩
  version := rfl

/-- A count of entities is a `usize`. -/
def CounterSimulationConfig.Representable (config : CounterSimulationConfig) : Prop :=
  config.initialEntities.length ≤ USIZE_MAX

theorem counter_lawful : counterSimulation.Lawful CounterSimulationConfig.Representable where
  runs config seed _ := ⟨_, _, counter_traceable seed config, rfl, rfl, rfl⟩
  config config := by
    constructor
    · rintro ⟨b, hb⟩
      exact (CounterConfigTextSerializer.encode_eq_ok.mp hb).1
    · exact fun h => ⟨_, CounterConfigTextSerializer.encode_eq_ok.mpr ⟨h, rfl⟩⟩
  configLaw := CounterConfigTextSerializer.codec_law
  commandLaw := CounterCommandTextSerializer.codec_law
  snapshotLaw := CounterSnapshotTextSerializer.codec_law
  snapshotCodec := rfl

/-! ### Settlement -/

def SETTLEMENT_ENGINE_FAMILY : String := "xenor-engine-rust/settlement"

instance : SimulationConfig SettlementSimulationConfig :=
  ⟨SettlementSimulationConfig.snapshotPolicy⟩

abbrev SettlementConfigArtifact := ConfigArtifact SettlementSimulationConfig
abbrev SettlementReplayArtifact := ReplayArtifact SettlementCommand SettlementSnapshot
abbrev SettlementSnapshotArtifact := SnapshotArtifact SettlementSnapshot
abbrev SettlementRecordedReplay := RecordedReplay SettlementCommand SettlementSnapshot
abbrev SettlementReplayResult := ReplayExecutionResult SettlementSnapshot
abbrev SettlementScenario := SimulationScenario SettlementCommand SettlementSimulationConfig
abbrev SettlementScenarioExecutionResult :=
  ScenarioExecutionResult SettlementCommand SettlementSnapshot
abbrev SettlementScenarioVerificationResult :=
  ScenarioVerificationResult SettlementCommand SettlementSnapshot
abbrev SettlementGoldenFixture :=
  GoldenFixture SettlementCommand SettlementSnapshot SettlementSimulationConfig

def settlementConfigArtifactCodec : ConfigArtifactSerializer SettlementSimulationConfig :=
  ⟨SETTLEMENT_ENGINE_FAMILY, settlementConfigTextSerializer⟩

def settlementReplayArtifactCodec :
    ReplayArtifactSerializer SettlementCommand SettlementSnapshot :=
  ⟨SETTLEMENT_ENGINE_FAMILY, settlementCommandTextSerializer, settlementSnapshotTextSerializer⟩

def settlementSnapshotArtifactCodec : SnapshotArtifactSerializer SettlementSnapshot :=
  ⟨SETTLEMENT_ENGINE_FAMILY, settlementSnapshotTextSerializer⟩

def settlementScenarioCodec :
    SimulationScenarioSerializer SettlementCommand SettlementSimulationConfig :=
  ⟨settlementCommandTextSerializer, settlementConfigArtifactCodec⟩

def settlementGoldenFixtureCodec :
    GoldenFixtureSerializer SettlementCommand SettlementSnapshot SettlementSimulationConfig :=
  ⟨settlementReplayArtifactCodec, settlementSnapshotArtifactCodec, settlementConfigArtifactCodec,
    settlementScenarioCodec⟩

def settlementSimulation : Simulation SettlementSimulationConfig SettlementState SettlementCommand
    SettlementPhase SettlementStateValidator SettlementSnapshot where
  configArtifactCodec := settlementConfigArtifactCodec
  replayArtifactCodec := settlementReplayArtifactCodec
  snapshotArtifactCodec := settlementSnapshotArtifactCodec
  validate := SettlementSimulationConfig.validate
  buildEngineInternal := buildSettlementEngineInternal

def buildSettlementConfigArtifact (config : SettlementSimulationConfig) :
    Except EngineError SettlementConfigArtifact := settlementSimulation.buildConfigArtifact config

def buildSettlementScenario (config : SettlementSimulationConfig) (seed : Seed)
    (frames : List (InputFrame SettlementCommand))
    (expectedParitySummary : Option ParityArtifactSummary) :
    Except EngineError SettlementScenario :=
  settlementSimulation.buildScenario config seed frames expectedParitySummary

def executeSettlementScenario (scenario : SettlementScenario) :
    Outcome SettlementScenarioExecutionResult := settlementSimulation.executeScenario scenario

def verifySettlementScenario (scenario : SettlementScenario) :
    Outcome SettlementScenarioVerificationResult := settlementSimulation.verifyScenario scenario

def recordSettlementReplayWithConfig (config : SettlementSimulationConfig) (seed : Seed)
    (frames : List (InputFrame SettlementCommand)) : Outcome SettlementRecordedReplay :=
  settlementSimulation.recordReplayWithConfig config seed frames

def verifySettlementReplayWithConfig (config : SettlementSimulationConfig)
    (artifact : SettlementReplayArtifact) : Outcome SettlementReplayResult :=
  settlementSimulation.verifyReplayWithConfig config artifact

def settlementSnapshotArtifactAtTick (artifact : SettlementReplayArtifact) (tick : Tick) :
    Except EngineError SettlementSnapshotArtifact :=
  settlementSimulation.snapshotArtifactAtTick artifact tick

def resumeSettlementReplayFromSnapshotWithConfig (config : SettlementSimulationConfig)
    (snapshot : SettlementSnapshotArtifact) (artifact : SettlementReplayArtifact) :
    Outcome SettlementReplayResult :=
  settlementSimulation.resumeReplayFromSnapshotWithConfig config snapshot artifact

def generateSettlementGoldenFixtureFromScenario (scenario : SettlementScenario) :
    Outcome SettlementGoldenFixture :=
  settlementSimulation.generateGoldenFixtureFromScenario scenario

def verifySettlementGoldenFixture (fixture : SettlementGoldenFixture) :
    Outcome GoldenFixtureResult := settlementSimulation.verifyGoldenFixture fixture

/-! ### Settlement is lawful -/

theorem settlement_traceable {seed : Seed} {config : SettlementSimulationConfig}
    {state : SettlementState} (hstate : SettlementState.fromConfig config = .ok state) :
    Traceable settlementReplayArtifactCodec (settlementEngineFrom seed config state)
      (fun _ => True) where
  ordered := defaultSettlementScheduler_ordered config
  nothingRecorded := rfl
  start_tick := by
    obtain ⟨-, rfl⟩ := check_pure_eq_ok.mp hstate
    rfl
  start := trivial
  aligned _ _ h := settlement_validate_tick h
  checkpoints := by
    change ((checkpointsUpTo config.validationPolicy
      (defaultSettlementScheduler config).phasePlan
      (defaultSettlementScheduler config).phasePlan.length).map checkpointOrder).Pairwise (· < ·)
    rw [defaultSettlementScheduler_plan]
    cases config.validationPolicy <;> decide
  keeps s s' frame record _ h := by
    have hvalid := settlement_tickStep rfl h
    exact ⟨trivial, ⟨_, SettlementSnapshotTextSerializer.encode_eq_ok.mpr ⟨hvalid, rfl⟩⟩,
      fun t => SettlementState.restore_snapshot t hvalid⟩
  commands _ := ⟨_, rfl⟩
  version := rfl

theorem buildSettlementEngineInternal_eq_ok {seed : Seed} {config : SettlementSimulationConfig}
    {engine : SettlementEngine} : buildSettlementEngineInternal seed config = .ok engine ↔
      ∃ state, SettlementState.fromConfig config = .ok state ∧
        engine = settlementEngineFrom seed config state := by
  simp only [buildSettlementEngineInternal, bind_eq_ok, mapError_eq_ok, pure_eq_ok]
  constructor
  · rintro ⟨state, hs, rfl⟩
    exact ⟨state, hs, rfl⟩
  · rintro ⟨state, hs, rfl⟩
    exact ⟨state, hs, rfl⟩

theorem settlement_lawful : settlementSimulation.Lawful fun _ => True where
  runs config seed hvalid := by
    obtain ⟨state, hstate⟩ := exists_fromConfig hvalid
    exact ⟨_, _, settlement_traceable hstate,
      buildSettlementEngineInternal_eq_ok.mpr ⟨state, hstate, rfl⟩, rfl, rfl⟩
  config config := by
    constructor
    · rintro ⟨b, hb⟩
      exact (SettlementConfigTextSerializer.encode_eq_ok.mp hb).1
    · exact fun h => ⟨_, SettlementConfigTextSerializer.encode_eq_ok.mpr ⟨h, rfl⟩⟩
  configLaw := SettlementConfigTextSerializer.codec_law
  commandLaw := SettlementCommandTextSerializer.codec_law
  snapshotLaw := SettlementSnapshotTextSerializer.codec_law
  snapshotCodec := rfl

end XenorEngine.Rust
