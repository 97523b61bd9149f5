import XenorEngine.Rust.FixtureGuarantees

/-!
# Scenarios that state their own result

The expected summary names the digest of the scenario that carries it. The digest and
the execution leave that field out, the file keeps it.
-/

namespace XenorEngine.Rust
open XenorEngine.Lib.ByteText XenorEngine.Lib.Fallible
open ReplayArtifactSerializer (orFail_eq_ok)

namespace SimulationScenario

/-- `scenario.expected_parity_summary = Some(summary)`. -/
def expecting {C Config : Type} (scenario : SimulationScenario C Config)
    (summary : ParityArtifactSummary) : SimulationScenario C Config :=
  { scenario with expectedParitySummary := some summary }

end SimulationScenario

namespace SimulationScenarioSerializer
variable {C Config : Type} {s : SimulationScenarioSerializer C Config}

theorem digest_expecting (scenario : SimulationScenario C Config)
    (summary : ParityArtifactSummary) :
    s.digest (scenario.expecting summary) = s.digest scenario := rfl

section Execute
variable {S P V Snapshot : Type} [SimulationState S Snapshot] [StateValidator V S]
  [Phase P S C Snapshot] [SimulationConfig Config]

theorem execute_expecting (scenario : SimulationScenario C Config)
    (summary : ParityArtifactSummary)
    (build : Seed → Config → Outcome (DeterministicEngine S C P V Snapshot))
    (replaySerializer : ReplayArtifactSerializer C Snapshot) :
    s.execute (scenario.expecting summary) build replaySerializer =
      s.execute scenario build replaySerializer := rfl

/- What was executed is compared with the expectation, and a summary matches itself. -/
theorem verify_expecting {scenario : SimulationScenario C Config}
    {build : Seed → Config → Outcome (DeterministicEngine S C P V Snapshot)}
    {replaySerializer : ReplayArtifactSerializer C Snapshot}
    {execution : ScenarioExecutionResult C Snapshot}
    (h : s.execute scenario build replaySerializer = .ok execution) :
    ∃ verification,
      s.verify (scenario.expecting execution.paritySummary) build replaySerializer =
        .ok verification ∧
      verification.execution = execution ∧ verification.passed = true := by
  have hmatch := compareParitySummaries_isMatch.mpr (sameParity_refl execution.paritySummary)
  refine ⟨⟨execution, some (compareParitySummaries execution.paritySummary
    execution.paritySummary)⟩, ?_, rfl, hmatch⟩
  rw [verify, execute_expecting, h]
  rfl

end Execute

/- Of the scenarios that have a digest, those of this version can be written. -/
theorem encode_of_digest {scenario : SimulationScenario C Config}
    (hdigest : ∃ d, s.digest scenario = .ok d) :
    (∃ bytes, s.encode scenario = .ok bytes) ↔
      scenario.metadata.artifactSchemaVersion = SCENARIO_ARTIFACT_SCHEMA_VERSION := by
  obtain ⟨hconfig, hframes⟩ := exists_digest.mp hdigest
  constructor
  · rintro ⟨bytes, h⟩
    exact (encode_eq_ok'.mp h).1.version
  · intro hversion
    exact ⟨_, encode_eq_ok'.mpr ⟨⟨hversion, hconfig, hframes⟩, rfl⟩⟩

end SimulationScenarioSerializer

namespace Simulation
variable {Config S C P V Snapshot : Type}

section Pins
variable [SimulationState S Snapshot] [StateValidator V S] [Phase P S C Snapshot]
  [SimulationConfig Config]

/-- A scenario with its own result as its expectation. -/
structure PinsResult (sim : Simulation Config S C P V Snapshot) (layout : Layout)
    (fits : Config → Prop) (scenario : SimulationScenario C Config)
    (execution : ScenarioExecutionResult C Snapshot) : Prop where
  named : execution.paritySummary.scenarioDigest = some execution.scenarioDigest
  digest : sim.scenarioCodec.digest scenario = .ok execution.scenarioDigest ∧
    sim.scenarioCodec.digest (scenario.expecting execution.paritySummary) =
      .ok execution.scenarioDigest
  executes : sim.executeScenario (scenario.expecting execution.paritySummary) = .ok execution
  verifies : ∃ verification,
    sim.verifyScenario (scenario.expecting execution.paritySummary) = .ok verification ∧
      verification.execution = execution ∧ verification.passed = true
  exported : (∃ bytes, sim.scenarioCodec.encode (scenario.expecting execution.paritySummary) =
      .ok bytes) ↔
    scenario.metadata.artifactSchemaVersion = SCENARIO_ARTIFACT_SCHEMA_VERSION
  imported : SimulationScenarioSerializer.Representable layout fits scenario → ∀ bytes,
    sim.scenarioCodec.encode (scenario.expecting execution.paritySummary) = .ok bytes →
      sim.scenarioCodec.decode layout bytes = .ok (scenario.expecting execution.paritySummary)

end Pins

variable {sim : Simulation Config S C P V Snapshot}
  [SimulationState S Snapshot] [LawfulSimulationState S Snapshot] [StateValidator V S]
  [Phase P S C Snapshot] [PurePhase P S C Snapshot] [QuietPhase P S C Snapshot]
  [SimulationConfig Config] {fits : Config → Prop}

omit [LawfulSimulationState S Snapshot] [PurePhase P S C Snapshot] [QuietPhase P S C Snapshot] in
theorem executed_pins (hl : sim.Lawful fits) (layout : Layout)
    {scenario : SimulationScenario C Config} {execution : ScenarioExecutionResult C Snapshot}
    (hexec : sim.executeScenario scenario = .ok execution) :
    sim.PinsResult layout fits scenario execution := by
  obtain ⟨digest, recorded, hdigest, -, hexecution⟩ := executeScenario_eq_ok.mp hexec
  have hown : execution.scenarioDigest = digest := by rw [hexecution]
  have hname : execution.paritySummary.scenarioDigest = some execution.scenarioDigest := by
    rw [hexecution]
  rw [← hown] at hdigest
  have hsame : sim.scenarioCodec.digest (scenario.expecting execution.paritySummary) =
      .ok execution.scenarioDigest := by
    rw [SimulationScenarioSerializer.digest_expecting]
    exact hdigest
  exact {
    named := hname
    digest := ⟨hdigest, hsame⟩
    executes := hexec
    verifies := SimulationScenarioSerializer.verify_expecting hexec
    exported := SimulationScenarioSerializer.encode_of_digest ⟨_, hsame⟩
    imported := fun hr _ hencode => (scenario_codec_law hl layout).roundTrip hencode hr }

end Simulation

/- A scenario that runs can carry its own summary. -/
theorem executed_scenario_pins_result (layout : Layout) :
    (∀ (scenario : CounterScenario) (execution : CounterScenarioExecutionResult),
      executeCounterScenario scenario = .ok execution →
      counterSimulation.PinsResult layout CounterSimulationConfig.Representable scenario
        execution) ∧
    (∀ (scenario : SettlementScenario) (execution : SettlementScenarioExecutionResult),
      executeSettlementScenario scenario = .ok execution →
      settlementSimulation.PinsResult layout (fun _ => True) scenario execution) :=
  ⟨fun _ _ h => Simulation.executed_pins counter_lawful layout h,
    fun _ _ h => Simulation.executed_pins settlement_lawful layout h⟩

theorem executed_scenario_pins_result_two_ticks : ∃ execution bytes,
    executeCounterScenario twoStepsScenario = .ok execution ∧
      counterScenarioCodec.encode (twoStepsScenario.expecting execution.paritySummary) =
        .ok bytes ∧
      counterScenarioCodec.decode unitLayout bytes =
        .ok (twoStepsScenario.expecting execution.paritySummary) := by
  obtain ⟨-, execution, -, hexec, -⟩ := twoSteps_recorded
  have hpins := (executed_scenario_pins_result unitLayout).1 twoStepsScenario execution hexec
  obtain ⟨bytes, hencode⟩ := hpins.exported.mpr rfl
  exact ⟨execution, bytes, hexec, hencode, hpins.imported
    ⟨twoSteps_holds.inputs, Nat.zero_le _⟩ bytes hencode⟩

/-- A scenario of another version: nothing asks for the version before it is written. -/
def unsupportedScenario : CounterScenario := { twoStepsScenario with metadata := ⟨2⟩ }

theorem unsupported_scenario_not_exported : ∃ execution,
    executeCounterScenario unsupportedScenario = .ok execution ∧
      counterScenarioCodec.encode (unsupportedScenario.expecting execution.paritySummary) =
        .error (.unsupportedSchemaVersion "scenario artifact" 1 2) := by
  obtain ⟨_, execution, -, hexec, -⟩ := twoSteps_recorded
  obtain ⟨digest, recorded, hdigest, hrec, -⟩ := Simulation.executeScenario_eq_ok.mp hexec
  have hwritable := SimulationScenarioSerializer.exists_digest.mp ⟨digest, hdigest⟩
  obtain ⟨digest', hdigest'⟩ : ∃ d, counterSimulation.scenarioCodec.digest unsupportedScenario =
      .ok d := SimulationScenarioSerializer.exists_digest.mpr hwritable
  exact ⟨_, Simulation.executeScenario_eq_ok.mpr ⟨digest', recorded, hdigest', hrec, rfl⟩, rfl⟩

end XenorEngine.Rust
