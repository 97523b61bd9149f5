import XenorEngine.Rust.ReplayPrefixes
import XenorEngine.Rust.SettlementInterop

/-!
# The demo catalog of settlements (settlement/mod.rs, api/settlement.rs)

For every demo scenario the catalog executes, verifies, resumes and reruns the run and reports
whether these agree. Once the scenario has a bundle that meets the expectation, they do.
-/

namespace XenorEngine.Rust
open XenorEngine.Lib.ByteText XenorEngine.Lib.Fallible
open ReplayArtifactSerializer (orFail_eq_ok orFail_eq_error)
open Debug (debug)

/-! ### Expectations -/

structure SettlementScenarioExpectation where
  finalAllocation : WorkerAllocation
  finalFood : Int64
  finalWood : Int64
  finalStatus : SettlementStatus
  shortageTicks : Tick
  totalFoodProduced : Int64
  totalWoodProduced : Int64
  totalFoodShortage : Int64
  totalWoodShortage : Int64
  deriving DecidableEq, Repr

namespace SettlementScenarioExpectation

def verify (e : SettlementScenarioExpectation) (summary : SettlementRunSummary) :
    Except String Unit := do
  rejectIf (summary.finalAllocation ≠ e.finalAllocation)
    s!"final allocation mismatch: expected {debug e.finalAllocation}, got {debug summary.finalAllocation}"
  [("final_food", e.finalFood, summary.finalFood),
    ("final_wood", e.finalWood, summary.finalWood),
    ("total_food_produced", e.totalFoodProduced, summary.totalFoodProduced),
    ("total_wood_produced", e.totalWoodProduced, summary.totalWoodProduced),
    ("total_food_shortage", e.totalFoodShortage, summary.totalFoodShortage),
    ("total_wood_shortage", e.totalWoodShortage, summary.totalWoodShortage)].forM
    fun (label, expected, actual) =>
      rejectIf (expected ≠ actual) s!"{label} mismatch: expected {expected}, got {actual}"
  rejectIf (summary.shortageTicks ≠ e.shortageTicks)
    s!"shortage_ticks mismatch: expected {e.shortageTicks}, got {summary.shortageTicks}"
  rejectIf (summary.lastStatus ≠ e.finalStatus)
    s!"final_status mismatch: expected `{e.finalStatus.asStr}`, got `{summary.lastStatus.asStr}`"

/-- What a summary that passes is expected to be. -/
def of (summary : SettlementRunSummary) : SettlementScenarioExpectation where
  finalAllocation := summary.finalAllocation
  finalFood := summary.finalFood
  finalWood := summary.finalWood
  finalStatus := summary.lastStatus
  shortageTicks := summary.shortageTicks
  totalFoodProduced := summary.totalFoodProduced
  totalWoodProduced := summary.totalWoodProduced
  totalFoodShortage := summary.totalFoodShortage
  totalWoodShortage := summary.totalWoodShortage

theorem verify_eq_ok {e : SettlementScenarioExpectation} {summary : SettlementRunSummary}
    {u : Unit} : e.verify summary = .ok u ↔ e = of summary := by
  obtain ⟨allocation, food, wood, status, ticks, producedFood, producedWood, shortFood,
    shortWood⟩ := e
  simp only [verify, of, bind_eq_ok, exists_const, rejectIf_eq_ok, forM_eq_ok,
    List.forall_mem_cons, List.not_mem_nil, IsEmpty.forall_iff, implies_true, and_true, ne_eq,
    not_not, SettlementScenarioExpectation.mk.injEq]
  constructor
  · rintro ⟨rfl, ⟨rfl, rfl, rfl, rfl, rfl, rfl⟩, rfl, rfl⟩
    exact ⟨rfl, rfl, rfl, rfl, rfl, rfl, rfl, rfl, rfl⟩
  · rintro ⟨rfl, rfl, rfl, rfl, rfl, rfl, rfl, rfl, rfl⟩
    exact ⟨rfl, ⟨rfl, rfl, rfl, rfl, rfl, rfl⟩, rfl, rfl⟩

end SettlementScenarioExpectation

/-! ### Named scenarios -/

structure SettlementNamedScenario where
  id : String
  title : String
  description : String
  config : SettlementSimulationConfig
  seed : Seed
  commands : List SettlementCommand
  expected : SettlementScenarioExpectation

def settlementInputFrames (commands : List SettlementCommand) :
    List (InputFrame SettlementCommand) :=
  commands.zipIdx.map fun (command, index) => ⟨UInt64.ofNat index + 1, command⟩

def SettlementNamedScenario.inputFrames (named : SettlementNamedScenario) :
    List (InputFrame SettlementCommand) := settlementInputFrames named.commands

def balancedSettlement : SettlementSimulationConfig :=
  { SettlementSimulationConfig.default with
    initialFood := 18, initialWood := 10, population := 6, initialAllocation := ⟨3, 2⟩
    foodPerFarmer := 3, woodPerLogger := 2
    foodConsumptionPerWorker := 1, woodConsumptionPerTick := 2 }

def settlementDemoScenarios : List SettlementNamedScenario :=
  let balanced := balancedSettlement
  let shortage := { balanced with
    initialFood := 0, initialWood := 12, initialAllocation := ⟨1, 4⟩
    foodPerFarmer := 2, woodPerLogger := 3 }
  let woodSurplus := { balanced with
    population := 4, initialFood := 12, initialWood := 8, initialAllocation := ⟨2, 2⟩
    foodPerFarmer := 3, woodPerLogger := 4, woodConsumptionPerTick := 1 }
  let recovery := { balanced with
    population := 5, initialFood := 3, initialWood := 8, initialAllocation := ⟨1, 3⟩
    foodPerFarmer := 2, woodPerLogger := 3, woodConsumptionPerTick := 1 }
  [{ id := "balanced_settlement"
     title := "Balanced settlement"
     description :=
       "Food and wood both stay ahead of consumption with a stable worker split."
     config := balanced
     seed := 101
     commands := List.replicate 6 .hold
     expected := ⟨⟨3, 2⟩, 36, 22, .stable, 0, 54, 24, 0, 0⟩ },
   { id := "food_shortage"
     title := "Food shortage"
     description :=
       "Too many workers are assigned to wood, so food reserves collapse deterministically."
     config := shortage
     seed := 202
     commands := List.replicate 6 .hold
     expected := ⟨⟨1, 4⟩, 0, 72, .foodShortage, 6, 12, 72, 24, 0⟩ },
   { id := "wood_surplus"
     title := "Wood surplus"
     description :=
       "A moderate settlement keeps food positive while wood stockpiles grow every tick."
     config := woodSurplus
     seed := 303
     commands := List.replicate 6 .hold
     expected := ⟨⟨2, 2⟩, 24, 50, .stable, 0, 36, 48, 0, 0⟩ },
   { id := "recovery_after_reallocation"
     title := "Recovery after reallocation"
     description :=
       "A food-starved settlement recovers after workers are reallocated toward farming."
     config := recovery
     seed := 404
     commands := [.hold, .hold, .setWorkerAllocation ⟨3, 1⟩, .hold, .hold, .hold]
     expected := ⟨⟨3, 1⟩, 4, 32, .stable, 1, 28, 30, 3, 0⟩ }]

structure SettlementScenarioCase where
  id : String
  title : String
  description : String
  expectation : SettlementScenarioExpectation
  scenario : SettlementScenario

def buildSettlementCase (named : SettlementNamedScenario) :
    Except EngineError SettlementScenarioCase := do
  let scenario ← buildSettlementScenario named.config named.seed named.inputFrames none
  pure ⟨named.id, named.title, named.description, named.expected, scenario⟩

def settlementDemoCases : Except EngineError (List SettlementScenarioCase) :=
  settlementDemoScenarios.mapM buildSettlementCase

/-! ### Bundles of fixtures -/

def exportSettlementGoldenFixture (fixture : SettlementGoldenFixture) :
    Except EngineError Bytes := settlementGoldenFixtureCodec.encode fixture

def settlementGoldenFixtureDigest (fixture : SettlementGoldenFixture) :
    Except EngineError UInt64 := settlementGoldenFixtureCodec.digest fixture

structure SettlementFixtureInteropBundle where
  artifacts : SettlementInteropArtifacts
  digests : SettlementArtifactDigests
  sizes : SettlementArtifactSizes
  summary : GoldenFixtureSummary
  paritySummary : ParityArtifactSummary
  runSummary : SettlementRunSummary

def fixtureInteropBundleFromFixture (fixture : SettlementGoldenFixture) :
    Except EngineError SettlementFixtureInteropBundle := do
  let configArtifact ← exportSettlementConfigArtifact fixture.configArtifact
  let scenarioArtifact ← transpose (fixture.scenarioArtifact.map exportSettlementScenario)
  let replayArtifact ← exportSettlementReplayArtifact fixture.replayArtifact
  let snapshotArtifact ←
    transpose (fixture.snapshotArtifact.map exportSettlementSnapshotArtifact)
  let goldenFixture ← exportSettlementGoldenFixture fixture
  let artifacts : SettlementInteropArtifacts :=
    ⟨configArtifact, scenarioArtifact, replayArtifact, snapshotArtifact, some goldenFixture⟩
  let snapshot ← okOr fixture.snapshotArtifact (.replayContinuationMismatch
    "settlement fixture interop bundle requires a captured final snapshot")
  let runSummary ← settlementRunSummaryFromSnapshot snapshot.payload
  let configDigest ← settlementConfigArtifactDigest fixture.configArtifact
  let scenarioDigest ← transpose (fixture.scenarioArtifact.map settlementScenarioDigest)
  let replayDigest ← settlementReplayArtifactDigest fixture.replayArtifact
  let snapshotDigest ←
    transpose (fixture.snapshotArtifact.map settlementSnapshotArtifactDigest)
  let fixtureDigest ← settlementGoldenFixtureDigest fixture
  pure {
    artifacts := artifacts
    digests := ⟨configDigest, scenarioDigest, replayDigest, snapshotDigest, some fixtureDigest⟩
    sizes := ⟨artifacts.configArtifact.length, artifacts.scenarioArtifact.map (·.length),
      artifacts.replayArtifact.length, artifacts.snapshotArtifact.map (·.length),
      artifacts.goldenFixture.map (·.length)⟩
    summary := fixture.summary
    paritySummary := fixture.summary
    runSummary := runSummary }

/-! ### Views -/

structure SettlementExpectationCheck where
  passed : Bool
  detail : Option String
  deriving DecidableEq, Repr

def settlementExpectationCheck (expected : SettlementScenarioExpectation)
    (summary : SettlementRunSummary) : SettlementExpectationCheck :=
  match expected.verify summary with
  | .ok () => ⟨true, none⟩
  | .error detail => ⟨false, some detail⟩

structure SettlementTickDigestView where
  tick : Tick
  checksum : UInt64
  snapshotPresent : Bool
  phaseOrder : List String
  validationCheckpoints : List String
  deriving DecidableEq, Repr

def settlementTickDigestView (inspection : ReplayInspectionView) :
    List SettlementTickDigestView :=
  inspection.tickSummaries.map fun summary => {
    tick := summary.tick
    checksum := summary.checksum
    snapshotPresent := summary.snapshotPresent
    phaseOrder := summary.phaseMarkers.map (·.name)
    validationCheckpoints := summary.validationSummaries.map (·.checkpoint.asStr) }

structure SettlementDeterminismReport where
  expectationCheck : SettlementExpectationCheck
  rerunParityMatch : Bool
  replayVerificationMatch : Bool
  replayVerificationChecksum : UInt64
  resumeSnapshotTick : Option Tick
  resumeFromSnapshotMatch : Bool
  resumeFromSnapshotChecksum : Option UInt64
  fixtureVerificationPassed : Bool
  deriving DecidableEq, Repr

structure SettlementDemoScenarioView where
  id : String
  title : String
  description : String
  seed : Seed
  tickCount : Tick
  config : SettlementSimulationConfig
  expected : SettlementScenarioExpectation
  runSummary : SettlementRunSummary
  artifactSummary : ArtifactSummary
  paritySummary : ParityArtifactSummary
  artifactDigests : SettlementArtifactDigests
  artifactSizes : SettlementArtifactSizes
  tickDigestView : List SettlementTickDigestView
  determinism : SettlementDeterminismReport

structure SettlementDemoCatalog where
  engineFamily : String
  scenarioCount : ℕ
  scenarios : List SettlementDemoScenarioView

/-- The body of the loop of `build_settlement_demo_catalog`. -/
def settlementDemoScenarioView (c : SettlementScenarioCase) :
    Outcome SettlementDemoScenarioView := do
  let execution ← executeSettlementScenario c.scenario
  let bundle ← orFail (scenarioInteropBundleFromExecution c.scenario execution)
  let rerun ← executeSettlementScenario c.scenario
  let rerunParityMatch :=
    (compareParitySummaries bundle.paritySummary rerun.paritySummary).isMatch
  let replayVerify ← verifySettlementReplayWithConfig c.scenario.configArtifact.payload
    execution.replay.artifact
  let resumeTick := execution.replay.artifact.records.findSome? fun record =>
    record.snapshot.map fun _ => record.tick
  let resumeSnapshot ← orFail (transpose (resumeTick.map fun tick =>
    settlementSnapshotArtifactAtTick execution.replay.artifact tick))
  let resumeResult ← transpose (resumeSnapshot.map fun snapshot =>
    resumeSettlementReplayFromSnapshotWithConfig c.scenario.configArtifact.payload snapshot
      execution.replay.artifact)
  let fixture ← generateSettlementGoldenFixtureFromScenario c.scenario
  let fixtureResult ← verifySettlementGoldenFixture fixture
  let fixtureBundle ← orFail (fixtureInteropBundleFromFixture fixture)
  let expectationCheck := settlementExpectationCheck c.expectation bundle.runSummary
  orFail (rejectIf (¬ expectationCheck.passed) (.summaryMismatch
    (expectationCheck.detail.getD "settlement expectation mismatch")))
  pure {
    id := c.id
    title := c.title
    description := c.description
    seed := c.scenario.baseSeed
    tickCount := UInt64.ofNat c.scenario.frames.length
    config := c.scenario.configArtifact.payload
    expected := c.expectation
    runSummary := bundle.runSummary
    artifactSummary := bundle.summary
    paritySummary := bundle.paritySummary
    artifactDigests := fixtureBundle.digests
    artifactSizes := fixtureBundle.sizes
    tickDigestView := settlementTickDigestView bundle.inspection
    determinism := {
      expectationCheck := expectationCheck
      rerunParityMatch := rerunParityMatch
      replayVerificationMatch := replayVerify.finalChecksum = bundle.summary.finalChecksum
      replayVerificationChecksum := replayVerify.finalChecksum
      resumeSnapshotTick := resumeSnapshot.map (·.metadata.snapshot.sourceTick)
      resumeFromSnapshotMatch := (resumeResult.map fun result =>
        decide (result.finalChecksum = bundle.summary.finalChecksum)).getD false
      resumeFromSnapshotChecksum := resumeResult.map (·.finalChecksum)
      fixtureVerificationPassed := fixtureResult.passed } }

def buildSettlementDemoCatalog : Outcome SettlementDemoCatalog := do
  let cases ← orFail settlementDemoCases
  let scenarios ← cases.mapM settlementDemoScenarioView
  pure ⟨SETTLEMENT_ENGINE_FAMILY, scenarios.length, scenarios⟩

/-! ### What a view says -/

/-- The tick of the first snapshot that the policy captures. -/
def firstCapturedTick (scenario : SettlementScenario) : Option Tick :=
  (scenario.frames.find? fun frame =>
    (scenario.configArtifact.payload.snapshotPolicy.shouldCapture frame.tick).isSome).map (·.tick)

/-- The view of a case whose runs all agree. -/
def agreedView (c : SettlementScenarioCase) (bundle : SettlementScenarioInteropBundle)
    (fixtureBytes : Bytes) : SettlementDemoScenarioView where
  id := c.id
  title := c.title
  description := c.description
  seed := c.scenario.baseSeed
  tickCount := UInt64.ofNat c.scenario.frames.length
  config := c.scenario.configArtifact.payload
  expected := .of bundle.runSummary
  runSummary := bundle.runSummary
  artifactSummary := bundle.summary
  paritySummary := bundle.paritySummary
  artifactDigests := { bundle.digests with goldenFixture := some (canonicalDigest fixtureBytes) }
  artifactSizes := { bundle.sizes with goldenFixture := some fixtureBytes.length }
  tickDigestView := settlementTickDigestView bundle.inspection
  determinism := {
    expectationCheck := ⟨true, none⟩
    rerunParityMatch := true
    replayVerificationMatch := true
    replayVerificationChecksum := bundle.summary.finalChecksum
    resumeSnapshotTick := firstCapturedTick c.scenario
    resumeFromSnapshotMatch := true
    resumeFromSnapshotChecksum := some bundle.summary.finalChecksum
    fixtureVerificationPassed := true }

namespace Simulation
variable {Config S C P V Snapshot : Type} {sim : Simulation Config S C P V Snapshot}
  [SimulationState S Snapshot] [LawfulSimulationState S Snapshot] [StateValidator V S]
  [Phase P S C Snapshot] [PurePhase P S C Snapshot] [QuietPhase P S C Snapshot]
  [SimulationConfig Config] {fits : Config → Prop}

omit [LawfulSimulationState S Snapshot] [PurePhase P S C Snapshot] [QuietPhase P S C Snapshot] in
/- What a scenario executes is what its config, seed and frames record. -/
theorem exists_recorded (hl : sim.Lawful fits) {scenario : SimulationScenario C Config}
    {execution : ScenarioExecutionResult C Snapshot}
    (h : sim.executeScenario scenario = .ok execution) : ∃ digest recorded,
      sim.scenarioCodec.digest scenario = .ok digest ∧
      sim.recordReplayWithConfig scenario.configArtifact.payload scenario.baseSeed
        scenario.frames = .ok recorded ∧
      execution = ⟨digest, ⟨recorded.artifact, { recorded.result with summary :=
          { recorded.result.summary with scenarioDigest := some digest } }⟩,
        { recorded.result.summary with scenarioDigest := some digest },
        recorded.result.finalSnapshot, inspectReplayTrace recorded.artifact.records⟩ := by
  obtain ⟨digest, recorded, hdigest, hrec, hexecution⟩ := executeScenario_eq_ok.mp h
  obtain ⟨hvalid, hidentity⟩ := configArtifact_of_encode hl
    (SimulationScenarioSerializer.exists_digest.mp ⟨digest, hdigest⟩).1
  rw [hidentity] at hrec
  exact ⟨digest, recorded, hdigest, (recordReplayWithConfig_eq_ok hl).mpr ⟨hvalid, hrec⟩,
    hexecution⟩

theorem recorded_of_executed (hl : sim.Lawful fits) {scenario : SimulationScenario C Config}
    {execution : ScenarioExecutionResult C Snapshot}
    (h : sim.executeScenario scenario = .ok execution) :
    ∃ recorded, sim.recordReplayWithConfig scenario.configArtifact.payload scenario.baseSeed
        scenario.frames = .ok recorded ∧
      recorded.artifact = execution.replay.artifact ∧
      recorded.result.finalChecksum = execution.replay.result.summary.finalChecksum := by
  obtain ⟨digest, recorded, -, hrec, rfl⟩ := exists_recorded hl h
  obtain ⟨hvalid, hrecord⟩ := (recordReplayWithConfig_eq_ok hl).mp hrec
  obtain ⟨e, Inv, hruns⟩ := hl.runs scenario.configArtifact.payload scenario.baseSeed hvalid
  obtain ⟨s', records, -, -, hresult⟩ := (recordReplay_runs hruns).mp hrecord
  obtain ⟨hsummary, -, -, hchecksum, -⟩ :=
    ReplayArtifactSerializer.executionResult_eq_ok.mp hresult
  refine ⟨recorded, hrec, rfl, ?_⟩
  rw [hchecksum]
  exact (ReplayArtifactSerializer.summary_totals hsummary).2.symm

end Simulation

section Run
variable {scenario : SettlementScenario} {execution : SettlementScenarioExecutionResult}
  {e : SettlementEngine} {Inv : SettlementState → Prop} {s' : SettlementState}

theorem find_map_tick {records : List (ReplayTickRecord SettlementCommand SettlementSnapshot)}
    {policy : SnapshotPolicy} (h : ∀ r ∈ records, r.input.tick = r.tick ∧
      (r.snapshot = none ↔ policy.shouldCapture r.input.tick = none)) :
    (records.findSome? fun r => r.snapshot.map fun _ => r.tick) =
      ((records.map (·.input)).find? fun frame =>
        (policy.shouldCapture frame.tick).isSome).map (·.tick) := by
  induction records with
  | nil => rfl
  | cons r rs ih =>
    obtain ⟨htick, hcaptured⟩ := h r (List.mem_cons_self ..)
    have hrest := ih fun x hx => h x (List.mem_cons_of_mem _ hx)
    cases hs : r.snapshot with
    | none =>
      have hpolicy := hcaptured.mp hs
      simp only [List.findSome?_cons, hs, Option.map_none, List.map_cons, List.find?_cons,
        hpolicy, Option.isSome_none, hrest]
    | some snapshot =>
      have hpolicy : (policy.shouldCapture r.input.tick).isSome = true := by
        rw [Option.isSome_iff_ne_none, ne_eq, ← hcaptured, hs]
        exact Option.some_ne_none snapshot
      simp only [List.findSome?_cons, hs, Option.map_some, List.map_cons, List.find?_cons,
        hpolicy]
      rw [htick]

theorem Executed.firstCaptured (h : Executed scenario execution e Inv s') :
    (execution.replay.artifact.records.findSome? fun r => r.snapshot.map fun _ => r.tick) =
      firstCapturedTick scenario := by
  rw [find_map_tick fun r hr => ⟨?_, h.runs.captured_iff h.run hr⟩, h.inputs]
  · rfl
  · exact (legalFrom_mem (h.runs.legal h.run) hr).input_tick

/- The parts of a bundle. -/
theorem bundle_parts {bundle : SettlementScenarioInteropBundle}
    (h : scenarioInteropBundleFromExecution scenario execution = .ok bundle) :
    ∃ configBytes scenarioBytes replayBytes snapshot snapshotBytes scenarioDigest,
      exportSettlementConfigArtifact scenario.configArtifact = .ok configBytes ∧
      exportSettlementScenario scenario = .ok scenarioBytes ∧
      exportSettlementReplayArtifact execution.replay.artifact = .ok replayBytes ∧
      execution.finalSnapshot = some snapshot ∧
      exportSettlementSnapshotArtifact snapshot = .ok snapshotBytes ∧
      settlementScenarioDigest scenario = .ok scenarioDigest ∧
      settlementRunSummaryFromSnapshot snapshot.payload = .ok bundle.runSummary ∧
      bundle.artifacts =
        ⟨configBytes, some scenarioBytes, replayBytes, some snapshotBytes, none⟩ ∧
      bundle.digests = ⟨canonicalDigest configBytes, some scenarioDigest,
        canonicalDigest replayBytes, some (canonicalDigest snapshotBytes), none⟩ ∧
      bundle.sizes = ⟨configBytes.length, some scenarioBytes.length, replayBytes.length,
        some snapshotBytes.length, none⟩ ∧
      bundle.summary = execution.replay.result.summary ∧
      bundle.paritySummary = execution.paritySummary ∧
      bundle.inspection = execution.inspection := by
  simp only [scenarioInteropBundleFromExecution, bind_eq_ok, pure_eq_ok] at h
  obtain ⟨cb, hcb, sb, hsb, rb, hrb, xb, hxb, cd, hcd, sd, hsd, rd, hrd, xd, hxd, summary,
    hsummary, rfl⟩ := h
  obtain ⟨snapshot, hs, hrun⟩ := bind_eq_ok.mp hsummary
  rw [okOr_eq_ok] at hs
  rw [hs] at hxb hxd
  obtain rfl := eq_of_digest hcb hcd
  obtain rfl := eq_of_digest hrb hrd
  obtain rfl := eq_of_digests hxb hxd
  rw [transpose_eq_ok] at hxb
  cases xb with
  | none => cases hxb
  | some xb =>
    exact ⟨cb, sb, rb, snapshot, xb, sd, hcb, hsb, hrb, hs, Option.some.inj hxb, hsd, hrun, rfl,
      rfl, rfl, rfl, rfl, rfl⟩

/- The fixture of a scenario has the bundle of the scenario, and itself in it. -/
theorem fixtureBundle_of_generated {bundle : SettlementScenarioInteropBundle}
    (h : scenarioInteropBundleFromExecution scenario execution = .ok bundle)
    {fixture : SettlementGoldenFixture}
    (hf : settlementSimulation.Generated scenario execution fixture) {fixtureBytes : Bytes}
    (hexport : exportSettlementGoldenFixture fixture = .ok fixtureBytes) :
    fixtureInteropBundleFromFixture fixture = .ok {
      artifacts := { bundle.artifacts with goldenFixture := some fixtureBytes }
      digests := { bundle.digests with goldenFixture := some (canonicalDigest fixtureBytes) }
      sizes := { bundle.sizes with goldenFixture := some fixtureBytes.length }
      summary := fixture.summary
      paritySummary := fixture.summary
      runSummary := bundle.runSummary } := by
  obtain ⟨cb, sb, rb, snapshot, xb, sd, hcb, hsb, hrb, hs, hxb, hsd, hrun, hartifacts, hdigests,
    hsizes, -, -, -⟩ := bundle_parts h
  have hcd : settlementConfigArtifactDigest scenario.configArtifact = .ok (canonicalDigest cb) :=
    digest_of_encode hcb
  have hrd : settlementReplayArtifactDigest execution.replay.artifact =
      .ok (canonicalDigest rb) := digest_of_encode hrb
  have hxd : settlementSnapshotArtifactDigest snapshot = .ok (canonicalDigest xb) :=
    digest_of_encode hxb
  have hgd : settlementGoldenFixtureDigest fixture = .ok (canonicalDigest fixtureBytes) :=
    digest_of_encode hexport
  have hscenario : fixture.scenarioArtifact = some scenario := hf.scenario
  have hsnapshot : fixture.snapshotArtifact = some snapshot := hf.snapshot.trans hs
  have hoption {α : Type} (a : α) :
      transpose (some (Except.ok a : Except EngineError α)) = .ok (some a) := rfl
  have hcaptured (error : EngineError) : okOr (some snapshot) error = .ok snapshot := rfl
  rw [hartifacts, hdigests, hsizes]
  simp only [fixtureInteropBundleFromFixture, hf.config, hf.replay, hscenario, hsnapshot,
    Option.map_some, hcb, hsb, hrb, hxb, hexport, hcd, hsd, hrd, hxd, hgd, hrun, hoption,
    hcaptured, ok_bind]
  rfl

/- Resuming at the first snapshot. -/
theorem resume_first (hexec : executeSettlementScenario scenario = .ok execution)
    {snapshot : SettlementSnapshotArtifact} (hs : execution.finalSnapshot = some snapshot) :
    ∃ tick source result, firstCapturedTick scenario = some tick ∧
      settlementSnapshotArtifactAtTick execution.replay.artifact tick = .ok source ∧
      source.metadata.snapshot.sourceTick = tick ∧
      resumeSettlementReplayFromSnapshotWithConfig scenario.configArtifact.payload source
        execution.replay.artifact = .ok result ∧
      result.finalChecksum = execution.replay.result.summary.finalChecksum := by
  obtain ⟨e, Inv, s', h⟩ := exists_executed hexec
  obtain ⟨recorded, hrec, hartifact, hchecksum⟩ :=
    Simulation.recorded_of_executed settlement_lawful hexec
  rw [← h.firstCaptured]
  cases hfirst : execution.replay.artifact.records.findSome?
      fun r => r.snapshot.map fun _ => r.tick with
  | none =>
    have hnone : execution.finalSnapshot = none := by
      rw [h.finalSnapshot, Option.map_eq_none_iff, lastSnapshot_eq_none]
      intro r hr
      exact Option.map_eq_none_iff.mp (List.findSome?_eq_none_iff.mp hfirst r hr)
    rw [hnone] at hs
    cases hs
  | some tick =>
    obtain ⟨record, hr, hrecord⟩ := List.exists_of_findSome?_eq_some hfirst
    obtain ⟨captured, hcaptured, rfl⟩ := Option.map_eq_some_iff.mp hrecord
    rw [← hartifact] at hr
    obtain ⟨source, hsource, -, hresume⟩ :=
      Simulation.resumeReplayWithConfig_recorded settlement_lawful hrec hr hcaptured
    have hfind := Simulation.find_of_recorded settlement_lawful hrec hr
    have htick : source.metadata.snapshot.sourceTick = record.tick := by
      rw [Simulation.snapshotArtifactAtTick, hfind, Option.bind_some, hcaptured] at hsource
      obtain rfl := Except.ok.inj hsource
      have hmem : record ∈ execution.replay.artifact.records := hartifact ▸ hr
      exact congrArg SnapshotMetadata.sourceTick
        ((legalFrom_mem (h.runs.legal h.run) hmem).metadata captured hcaptured)
    rw [hartifact] at hsource hresume
    exact ⟨record.tick, source, _, rfl, hsource, htick, hresume, hchecksum⟩

end Run

theorem orFail_ok {α : Type} (a : α) : orFail (Except.ok a) = .ok a := rfl

section View
variable {c : SettlementScenarioCase}

theorem view_of_bundle_error {failure : Failure}
    (h : executeSettlementScenarioInteropBundle c.scenario = .error failure) :
    settlementDemoScenarioView c = .error failure := by
  rcases bind_eq_error.mp h with hexec | ⟨execution, hexec, hbundle⟩
  · simp only [settlementDemoScenarioView, hexec]
    rfl
  · simp only [settlementDemoScenarioView, hexec, ok_bind, hbundle]
    rfl

/- The reruns, the verification, the resumption and the fixture decide nothing: a view is made
of the bundle, and only the expectation can refuse it. -/
theorem view_of_bundle {bundle : SettlementScenarioInteropBundle}
    (h : executeSettlementScenarioInteropBundle c.scenario = .ok bundle) :
    ∃ fixture fixtureBytes,
      generateSettlementGoldenFixtureFromScenario c.scenario = .ok fixture ∧
      exportSettlementGoldenFixture fixture = .ok fixtureBytes ∧
      settlementDemoScenarioView c = (do
        orFail ((c.expectation.verify bundle.runSummary).mapError .summaryMismatch)
        pure (agreedView c bundle fixtureBytes)) := by
  obtain ⟨execution, hexec, hmade⟩ := bind_eq_ok.mp h
  have hbundle := orFail_eq_ok.mp hmade
  obtain ⟨configBytes, scenarioBytes, replayBytes, snapshot, snapshotBytes, scenarioDigest,
    -, hexport, -, hs, -, -, -, -, hdigests, hsizes, hsummary, hparity, -⟩ :=
    bundle_parts hbundle
  obtain ⟨recorded, hrec, hartifact, hchecksum⟩ :=
    Simulation.recorded_of_executed settlement_lawful hexec
  have hverify : verifySettlementReplayWithConfig c.scenario.configArtifact.payload
      execution.replay.artifact = .ok { recorded.result with mode := .replayVerify } :=
    hartifact ▸ Simulation.verifyReplayWithConfig_recorded settlement_lawful hrec
  obtain ⟨tick, source, resumed, htick, hsource, hsourceTick, hresume, hresumed⟩ :=
    resume_first hexec hs
  obtain ⟨e, Inv, s', hexecuted⟩ := exists_executed hexec
  have hfirst := hexecuted.firstCaptured
  rw [htick] at hfirst
  obtain ⟨fixture, hgenerate, hgenerated, hw, hc, ht⟩ :=
    Simulation.generate_of_executed settlement_lawful
      (SimulationScenarioSerializer.encode_eq_ok'.mp hexport).1 hexec
  obtain ⟨result, hpasses, hpassed⟩ :=
    Simulation.verify_of_generated settlement_lawful hexec hgenerated hw hc ht
  obtain ⟨fixtureBytes, hfixture⟩ : ∃ b, exportSettlementGoldenFixture fixture = .ok b :=
    ⟨_, GoldenFixtureSerializer.encode_eq_ok'.mpr ⟨⟨hw, hc⟩, rfl⟩⟩
  have hfixtureBundle := fixtureBundle_of_generated hbundle hgenerated hfixture
  have hgenerate : generateSettlementGoldenFixtureFromScenario c.scenario = .ok fixture :=
    hgenerate
  have hpasses : verifySettlementGoldenFixture fixture = .ok result := hpasses
  have hoption {ε α : Type} (a : α) : transpose (some (Except.ok a : Except ε α)) =
      .ok (some a) := rfl
  have hsame : (compareParitySummaries execution.paritySummary
      execution.paritySummary).isMatch = true :=
    compareParitySummaries_isMatch.mpr (sameParity_refl _)
  refine ⟨fixture, fixtureBytes, hgenerate, hfixture, ?_⟩
  simp only [settlementDemoScenarioView, hexec, hbundle, ok_bind, orFail_ok, hverify, hfirst,
    Option.map_some, hsource, hoption, hresume, hgenerate, hpasses, hfixtureBundle]
  cases hcheck : c.expectation.verify bundle.runSummary with
  | error detail =>
    simp only [settlementExpectationCheck, hcheck]
    rfl
  | ok u =>
    simp only [settlementExpectationCheck, hcheck]
    have hexpected := SettlementScenarioExpectation.verify_eq_ok.mp hcheck
    simp only [agreedView, htick, hexpected, hpassed, hparity, hsame, hchecksum, hresumed,
      hsummary, hsourceTick, Option.getD_some, decide_true, rejectIf, not_true_eq_false,
      if_false]
    rfl

end View

/- A view is the scenario's bundle with its fixture, which there is whenever there is a
bundle; nothing but the bundle and the expectation can fail. -/
theorem settlementDemoScenarioView_eq (c : SettlementScenarioCase) :
    settlementDemoScenarioView c = (do
      let bundle ← executeSettlementScenarioInteropBundle c.scenario
      let fixture ← generateSettlementGoldenFixtureFromScenario c.scenario
      let fixtureBytes ← orFail (exportSettlementGoldenFixture fixture)
      orFail ((c.expectation.verify bundle.runSummary).mapError .summaryMismatch)
      pure (agreedView c bundle fixtureBytes)) ∧
    (∀ bundle, executeSettlementScenarioInteropBundle c.scenario = .ok bundle →
      ∃ fixture fixtureBytes,
        generateSettlementGoldenFixtureFromScenario c.scenario = .ok fixture ∧
        exportSettlementGoldenFixture fixture = .ok fixtureBytes) ∧
    ∀ failure, settlementDemoScenarioView c = .error failure ↔
      executeSettlementScenarioInteropBundle c.scenario = .error failure ∨
        ∃ bundle detail, executeSettlementScenarioInteropBundle c.scenario = .ok bundle ∧
          c.expectation.verify bundle.runSummary = .error detail ∧
          failure = .error (.summaryMismatch detail) := by
  cases hbundle : executeSettlementScenarioInteropBundle c.scenario with
  | error failure =>
    rw [view_of_bundle_error hbundle]
    exact ⟨rfl, fun bundle h => (by cases h), fun failure' => by simp⟩
  | ok bundle =>
    obtain ⟨fixture, fixtureBytes, hgenerate, hexport, hview⟩ := view_of_bundle hbundle
    refine ⟨?_, fun _ _ => ⟨fixture, fixtureBytes, hgenerate, hexport⟩, fun failure => ?_⟩
    · rw [hview, hgenerate]
      simp only [ok_bind, hexport, orFail_ok]
    · rw [hview]
      cases hcheck : c.expectation.verify bundle.runSummary with
      | error detail => simp [orFail, Except.mapError, hcheck, eq_comm]
      | ok u => simp [orFail, Except.mapError, hcheck]

/- Three frames with the expectation they meet, and with one tick of shortage too many. -/
theorem settlementDemoScenarioView_three_holds : ∃ met missed : SettlementScenarioCase,
    met.scenario = threeHoldsScenario ∧ missed.scenario = threeHoldsScenario ∧
    (∃ fixture fixtureBytes,
      generateSettlementGoldenFixtureFromScenario threeHoldsScenario = .ok fixture ∧
      exportSettlementGoldenFixture fixture = .ok fixtureBytes) ∧
    (∃ view, settlementDemoScenarioView met = .ok view) ∧
    ∃ detail, settlementDemoScenarioView missed = .error (.error (.summaryMismatch detail)) := by
  obtain ⟨bundle, hbundle⟩ := exists_bundle_of_accepted threeHoldsScenario_accepted
    threeHoldsScenario_captures
  let expected := SettlementScenarioExpectation.of bundle.runSummary
  let met : SettlementScenarioCase := ⟨"holds", "", "", expected, threeHoldsScenario⟩
  let missed : SettlementScenarioCase := { met with
    expectation := { expected with shortageTicks := expected.shortageTicks + 1 } }
  obtain ⟨hview, hfixture, -⟩ := settlementDemoScenarioView_eq met
  obtain ⟨fixture, fixtureBytes, hgenerate, hexport⟩ := hfixture bundle hbundle
  have hmet : met.expectation.verify bundle.runSummary = .ok () :=
    SettlementScenarioExpectation.verify_eq_ok.mpr rfl
  have hmissed : ∃ detail, missed.expectation.verify bundle.runSummary = .error detail := by
    cases hcheck : missed.expectation.verify bundle.runSummary with
    | error detail => exact ⟨detail, rfl⟩
    | ok u =>
      have hticks := congrArg SettlementScenarioExpectation.shortageTicks
        (SettlementScenarioExpectation.verify_eq_ok.mp hcheck)
      change bundle.runSummary.shortageTicks + 1 = bundle.runSummary.shortageTicks at hticks
      simp at hticks
  obtain ⟨detail, hdetail⟩ := hmissed
  refine ⟨met, missed, rfl, rfl, ⟨fixture, fixtureBytes, hgenerate, hexport⟩,
    ⟨agreedView met bundle fixtureBytes, ?_⟩, detail, ?_⟩
  · rw [hview]
    have hbundle : executeSettlementScenarioInteropBundle met.scenario = .ok bundle := hbundle
    have hgenerate : generateSettlementGoldenFixtureFromScenario met.scenario = .ok fixture :=
      hgenerate
    simp only [hbundle, hgenerate, hexport, hmet, ok_bind, orFail_ok, Except.mapError]
    rfl
  · exact ((settlementDemoScenarioView_eq missed).2.2 _).mpr
      (.inr ⟨bundle, detail, hbundle, hdetail, rfl⟩)

/- The demo scenarios end as they are expected to. -/
example : ∀ named ∈ settlementDemoScenarios, (do
    let state ← (SettlementState.fromConfig named.config).toOption
    let (final, _) ← ((settlementEngineFrom named.seed named.config state).machine.run state
      named.inputFrames).toOption
    let summary ← (SettlementRunSummary.fromSnapshot (SimulationState.snapshot final)).toOption
    pure (SettlementScenarioExpectation.of summary)) = some named.expected := by
  decide +kernel

end XenorEngine.Rust
