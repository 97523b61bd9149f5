import XenorEngine.Rust.Api

/-!
# Interop bundles of a settlement (settlement/mod.rs, api/settlement.rs)

A bundle holds the artifacts of a run and two accounts of how it ended: the totals of
the replay, and a summary of the last snapshot that was captured. They speak of the
same tick only if the policy captures the last one.
-/

namespace XenorEngine.Rust
open XenorEngine.Lib.ByteText XenorEngine.Lib.Fallible
open ReplayArtifactSerializer (orFail_eq_ok orFail_eq_error)

/-! ### Run summaries -/

def WorkerAllocation.idleWorkers (a : WorkerAllocation) (population : UInt32) : UInt32 :=
  saturatingSubU32 population a.totalAssigned

structure SettlementRunSummary where
  finalTick : Tick
  population : UInt32
  finalAllocation : WorkerAllocation
  idleWorkers : UInt32
  finalFood : Int64
  finalWood : Int64
  lastStatus : SettlementStatus
  shortageTicks : Tick
  totalFoodProduced : Int64
  totalWoodProduced : Int64
  totalFoodConsumed : Int64
  totalWoodConsumed : Int64
  totalFoodShortage : Int64
  totalWoodShortage : Int64
  finalChecksum : UInt64
  deriving DecidableEq, Repr

def SettlementRunSummary.fromSnapshot (snapshot : SettlementSnapshot) :
    Except EngineError SettlementRunSummary := do
  snapshot.validate.mapError EngineError.snapshotDecode
  pure {
    finalTick := snapshot.tick
    population := snapshot.population
    finalAllocation := snapshot.currentAllocation
    idleWorkers := snapshot.currentAllocation.idleWorkers snapshot.population
    finalFood := snapshot.food
    finalWood := snapshot.wood
    lastStatus := snapshot.lastStatus
    shortageTicks := snapshot.shortageTicks
    totalFoodProduced := snapshot.totalFoodProduced
    totalWoodProduced := snapshot.totalWoodProduced
    totalFoodConsumed := snapshot.totalFoodConsumed
    totalWoodConsumed := snapshot.totalWoodConsumed
    totalFoodShortage := snapshot.totalFoodShortage
    totalWoodShortage := snapshot.totalWoodShortage
    finalChecksum := SettlementState.snapshotChecksum snapshot }

def settlementRunSummaryFromSnapshot (snapshot : SettlementSnapshot) :
    Except EngineError SettlementRunSummary := SettlementRunSummary.fromSnapshot snapshot

def settlementRunSummaryFromExecution (execution : SettlementScenarioExecutionResult) :
    Except EngineError SettlementRunSummary := do
  let snapshot ← okOr execution.finalSnapshot (.replayContinuationMismatch
    "settlement run summary requires a captured final snapshot; use a snapshot policy that records the final tick")
  settlementRunSummaryFromSnapshot snapshot.payload

/-! ### Exports -/

def exportSettlementConfigArtifact (artifact : SettlementConfigArtifact) :
    Except EngineError Bytes := settlementConfigArtifactCodec.encode artifact

def settlementConfigArtifactDigest (artifact : SettlementConfigArtifact) :
    Except EngineError UInt64 := settlementConfigArtifactCodec.digest artifact

def exportSettlementScenario (scenario : SettlementScenario) : Except EngineError Bytes :=
  settlementScenarioCodec.encode scenario

def settlementScenarioDigest (scenario : SettlementScenario) : Except EngineError UInt64 :=
  settlementScenarioCodec.digest scenario

def exportSettlementReplayArtifact (artifact : SettlementReplayArtifact) :
    Except EngineError Bytes := settlementReplayArtifactCodec.encode artifact

def settlementReplayArtifactDigest (artifact : SettlementReplayArtifact) :
    Except EngineError UInt64 := settlementReplayArtifactCodec.digest artifact

def exportSettlementSnapshotArtifact (artifact : SettlementSnapshotArtifact) :
    Except EngineError Bytes := settlementSnapshotArtifactCodec.encode artifact

def settlementSnapshotArtifactDigest (artifact : SettlementSnapshotArtifact) :
    Except EngineError UInt64 := settlementSnapshotArtifactCodec.digest artifact

/-! ### Bundles -/

/-- What is kept for each artifact: its bytes, its digest, its size. -/
structure SettlementInteropArtifacts where
  configArtifact : Bytes
  scenarioArtifact : Option Bytes
  replayArtifact : Bytes
  snapshotArtifact : Option Bytes
  goldenFixture : Option Bytes

structure SettlementArtifactDigests where
  configArtifact : UInt64
  scenarioArtifact : Option UInt64
  replayArtifact : UInt64
  snapshotArtifact : Option UInt64
  goldenFixture : Option UInt64

structure SettlementArtifactSizes where
  configArtifact : ℕ
  scenarioArtifact : Option ℕ
  replayArtifact : ℕ
  snapshotArtifact : Option ℕ
  goldenFixture : Option ℕ

structure SettlementScenarioInteropBundle where
  artifacts : SettlementInteropArtifacts
  digests : SettlementArtifactDigests
  sizes : SettlementArtifactSizes
  summary : ArtifactSummary
  paritySummary : ParityArtifactSummary
  inspection : ReplayInspectionView
  runSummary : SettlementRunSummary

def scenarioInteropBundleFromExecution (scenario : SettlementScenario)
    (execution : SettlementScenarioExecutionResult) :
    Except EngineError SettlementScenarioInteropBundle := do
  let configArtifact ← exportSettlementConfigArtifact scenario.configArtifact
  let scenarioArtifact ← exportSettlementScenario scenario
  let replayArtifact ← exportSettlementReplayArtifact execution.replay.artifact
  let snapshotArtifact ←
    transpose (execution.finalSnapshot.map exportSettlementSnapshotArtifact)
  let artifacts : SettlementInteropArtifacts :=
    ⟨configArtifact, some scenarioArtifact, replayArtifact, snapshotArtifact, none⟩
  let configDigest ← settlementConfigArtifactDigest scenario.configArtifact
  let scenarioDigest ← settlementScenarioDigest scenario
  let replayDigest ← settlementReplayArtifactDigest execution.replay.artifact
  let snapshotDigest ←
    transpose (execution.finalSnapshot.map settlementSnapshotArtifactDigest)
  let runSummary ← settlementRunSummaryFromExecution execution
  pure {
    artifacts := artifacts
    digests := ⟨configDigest, some scenarioDigest, replayDigest, snapshotDigest, none⟩
    sizes := ⟨artifacts.configArtifact.length, artifacts.scenarioArtifact.map (·.length),
      artifacts.replayArtifact.length, artifacts.snapshotArtifact.map (·.length),
      artifacts.goldenFixture.map (·.length)⟩
    summary := execution.replay.result.summary
    paritySummary := execution.paritySummary
    inspection := execution.inspection
    runSummary := runSummary }

def executeSettlementScenarioInteropBundle (scenario : SettlementScenario) :
    Outcome SettlementScenarioInteropBundle := do
  let execution ← executeSettlementScenario scenario
  orFail (scenarioInteropBundleFromExecution scenario execution)

/-! ### The digests of an artifact -/

theorem digest_of_encode {α : Type} {encode : α → Except EngineError Bytes} {a : α} {b : Bytes}
    (h : encode a = .ok b) : (canonicalDigest <$> encode a) = .ok (canonicalDigest b) :=
  map_eq_ok.mpr ⟨b, h, rfl⟩

theorem digests_of_encode {α : Type} {encode : α → Except EngineError Bytes} {a : Option α}
    {b : Option Bytes} (h : transpose (a.map encode) = .ok b) :
    transpose (a.map fun a => canonicalDigest <$> encode a) = .ok (b.map canonicalDigest) := by
  rw [transpose_eq_ok] at h ⊢
  cases a with
  | none =>
    cases b with
    | none => rfl
    | some b => cases h
  | some a =>
    cases b with
    | none => cases h
    | some b => exact congrArg some (digest_of_encode (Option.some.inj h))

theorem eq_of_digest {α : Type} {encode : α → Except EngineError Bytes} {a : α} {b : Bytes}
    {d : UInt64} (h : encode a = .ok b) (hd : (canonicalDigest <$> encode a) = .ok d) :
    d = canonicalDigest b := Except.ok.inj (hd.symm.trans (digest_of_encode h))

theorem eq_of_digests {α : Type} {encode : α → Except EngineError Bytes} {a : Option α}
    {b : Option Bytes} {d : Option UInt64} (h : transpose (a.map encode) = .ok b)
    (hd : transpose (a.map fun a => canonicalDigest <$> encode a) = .ok d) :
    d = b.map canonicalDigest := Except.ok.inj (hd.symm.trans (digests_of_encode h))

/-! ### What was executed -/

/-- The run behind an execution: what it recorded, and what was kept of it. -/
structure Executed (scenario : SettlementScenario) (execution : SettlementScenarioExecutionResult)
    (e : SettlementEngine) (Inv : SettlementState → Prop) (s' : SettlementState) : Prop where
  runs : Runs (fun seed _ => buildSettlementEngineInternal seed scenario.configArtifact.payload)
    settlementReplayArtifactCodec scenario.baseSeed scenario.configArtifact.payload.snapshotPolicy
    e Inv
  run : e.machine.run e.state scenario.frames = .ok (s', execution.replay.artifact.records)
  valid : settlementReplayArtifactCodec.Valid execution.replay.artifact
  finalSnapshot : execution.finalSnapshot = (lastSnapshot execution.replay.artifact.records).map
    (settlementReplayArtifactCodec.buildSnapshotArtifact
      execution.replay.artifact.metadata.baseSeed execution.replay.artifact.metadata.configIdentity)
  finalTick : execution.replay.result.summary.finalTick =
    lastTick execution.replay.artifact.records
  finalChecksum : execution.replay.result.summary.finalChecksum =
    lastChecksum execution.replay.artifact.records

theorem exists_executed {scenario : SettlementScenario}
    {execution : SettlementScenarioExecutionResult}
    (h : executeSettlementScenario scenario = .ok execution) :
    ∃ e Inv s', Executed scenario execution e Inv s' := by
  obtain ⟨digest, recorded, e, Inv, s', records, -, hruns, hrun, hartifact, hresult, rfl⟩ :=
    Simulation.executed_run settlement_lawful h
  obtain ⟨hsummary, -, -, -, hfinal⟩ :=
    ReplayArtifactSerializer.executionResult_eq_ok.mp hresult
  obtain ⟨htick, hchecksum⟩ := ReplayArtifactSerializer.summary_totals hsummary
  have hrecords : recorded.artifact.records = records := by
    rw [hartifact]
    rfl
  refine ⟨e, Inv, s', ⟨hruns, hrecords ▸ hrun, ?_, hfinal, htick.trans ?_, hchecksum⟩⟩
  · exact ReplayArtifactSerializer.valid_of_summary hsummary
  · rw [hartifact]
    rfl

/- It never panics: a config that can be written builds an engine. -/
theorem executeSettlementScenario_error {scenario : SettlementScenario} {failure : Failure}
    (h : executeSettlementScenario scenario = .error failure) : ∃ e, failure = .error e := by
  have hof : ∀ {α : Type} {x : Except EngineError α}, orFail x = .error failure →
      ∃ e, failure = .error e := fun hx =>
    (orFail_eq_error.mp hx).imp fun _ he => he.2
  rcases bind_eq_error.mp h with hdigest | ⟨digest, hdigest, h⟩
  · exact hof hdigest
  obtain ⟨hvalid, -⟩ := Simulation.configArtifact_of_encode settlement_lawful
    (SimulationScenarioSerializer.exists_digest.mp ⟨_, orFail_eq_ok.mp hdigest⟩).1
  obtain ⟨e, Inv, hruns⟩ :=
    settlement_lawful.runs scenario.configArtifact.payload scenario.baseSeed hvalid
  rcases bind_eq_error.mp h with hrec | ⟨recorded, -, h⟩
  · rw [recordReplay, buildChecked_eq_ok.mpr ⟨hruns.builds, hruns.seed⟩, ok_bind] at hrec
    rcases bind_eq_error.mp hrec with hticks | ⟨done, -, hrec⟩
    · exact hof hticks
    rcases bind_eq_error.mp hrec with hartifact | ⟨artifact, -, hrec⟩
    · exact hof hartifact
    rcases bind_eq_error.mp hrec with hresult | ⟨result, -, hrec⟩
    · exact hof hresult
    · cases hrec
  · cases h

/-! ### The tick a run summary is of -/

/-- The policy captures the tick of the last frame. -/
def CapturesLast (scenario : SettlementScenario) : Prop :=
  ∃ frame ∈ scenario.frames.getLast?,
    scenario.configArtifact.payload.snapshotPolicy.shouldCapture frame.tick ≠ none

def CapturesNone (scenario : SettlementScenario) : Prop :=
  ∀ frame ∈ scenario.frames,
    scenario.configArtifact.payload.snapshotPolicy.shouldCapture frame.tick = none

section Captured
variable {scenario : SettlementScenario} {execution : SettlementScenarioExecutionResult}
  {e : SettlementEngine} {Inv : SettlementState → Prop} {s' : SettlementState}

theorem Executed.inputs (h : Executed scenario execution e Inv s') :
    execution.replay.artifact.records.map (·.input) = scenario.frames :=
  (h.runs.recorded h.run).inputs

theorem Executed.capturesNone_iff (h : Executed scenario execution e Inv s') :
    CapturesNone scenario ↔ execution.finalSnapshot = none := by
  rw [h.finalSnapshot, Option.map_eq_none_iff, lastSnapshot_eq_none, CapturesNone, ← h.inputs,
    List.forall_mem_map]
  exact forall₂_congr fun record hr => (h.runs.captured_iff h.run hr).symm

/- The captured snapshot against the totals, cut at the record that captured it: either it
is the last record, or the policy passed over the last tick. -/
theorem Executed.finals (h : Executed scenario execution e Inv s')
    {snapshot : SettlementSnapshotArtifact} (hs : execution.finalSnapshot = some snapshot) :
    (CapturesLast scenario →
      snapshot.payload.tick = execution.replay.result.summary.finalTick ∧
      SettlementState.snapshotChecksum snapshot.payload =
        execution.replay.result.summary.finalChecksum) ∧
    (snapshot.payload.tick = execution.replay.result.summary.finalTick →
      CapturesLast scenario) := by
  rw [h.finalSnapshot] at hs
  obtain ⟨captured, hlast, rfl⟩ := Option.map_eq_some_iff.mp hs
  obtain ⟨before, record, after, hsplit, hrecord, hnone⟩ := lastSnapshot_split hlast
  have hrun := h.run
  have hinputs := h.inputs
  rw [hsplit] at hrun hinputs
  obtain ⟨htick, hchecksum⟩ := h.runs.snapshot_of_record hrun hrecord
  have hcaptured : ∀ r ∈ before ++ record :: after, r.snapshot = none ↔
      scenario.configArtifact.payload.snapshotPolicy.shouldCapture r.input.tick = none :=
    fun r hr => h.runs.captured_iff hrun hr
  rw [h.finalTick, h.finalChecksum, hsplit]
  rcases List.eq_nil_or_concat' after with rfl | ⟨middle, last, rfl⟩
  · refine ⟨fun _ => ⟨htick.trans ?_, hchecksum.trans ?_⟩, fun _ => ⟨record.input, ?_, ?_⟩⟩
    · exact (lastTick_append before record []).symm
    · exact (lastChecksum_append before record []).symm
    · rw [← hinputs]
      simp
    · rw [ne_eq, ← hcaptured record (by simp), hrecord]
      exact Option.some_ne_none captured
  · have hnot : ¬ CapturesLast scenario := by
      rintro ⟨frame, hframe, hne⟩
      have hlastInput : scenario.frames.getLast? = some last.input := by
        rw [← hinputs, ← List.cons_append, ← List.append_assoc, List.getLast?_map,
          List.getLast?_concat]
        rfl
      obtain rfl := Option.some.inj (hlastInput.symm.trans hframe)
      exact hne ((hcaptured last (by simp)).mp (hnone last (by simp)))
    refine ⟨fun hcaptures => absurd hcaptures hnot, fun hsame => ?_⟩
    have hearlier := h.runs.lastTick_ne hrun (by simp)
    exact absurd (hsame.symm.trans htick) hearlier

/- What a bundle says, and that nothing but a missing snapshot stands in its way. -/
theorem bundle_of_ok {bundle : SettlementScenarioInteropBundle}
    (h : scenarioInteropBundleFromExecution scenario execution = .ok bundle) :
    ∃ snapshot, execution.finalSnapshot = some snapshot ∧
      bundle.summary = execution.replay.result.summary ∧
      bundle.runSummary.finalTick = snapshot.payload.tick ∧
      bundle.runSummary.finalChecksum = SettlementState.snapshotChecksum snapshot.payload := by
  simp only [scenarioInteropBundleFromExecution, settlementRunSummaryFromExecution,
    settlementRunSummaryFromSnapshot, SettlementRunSummary.fromSnapshot, bind_eq_ok, okOr_eq_ok,
    pure_eq_ok] at h
  obtain ⟨_, -, _, -, _, -, _, -, _, -, _, -, _, -, _, -, _, ⟨snapshot, hs, _, -, rfl⟩, rfl⟩ := h
  exact ⟨snapshot, hs, rfl, rfl, rfl⟩

theorem Executed.exists_bundle (h : Executed scenario execution e Inv s') {bytes : Bytes}
    (hexport : exportSettlementScenario scenario = .ok bytes)
    {snapshot : SettlementSnapshotArtifact} (hs : execution.finalSnapshot = some snapshot) :
    ∃ bundle, scenarioInteropBundleFromExecution scenario execution = .ok bundle := by
  have hvalid := (SimulationScenarioSerializer.encode_eq_ok'.mp hexport).1
  obtain ⟨configBytes, hconfig⟩ := hvalid.config
  obtain ⟨digest, hdigest⟩ := SimulationScenarioSerializer.exists_digest.mpr
    ⟨hvalid.config, hvalid.frames⟩
  obtain ⟨replayBytes, hreplay⟩ := ReplayArtifactSerializer.exists_encode_of_valid h.valid
  have hsnapshot : SnapshotArtifact.Valid SETTLEMENT_ENGINE_FAMILY settlementSnapshotTextSerializer
      SNAPSHOT_ARTIFACT_SCHEMA_VERSION snapshot := by
    rw [h.finalSnapshot] at hs
    obtain ⟨captured, hlast, rfl⟩ := Option.map_eq_some_iff.mp hs
    obtain ⟨record, hr, hrecord⟩ := lastSnapshot_some hlast
    exact ReplayArtifactSerializer.snapshotArtifact_valid h.valid hr hrecord _
  obtain ⟨artifactBytes, hencode⟩ :
      ∃ b, settlementSnapshotArtifactCodec.encode snapshot = .ok b :=
    ⟨_, SnapshotArtifact.encodeSnapshotArtifactBytes_eq_ok.mpr ⟨hsnapshot, rfl⟩⟩
  have hartifact : transpose (execution.finalSnapshot.map exportSettlementSnapshotArtifact) =
      .ok (some artifactBytes) := by
    rw [transpose_eq_ok, hs]
    exact congrArg some hencode
  have hsnapshotDigest : transpose (execution.finalSnapshot.map
      settlementSnapshotArtifactDigest) = .ok (some (canonicalDigest artifactBytes)) :=
    digests_of_encode hartifact
  obtain ⟨runSummary, hsummary⟩ :
      ∃ runSummary, settlementRunSummaryFromExecution execution = .ok runSummary := by
    obtain ⟨payloadBytes, hpayload⟩ := hsnapshot.payload
    have hpasses := (SettlementSnapshotTextSerializer.encode_eq_ok.mp hpayload).1
    rw [settlementRunSummaryFromExecution, okOr_eq_ok.mpr hs, ok_bind]
    simp only [settlementRunSummaryFromSnapshot, SettlementRunSummary.fromSnapshot, hpasses]
    exact ⟨_, rfl⟩
  simp only [scenarioInteropBundleFromExecution, bind_eq_ok, pure_eq_ok]
  exact ⟨_, configBytes, hconfig, bytes, hexport, replayBytes, hreplay, _, hartifact, _,
    digest_of_encode hconfig, digest, hdigest, _, digest_of_encode hreplay, _, hsnapshotDigest,
    runSummary, hsummary, rfl⟩

end Captured

/-- The scenario runs, and can be written. -/
def ScenarioAccepted (scenario : SettlementScenario) : Prop :=
  (∃ execution, executeSettlementScenario scenario = .ok execution) ∧
    ∃ bytes, exportSettlementScenario scenario = .ok bytes

theorem bundle_accepted {scenario : SettlementScenario} {bundle : SettlementScenarioInteropBundle}
    (h : executeSettlementScenarioInteropBundle scenario = .ok bundle) :
    ∃ execution, executeSettlementScenario scenario = .ok execution ∧
      scenarioInteropBundleFromExecution scenario execution = .ok bundle ∧
      ScenarioAccepted scenario := by
  obtain ⟨execution, hexec, hbundle⟩ := bind_eq_ok.mp h
  have hbundle := orFail_eq_ok.mp hbundle
  obtain ⟨_, -, hrest⟩ := bind_eq_ok.mp hbundle
  obtain ⟨bytes, hexport, -⟩ := bind_eq_ok.mp hrest
  exact ⟨execution, hexec, hbundle, ⟨execution, hexec⟩, bytes, hexport⟩

theorem interopBundle_error {scenario : SettlementScenario}
    (h : ∀ bundle, executeSettlementScenarioInteropBundle scenario ≠ .ok bundle) :
    ∃ e, executeSettlementScenarioInteropBundle scenario = .error (.error e) := by
  cases hcall : executeSettlementScenarioInteropBundle scenario with
  | ok bundle => exact absurd hcall (h bundle)
  | error failure =>
    rcases bind_eq_error.mp hcall with hexec | ⟨execution, -, hbundle⟩
    · obtain ⟨e, rfl⟩ := executeSettlementScenario_error hexec
      exact ⟨e, rfl⟩
    · obtain ⟨e, -, rfl⟩ := orFail_eq_error.mp hbundle
      exact ⟨e, rfl⟩

/-- The run summary is of the last tick, or there is none. -/
structure SummaryFinal (scenario : SettlementScenario) : Prop where
  final : ∀ bundle, executeSettlementScenarioInteropBundle scenario = .ok bundle →
    bundle.runSummary.finalTick = bundle.summary.finalTick ∧
      bundle.runSummary.finalChecksum = bundle.summary.finalChecksum
  fails : ¬ CapturesLast scenario →
    ∃ e, executeSettlementScenarioInteropBundle scenario = .error (.error e)

/- An accepted scenario of which something is captured has a bundle. -/
theorem exists_bundle_of_accepted {scenario : SettlementScenario} (h : ScenarioAccepted scenario)
    (hsome : ¬ CapturesNone scenario) :
    ∃ bundle, executeSettlementScenarioInteropBundle scenario = .ok bundle := by
  obtain ⟨⟨execution, hexec⟩, bytes, hexport⟩ := h
  obtain ⟨e, Inv, s', hexecuted⟩ := exists_executed hexec
  rw [hexecuted.capturesNone_iff] at hsome
  obtain ⟨snapshot, hs⟩ := Option.ne_none_iff_exists'.mp hsome
  obtain ⟨bundle, hbundle⟩ := hexecuted.exists_bundle hexport hs
  exact ⟨bundle, bind_eq_ok.mpr ⟨execution, hexec, orFail_eq_ok.mpr hbundle⟩⟩

/- The summary of a bundle is final exactly when the policy captures the last tick. -/
theorem bundle_final_iff {scenario : SettlementScenario} {bundle : SettlementScenarioInteropBundle}
    (h : executeSettlementScenarioInteropBundle scenario = .ok bundle) :
    (CapturesLast scenario → bundle.runSummary.finalTick = bundle.summary.finalTick ∧
      bundle.runSummary.finalChecksum = bundle.summary.finalChecksum) ∧
    (bundle.runSummary.finalTick = bundle.summary.finalTick → CapturesLast scenario) := by
  obtain ⟨execution, hexec, hbundle, -⟩ := bundle_accepted h
  obtain ⟨e, Inv, s', hexecuted⟩ := exists_executed hexec
  obtain ⟨snapshot, hs, hsummary, htick, hchecksum⟩ := bundle_of_ok hbundle
  rw [hsummary, htick, hchecksum]
  exact hexecuted.finals hs

theorem run_summary_final_iff (scenario : SettlementScenario) : SummaryFinal scenario ↔
    ¬ ScenarioAccepted scenario ∨ CapturesNone scenario ∨ CapturesLast scenario := by
  constructor
  · intro h
    by_contra hcondition
    simp only [not_or, not_not] at hcondition
    obtain ⟨haccepted, hsome, hlast⟩ := hcondition
    obtain ⟨bundle, hbundle⟩ := exists_bundle_of_accepted haccepted hsome
    exact hlast ((bundle_final_iff hbundle).2 (h.final bundle hbundle).1)
  · intro h
    have hcaptures : ∀ bundle, executeSettlementScenarioInteropBundle scenario = .ok bundle →
        CapturesLast scenario := by
      intro bundle hbundle
      obtain ⟨execution, hexec, hmade, haccepted⟩ := bundle_accepted hbundle
      rcases h with hrejected | hnone | hlast
      · exact absurd haccepted hrejected
      · obtain ⟨e, Inv, s', hexecuted⟩ := exists_executed hexec
        obtain ⟨snapshot, hs, -⟩ := bundle_of_ok hmade
        rw [hexecuted.capturesNone_iff.mp hnone] at hs
        cases hs
      · exact hlast
    refine ⟨fun bundle hbundle => (bundle_final_iff hbundle).1 (hcaptures bundle hbundle), ?_⟩
    exact fun hlast => interopBundle_error fun bundle hbundle => hlast (hcaptures bundle hbundle)

def threeHolds : List (InputFrame SettlementCommand) := [⟨1, .hold⟩, ⟨2, .hold⟩, ⟨3, .hold⟩]

/-- The default config captures every second tick. -/
def threeHoldsScenario : SettlementScenario :=
  SimulationScenarioSerializer.buildScenario (settlementSimulation.configArtifactOf .default) 7
    threeHolds none

theorem threeHoldsScenario_accepted : ScenarioAccepted threeHoldsScenario := by
  have hdefault : SettlementSimulationConfig.validate .default = .ok () := by decide
  have hvalid : settlementSimulation.scenarioCodec.Valid threeHoldsScenario :=
    ⟨rfl, Simulation.configArtifactOf_encodes settlement_lawful hdefault, fun _ _ => ⟨_, rfl⟩⟩
  obtain ⟨digest, hdigest⟩ := SimulationScenarioSerializer.exists_digest.mpr
    ⟨hvalid.config, hvalid.frames⟩
  obtain ⟨e, Inv, hruns⟩ := settlement_lawful.runs .default 7 hdefault
  obtain ⟨state, hstate, rfl⟩ := buildSettlementEngineInternal_eq_ok.mp hruns.builds
  have hticks : ((settlementEngineFrom 7 .default state).machine.run state
      threeHolds).toOption.isSome = true := by
    cases hstate
    decide +kernel
  obtain ⟨⟨s', records⟩, hrun⟩ := Option.isSome_iff_exists.mp hticks
  obtain ⟨recorded, hrec, -⟩ := exists_recordReplay hruns (toOption_eq_some.mp hrun)
    (settlementSimulation.identityOf .default)
  exact ⟨⟨_, Simulation.executeScenario_eq_ok.mpr ⟨digest, recorded, hdigest, hrec, rfl⟩⟩, _,
    SimulationScenarioSerializer.encode_eq_ok'.mpr ⟨hvalid, rfl⟩⟩

theorem threeHoldsScenario_captures : ¬ CapturesNone threeHoldsScenario := by
  intro hnone
  have hsecond := hnone ⟨2, .hold⟩ (by simp [threeHoldsScenario, threeHolds,
    SimulationScenarioSerializer.buildScenario])
  exact absurd hsecond (by decide)

/- The bundle is made of the second tick's snapshot and the third tick's totals. -/
theorem run_summary_of_earlier_tick : ∃ scenario bundle,
    buildSettlementScenario .default 7 threeHolds none = .ok scenario ∧
      executeSettlementScenarioInteropBundle scenario = .ok bundle ∧
      bundle.runSummary.finalTick ≠ bundle.summary.finalTick := by
  have hbuild : buildSettlementScenario .default 7 threeHolds none = .ok threeHoldsScenario :=
    bind_eq_ok.mpr ⟨_, (Simulation.buildConfigArtifact_eq_ok settlement_lawful).mpr
      ⟨by decide, rfl⟩, rfl⟩
  have hlast : ¬ CapturesLast threeHoldsScenario := by
    rintro ⟨frame, hframe, hcaptured⟩
    obtain rfl : (⟨3, .hold⟩ : InputFrame SettlementCommand) = frame := Option.some.inj hframe
    exact hcaptured (by decide)
  obtain ⟨bundle, hbundle⟩ := exists_bundle_of_accepted threeHoldsScenario_accepted
    threeHoldsScenario_captures
  exact ⟨_, bundle, hbuild, hbundle, fun hsame => hlast ((bundle_final_iff hbundle).2 hsame)⟩

end XenorEngine.Rust
