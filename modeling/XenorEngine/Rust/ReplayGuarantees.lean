import XenorEngine.Rust.ScenarioRuns

/-!
# Recording, verifying and resuming, for both simulations
-/

namespace XenorEngine.Rust
open XenorEngine.Lib.Fallible XenorEngine.Lib.Runs
open ReplayArtifactSerializer (orFail_eq_ok executionResult_eq_ok)

/-! ### Recording and verifying -/

theorem tickFrames_of_tickAll {S C P V Snapshot : Type} [SimulationState S Snapshot]
    [StateValidator V S] [Phase P S C Snapshot] {frames : List (InputFrame C)}
    {e e' : DeterministicEngine S C P V Snapshot}
    (h : DeterministicEngine.tickAll frames e = .ok () e') : tickFrames e frames = .ok e' := by
  rw [tickFrames, h]

/- A trace the engine produced is never rejected, and verifying it repeats the recording. -/
theorem recorded_replay_verifies :
    (∀ (config : CounterSimulationConfig) (seed : Seed) (frames : List (InputFrame CounterCommand))
      (engine engine' : CounterEngine), counterEngineWithConfig seed config = .ok engine →
      DeterministicEngine.tickAll frames engine = .ok () engine' →
      ∃ recorded, recordCounterReplayWithConfig config seed frames = .ok recorded ∧
        recorded.artifact.records = engine'.replayRecords ∧
        verifyCounterReplayWithConfig config recorded.artifact =
          .ok { recorded.result with mode := .replayVerify }) ∧
    (∀ (config : SettlementSimulationConfig) (seed : Seed)
      (frames : List (InputFrame SettlementCommand)) (engine engine' : SettlementEngine),
      settlementEngineWithConfig seed config = .ok engine →
      DeterministicEngine.tickAll frames engine = .ok () engine' →
      ∃ recorded, recordSettlementReplayWithConfig config seed frames = .ok recorded ∧
        recorded.artifact.records = engine'.replayRecords ∧
        verifySettlementReplayWithConfig config recorded.artifact =
          .ok { recorded.result with mode := .replayVerify }) := by
  constructor
  · intro config seed frames engine engine' hengine hticks
    obtain ⟨hvalid, rfl⟩ := counterEngineWithConfig_eq_ok.mp hengine
    obtain ⟨recorded, hrec, hrecords⟩ :=
      Simulation.exists_recordReplayWithConfig counter_lawful hvalid rfl
        (tickFrames_of_tickAll hticks)
    exact ⟨recorded, hrec, hrecords, Simulation.verifyReplayWithConfig_recorded counter_lawful hrec⟩
  · intro config seed frames engine engine' hengine hticks
    obtain ⟨hvalid, state, hstate, rfl⟩ := settlementEngineWithConfig_eq_ok.mp hengine
    obtain ⟨recorded, hrec, hrecords⟩ :=
      Simulation.exists_recordReplayWithConfig settlement_lawful hvalid
        (buildSettlementEngineInternal_eq_ok.mpr ⟨state, hstate, rfl⟩)
        (tickFrames_of_tickAll hticks)
    exact ⟨recorded, hrec, hrecords,
      Simulation.verifyReplayWithConfig_recorded settlement_lawful hrec⟩

theorem one_counter_tick : ∃ engine', DeterministicEngine.tickAll [⟨1, ⟨5, true⟩⟩]
    (buildCounterEngineInternal 7 defaultCounterScheduler .default) = .ok () engine' := by
  have hsome : (okState (DeterministicEngine.tickAll [⟨1, ⟨5, true⟩⟩]
      (buildCounterEngineInternal 7 defaultCounterScheduler .default))).isSome = true := by
    decide +kernel
  obtain ⟨_, engine', h⟩ := okState_isSome.mp hsome
  exact ⟨engine', h⟩

theorem recorded_replay_verifies_one_tick : ∃ engine' recorded,
    DeterministicEngine.tickAll [⟨1, ⟨5, true⟩⟩]
        (buildCounterEngineInternal 7 defaultCounterScheduler .default) = .ok () engine' ∧
      recordCounterReplayWithConfig .default 7 [⟨1, ⟨5, true⟩⟩] = .ok recorded ∧
      recorded.artifact.records = engine'.replayRecords ∧
      verifyCounterReplayWithConfig .default recorded.artifact =
        .ok { recorded.result with mode := .replayVerify } := by
  obtain ⟨engine', h⟩ := one_counter_tick
  obtain ⟨recorded, hrec, hrecords, hverify⟩ :=
    recorded_replay_verifies.1 .default 7 [⟨1, ⟨5, true⟩⟩] _ engine' rfl h
  exact ⟨engine', recorded, h, hrec, hrecords, hverify⟩

/-! ### Resuming -/

/- Every recorded snapshot resumes to the result of the full run. -/
theorem replay_resumes_from_snapshots :
    (∀ (config : CounterSimulationConfig) (seed : Seed) (frames : List (InputFrame CounterCommand))
      (recorded : CounterRecordedReplay),
      recordCounterReplayWithConfig config seed frames = .ok recorded →
      ∀ record ∈ recorded.artifact.records, ∀ snapshot ∈ record.snapshot, ∃ source verified,
        counterSnapshotArtifactAtTick recorded.artifact record.tick = .ok source ∧
        source.payload = snapshot.payload ∧
        verifyCounterReplayWithConfig config recorded.artifact = .ok verified ∧
        resumeCounterReplayFromSnapshotWithConfig config source recorded.artifact =
          .ok { verified with mode := .replayFromSnapshot record.tick }) ∧
    (∀ (config : SettlementSimulationConfig) (seed : Seed)
      (frames : List (InputFrame SettlementCommand)) (recorded : SettlementRecordedReplay),
      recordSettlementReplayWithConfig config seed frames = .ok recorded →
      ∀ record ∈ recorded.artifact.records, ∀ snapshot ∈ record.snapshot, ∃ source verified,
        settlementSnapshotArtifactAtTick recorded.artifact record.tick = .ok source ∧
        source.payload = snapshot.payload ∧
        verifySettlementReplayWithConfig config recorded.artifact = .ok verified ∧
        resumeSettlementReplayFromSnapshotWithConfig config source recorded.artifact =
          .ok { verified with mode := .replayFromSnapshot record.tick }) := by
  constructor
  · intro config seed frames recorded hrec record hr snapshot hs
    obtain ⟨source, hsource, hpayload, hresume⟩ :=
      Simulation.resumeReplayWithConfig_recorded counter_lawful hrec hr hs
    exact ⟨source, _, hsource, hpayload,
      Simulation.verifyReplayWithConfig_recorded counter_lawful hrec, hresume⟩
  · intro config seed frames recorded hrec record hr snapshot hs
    obtain ⟨source, hsource, hpayload, hresume⟩ :=
      Simulation.resumeReplayWithConfig_recorded settlement_lawful hrec hr hs
    exact ⟨source, _, hsource, hpayload,
      Simulation.verifyReplayWithConfig_recorded settlement_lawful hrec, hresume⟩

/- Resumed from the first of two snapshots, the second tick is run again. -/
theorem replay_resumes_from_snapshots_two_ticks : ∃ recorded record last source verified,
    recordCounterReplayWithConfig .default 7 twoStepsScenario.frames = .ok recorded ∧
      recorded.artifact.records = [record, last] ∧
      counterSnapshotArtifactAtTick recorded.artifact record.tick = .ok source ∧
      verifyCounterReplayWithConfig .default recorded.artifact = .ok verified ∧
      resumeCounterReplayFromSnapshotWithConfig .default source recorded.artifact =
        .ok { verified with mode := .replayFromSnapshot record.tick } := by
  obtain ⟨recorded, _, h, -⟩ := twoSteps_recorded
  obtain ⟨record, last, snapshot, _, hrecords, hsnapshot, -⟩ := h.split
  have hr : record ∈ recorded.artifact.records := by
    rw [hrecords]
    exact List.mem_cons_self ..
  obtain ⟨source, verified, hsource, -, hverify, hresume⟩ :=
    replay_resumes_from_snapshots.1 .default 7 twoStepsScenario.frames recorded h.records record hr
      snapshot hsnapshot
  exact ⟨recorded, record, last, source, verified, h.records, hrecords, hsource, hverify, hresume⟩

/-! ### What verifying proves -/

/-- A replay of no frames, with any policy in its metadata. -/
def emptyReplay (config : CounterSimulationConfig) (policy : SnapshotPolicy) :
    CounterReplayArtifact :=
  counterReplayArtifactCodec.artifactOf 7 policy (counterSimulation.identityOf config) []

theorem emptyReplay_verifies {config : CounterSimulationConfig} (hvalid : config.validate = .ok ())
    (policy : SnapshotPolicy) :
    ∃ result, verifyCounterReplayWithConfig config (emptyReplay config policy) = .ok result := by
  obtain ⟨e, Inv, hruns⟩ := counter_lawful.runs config 7 hvalid
  have hbuild := (Simulation.buildConfigArtifact_eq_ok counter_lawful).mpr ⟨hvalid, rfl⟩
  have hempty : counterReplayArtifactCodec.Valid (emptyReplay config policy) :=
    ReplayArtifactSerializer.valid_artifactOf trivial (by simp)
  obtain ⟨result, hresult⟩ :=
    ReplayArtifactSerializer.exists_executionResult .replayVerify hempty
  refine ⟨result, bind_eq_ok.mpr ⟨_, orFail_eq_ok.mpr hbuild, ?_⟩⟩
  refine (executeReplayVerify_eq_ok ⟨hruns.builds, hruns.seed, hruns.traceable.ordered,
    hruns.traceable.nothingRecorded⟩).mpr ⟨?_, rfl, ⟨e.state, rfl⟩, hresult⟩
  exact validateReplayArtifactForState_eq_ok.mpr ⟨rfl, ⟨trivial, rfl, rfl⟩, by simp [emptyReplay,
    ReplayArtifactSerializer.artifactOf]⟩

/- Nothing ties the policy of the metadata to the config. -/
theorem verified_replay_is_recorded_iff (config : CounterSimulationConfig)
    (a : CounterReplayArtifact) (result : CounterReplayResult)
    (h : verifyCounterReplayWithConfig config a = .ok result) :
    (∃ recorded, recordCounterReplayWithConfig config a.metadata.baseSeed
        (a.records.map (·.input)) = .ok recorded ∧ a = recorded.artifact) ↔
      a.metadata.snapshotPolicy = config.snapshotPolicy := by
  obtain ⟨recorded, hrec, hartifact, ha⟩ := Simulation.recorded_of_verified counter_lawful h
  constructor
  · rintro ⟨other, hother, hsame⟩
    obtain rfl := Except.ok.inj (hrec.symm.trans hother)
    rw [hsame, hartifact]
    rfl
  · intro hpolicy
    refine ⟨recorded, hrec, ?_⟩
    rw [hartifact, ha, hpolicy]
    rfl

theorem verified_replay_is_recorded_two_ticks : ∃ recorded other : CounterRecordedReplay,
    recorded.artifact.records.map (·.snapshot.isSome) = [true, true] ∧
      recordCounterReplayWithConfig .default recorded.artifact.metadata.baseSeed
        (recorded.artifact.records.map (·.input)) = .ok other ∧
      recorded.artifact = other.artifact := by
  obtain ⟨recorded, _, h, -⟩ := twoSteps_recorded
  obtain ⟨other, hother, hsame⟩ := (verified_replay_is_recorded_iff .default recorded.artifact _
    (Simulation.verifyReplayWithConfig_recorded counter_lawful h.records)).mpr h.policy
  exact ⟨recorded, other, h.snapshots, hother, hsame⟩

/- A replay under the policy `Manual` verifies against a config that says `Never`. -/
theorem verified_replay_with_other_policy :
    ¬ ∀ (config : CounterSimulationConfig) (a : CounterReplayArtifact)
      (result : CounterReplayResult), config.validate = .ok () →
      verifyCounterReplayWithConfig config a = .ok result →
      ∃ recorded, recordCounterReplayWithConfig config a.metadata.baseSeed
        (a.records.map (·.input)) = .ok recorded ∧ a = recorded.artifact := by
  intro hall
  let config : CounterSimulationConfig := { CounterSimulationConfig.default with
    snapshotPolicy := .never }
  obtain ⟨result, h⟩ := @emptyReplay_verifies config rfl .manual
  obtain ⟨recorded, hrec, hartifact, -⟩ := Simulation.recorded_of_verified counter_lawful h
  obtain ⟨other, hother, hsame⟩ := hall config _ result rfl h
  obtain rfl := Except.ok.inj (hrec.symm.trans hother)
  have hpolicy := congrArg (fun a => a.metadata.snapshotPolicy) (hsame.trans hartifact)
  exact absurd hpolicy (by decide)

end XenorEngine.Rust
