import XenorEngine.Rust.Api
import XenorEngine.Rust.VisitLog

/-!
# Runs that fit in memory

The artifacts of a scenario that ran can be read back as soon as the lists of the run can
be allocated. `twoStepsScenario` is such a run, with a snapshot in each of its records.
-/

namespace XenorEngine.Rust
open XenorEngine.Lib.Fallible XenorEngine.Lib.Runs

/-! ### What a run takes -/

/-- The lists of a run fit in memory: a record for each frame, and in a record a marker for
each phase and a summary for each of the four checkpoints. -/
structure Layout.Holds {C : Type} (layout : Layout) (phases : ℕ) (frames : List (InputFrame C)) :
    Prop where
  inputs : Allocated layout layout.frame frames
  records : layout.record * frames.length ≤ layout.limit
  markers : layout.phaseMarker * phases ≤ layout.limit
  summaries : layout.validationSummary * 4 ≤ layout.limit

theorem checkpointOrder_lt (checkpoint : ValidationCheckpoint) :
    checkpointOrder checkpoint < 4 := by
  cases checkpoint <;> decide

/- Summaries stand in the order of their checkpoints, so there are at most four. -/
theorem summaries_length_le {summaries : List ValidationSummary}
    (h : (summaries.map (checkpointOrder ·.checkpoint)).Pairwise (· < ·)) :
    summaries.length ≤ 4 := by
  have hnodup : (summaries.map (checkpointOrder ·.checkpoint)).Nodup := h.imp Nat.ne_of_lt
  have hsub : summaries.map (checkpointOrder ·.checkpoint) ⊆ List.range 4 := by
    intro order horder
    obtain ⟨summary, -, rfl⟩ := List.mem_map.mp horder
    exact List.mem_range.mpr (checkpointOrder_lt summary.checkpoint)
  have hle := (hnodup.subperm hsub).length_le
  rwa [List.length_map, List.length_range] at hle

section Plan
variable {S C P V Snapshot : Type} [SimulationState S Snapshot] [StateValidator V S]
  [Phase P S C Snapshot] [PurePhase P S C Snapshot] [QuietPhase P S C Snapshot]

/- Every record of a run lists the phases of the plan. -/
theorem run_markers {e : DeterministicEngine S C P V Snapshot} (hs : e.scheduler.Ordered) {s s' : S}
    {frames : List (InputFrame C)} {records : List (ReplayTickRecord C Snapshot)}
    (h : e.machine.run s frames = .ok (s', records)) :
    ∀ record ∈ records,
      record.phaseMarkers = e.scheduler.phasePlan.map PhaseMarker.fromDescriptor := by
  refine run_holds (fun _ _ os => ∀ record ∈ os,
    record.phaseMarkers = e.scheduler.phasePlan.map PhaseMarker.fromDescriptor) ?_ (by simp) h
  intro s is os frame s1 record hos hstep r hr
  rcases List.mem_append.mp hr with hr | hr
  · exact hos r hr
  · obtain rfl := List.mem_singleton.mp hr
    exact (DeterministicEngine.tickStep_spec hs hstep).markers

end Plan

/-! ### Reading back what ran -/

namespace Simulation
variable {Config S C P V Snapshot : Type} {sim : Simulation Config S C P V Snapshot}
  [SimulationState S Snapshot] [LawfulSimulationState S Snapshot] [StateValidator V S]
  [Phase P S C Snapshot] [PurePhase P S C Snapshot] [QuietPhase P S C Snapshot]
  [SimulationConfig Config] {fits : Config → Prop} {layout : Layout}
  {scenario : SimulationScenario C Config} {execution : ScenarioExecutionResult C Snapshot}

/-- The engines of a simulation have this many phases. -/
structure HasPhases (sim : Simulation Config S C P V Snapshot) (phases : ℕ) : Prop where
  few : phases ≤ USIZE_MAX
  plan : ∀ (seed : Seed) (config : Config) (e : DeterministicEngine S C P V Snapshot),
    sim.buildEngineInternal seed config = .ok e → e.scheduler.phasePlan.length = phases

theorem representable_of_executed (hl : sim.Lawful fits) {phases : ℕ}
    (hphases : sim.HasPhases phases) (hholds : layout.Holds phases scenario.frames)
    (hexec : sim.executeScenario scenario = .ok execution) :
    execution.replay.artifact.Representable layout := by
  obtain ⟨digest, recorded, e, Inv, s', records, -, hruns, hrun, hartifact, -, rfl⟩ :=
    executed_run hl hexec
  have hlength : records.length = scenario.frames.length := run_length hrun
  have hplan : e.scheduler.phasePlan.length = phases := hphases.plan _ _ _ hruns.builds
  have hrecords : Allocated layout layout.record records := by
    refine ⟨hlength.trans_le hholds.inputs.1, ?_⟩
    rw [hlength]
    exact hholds.records
  change recorded.artifact.Representable layout
  rw [hartifact]
  refine ⟨hrecords, fun record hr => ?_, hrecords.1⟩
  have hmarkers := run_markers hruns.traceable.ordered hrun record hr
  have hcount : record.phaseMarkers.length = phases := by
    rw [hmarkers, List.length_map, hplan]
  have hsummaries := summaries_length_le (legalFrom_mem (hruns.legal hrun) hr).ordered
  refine ⟨⟨hcount.trans_le hphases.few, ?_⟩, fun marker hmarker => ?_, ?_, ?_⟩
  · rw [hcount]
    exact hholds.markers
  · rw [hmarkers] at hmarker
    obtain ⟨d, hd, rfl⟩ := List.mem_map.mp hmarker
    have hordinal : d.ordinal ∈ e.scheduler.phasePlan.map (·.ordinal) :=
      List.mem_map.mpr ⟨d, hd, rfl⟩
    rw [FixedScheduler.phasePlan_ordinals, List.mem_range] at hordinal
    have hsame : e.scheduler.planOrder.length = phases := by
      rw [← hplan, FixedScheduler.phasePlan, List.length_mapIdx]
    exact (hordinal.le.trans_eq hsame).trans hphases.few
  · exact hsummaries.trans (by decide)
  · exact (Nat.mul_le_mul_left _ hsummaries).trans hholds.summaries

theorem representable_of_generated [DecidableEq C] [DecidableEq Config] [Debug C] [Debug Config]
    (hl : sim.Lawful fits) {phases : ℕ} (hphases : sim.HasPhases phases)
    (hholds : layout.Holds phases scenario.frames)
    (hconfig : fits scenario.configArtifact.payload)
    (hexec : sim.executeScenario scenario = .ok execution) {f : GoldenFixture C Snapshot Config}
    (hf : sim.Generated scenario execution f) :
    GoldenFixtureSerializer.Representable layout fits f := by
  refine ⟨?_, fun a ha => ?_, ?_⟩
  · rw [hf.config]
    exact hconfig
  · rw [hf.scenario] at ha
    obtain rfl := Option.some.inj ha
    exact ⟨hholds.inputs, hconfig⟩
  · rw [hf.replay]
    exact representable_of_executed hl hphases hholds hexec

end Simulation

theorem counter_hasPhases : counterSimulation.HasPhases 5 := by
  refine ⟨by decide, fun seed config e he => ?_⟩
  obtain rfl := Except.ok.inj he
  change defaultCounterScheduler.phasePlan.length = 5
  rw [defaultCounterScheduler_plan]
  rfl

theorem settlement_hasPhases : settlementSimulation.HasPhases 7 := by
  refine ⟨by decide, fun seed config e he => ?_⟩
  obtain ⟨state, -, rfl⟩ := buildSettlementEngineInternal_eq_ok.mp he
  change (defaultSettlementScheduler config).phasePlan.length = 7
  rw [defaultSettlementScheduler_plan]
  rfl

/-! ### A run of two ticks -/

/-- Two ticks of the default counter, which captures every tick. -/
def twoStepsScenario : CounterScenario :=
  SimulationScenarioSerializer.buildScenario (counterSimulation.configArtifactOf .default) 7
    [⟨1, ⟨3, false⟩⟩, ⟨2, ⟨-1, true⟩⟩] none

theorem twoSteps_valid : counterSimulation.scenarioCodec.Valid twoStepsScenario :=
  ⟨rfl, Simulation.configArtifactOf_encodes counter_lawful rfl, fun _ _ => ⟨_, rfl⟩⟩

theorem twoSteps_holds : Layout.Holds unitLayout 5 twoStepsScenario.frames :=
  ⟨⟨by decide, by decide⟩, by decide, by decide, by decide⟩

/-- A recording of the two ticks: it can be written and read, and both records have a
snapshot. -/
structure TwoStepsRecording (recorded : CounterRecordedReplay) : Prop where
  records : recordCounterReplayWithConfig .default 7 twoStepsScenario.frames = .ok recorded
  snapshots : recorded.artifact.records.map (·.snapshot.isSome) = [true, true]
  snapshot : recorded.result.finalSnapshot.isSome = true
  policy : recorded.artifact.metadata.snapshotPolicy =
    CounterSimulationConfig.default.snapshotPolicy
  encodes : ∃ b, counterReplayArtifactCodec.encode recorded.artifact = .ok b
  representable : recorded.artifact.Representable unitLayout
  totals : TotalsMatch recorded.artifact

theorem twoSteps_recorded : ∃ recorded execution, TwoStepsRecording recorded ∧
    executeCounterScenario twoStepsScenario = .ok execution ∧
    execution.replay.artifact = recorded.artifact ∧
    execution.finalSnapshot = recorded.result.finalSnapshot := by
  obtain ⟨e, Inv, hruns⟩ := counter_lawful.runs .default 7 rfl
  obtain rfl := Except.ok.inj hruns.builds
  have hsnapshots : ((buildCounterEngineInternal 7 defaultCounterScheduler .default).machine.run
      (buildCounterEngineInternal 7 defaultCounterScheduler .default).state
      twoStepsScenario.frames).toOption.map (fun r => r.2.map (·.snapshot.isSome)) =
        some [true, true] := by
    decide +kernel
  obtain ⟨⟨s', records⟩, hrun, hsome⟩ := Option.map_eq_some_iff.mp hsnapshots
  have hrun := toOption_eq_some.mp hrun
  obtain ⟨recorded, hrec, hartifact, hresult⟩ :=
    exists_recordReplay hruns hrun (counterSimulation.identityOf .default)
  obtain ⟨digest, hdigest⟩ := SimulationScenarioSerializer.exists_digest.mpr
    ⟨twoSteps_valid.config, twoSteps_valid.frames⟩
  have hexec := Simulation.executeScenario_eq_ok.mpr ⟨digest, recorded, hdigest, hrec, rfl⟩
  have hfinal := (ReplayArtifactSerializer.executionResult_eq_ok.mp hresult).2.2.2.2
  have hvalid := ReplayArtifactSerializer.valid_of_summary
    (ReplayArtifactSerializer.executionResult_eq_ok.mp hresult).1
  have hsame : recorded.artifact.records = records := by rw [hartifact]; rfl
  refine ⟨recorded, _, ⟨?_, ?_, ?_, ?_, ?_, ?_, ?_⟩, hexec, rfl, rfl⟩
  · exact (Simulation.recordReplayWithConfig_eq_ok counter_lawful).mpr ⟨rfl, hrec⟩
  · rw [hsame]
    exact hsome
  · rw [hfinal, hsame, Option.isSome_map, Option.isSome_iff_ne_none]
    intro hnone
    have hall := lastSnapshot_eq_none.mp hnone
    have hmem : true ∈ records.map (·.snapshot.isSome) := by rw [hsome]; decide
    obtain ⟨record, hr, hcaptured⟩ := List.mem_map.mp hmem
    rw [hall record hr] at hcaptured
    cases hcaptured
  · rw [hartifact]
    rfl
  · exact ReplayArtifactSerializer.exists_encode_of_valid hvalid
  · exact Simulation.representable_of_executed counter_lawful counter_hasPhases twoSteps_holds
      hexec
  · rw [hartifact]
    exact ReplayArtifactSerializer.totalsMatch_artifactOf ..

/- The two records. -/
theorem TwoStepsRecording.split {recorded : CounterRecordedReplay}
    (h : TwoStepsRecording recorded) :
    ∃ first second firstSnapshot secondSnapshot, recorded.artifact.records = [first, second] ∧
      first.snapshot = some firstSnapshot ∧ second.snapshot = some secondSnapshot := by
  obtain ⟨first, rest, hrecords, hfirst, hrest⟩ := List.map_eq_cons_iff.mp h.snapshots
  obtain ⟨second, _, rfl, hsecond, hnil⟩ := List.map_eq_cons_iff.mp hrest
  obtain rfl := List.map_eq_nil_iff.mp hnil
  obtain ⟨firstSnapshot, hfirst⟩ := Option.isSome_iff_exists.mp hfirst
  obtain ⟨secondSnapshot, hsecond⟩ := Option.isSome_iff_exists.mp hsecond
  exact ⟨first, second, firstSnapshot, secondSnapshot, hrecords, hfirst, hsecond⟩

end XenorEngine.Rust
