import XenorEngine.Rust.ScenarioRuns

/-!
# Prefixes of replays

A replay can be cut after any of its records: what is left is the recording of the frames
before the cut, and what comes later has no part in it.
-/

namespace XenorEngine.Rust
open XenorEngine.Lib.Fallible XenorEngine.Lib.Runs
open DeterministicEngine

section Truncate
variable {C Snapshot : Type}

/-- The first `k` records, with the totals that belong to them. -/
def ReplayArtifact.truncate (k : ℕ) (artifact : ReplayArtifact C Snapshot) :
    ReplayArtifact C Snapshot where
  metadata := { artifact.metadata with
    recordCount := (artifact.records.take k).length
    totalTicks := lastTick (artifact.records.take k) }
  records := artifact.records.take k

end Truncate

namespace Simulation
variable {Config S C P V Snapshot : Type} {sim : Simulation Config S C P V Snapshot}
  [SimulationState S Snapshot] [LawfulSimulationState S Snapshot] [StateValidator V S]
  [Phase P S C Snapshot] [PurePhase P S C Snapshot] [QuietPhase P S C Snapshot]
  [SimulationConfig Config] {fits : Config → Prop}

/- Recording fewer frames gives fewer records, and nothing else changes. -/
theorem exists_truncated (hl : sim.Lawful fits) {config : Config} {seed : Seed}
    {frames : List (InputFrame C)} {recorded : RecordedReplay C Snapshot}
    (hrec : sim.recordReplayWithConfig config seed frames = .ok recorded) (k : ℕ) :
    ∃ short, sim.recordReplayWithConfig config seed (frames.take k) = .ok short ∧
      short.artifact = recorded.artifact.truncate k ∧
      short.result.finalTick = lastTick (recorded.artifact.records.take k) ∧
      short.result.finalChecksum = lastChecksum (recorded.artifact.records.take k) := by
  obtain ⟨hvalid, hrecord⟩ := (recordReplayWithConfig_eq_ok hl).mp hrec
  obtain ⟨e, Inv, hruns⟩ := hl.runs config seed hvalid
  obtain ⟨s', records, hrun, hartifact, -⟩ := (recordReplay_runs hruns).mp hrecord
  obtain ⟨mid, hhead, -⟩ := run_split k hrun
  obtain ⟨short, hshort, hartifact', hresult⟩ :=
    exists_recordReplay hruns hhead (sim.identityOf config)
  obtain ⟨-, -, htick, hchecksum, -⟩ := ReplayArtifactSerializer.executionResult_eq_ok.mp hresult
  rw [hartifact'] at htick hchecksum
  refine ⟨short, (recordReplayWithConfig_eq_ok hl).mpr ⟨hvalid, hshort⟩, ?_, ?_, ?_⟩
  · rw [hartifact, hartifact']
    rfl
  · rw [htick, hartifact]
    rfl
  · rw [hchecksum, hartifact]
    rfl

theorem find_of_recorded (hl : sim.Lawful fits) {config : Config} {seed : Seed}
    {frames : List (InputFrame C)} {recorded : RecordedReplay C Snapshot}
    (hrec : sim.recordReplayWithConfig config seed frames = .ok recorded)
    {record : ReplayTickRecord C Snapshot} (hr : record ∈ recorded.artifact.records) :
    recorded.artifact.records.find? (·.tick = record.tick) = some record := by
  obtain ⟨hvalid, hrecord⟩ := (recordReplayWithConfig_eq_ok hl).mp hrec
  obtain ⟨e, Inv, hruns⟩ := hl.runs config seed hvalid
  exact find_recorded hruns hrecord hr

variable [DecidableEq C] [DecidableEq Snapshot] [Debug C] [Debug Snapshot]

/-- Replays of the simulation can be cut after any of their records. -/
structure CutsAnywhere (sim : Simulation Config S C P V Snapshot) : Prop where
  /- What is left is the recording of the frames that are left, and verifies. -/
  truncates : ∀ (config : Config) (seed : Seed) (frames : List (InputFrame C))
    (recorded : RecordedReplay C Snapshot) (k : ℕ),
    sim.recordReplayWithConfig config seed frames = .ok recorded → ∃ short,
      sim.recordReplayWithConfig config seed (frames.take k) = .ok short ∧
      short.artifact = recorded.artifact.truncate k ∧
      sim.verifyReplayWithConfig config (recorded.artifact.truncate k) =
        .ok { short.result with mode := .replayVerify } ∧
      short.result.finalTick = lastTick (recorded.artifact.records.take k) ∧
      short.result.finalChecksum = lastChecksum (recorded.artifact.records.take k)
  /- A snapshot of what is left resumes the whole replay. -/
  resumes : ∀ (config : Config) (seed : Seed) (frames : List (InputFrame C))
    (recorded : RecordedReplay C Snapshot) (k : ℕ),
    sim.recordReplayWithConfig config seed frames = .ok recorded →
    ∀ record ∈ (recorded.artifact.truncate k).records, ∀ snapshot ∈ record.snapshot,
      ∃ source, sim.snapshotArtifactAtTick (recorded.artifact.truncate k) record.tick =
          .ok source ∧ source.payload = snapshot.payload ∧
        sim.resumeReplayFromSnapshotWithConfig config source recorded.artifact =
          .ok { recorded.result with mode := .replayFromSnapshot record.tick }
  /- Whatever the inputs after the cut, verified replays agree before it. -/
  causal : ∀ (config : Config) (a a' : ReplayArtifact C Snapshot)
    (result result' : ReplayExecutionResult Snapshot) (k : ℕ),
    sim.verifyReplayWithConfig config a = .ok result →
    sim.verifyReplayWithConfig config a' = .ok result' →
    a.metadata.baseSeed = a'.metadata.baseSeed →
    (a.records.map (·.input)).take k = (a'.records.map (·.input)).take k →
    a.records.take k = a'.records.take k

theorem cutsAnywhere (hl : sim.Lawful fits) : sim.CutsAnywhere where
  truncates config seed frames recorded k hrec := by
    obtain ⟨short, hshort, hartifact, htick, hchecksum⟩ := exists_truncated hl hrec k
    have hverify := verifyReplayWithConfig_recorded hl hshort
    rw [hartifact] at hverify
    exact ⟨short, hshort, hartifact, hverify, htick, hchecksum⟩
  resumes config seed frames recorded k hrec record hr snapshot hs := by
    obtain ⟨short, hshort, hartifact, -⟩ := exists_truncated hl hrec k
    have hwhole : record ∈ recorded.artifact.records := List.mem_of_mem_take hr
    obtain ⟨source, hsource, hpayload, hresume⟩ :=
      resumeReplayWithConfig_recorded hl hrec hwhole hs
    have hfind := find_of_recorded hl hrec hwhole
    rw [← hartifact] at hr
    have hfind' := find_of_recorded hl hshort hr
    rw [hartifact] at hfind'
    refine ⟨source, ?_, hpayload, hresume⟩
    rw [← hsource, snapshotArtifactAtTick, snapshotArtifactAtTick, hfind, hfind']
    rfl
  causal config a a' result result' k h h' hseed hinputs := by
    obtain ⟨recorded, hrec, hartifact, -⟩ := recorded_of_verified hl h
    obtain ⟨recorded', hrec', hartifact', -⟩ := recorded_of_verified hl h'
    obtain ⟨short, hshort, htruncated, -⟩ := exists_truncated hl hrec k
    obtain ⟨short', hshort', htruncated', -⟩ := exists_truncated hl hrec' k
    rw [hseed, hinputs, hshort'] at hshort
    obtain rfl := Except.ok.inj hshort
    have hrecords := congrArg ReplayArtifact.records (htruncated.symm.trans htruncated')
    rw [hartifact, hartifact'] at hrecords
    exact hrecords

end Simulation

theorem replays_cut_anywhere :
    counterSimulation.CutsAnywhere ∧ settlementSimulation.CutsAnywhere :=
  ⟨Simulation.cutsAnywhere counter_lawful, Simulation.cutsAnywhere settlement_lawful⟩

/- The recording cut after its first tick: what is left verifies, its snapshot resumes the
whole, and the record of the first tick is the same in both. -/
theorem replays_cut_anywhere_two_ticks : ∃ recorded short first second source,
    TwoStepsRecording recorded ∧ recorded.artifact.records = [first, second] ∧
      recordCounterReplayWithConfig .default 7 (twoStepsScenario.frames.take 1) = .ok short ∧
      short.artifact = recorded.artifact.truncate 1 ∧
      counterSnapshotArtifactAtTick short.artifact first.tick = .ok source ∧
      resumeCounterReplayFromSnapshotWithConfig .default source recorded.artifact =
        .ok { recorded.result with mode := .replayFromSnapshot first.tick } ∧
      short.artifact.records.take 1 = recorded.artifact.records.take 1 := by
  obtain ⟨recorded, _, h, -⟩ := twoSteps_recorded
  obtain ⟨first, second, snapshot, _, hrecords, hs, -⟩ := h.split
  obtain ⟨hcounter, -⟩ := replays_cut_anywhere
  obtain ⟨short, hshort, hartifact, hverify, -⟩ :=
    hcounter.truncates .default 7 twoStepsScenario.frames recorded 1 h.records
  have hmem : first ∈ (recorded.artifact.truncate 1).records := by
    rw [ReplayArtifact.truncate, hrecords]
    exact List.mem_cons_self ..
  obtain ⟨source, hsource, -, hresume⟩ := hcounter.resumes .default 7 twoStepsScenario.frames
    recorded 1 h.records first hmem snapshot hs
  rw [← hartifact] at hsource hverify
  refine ⟨recorded, short, first, second, source, h, hrecords, hshort, hartifact, hsource, hresume,
    hcounter.causal .default _ _ _ _ 1 hverify
      (Simulation.verifyReplayWithConfig_recorded counter_lawful h.records) ?_ ?_⟩
  · rw [hartifact]
    rfl
  · rw [hartifact, ReplayArtifact.truncate, hrecords]
    rfl

end XenorEngine.Rust
