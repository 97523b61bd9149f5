import XenorEngine.Rust.CounterGuarantees
import XenorEngine.Rust.SettlementGuarantees
import XenorEngine.Rust.Api

/-!
# Policies observe

The snapshot policy says which ticks are captured and the validation policy which
checkpoints are checked. Neither has a part in what a tick does.
-/

namespace XenorEngine.Rust
open XenorEngine.Lib.Fallible XenorEngine.Lib.Runs
open DeterministicEngine

section Records
variable {C Snapshot : Type}

/-- What a record says about the run itself. -/
def bare (record : ReplayTickRecord C Snapshot) : ReplayTickRecord C Snapshot :=
  { record with validationSummaries := [], snapshot := none }

/-- Two records of one tick, made under different policies. -/
structure SameTick (record record' : ReplayTickRecord C Snapshot) : Prop where
  bare : bare record = bare record'
  snapshots : ∀ captured ∈ record.snapshot, ∀ captured' ∈ record'.snapshot,
    captured.metadata = captured'.metadata ∧ captured.payload = captured'.payload

/-- Two recordings of one run, made under different policies. -/
structure SameRun (recorded recorded' : RecordedReplay C Snapshot) : Prop where
  records : List.Forall₂ SameTick recorded.artifact.records recorded'.artifact.records
  finalTick : recorded.result.finalTick = recorded'.result.finalTick
  finalChecksum : recorded.result.finalChecksum = recorded'.result.finalChecksum

theorem last_of_sameTick {records records' : List (ReplayTickRecord C Snapshot)}
    (h : List.Forall₂ SameTick records records') :
    lastTick records = lastTick records' ∧ lastChecksum records = lastChecksum records' := by
  have hbare : records.map bare = records'.map bare := by
    induction h with
    | nil => rfl
    | cons hfirst _ ih => rw [List.map_cons, List.map_cons, hfirst.bare, ih]
  have hlast (rs : List (ReplayTickRecord C Snapshot)) :
      lastTick rs = lastTick (rs.map bare) ∧ lastChecksum rs = lastChecksum (rs.map bare) := by
    simp only [lastTick, lastChecksum, List.getLast?_map, Option.map_map]
    exact ⟨rfl, rfl⟩
  rw [(hlast records).1, (hlast records).2, hbare]
  exact ⟨(hlast records').1.symm, (hlast records').2.symm⟩

end Records

section Engine
variable {S C P V Snapshot : Type} [SimulationState S Snapshot] [StateValidator V S]
  [Phase P S C Snapshot] [PurePhase P S C Snapshot] [QuietPhase P S C Snapshot]
  {e e' : DeterministicEngine S C P V Snapshot}

/- Engines of one seed and one plan record a tick alike if it leads to the same state. -/
theorem sameTick_of_tickStep (hs : e.scheduler.Ordered) (hs' : e'.scheduler.Ordered)
    (hseed : e'.seed = e.seed) (hplan : e'.scheduler.phasePlan = e.scheduler.phasePlan)
    {s s' : S} {frame : InputFrame C} {record record' : ReplayTickRecord C Snapshot}
    (h : e.tickStep s frame = .ok (s', record)) (h' : e'.tickStep s frame = .ok (s', record')) :
    SameTick record record' := by
  have hrecord := tickStep_record hs h
  have hrecord' := tickStep_record hs' h'
  have hsnapshot := (tickStep_spec hs h).snapshot
  have hsnapshot' := (tickStep_spec hs' h').snapshot
  have hchecksum : record.checksum = record'.checksum :=
    ((tickStep_spec hs h).checksum).trans (tickStep_spec hs' h').checksum.symm
  refine ⟨?_, fun captured hc captured' hc' => ?_⟩
  · change bare (unvalidated record) = bare (unvalidated record')
    rw [hrecord, hrecord', recordTo, recordTo, hseed, hplan]
    rfl
  · rw [hsnapshot] at hc
    rw [hsnapshot'] at hc'
    obtain ⟨_, -, rfl⟩ := Option.map_eq_some_iff.mp hc
    obtain ⟨_, -, rfl⟩ := Option.map_eq_some_iff.mp hc'
    rw [hchecksum]
    exact ⟨rfl, rfl⟩

end Engine

namespace Simulation
variable {Config S C P V Snapshot : Type} {sim : Simulation Config S C P V Snapshot}
  [SimulationState S Snapshot] [LawfulSimulationState S Snapshot] [StateValidator V S]
  [Phase P S C Snapshot] [PurePhase P S C Snapshot] [QuietPhase P S C Snapshot]
  [SimulationConfig Config] {fits : Config → Prop}

/- What can be recorded is what the engine runs. -/
theorem recordReplayWithConfig_iff (hl : sim.Lawful fits) {config : Config} {seed : Seed}
    {e : DeterministicEngine S C P V Snapshot}
    (hbuild : sim.validate config = .ok () → sim.buildEngineInternal seed config = .ok e)
    {frames : List (InputFrame C)} :
    (∃ recorded, sim.recordReplayWithConfig config seed frames = .ok recorded) ↔
      sim.validate config = .ok () ∧ ∃ s' records, e.machine.run e.state frames =
        .ok (s', records) := by
  constructor
  · rintro ⟨recorded, hrec⟩
    obtain ⟨hvalid, hrecord⟩ := (recordReplayWithConfig_eq_ok hl).mp hrec
    obtain ⟨e1, Inv, hruns⟩ := hl.runs config seed hvalid
    obtain rfl : e1 = e := Except.ok.inj (hruns.builds.symm.trans (hbuild hvalid))
    obtain ⟨s', records, hrun, -⟩ := (recordReplay_runs hruns).mp hrecord
    exact ⟨hvalid, s', records, hrun⟩
  · rintro ⟨hvalid, s', records, hrun⟩
    obtain ⟨e1, Inv, hruns⟩ := hl.runs config seed hvalid
    obtain rfl : e1 = e := Except.ok.inj (hruns.builds.symm.trans (hbuild hvalid))
    obtain ⟨recorded, hrec, -⟩ := exists_recordReplay hruns hrun (sim.identityOf config)
    exact ⟨recorded, (recordReplayWithConfig_eq_ok hl).mpr ⟨hvalid, hrec⟩⟩

theorem records_of_recorded (hl : sim.Lawful fits) {config : Config} {seed : Seed}
    {e : DeterministicEngine S C P V Snapshot}
    (hbuild : sim.buildEngineInternal seed config = .ok e) {frames : List (InputFrame C)}
    {recorded : RecordedReplay C Snapshot}
    (hrec : sim.recordReplayWithConfig config seed frames = .ok recorded) :
    ∃ s', e.machine.run e.state frames = .ok (s', recorded.artifact.records) ∧
      recorded.result.finalTick = lastTick recorded.artifact.records ∧
      recorded.result.finalChecksum = lastChecksum recorded.artifact.records := by
  obtain ⟨hvalid, hrecord⟩ := (recordReplayWithConfig_eq_ok hl).mp hrec
  obtain ⟨e1, Inv, hruns⟩ := hl.runs config seed hvalid
  obtain rfl : e1 = e := Except.ok.inj (hruns.builds.symm.trans hbuild)
  obtain ⟨s', records, hrun, hartifact, hresult⟩ := (recordReplay_runs hruns).mp hrecord
  obtain ⟨-, -, htick, hchecksum, -⟩ := ReplayArtifactSerializer.executionResult_eq_ok.mp hresult
  rw [hartifact] at htick hchecksum ⊢
  exact ⟨s', hrun, htick, hchecksum⟩

/- Two configs whose engines make the same steps. -/
theorem sameRun_of_steps (hl : sim.Lawful fits) {config config' : Config} {seed : Seed}
    {e e' : DeterministicEngine S C P V Snapshot}
    (hbuild : sim.buildEngineInternal seed config = .ok e)
    (hbuild' : sim.buildEngineInternal seed config' = .ok e') (hstate : e'.state = e.state)
    (hstep : ∀ s frame s1 s2 record record', e.tickStep s frame = .ok (s1, record) →
      e'.tickStep s frame = .ok (s2, record') → s1 = s2 ∧ SameTick record record')
    {frames : List (InputFrame C)} {recorded recorded' : RecordedReplay C Snapshot}
    (hrec : sim.recordReplayWithConfig config seed frames = .ok recorded)
    (hrec' : sim.recordReplayWithConfig config' seed frames = .ok recorded') :
    SameRun recorded recorded' := by
  obtain ⟨s1, hrun, htick, hchecksum⟩ := records_of_recorded hl hbuild hrec
  obtain ⟨s2, hrun', htick', hchecksum'⟩ := records_of_recorded hl hbuild' hrec'
  have hrecords : List.Forall₂ SameTick recorded.artifact.records recorded'.artifact.records := by
    rw [hstate] at hrun'
    exact (run_common (fun s frame s1 record s2 record' h h' =>
      hstep s frame s1 s2 record record' h h') hrun hrun').2
  obtain ⟨hlastTick, hlastChecksum⟩ := last_of_sameTick hrecords
  exact ⟨hrecords, by rw [htick, htick', hlastTick], by rw [hchecksum, hchecksum', hlastChecksum]⟩

end Simulation

/-! ### Counter -/

section Counter
variable (config : CounterSimulationConfig) (snapshotPolicy : SnapshotPolicy)
  (validationPolicy : ValidationPolicy) (seed : Seed) (frames : List (InputFrame CounterCommand))

/-- The config with other policies. -/
def CounterSimulationConfig.observedBy : CounterSimulationConfig :=
  { config with snapshotPolicy := snapshotPolicy, validationPolicy := validationPolicy }

section Steps
variable {config snapshotPolicy validationPolicy seed}
variable {snapshotPolicy' : SnapshotPolicy} {validationPolicy' : ValidationPolicy}

/-- The engine of the config with other policies. -/
abbrev counterObserved (config : CounterSimulationConfig) (snapshotPolicy : SnapshotPolicy)
    (validationPolicy : ValidationPolicy) (seed : Seed) : CounterEngine :=
  buildCounterEngineInternal seed defaultCounterScheduler
    (config.observedBy snapshotPolicy validationPolicy)

theorem counterObserved_step (hvalid : config.validate = .ok ()) {s s' : CounterState}
    {frame : InputFrame CounterCommand} :
    (∃ record, (counterObserved config snapshotPolicy validationPolicy seed).tickStep s frame =
        .ok (s', record)) ↔
      frame.tick.toNat = s.tick.toNat + 1 ∧ s.WithinLimits config ∧ s.StoreOrdered ∧ s.Cleared ∧
        s.Marked ∧ (validationPolicy = .everyPhase →
          (frame.command.delta.toInt.natAbs : ℤ) ≤ config.maxAbsPendingDelta.toInt) ∧
        s'.WithinLimits config ∧ s' = s.settled seed frame := by
  have hpending : 0 ≤ (config.observedBy snapshotPolicy
      validationPolicy).maxAbsPendingDelta.toInt := counter_config_limits hvalid
  have hlimits (s : CounterState) : s.WithinLimits (config.observedBy snapshotPolicy
      validationPolicy) ↔ s.WithinLimits config := ⟨fun h => ⟨h.1, h.2⟩, fun h => ⟨h.1, h.2⟩⟩
  rw [counter_tickStep_iff hpending, hlimits, hlimits]
  rfl

theorem counterObserved_accepts (hvalid : config.validate = .ok ()) {s s' : CounterState}
    {frame : InputFrame CounterCommand} :
    (∃ record, (counterObserved config snapshotPolicy validationPolicy seed).tickStep s frame =
        .ok (s', record)) ↔
      (validationPolicy = .everyPhase →
        (frame.command.delta.toInt.natAbs : ℤ) ≤ config.maxAbsPendingDelta.toInt) ∧
      ∃ record, (counterObserved config snapshotPolicy' .tickBoundary seed).tickStep s frame =
        .ok (s', record) := by
  rw [counterObserved_step hvalid, counterObserved_step hvalid]
  constructor
  · rintro ⟨hnext, hlimits, hstore, hcleared, hmarked, hdelta, hlimits', hsettled⟩
    exact ⟨hdelta, hnext, hlimits, hstore, hcleared, hmarked, nofun, hlimits', hsettled⟩
  · rintro ⟨hdelta, hnext, hlimits, hstore, hcleared, hmarked, -, hlimits', hsettled⟩
    exact ⟨hnext, hlimits, hstore, hcleared, hmarked, hdelta, hlimits', hsettled⟩

theorem counterObserved_sameTick (hvalid : config.validate = .ok ()) {s s1 s2 : CounterState}
    {frame : InputFrame CounterCommand}
    {record record' : ReplayTickRecord CounterCommand CounterSnapshot}
    (h : (counterObserved config snapshotPolicy validationPolicy seed).tickStep s frame =
      .ok (s1, record))
    (h' : (counterObserved config snapshotPolicy' validationPolicy' seed).tickStep s frame =
      .ok (s2, record')) : s1 = s2 ∧ SameTick record record' := by
  obtain ⟨-, -, -, -, -, -, -, h1⟩ := (counterObserved_step hvalid).mp ⟨record, h⟩
  obtain ⟨-, -, -, -, -, -, -, h2⟩ := (counterObserved_step hvalid).mp ⟨record', h'⟩
  obtain rfl : s1 = s2 := h1.trans h2.symm
  have hseed : (counterObserved config snapshotPolicy' validationPolicy' seed).seed =
      (counterObserved config snapshotPolicy validationPolicy seed).seed := rfl
  exact ⟨rfl, sameTick_of_tickStep defaultCounterScheduler_ordered defaultCounterScheduler_ordered
    hseed rfl h h'⟩

end Steps

/- Which ticks are captured does not matter. Checking every phase rejects the deltas above
the limit, and nothing else that is accepted at the tick boundaries. -/
theorem counter_policies_observe (snapshotPolicy' : SnapshotPolicy)
    (validationPolicy' : ValidationPolicy) :
    ((∃ recorded, recordCounterReplayWithConfig (config.observedBy snapshotPolicy validationPolicy)
        seed frames = .ok recorded) ↔
      (∀ frame ∈ frames, validationPolicy = .everyPhase →
        (frame.command.delta.toInt.natAbs : ℤ) ≤ config.maxAbsPendingDelta.toInt) ∧
      ∃ recorded, recordCounterReplayWithConfig (config.observedBy snapshotPolicy' .tickBoundary)
        seed frames = .ok recorded) ∧
    ∀ recorded recorded', recordCounterReplayWithConfig
        (config.observedBy snapshotPolicy validationPolicy) seed frames = .ok recorded →
      recordCounterReplayWithConfig (config.observedBy snapshotPolicy' validationPolicy') seed
        frames = .ok recorded' → SameRun recorded recorded' := by
  have hbuild (snapshots : SnapshotPolicy) (validations : ValidationPolicy) :
      counterSimulation.buildEngineInternal seed (config.observedBy snapshots validations) =
        .ok (counterObserved config snapshots validations seed) := rfl
  constructor
  · refine (Simulation.recordReplayWithConfig_iff counter_lawful fun _ => hbuild _ _).trans ?_
    refine Iff.trans ?_ (and_congr_right' (Simulation.recordReplayWithConfig_iff counter_lawful
      fun _ => hbuild snapshotPolicy' .tickBoundary).symm)
    rw [and_left_comm]
    refine and_congr_right fun hvalid => ?_
    have hvalid : config.validate = .ok () := hvalid
    have hrun (s t : CounterState) :
        (∃ records, (counterObserved config snapshotPolicy validationPolicy seed).machine.run s
          frames = .ok (t, records)) ↔ (∀ frame ∈ frames, validationPolicy = .everyPhase →
            (frame.command.delta.toInt.natAbs : ℤ) ≤ config.maxAbsPendingDelta.toInt) ∧
          ∃ records, (counterObserved config snapshotPolicy' .tickBoundary seed).machine.run s
            frames = .ok (t, records) :=
      run_filtered fun s frame s' => counterObserved_accepts hvalid
    simp only [hrun, exists_and_left]
    rfl
  · intro recorded recorded' hrec hrec'
    have hvalid : config.validate = .ok () :=
      ((Simulation.recordReplayWithConfig_eq_ok counter_lawful).mp hrec).1
    exact Simulation.sameRun_of_steps counter_lawful (hbuild snapshotPolicy validationPolicy)
      (hbuild snapshotPolicy' validationPolicy') rfl
      (fun s frame s1 s2 record record' h h' => counterObserved_sameTick hvalid h h') hrec hrec'

end Counter

/-! ### Settlement -/

section Settlement
variable (config : SettlementSimulationConfig) (snapshotPolicy : SnapshotPolicy)
  (validationPolicy : ValidationPolicy) (seed : Seed)
  (frames : List (InputFrame SettlementCommand))

def SettlementSimulationConfig.observedBy : SettlementSimulationConfig :=
  { config with snapshotPolicy := snapshotPolicy, validationPolicy := validationPolicy }

section Steps
variable {config snapshotPolicy validationPolicy seed}
variable {snapshotPolicy' : SnapshotPolicy} {validationPolicy' : ValidationPolicy}
  {state s s1 s2 : SettlementState} {frame : InputFrame SettlementCommand}

abbrev settlementObserved (config : SettlementSimulationConfig) (snapshotPolicy : SnapshotPolicy)
    (validationPolicy : ValidationPolicy) (seed : Seed) (state : SettlementState) :
    SettlementEngine :=
  settlementEngineFrom seed (config.observedBy snapshotPolicy validationPolicy) state

/- The conditions of a step do not name a policy. -/
theorem settlementObserved_step (hamounts : SettlementAmounts config) :
    (∃ record, (settlementObserved config snapshotPolicy validationPolicy seed state).tickStep s
      frame = .ok (s1, record)) ↔
    ∃ record, (settlementEngineFrom seed config state).tickStep s frame = .ok (s1, record) := by
  have hobserved : SettlementAmounts (config.observedBy snapshotPolicy validationPolicy) :=
    ⟨hamounts.initial, hamounts.food, hamounts.wood, hamounts.consumption, hamounts.demand⟩
  rw [settlement_tickStep_iff hobserved, settlement_tickStep_iff hamounts]
  rfl

theorem settlementObserved_sameTick (hamounts : SettlementAmounts config)
    {record record' : ReplayTickRecord SettlementCommand SettlementSnapshot}
    (h : (settlementObserved config snapshotPolicy validationPolicy seed state).tickStep s frame =
      .ok (s1, record))
    (h' : (settlementObserved config snapshotPolicy' validationPolicy' seed state).tickStep s
      frame = .ok (s2, record')) : s1 = s2 ∧ SameTick record record' := by
  have hsame : s1 = s2 := by
    obtain ⟨record1, h1⟩ := (settlementObserved_step hamounts).mp ⟨record, h⟩
    obtain ⟨record2, h2⟩ := (settlementObserved_step hamounts).mp ⟨record', h'⟩
    rw [h1] at h2
    exact congrArg Prod.fst (Except.ok.inj h2)
  subst hsame
  have hseed : (settlementObserved config snapshotPolicy' validationPolicy' seed state).seed =
      (settlementObserved config snapshotPolicy validationPolicy seed state).seed := rfl
  refine ⟨rfl, sameTick_of_tickStep (defaultSettlementScheduler_ordered _)
    (defaultSettlementScheduler_ordered _) hseed ?_ h h'⟩
  exact (defaultSettlementScheduler_plan _).trans (defaultSettlementScheduler_plan _).symm

end Steps

/- No policy of a settlement has a part in what it accepts. -/
theorem settlement_policies_observe (snapshotPolicy' : SnapshotPolicy)
    (validationPolicy' : ValidationPolicy) :
    ((∃ recorded, recordSettlementReplayWithConfig
        (config.observedBy snapshotPolicy validationPolicy) seed frames = .ok recorded) ↔
      ∃ recorded, recordSettlementReplayWithConfig config seed frames = .ok recorded) ∧
    ∀ recorded recorded', recordSettlementReplayWithConfig
        (config.observedBy snapshotPolicy validationPolicy) seed frames = .ok recorded →
      recordSettlementReplayWithConfig (config.observedBy snapshotPolicy' validationPolicy') seed
        frames = .ok recorded' → SameRun recorded recorded' := by
  have hvalidates {recorded : SettlementRecordedReplay} {snapshots : SnapshotPolicy}
      {validations : ValidationPolicy} (hrec : recordSettlementReplayWithConfig
        (config.observedBy snapshots validations) seed frames = .ok recorded) :
      config.validate = .ok () :=
    ((Simulation.recordReplayWithConfig_eq_ok settlement_lawful).mp hrec).1
  by_cases hvalid : config.validate = .ok ()
  swap
  · constructor
    · constructor
      · rintro ⟨recorded, hrec⟩
        exact absurd (hvalidates hrec) hvalid
      · rintro ⟨recorded, hrec⟩
        exact absurd ((Simulation.recordReplayWithConfig_eq_ok settlement_lawful).mp hrec).1 hvalid
    · exact fun recorded _ hrec => absurd (hvalidates hrec) hvalid
  have hamounts := settlement_amounts hvalid
  obtain ⟨state, hstate⟩ := exists_fromConfig hvalid
  have hbuild (snapshots : SnapshotPolicy) (validations : ValidationPolicy) :
      settlementSimulation.buildEngineInternal seed (config.observedBy snapshots validations) =
        .ok (settlementObserved config snapshots validations seed state) :=
    buildSettlementEngineInternal_eq_ok.mpr ⟨state, hstate, rfl⟩
  have hbuild' : settlementSimulation.buildEngineInternal seed config =
      .ok (settlementEngineFrom seed config state) :=
    buildSettlementEngineInternal_eq_ok.mpr ⟨state, hstate, rfl⟩
  constructor
  · refine (Simulation.recordReplayWithConfig_iff settlement_lawful fun _ => hbuild _ _).trans ?_
    refine Iff.trans ?_
      (Simulation.recordReplayWithConfig_iff settlement_lawful fun _ => hbuild').symm
    refine and_congr Iff.rfl (exists_congr fun t => ?_)
    have hrun : (∃ records, (settlementObserved config snapshotPolicy validationPolicy seed
        state).machine.run state frames = .ok (t, records)) ↔
        (∀ frame ∈ frames, True) ∧ ∃ records,
          (settlementEngineFrom seed config state).machine.run state frames = .ok (t, records) :=
      run_filtered fun s frame s' => by
        rw [true_and]
        exact settlementObserved_step hamounts
    exact hrun.trans (and_iff_right fun _ _ => trivial)
  · intro recorded recorded' hrec hrec'
    exact Simulation.sameRun_of_steps settlement_lawful (hbuild snapshotPolicy validationPolicy)
      (hbuild snapshotPolicy' validationPolicy') rfl
      (fun s frame s1 s2 record record' h h' => settlementObserved_sameTick hamounts h h') hrec hrec'

end Settlement

end XenorEngine.Rust
