import XenorEngine.Rust.Api
import XenorEngine.Rust.Checkpoints
import XenorEngine.Rust.FailedTicks

/-!
# The record log, failed ticks and checkpoints
-/

namespace XenorEngine.Rust
open XenorEngine.Lib.Fallible XenorEngine.Lib.Runs
open DeterministicEngine

theorem counter_restores (s : CounterState) {snapshot : CounterSnapshot}
    (h : snapshot.validate = .ok ()) :
    ∃ s', SimulationState.restoreSnapshot s snapshot = .ok s' := by
  change ∃ s', CounterState.restoreSnapshot s snapshot = .ok s'
  unfold CounterState.restoreSnapshot
  split
  · exact ⟨_, rfl⟩
  · rename_i detail herr
    rw [h] at herr
    cases herr

theorem settlement_restores (s : SettlementState) {snapshot : SettlementSnapshot}
    (h : snapshot.validate = .ok ()) :
    SimulationState.restoreSnapshot s snapshot = .ok (SettlementState.ofSnapshot snapshot) := by
  change SettlementState.restoreSnapshot s snapshot = _
  rw [SettlementState.restoreSnapshot, h]

/- Any calls in any order: a completed tick appends its one record, nothing else does,
and nothing does any more once a tick has failed with its record open. -/
theorem replay_log_append_only :
    (∀ (config : CounterSimulationConfig) (seed : Seed) (engine : CounterEngine)
      (calls : List (EngineCall CounterCommand CounterSnapshot)),
      counterEngineWithConfig seed config = .ok engine →
      (∀ snapshot, .restoreSnapshot snapshot ∈ calls → snapshot.validate = .ok ()) →
      engine.AppendOnly calls) ∧
    (∀ (config : SettlementSimulationConfig) (seed : Seed) (engine : SettlementEngine)
      (calls : List (EngineCall SettlementCommand SettlementSnapshot)),
      settlementEngineWithConfig seed config = .ok engine →
      (∀ snapshot, .restoreSnapshot snapshot ∈ calls → snapshot.validate = .ok ()) →
      engine.AppendOnly calls) := by
  constructor
  · intro config seed engine calls hengine hvalid
    obtain ⟨-, rfl⟩ := counterEngineWithConfig_eq_ok.mp hengine
    exact appendOnly defaultCounterScheduler_ordered fun s snapshot hmem =>
      counter_restores s (hvalid snapshot hmem)
  · intro config seed engine calls hengine hvalid
    obtain ⟨-, state, -, rfl⟩ := settlementEngineWithConfig_eq_ok.mp hengine
    exact appendOnly (defaultSettlementScheduler_ordered config) fun s snapshot hmem =>
      ⟨_, settlement_restores s (hvalid snapshot hmem)⟩

theorem replay_log_append_only_restored :
    (buildCounterEngineInternal 7 defaultCounterScheduler .default).AppendOnly
      [.tick ⟨1, ⟨5, true⟩⟩,
        .restoreSnapshot (CounterState.withInitialEntities 0 0 []).snapshot,
        .tick ⟨1, ⟨-5, false⟩⟩] := by
  refine replay_log_append_only.1 .default 7 _ _ rfl fun snapshot hmem => ?_
  simp only [List.mem_cons, reduceCtorEq, EngineCall.restoreSnapshot.injEq, List.not_mem_nil,
    or_false, false_or] at hmem
  subst hmem
  rfl

/-! ### Failed ticks -/

/- A tick of the wrong number changes nothing. Any other failed tick keeps the records but
not the state: it leaves what the phases made of it, and its own record open, so that from
then on every tick fails and changes nothing. -/
theorem failed_tick_keeps_records :
    (∀ (config : CounterSimulationConfig) (seed : Seed) (frames : List (InputFrame CounterCommand))
      (engine engine1 engine2 : CounterEngine) (frame : InputFrame CounterCommand)
      (err : EngineError), counterEngineWithConfig seed config = .ok engine →
      tickAll frames engine = .ok () engine1 → engine1.tick frame = .error err engine2 →
      engine2.AfterFailure engine1 frame err) ∧
    (∀ (config : SettlementSimulationConfig) (seed : Seed)
      (frames : List (InputFrame SettlementCommand)) (engine engine1 engine2 : SettlementEngine)
      (frame : InputFrame SettlementCommand) (err : EngineError),
      settlementEngineWithConfig seed config = .ok engine →
      tickAll frames engine = .ok () engine1 → engine1.tick frame = .error err engine2 →
      engine2.AfterFailure engine1 frame err) := by
  constructor
  · intro config seed frames engine engine1 engine2 frame err hengine hrun h
    obtain ⟨-, rfl⟩ := counterEngineWithConfig_eq_ok.mp hengine
    obtain ⟨s, records, -, rfl⟩ := (tickAll_refines defaultCounterScheduler_ordered rfl).mp hrun
    refine afterFailure defaultCounterScheduler_ordered rfl (fun t => ?_) h
    exact keptByPhases_of_ok (fun _ _ _ _ _ => counter_run_error)
      fun _ _ _ _ _ ht hact => (counter_run_ok hact).1.trans ht
  · intro config seed frames engine engine1 engine2 frame err hengine hrun h
    obtain ⟨-, state, -, rfl⟩ := settlementEngineWithConfig_eq_ok.mp hengine
    obtain ⟨s, records, -, rfl⟩ :=
      (tickAll_refines (defaultSettlementScheduler_ordered config) rfl).mp hrun
    refine afterFailure (defaultSettlementScheduler_ordered config) rfl (fun t => ?_) h
    exact keptByPhases_of_ok (fun _ _ _ _ _ => settlement_run_error)
      fun _ _ _ _ _ ht hact => (settlement_run_tick hact).trans ht

/-- A value limit that a delta of 5 breaks. -/
def tightConfig : CounterSimulationConfig :=
  { CounterSimulationConfig.default with maxAbsValue := 1 }

/-- The value a tick leaves behind when it fails. -/
def failedValue {α : Type} : EStateM.Result EngineError CounterEngine α → Option Int64
  | .ok _ _ => none
  | .error _ engine => some engine.state.value

theorem failedValue_eq_some {α : Type} {x : EStateM.Result EngineError CounterEngine α}
    {value : Int64} : failedValue x = some value ↔
      ∃ err engine, x = .error err engine ∧ engine.state.value = value := by
  cases x with
  | ok a engine => simp [failedValue]
  | error err engine => simp [failedValue]

theorem failed_tick_keeps_records_tight : ∃ err engine2,
    (buildCounterEngineInternal 7 defaultCounterScheduler tightConfig).tick ⟨1, ⟨5, false⟩⟩ =
        .error err engine2 ∧
      engine2.AfterFailure (buildCounterEngineInternal 7 defaultCounterScheduler tightConfig)
        ⟨1, ⟨5, false⟩⟩ err := by
  have hfail : failedValue ((buildCounterEngineInternal 7 defaultCounterScheduler
      tightConfig).tick ⟨1, ⟨5, false⟩⟩) = some 5 := by decide +kernel
  obtain ⟨err, engine2, h, -⟩ := failedValue_eq_some.mp hfail
  exact ⟨err, engine2, h,
    failed_tick_keeps_records.1 tightConfig 7 [] _ _ engine2 ⟨1, ⟨5, false⟩⟩ err rfl rfl h⟩

/- The tick that broke the limit has changed the state, and a tick that the engine would
have accepted before is refused after it. -/
theorem failed_tick_leaves_a_trace : ∃ (engine engine2 : CounterEngine) (err : EngineError),
    counterEngineWithConfig 7 tightConfig = .ok engine ∧
      engine.tick ⟨1, ⟨5, false⟩⟩ = .error err engine2 ∧ engine2.state ≠ engine.state ∧
      (∃ result engine3, engine.tick ⟨1, ⟨0, false⟩⟩ = .ok result engine3) ∧
      ∃ err' engine3, engine2.tick ⟨1, ⟨0, false⟩⟩ = .error err' engine3 := by
  have hfail : failedValue ((buildCounterEngineInternal 7 defaultCounterScheduler
      tightConfig).tick ⟨1, ⟨5, false⟩⟩) = some 5 := by decide +kernel
  have hfine : (okState ((buildCounterEngineInternal 7 defaultCounterScheduler
      tightConfig).tick ⟨1, ⟨0, false⟩⟩)).isSome = true := by decide +kernel
  obtain ⟨err, engine2, h, hvalue⟩ := failedValue_eq_some.mp hfail
  obtain ⟨result, engine3, hok⟩ := okState_isSome.mp hfine
  have hpending : engine2.replayLog.pending ≠ none := by
    cases tick_fails h with
    | unexpected hne => exact absurd rfl hne
    | busy _ hp => exact absurd rfl hp
    | midway _ _ hmid => exact hmid.log.pending
  obtain ⟨err', h'⟩ := tick_of_open hpending (⟨1, ⟨0, false⟩⟩ : InputFrame CounterCommand)
  refine ⟨_, engine2, err, rfl, h, ?_, ⟨result, engine3, hok⟩, err', engine2, h'⟩
  intro heq
  rw [heq] at hvalue
  revert hvalue
  decide +kernel

/-! ### Checkpoints -/

section Schedule
variable {S C P V Snapshot : Type} [SimulationState S Snapshot]
  [LawfulSimulationState S Snapshot] [StateValidator V S] [Phase P S C Snapshot]
  [QuietPhase P S C Snapshot]

/- Checkpoints fire once for each group, and traces are legal, exactly when one phase at
most was added to the finalize group. The slots of a scheduler are all of it but the
private state of its phases, which changes as they run. -/
theorem checkpoints_fire_once_iff (adds : List (PhaseGroup × P))
    (e : DeterministicEngine S C P V Snapshot)
    (hbuilt : e.scheduler.slots = (FixedScheduler.ofPhases adds).slots) :
    (∀ frame result e', e.tick frame = .ok result e' →
      ∃ record, e'.replayRecords = e.replayRecords ++ [record] ∧
        (∀ k, ∃ pending, e.PendingAfter frame k pending) ∧
        (e.OncePerBoundary frame record ↔
          adds.countP (fun add => add.1 = PhaseGroup.finalize) ≤ 1)) ∧
    (SimulationState.tick e.state = 0 → e.replayLog = .default →
      ∀ frames e', frames.length ≤ USIZE_MAX → tickAll frames e = .ok () e' →
        (validateRecordSequence e.seed e.snapshotPolicy (SimulationState.snapshotSchemaVersion S)
            e'.replayRecords = .ok () ↔
          frames = [] ∨ adds.countP (fun add => add.1 = PhaseGroup.finalize) ≤ 1)) := by
  have hs : e.scheduler.Ordered :=
    FixedScheduler.ordered_of_slots hbuilt (FixedScheduler.ofPhases_ordered adds)
  rw [← FixedScheduler.groupCount_ofPhases, ← FixedScheduler.groupCount_of_slots hbuilt]
  constructor
  · intro frame result e' h
    obtain ⟨record, hspec⟩ := tick_spec hs h
    exact ⟨record, congrArg InMemoryReplayLog.records hspec.log,
      exists_pendingAfter hs h, oncePerBoundary_iff hs hspec⟩
  · intro hzero hlog frames e' hlen h
    have hbound : (SimulationState.tick e.state).toNat + frames.length < 2 ^ 64 := by
      have hz : (0 : UInt64).toNat = 0 := rfl
      rw [hzero, hz]
      simp only [USIZE_MAX] at hlen
      omega
    obtain ⟨records, hrecs, hlegal⟩ := run_legal_iff hs hbound h
    have hempty : e.replayRecords = [] := by rw [replayRecords, hlog]; rfl
    rw [hempty, List.nil_append] at hrecs
    rw [hzero, UInt64.zero_add] at hlegal
    rw [validateRecordSequence_eq_ok, hrecs]
    exact hlegal

end Schedule

/-- A counter without validator, for schedules of one's own. -/
def plainCounterEngine (adds : List (PhaseGroup × CounterPhase)) :
    DeterministicEngine CounterState CounterCommand CounterPhase NoopStateValidator
      CounterSnapshot where
  seed := 7
  state := .withInitialEntities 0 0 []
  replayLog := .default
  scheduler := .ofPhases adds
  snapshotPolicy := .never
  validationPolicy := .tickBoundary
  validator := .noop

theorem plainCounterEngine_ticks : ∃ engine', tickAll [⟨1, ⟨5, false⟩⟩]
    (plainCounterEngine [(.finalize, .finalizeCounterPhase)]) = .ok () engine' := by
  have hsome : (okState (tickAll [⟨1, ⟨5, false⟩⟩]
      (plainCounterEngine [(.finalize, .finalizeCounterPhase)]))).isSome = true := by
    decide +kernel
  obtain ⟨_, engine', h⟩ := okState_isSome.mp hsome
  exact ⟨engine', h⟩

theorem checkpoints_fire_once_iff_one : ∃ engine',
    tickAll [⟨1, ⟨5, false⟩⟩] (plainCounterEngine [(.finalize, .finalizeCounterPhase)]) =
        .ok () engine' ∧
      validateRecordSequence 7 .never 2 engine'.replayRecords = .ok () := by
  obtain ⟨engine', h⟩ := plainCounterEngine_ticks
  exact ⟨engine', h, ((checkpoints_fire_once_iff [(.finalize, .finalizeCounterPhase)] _ rfl).2
    rfl rfl _ engine' (by decide) h).mpr (.inr (by decide))⟩

/- Two finalize phases: the second checkpoint repeats the first. -/
theorem repeated_finalize_checkpoint : ∃ engine',
    tickAll [⟨1, ⟨5, false⟩⟩] (plainCounterEngine [(.finalize, .finalizeCounterPhase),
        (.finalize, .finalizeCounterPhase)]) = .ok () engine' ∧
      engine'.replayRecords.map (fun r => r.validationSummaries.map (·.checkpoint)) =
        [[.beforeTickBegin, .afterFinalize, .afterFinalize]] ∧
      validateRecordSequence 7 .never 2 engine'.replayRecords ≠ .ok () := by
  have hsome : (okState (tickAll [⟨1, ⟨5, false⟩⟩]
      (plainCounterEngine [(.finalize, .finalizeCounterPhase),
        (.finalize, .finalizeCounterPhase)]))).map (fun e =>
          (e.replayRecords.map (fun r => r.validationSummaries.map (·.checkpoint)),
            decide (validateRecordSequence 7 .never 2 e.replayRecords = .ok ()))) =
        some ([[.beforeTickBegin, .afterFinalize, .afterFinalize]], false) := by
    decide +kernel
  obtain ⟨_, engine', h, heq⟩ := okState_map_eq_some.mp hsome
  obtain ⟨hchecks, hlegal⟩ := Prod.mk.inj heq
  exact ⟨engine', h, hchecks, of_decide_eq_false hlegal⟩

end XenorEngine.Rust
