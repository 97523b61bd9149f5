import XenorEngine.Rust.CounterStore
import XenorEngine.Rust.SettlementReach

/-!
# state, settlement: snapshot and restore

A snapshot that its `validate` accepts is what a state restored from it shows again;
and the state of an engine between two ticks comes back from its own snapshot,
whatever state that is restored into.
-/

namespace XenorEngine.Rust
open XenorEngine.Lib.Fallible XenorEngine.Lib.Runs
open DeterministicEngine

/-! ### From a snapshot to a state and back -/

namespace CounterState

theorem snapshot_ofSnapshot {s : CounterSnapshot} (h : s.Valid) : (ofSnapshot s h).snapshot = s := by
  have hread : ∀ entity ∈ s.entities,
      (ofSnapshot s h).entitySnapshot entity.id = some entity := by
    intro entity hmem
    have hget : (ofSnapshot s h).entities.get entity.id =
        some ⟨entity.value, entity.velocity⟩ := by
      apply DeterministicMap.get_foldl_insert_mem
      · rw [List.map_map]
        exact h.nodup
      · exact List.mem_map.mpr ⟨entity, hmem, rfl⟩
    rw [entitySnapshot, hget, Option.map_some]
    rfl
  have hentities : (ofSnapshot s h).entitySnapshots = s.entities := by
    show (s.entities.map (·.id)).filterMap (ofSnapshot s h).entitySnapshot = s.entities
    rw [List.filterMap_map]
    refine Eq.trans ?_ (List.filterMap_some (l := s.entities))
    exact List.filterMap_congr hread
  rw [snapshot, hentities]
  rfl

theorem restoreSnapshot_eq_ok {s : CounterSnapshot} (t : CounterState) {t' : CounterState} :
    t.restoreSnapshot s = .ok t' ↔ ∃ h, t' = ofSnapshot s h := by
  unfold restoreSnapshot
  split
  · rename_i hvalid
    have h := CounterSnapshot.validate_eq_ok.mp hvalid
    rw [Except.ok.injEq, eq_comm]
    constructor
    · intro heq
      exact ⟨h, heq⟩
    · rintro ⟨_, heq⟩
      exact heq
  · rename_i detail hinvalid
    simp only [reduceCtorEq, false_iff, not_exists]
    intro h _
    rw [CounterSnapshot.validate_eq_ok (u := ()) |>.mpr h] at hinvalid
    cases hinvalid

/- Validity is about the ids, which no phase touches. -/
theorem snapshot_valid_iff (s : CounterState) : s.snapshot.Valid ↔
    s.entityOrder.head? = some s.primaryEntity ∧ s.entityOrder.Nodup ∧
      ∀ id ∈ s.entityOrder, id.id < s.nextEntityId := by
  have hids : s.snapshot.entities.map (·.id) = s.entityOrder := entitySnapshots_ids s
  rw [← hids, List.head?_map, List.forall_mem_map]
  exact ⟨fun h => ⟨h.first, h.nodup, h.fresh⟩, fun h => ⟨h.1, h.2.1, h.2.2⟩⟩

theorem snapshot_valid_of_same {s s' : CounterState} (hsame : s.SameEntities s')
    (h : s.snapshot.Valid) : s'.snapshot.Valid := by
  rw [snapshot_valid_iff] at h ⊢
  rwa [hsame.order, hsame.primary, hsame.next]

end CounterState

namespace SettlementState

theorem snapshot_ofSnapshot (s : SettlementSnapshot) : (ofSnapshot s).snapshot = s := by
  cases s
  rfl

theorem restoreSnapshot_eq_ok {s : SettlementSnapshot} (t : SettlementState)
    {t' : SettlementState} :
    t.restoreSnapshot s = .ok t' ↔ s.validate = .ok () ∧ t' = ofSnapshot s := by
  unfold restoreSnapshot
  cases hvalid : s.validate with
  | ok u =>
    rw [Except.ok.injEq, eq_comm]
    exact ⟨fun heq => ⟨rfl, heq⟩, fun h => h.2⟩
  | error detail => simp

end SettlementState

/-! ### States between two ticks -/

section Calls
variable {S C P V Snapshot : Type} [SimulationState S Snapshot] [StateValidator V S]
  [Phase P S C Snapshot] [PurePhase P S C Snapshot] [QuietPhase P S C Snapshot]
  [LawfulSimulationState S Snapshot]

/- What every completed tick keeps and every restore makes holds whenever no record is open:
a tick that fails midway leaves its record open for good. -/
theorem calls_between_ticks {J : S → Prop} {e e' : DeterministicEngine S C P V Snapshot}
    (hs : e.scheduler.Ordered) (h0 : J e.state)
    (hstep : ∀ s frame s' record, J s → e.tickStep s frame = .ok (s', record) → J s')
    (hrestore : ∀ (t : S) snapshot s, SimulationState.restoreSnapshot t snapshot = .ok s → J s)
    {calls : List (EngineCall C Snapshot)} {results : List (CallResult Snapshot)}
    (h : callMachine.run e calls = .ok (e', results)) (hidle : e'.replayLog.pending = none) :
    J e'.state := by
  have hinvariant : e'.wiring = e.wiring ∧ (e'.replayLog.pending = none → J e'.state) := by
    refine run_holds (fun e1 _ _ => e1.wiring = e.wiring ∧
      (e1.replayLog.pending = none → J e1.state)) ?_ ⟨rfl, fun _ => h0⟩ h
    rintro e1 _ _ call e2 result ⟨hwiring, hkept⟩ hcall
    replace hcall : e1.perform call = .ok (e2, result) := hcall
    have hs1 : e1.scheduler.Ordered := by
      rw [show e1.scheduler = e.scheduler from congrArg (·.2.1) hwiring]
      exact hs
    refine ⟨(perform_effect hs1 hwiring hcall).1.trans hwiring, fun hidle2 => ?_⟩
    cases call with
    | restoreSnapshot snapshot =>
      simp only [perform, bind_eq_ok, pure_eq_ok, Prod.mk.injEq] at hcall
      obtain ⟨e3, hrestored, rfl, -⟩ := hcall
      obtain ⟨s, hs, rfl⟩ := restoreSnapshot_ok hrestored
      exact hrestore e1.state snapshot s hs
    | tick frame =>
      simp only [perform] at hcall
      cases htick : e1.tick frame with
      | ok res e3 =>
        simp only [htick, Except.ok.injEq, Prod.mk.injEq] at hcall
        obtain ⟨rfl, -⟩ := hcall
        have hidle1 : e1.replayLog.pending = none := by
          by_contra hopen
          obtain ⟨err, herr⟩ := tick_of_open hopen frame
          rw [herr] at htick
          cases htick
        obtain ⟨s', record, htickStep, rfl, -⟩ := (tick_refines hs1 hidle1).mp htick
        rw [tickStep_congr hwiring] at htickStep
        exact hstep e1.state frame s' record (hkept hidle1) htickStep
      | error err e3 =>
        simp only [htick, Except.ok.injEq, Prod.mk.injEq] at hcall
        obtain ⟨rfl, -⟩ := hcall
        cases tick_fails htick with
        | unexpected => exact hkept hidle2
        | busy _ hp => exact absurd hidle2 hp
        | midway _ _ hmid => exact absurd hidle2 hmid.log.pending
  exact hinvariant.2 hidle

end Calls

theorem counter_calls_valid {config : CounterSimulationConfig} {seed : Seed}
    {engine e : CounterEngine} {calls : List (EngineCall CounterCommand CounterSnapshot)}
    {results : List (CallResult CounterSnapshot)}
    (hmemory : config.initialEntities.length ≤ ISIZE_MAX)
    (hengine : counterEngineWithConfig seed config = .ok engine)
    (hrun : callMachine.run engine calls = .ok (e, results))
    (hidle : e.replayLog.pending = none) : e.state.snapshot.Valid := by
  obtain ⟨hvalid, rfl⟩ := counterEngineWithConfig_eq_ok.mp hengine
  have hpending := counter_config_limits hvalid
  unfold ISIZE_MAX at hmemory
  have hinitial : (buildCounterEngineInternal seed defaultCounterScheduler
      config).state.snapshot.Valid := CounterState.counted_snapshot_valid
    (CounterState.withInitialEntities_counted config.initialValue config.initialVelocity
      config.initialEntities) (by omega)
  have hordered : (buildCounterEngineInternal seed defaultCounterScheduler
      config).scheduler.Ordered := defaultCounterScheduler_ordered
  refine calls_between_ticks (J := fun s : CounterState => s.snapshot.Valid) hordered hinitial
    ?_ ?_ hrun hidle
  · intro s frame s' record hs hstep
    obtain ⟨-, -, -, -, -, -, -, rfl⟩ := (counter_tickStep_iff hpending).mp ⟨record, hstep⟩
    exact CounterState.snapshot_valid_of_same (s.settled_same seed frame) hs
  · intro t snapshot s hs
    obtain ⟨hsnapshot, rfl⟩ := (CounterState.restoreSnapshot_eq_ok t).mp hs
    rwa [CounterState.snapshot_ofSnapshot]

theorem settlement_calls_valid {config : SettlementSimulationConfig} {seed : Seed}
    {engine e : SettlementEngine} {calls : List (EngineCall SettlementCommand SettlementSnapshot)}
    {results : List (CallResult SettlementSnapshot)}
    (hengine : settlementEngineWithConfig seed config = .ok engine)
    (hrun : callMachine.run engine calls = .ok (e, results))
    (hidle : e.replayLog.pending = none) : e.state.snapshot.validate = .ok () := by
  obtain ⟨-, state, hstate, rfl⟩ := settlementEngineWithConfig_eq_ok.mp hengine
  have hordered : (settlementEngineFrom seed config state).scheduler.Ordered :=
    defaultSettlementScheduler_ordered config
  have hinitial := (fromConfig_kept hstate).reached.valid
  refine calls_between_ticks (J := fun s : SettlementState => s.snapshot.validate = .ok ())
    hordered hinitial ?_ ?_ hrun hidle
  · intro s frame s' record _ hstep
    exact settlement_tickStep rfl hstep
  · intro t snapshot s hs
    obtain ⟨hsnapshot, rfl⟩ := (SettlementState.restoreSnapshot_eq_ok t).mp hs
    rwa [SettlementState.snapshot_ofSnapshot]

/- Both ways round, for both state types. -/
theorem snapshot_restore_inverse :
    (∀ (s : CounterSnapshot) (t : CounterState), s.validate = .ok () →
      ∃ t', SimulationState.restoreSnapshot t s = .ok t' ∧ SimulationState.snapshot t' = s ∧
        SimulationState.checksum t' = SimulationState.snapshotChecksum CounterState s) ∧
    (∀ (s : SettlementSnapshot) (t : SettlementState), s.validate = .ok () →
      ∃ t', SimulationState.restoreSnapshot t s = .ok t' ∧ SimulationState.snapshot t' = s ∧
        SimulationState.checksum t' = SimulationState.snapshotChecksum SettlementState s) ∧
    (∀ config seed engine calls e results (t : CounterState),
      config.initialEntities.length ≤ ISIZE_MAX →
      counterEngineWithConfig seed config = .ok engine →
      callMachine.run engine calls = .ok (e, results) → e.replayLog.pending = none →
      SimulationState.restoreSnapshot t (SimulationState.snapshot e.state) = .ok e.state) ∧
    ∀ config seed engine calls e results (t : SettlementState),
      settlementEngineWithConfig seed config = .ok engine →
      callMachine.run engine calls = .ok (e, results) → e.replayLog.pending = none →
      SimulationState.restoreSnapshot t (SimulationState.snapshot e.state) = .ok e.state := by
  refine ⟨?_, ?_, ?_, ?_⟩
  · intro s t hs
    have hvalid := CounterSnapshot.validate_eq_ok.mp hs
    have hback := CounterState.snapshot_ofSnapshot hvalid
    refine ⟨_, (CounterState.restoreSnapshot_eq_ok t).mpr ⟨hvalid, rfl⟩, hback, ?_⟩
    show checksumWords (CounterState.snapshotChecksumWords (CounterState.snapshot _)) = _
    rw [hback]
    rfl
  · intro s t hs
    exact ⟨_, (SettlementState.restoreSnapshot_eq_ok t).mpr ⟨hs, rfl⟩,
      SettlementState.snapshot_ofSnapshot s, rfl⟩
  · intro config seed engine calls e results t hmemory hengine hrun hidle
    exact CounterState.restore_snapshot t (counter_calls_valid hmemory hengine hrun hidle)
  · intro config seed engine calls e results t hengine hrun hidle
    exact SettlementState.restore_snapshot t (settlement_calls_valid hengine hrun hidle)

/-- Two ticks, and one of a wrong number between them. -/
def ticksAround {C Snapshot : Type} (first second : C) : List (EngineCall C Snapshot) :=
  [.tick ⟨1, first⟩, .tick ⟨9, first⟩, .tick ⟨2, second⟩]

/- What such calls leave comes back into another state, and a snapshot of three entities
into a state of one. -/
theorem snapshot_restore_inverse_two_ticks :
    (∃ t, SimulationState.restoreSnapshot (CounterState.withInitialEntities 0 0 [])
        (CounterState.withInitialEntities 3 1 [⟨3, 1⟩, ⟨4, -1⟩]).snapshot = .ok t ∧
      t.snapshot = (CounterState.withInitialEntities 3 1 [⟨3, 1⟩, ⟨4, -1⟩]).snapshot) ∧
    (∃ e results, callMachine.run
        (buildCounterEngineInternal 7 defaultCounterScheduler threeEntitiesConfig)
        (ticksAround ⟨5, true⟩ ⟨-1, false⟩) = .ok (e, results) ∧
      SimulationState.restoreSnapshot (CounterState.withInitialEntities 0 0 [])
        (SimulationState.snapshot e.state) = .ok e.state) ∧
    ∃ engine e results t, settlementEngineWithConfig 7 .default = .ok engine ∧
      callMachine.run engine (ticksAround .hold (.setWorkerAllocation ⟨1, 1⟩)) = .ok (e, results) ∧
      e.state.tick = 2 ∧ t.tick = 0 ∧
      SimulationState.restoreSnapshot t (SimulationState.snapshot e.state) = .ok e.state := by
  obtain ⟨hcounter, -, hcounterCalls, hsettlementCalls⟩ := snapshot_restore_inverse
  refine ⟨?_, ?_, ?_⟩
  · obtain ⟨t, ht, hback, -⟩ := hcounter
      (CounterState.withInitialEntities 3 1 [⟨3, 1⟩, ⟨4, -1⟩]).snapshot
      (CounterState.withInitialEntities 0 0 []) (by decide)
    exact ⟨t, ht, hback⟩
  · have hidle : (callMachine.run
        (buildCounterEngineInternal 7 defaultCounterScheduler threeEntitiesConfig)
        (ticksAround ⟨5, true⟩ ⟨-1, false⟩)).toOption.map (·.1.replayLog.pending) = some none := by
      decide +kernel
    obtain ⟨⟨e, results⟩, hrun, hnone⟩ := Option.map_eq_some_iff.mp hidle
    have hrun := toOption_eq_some.mp hrun
    exact ⟨e, results, hrun, hcounterCalls threeEntitiesConfig 7 _ _ e results _ (by decide) rfl
      hrun hnone⟩
  · obtain ⟨engine, hengine⟩ : ∃ engine, settlementEngineWithConfig 7 .default = .ok engine :=
      ⟨_, rfl⟩
    have hidle : (callMachine.run engine
        (ticksAround .hold (.setWorkerAllocation ⟨1, 1⟩))).toOption.map (fun r =>
          (r.1.replayLog.pending, r.1.state.tick, engine.state.tick)) = some (none, 2, 0) := by
      cases hengine
      decide +kernel
    obtain ⟨⟨e, results⟩, hrun, hfinal⟩ := Option.map_eq_some_iff.mp hidle
    have hrun := toOption_eq_some.mp hrun
    obtain ⟨hnone, htick, hstart⟩ :
        e.replayLog.pending = none ∧ e.state.tick = 2 ∧ engine.state.tick = 0 := by
      simpa using hfinal
    exact ⟨engine, e, results, engine.state, hengine, hrun, htick, hstart,
      hsettlementCalls .default 7 engine _ e results _ hengine hrun hnone⟩

end XenorEngine.Rust
