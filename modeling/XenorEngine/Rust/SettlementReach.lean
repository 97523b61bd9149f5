import XenorEngine.Rust.SettlementGuarantees
import XenorEngine.Rust.EngineCalls
import XenorEngine.Rust.Serialization

/-!
# Reachable settlements

What a host finds after every tick that succeeds: the phases of a tick leave a state
that the next one accepts, and the counter of shortage ticks says what was seen.
-/

namespace XenorEngine.Rust
open XenorEngine.Lib.Fallible
open DeterministicEngine SettlementState

/-- The ticks of `done` that ended in a shortage. -/
def shortagesOf (done : List SettlementState) : ℕ := done.countP fun s => s.lastStatus ≠ .stable

theorem shortagesOf_snoc (done : List SettlementState) (s : SettlementState) :
    shortagesOf (done ++ [s]) = shortagesOf done + if s.lastStatus ≠ .stable then 1 else 0 := by
  rw [shortagesOf, List.countP_append, List.countP_singleton]
  simp only [shortagesOf, decide_eq_true_eq]

/-- The invariant of a run: `done` are the states after the ticks that succeeded. -/
structure Kept (config : SettlementSimulationConfig) (done : List SettlementState)
    (s : SettlementState) : Prop where
  ready : Ready config done.length s
  limit : s.WithinLimit config.maxInventory
  shortages : s.shortageTicks.toNat = shortagesOf done

section Step
variable {config : SettlementSimulationConfig}

theorem staged_shortageTicks {s s1 : SettlementState} {command : SettlementCommand}
    (h : s.staged command = .ok s1) : s1.shortageTicks = s.shortageTicks := by
  cases command with
  | hold =>
    obtain rfl := Except.ok.inj h
    rfl
  | setWorkerAllocation allocation =>
    obtain rfl := stageAllocation_ok h
    rfl

theorem simulated_shortageTicks (s : SettlementState) (config : SettlementSimulationConfig) :
    (s.simulated config).shortageTicks =
      if (s.simulated config).lastStatus ≠ .stable then saturatingAddU64 s.shortageTicks 1
      else s.shortageTicks := by
  have hkept : s.applyPendingAllocation.shortageTicks = s.shortageTicks := by
    unfold applyPendingAllocation
    split <;> rfl
  rw [← hkept]
  rfl

/- The counter does not saturate: it counts some of the ticks, and the ticks are numbered. -/
theorem kept_shortages {done : List SettlementState} {s s1 : SettlementState}
    (h : Kept config done s) {seed : Seed} {frame : InputFrame SettlementCommand}
    (htick : frame.tick.toNat = s.tick.toNat + 1) (hstage : s.staged frame.command = .ok s1) :
    (s1.settled config seed frame).shortageTicks.toNat =
      shortagesOf (done ++ [s1.settled config seed frame]) := by
  have hcount : shortagesOf done ≤ done.length := List.countP_le_length
  have hbound := frame.tick.toNat_lt
  have hlength := h.ready.tick
  have hshort := h.shortages
  rw [← staged_shortageTicks hstage] at hshort
  have hstamped : (s1.settled config seed frame).shortageTicks =
      (s1.simulated config).shortageTicks := rfl
  have hstatus : (s1.settled config seed frame).lastStatus = (s1.simulated config).lastStatus := rfl
  rw [shortagesOf_snoc, hstamped, hstatus, simulated_shortageTicks, ← hshort]
  split
  · rw [toNat_saturatingAddU64, UInt64.toNat_one]
    omega
  · rfl

/- One tick. -/
theorem kept_tickStep {seed : Seed} {state : SettlementState} (hamounts : SettlementAmounts config)
    {done : List SettlementState} {s s' : SettlementState} (h : Kept config done s)
    {frame : InputFrame SettlementCommand}
    {record : ReplayTickRecord SettlementCommand SettlementSnapshot}
    (hstep : (settlementEngineFrom seed config state).tickStep s frame = .ok (s', record)) :
    Kept config (done ++ [s']) s' := by
  obtain ⟨htick, -, -, -, -, s1, hstage, hlimit, rfl⟩ :=
    (settlement_tickStep_iff hamounts).mp ⟨record, hstep⟩
  refine ⟨?_, (stamped _ _ _ _).2.2.1.mpr hlimit, kept_shortages h htick hstage⟩
  rw [List.length_append]
  exact ready_settled seed hamounts h.ready (h.ready.tick ▸ htick) hstage

end Step

/-- What holds of the state `s` after the last tick of `done`. -/
structure ReachedAfter (config : SettlementSimulationConfig) (done : List SettlementState)
    (s : SettlementState) : Prop where
  valid : s.snapshot.validate = .ok ()
  encodes : ∃ bytes, settlementSnapshotTextSerializer.encode s.snapshot = .ok bytes
  restores : ∀ t : SettlementState, SimulationState.restoreSnapshot t s.snapshot = .ok s
  cleared : s.pendingAllocationPresent = false ∧ s.pendingAllocation = .zero
  inventory : ∀ r, 0 ≤ (s.inventory r).toInt ∧ (s.inventory r).toInt ≤ config.maxInventory.toInt
  shortage : ∀ r, 0 < (s.lastShortage r).toInt → s.inventory r = 0
  tick : s.tick.toNat = done.length
  shortageTicks : s.shortageTicks.toNat = shortagesOf done

theorem Kept.reached {config : SettlementSimulationConfig} {done : List SettlementState}
    {s : SettlementState} (h : Kept config done s) : ReachedAfter config done s := by
  have hvalid := sane_snapshot_valid h.ready.sane h.ready.cleared
  exact {
    valid := hvalid
    encodes := ⟨_, SettlementSnapshotTextSerializer.encode_eq_ok.mpr ⟨hvalid, rfl⟩⟩
    restores := fun t => restore_snapshot t hvalid
    cleared := h.ready.cleared
    inventory := fun r => ⟨h.ready.sane.stock r, h.limit r⟩
    shortage := h.ready.sane.shortage
    tick := h.ready.tick
    shortageTicks := h.shortages }

theorem fromConfig_kept {config : SettlementSimulationConfig} {state : SettlementState}
    (h : SettlementState.fromConfig config = .ok state) : Kept config [] state := by
  obtain ⟨hready, hlimit, -⟩ := fromConfig_ready h
  refine ⟨hready, hlimit, ?_⟩
  obtain ⟨-, rfl⟩ := check_pure_eq_ok.mp h
  rfl

theorem reachable_state_invariant (config : SettlementSimulationConfig) (seed : Seed)
    (hvalid : config.validate = .ok ()) :
    ∃ engine, settlementEngineWithConfig seed config = .ok engine ∧
      ∀ frames before after s, engine.completed frames = before ++ s :: after →
        ReachedAfter config (before ++ [s]) s := by
  have hamounts := settlement_amounts hvalid
  obtain ⟨state, hstate⟩ := exists_fromConfig hvalid
  refine ⟨_, settlementEngineWithConfig_eq_ok.mpr ⟨hvalid, state, hstate, rfl⟩, ?_⟩
  intro frames before after s h
  have hkept : Kept config ([] ++ before ++ [s]) s := completed_holds
    (defaultSettlementScheduler_ordered config) rfl
    (fun _ _ _ _ _ hdone hstep => kept_tickStep hamounts hdone hstep) (fromConfig_kept hstate) h
  exact hkept.reached

/- The second frame comes out of order; the tick after it is the second to succeed. -/
theorem reachable_state_invariant_default : ∃ (engine : SettlementEngine)
    (s1 s2 : SettlementState), settlementEngineWithConfig 7 .default = .ok engine ∧
      engine.completed [⟨1, .hold⟩, ⟨1, .hold⟩, ⟨2, .hold⟩] = [s1, s2] ∧
      ReachedAfter .default [s1, s2] s2 := by
  obtain ⟨engine, hengine, hreached⟩ := reachable_state_invariant .default 7 (by decide)
  obtain ⟨-, state, hstate, rfl⟩ := settlementEngineWithConfig_eq_ok.mp hengine
  have hlength : ((settlementEngineFrom 7 .default state).completed
      [⟨1, .hold⟩, ⟨1, .hold⟩, ⟨2, .hold⟩]).length = 2 := by
    cases hstate
    decide +kernel
  obtain ⟨s1, s2, hcompleted⟩ := List.length_eq_two.mp hlength
  exact ⟨_, s1, s2, hengine, hcompleted, hreached _ [s1] [] s2 hcompleted⟩

end XenorEngine.Rust
