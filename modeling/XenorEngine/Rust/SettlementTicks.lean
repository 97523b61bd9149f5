import XenorEngine.Rust.SettlementChecks

/-!
# What the phases make of an accepted state

A check within a tick, and the checks after it, can only fail for the upper limit of
the inventories: all the rest holds of what the phases compute.
-/

namespace XenorEngine.Rust
open XenorEngine.Lib.Fallible XenorEngine.Lib.Runs

theorem saturatingAddI64_nonneg {a b : Int64} (ha : 0 ≤ a.toInt) (hb : 0 ≤ b.toInt) :
    0 ≤ (saturatingAddI64 a b).toInt := by
  rw [saturatingAddI64, toInt_saturateI64]
  omega

namespace SettlementState

/-- What the population takes of a resource. -/
def used (s : SettlementState) (config : SettlementSimulationConfig) (r : ResourceKind) : Int64 :=
  if s.inventory r ≤ required s.population config r then s.inventory r
  else required s.population config r

theorem required_nonneg {config : SettlementSimulationConfig} (h : SettlementAmounts config)
    (population : UInt32) (r : ResourceKind) : 0 ≤ (required population config r).toInt := by
  cases r with
  | food => exact saturatingMulI64_u32_nonneg population h.consumption
  | wood => exact h.demand .wood

/-- The part of `Sane` that holds between any two phases. -/
structure Stocked (s : SettlementState) : Prop where
  stock : ∀ r, 0 ≤ (s.inventory r).toInt
  metrics : ∀ m ∈ s.metrics, ∀ r, 0 ≤ (m r).toInt

theorem Sane.stocked {s : SettlementState} (h : s.Sane) : s.Stocked := ⟨h.stock, h.metrics⟩

theorem stocked_produce {config : SettlementSimulationConfig} (hamounts : SettlementAmounts config)
    {s : SettlementState} (h : s.Stocked) : (s.produce config).Stocked := by
  have hamount := produced_nonneg hamounts s
  have hprod := h.metrics s.cumulativeProduction (by simp [metrics])
  have hinv : ∀ r, (s.produce config).inventory r =
      saturatingAddI64 (s.inventory r) (s.produced config r) := by
    intro r
    cases r <;> rfl
  have hlast : ∀ r, (s.produce config).lastProduction r = s.produced config r := by
    intro r
    cases r <;> rfl
  have htotal : ∀ r, (s.produce config).cumulativeProduction r =
      saturatingAddI64 (s.cumulativeProduction r) (s.produced config r) := by
    intro r
    cases r <;> rfl
  refine ⟨fun r => hinv r ▸ saturatingAddI64_nonneg (h.stock r) (hamount r), ?_⟩
  intro m hm r
  simp only [metrics, List.mem_cons, List.not_mem_nil, or_false] at hm
  rcases hm with rfl | rfl | rfl | rfl | rfl | rfl
  · exact hlast r ▸ hamount r
  · exact h.metrics _ (by simp [metrics, produce]) r
  · exact h.metrics _ (by simp [metrics, produce]) r
  · exact htotal r ▸ saturatingAddI64_nonneg (hprod r) (hamount r)
  · exact h.metrics _ (by simp [metrics, produce]) r
  · exact h.metrics _ (by simp [metrics, produce]) r

/- What is used is in stock and asked for, so nothing here saturates. -/
theorem used_bounds {config : SettlementSimulationConfig} (hamounts : SettlementAmounts config)
    {s : SettlementState} (h : s.Stocked) (r : ResourceKind) :
    0 ≤ (s.used config r).toInt ∧ (s.used config r).toInt ≤ (s.inventory r).toInt ∧
      (s.used config r).toInt ≤ (required s.population config r).toInt := by
  have hstock := h.stock r
  have hreq := required_nonneg hamounts s.population r
  unfold used
  split
  · rename_i hle
    exact ⟨hstock, le_rfl, Int64.le_iff_toInt_le.mp hle⟩
  · rename_i hle
    rw [Int64.le_iff_toInt_le] at hle
    exact ⟨hreq, by omega, le_rfl⟩

theorem toInt_saturatingSubI64 {a b : Int64} (hb : 0 ≤ b.toInt) (hle : b.toInt ≤ a.toInt) :
    (saturatingSubI64 a b).toInt = a.toInt - b.toInt := by
  have hlt := Int64.toInt_lt a
  rw [saturatingSubI64, toInt_saturateI64]
  omega

theorem consume_maps (s : SettlementState) (config : SettlementSimulationConfig)
    (r : ResourceKind) :
    (s.consume config).inventory r = saturatingSubI64 (s.inventory r) (s.used config r) ∧
      (s.consume config).lastConsumption r = s.used config r ∧
      (s.consume config).lastShortage r =
        saturatingSubI64 (required s.population config r) (s.used config r) ∧
      (s.consume config).cumulativeConsumption r =
        saturatingAddI64 (s.cumulativeConsumption r) (s.used config r) ∧
      (s.consume config).cumulativeShortage r = saturatingAddI64 (s.cumulativeShortage r)
        (saturatingSubI64 (required s.population config r) (s.used config r)) := by
  cases r <;> exact ⟨rfl, rfl, rfl, rfl, rfl⟩

theorem stocked_consume {config : SettlementSimulationConfig} (hamounts : SettlementAmounts config)
    {s : SettlementState} (h : s.Stocked) : (s.consume config).Stocked := by
  have hcons := h.metrics s.cumulativeConsumption (by simp [metrics])
  have hshort := h.metrics s.cumulativeShortage (by simp [metrics])
  have hmissing : ∀ r, 0 ≤ (saturatingSubI64 (required s.population config r)
      (s.used config r)).toInt := by
    intro r
    obtain ⟨hpos, -, hreq⟩ := used_bounds hamounts h r
    rw [toInt_saturatingSubI64 hpos hreq]
    omega
  constructor
  · intro r
    obtain ⟨hpos, hstock, -⟩ := used_bounds hamounts h r
    rw [(s.consume_maps config r).1, toInt_saturatingSubI64 hpos hstock]
    omega
  · intro m hm r
    obtain ⟨-, hlast, hlastShort, htotal, htotalShort⟩ := s.consume_maps config r
    obtain ⟨hpos, -, -⟩ := used_bounds hamounts h r
    simp only [metrics, List.mem_cons, List.not_mem_nil, or_false] at hm
    rcases hm with rfl | rfl | rfl | rfl | rfl | rfl
    · exact h.metrics _ (by simp [metrics, consume]) r
    · exact hlast ▸ hpos
    · exact hlastShort ▸ hmissing r
    · exact h.metrics _ (by simp [metrics, consume]) r
    · exact htotal ▸ saturatingAddI64_nonneg (hcons r) hpos
    · exact htotalShort ▸ saturatingAddI64_nonneg (hshort r) (hmissing r)

/- Something is missing only when all there was has been taken. -/
theorem consume_shortage {config : SettlementSimulationConfig}
    (hamounts : SettlementAmounts config) {s : SettlementState} (h : s.Stocked)
    (r : ResourceKind) (hshort : 0 < ((s.consume config).lastShortage r).toInt) :
    (s.consume config).inventory r = 0 := by
  obtain ⟨hinv, -, hlast, -, -⟩ := s.consume_maps config r
  obtain ⟨hpos, hstock, hreq⟩ := used_bounds hamounts h r
  rw [hlast, toInt_saturatingSubI64 hpos hreq] at hshort
  have hall : s.used config r = s.inventory r := by
    unfold used at hshort ⊢
    split at hshort
    · rename_i hle
      rw [if_pos hle]
    · omega
  rw [hinv, ← Int64.toInt_inj, toInt_saturatingSubI64 hpos hstock, hall]
  simp

/- The command is applied before anything is produced; no other phase touches it. -/
theorem applyPendingAllocation_allocated {s : SettlementState} (h : s.Sane) :
    s.applyPendingAllocation.Cleared ∧ s.applyPendingAllocation.currentAllocation.validateAgainst
      s.applyPendingAllocation.population = .ok () := by
  have hpending := h.pending
  unfold applyPendingAllocation
  split
  · rename_i hp
    rw [if_pos hp] at hpending
    exact ⟨⟨rfl, rfl⟩, hpending⟩
  · rename_i hp
    rw [if_neg hp] at hpending
    exact ⟨⟨Bool.eq_false_of_not_eq_true hp, hpending⟩, h.current⟩

theorem applyPendingAllocation_stocked {s : SettlementState} (h : s.Stocked) :
    s.applyPendingAllocation.Stocked := by
  unfold applyPendingAllocation
  split
  · exact ⟨h.stock, h.metrics⟩
  · exact h

theorem resolveShortage_sane {s : SettlementState}
    (hcurrent : s.currentAllocation.validateAgainst s.population = .ok ()) (hcleared : s.Cleared)
    (hstocked : s.Stocked) (hshort : ∀ r, 0 < (s.lastShortage r).toInt → s.inventory r = 0) :
    s.resolveShortage.Sane ∧ s.resolveShortage.Cleared := by
  refine ⟨⟨hcurrent, ?_, hstocked.stock, hstocked.metrics, rfl, hshort⟩, hcleared⟩
  have habsent : s.resolveShortage.pendingAllocationPresent = false := hcleared.1
  rw [habsent]
  exact hcleared.2

/- After the simulation a state passes every check but the upper limit. -/
theorem simulated_sane {config : SettlementSimulationConfig} (hamounts : SettlementAmounts config)
    {s : SettlementState} (h : s.Sane) : (s.simulated config).Sane ∧ (s.simulated config).Cleared := by
  obtain ⟨hcleared, hcurrent⟩ := applyPendingAllocation_allocated h
  have hproduced := stocked_produce hamounts (applyPendingAllocation_stocked h.stocked)
  have hconsumed := stocked_consume hamounts hproduced
  have hshort := consume_shortage hamounts hproduced
  have hkept : ∀ t : SettlementState,
      ((t.produce config).consume config).currentAllocation = t.currentAllocation ∧
        ((t.produce config).consume config).population = t.population ∧
        (((t.produce config).consume config).Cleared ↔ t.Cleared) :=
    fun _ => ⟨rfl, rfl, Iff.rfl⟩
  obtain ⟨hallocation, hpopulation, hpending⟩ := hkept s.applyPendingAllocation
  rw [← hallocation, ← hpopulation] at hcurrent
  exact resolveShortage_sane hcurrent (hpending.mpr hcleared) hconsumed hshort

/- Staging a command only fills the pending slot. -/
theorem staged_sane {s s1 : SettlementState} {command : SettlementCommand} (h : s.Sane)
    (hstage : s.staged command = .ok s1) : s1.Sane ∧ s1.finalizeMarker = 0 ∧
      s1.tick = s.tick ∧ s1.population = s.population ∧ s1.inventory = s.inventory := by
  cases command with
  | hold =>
    obtain rfl := Except.ok.inj hstage
    exact ⟨⟨h.current, h.pending, h.stock, h.metrics, h.status, h.shortage⟩, rfl, rfl, rfl, rfl⟩
  | setWorkerAllocation allocation =>
    simp only [staged, stageAllocation, bind_eq_ok, mapError_eq_ok, pure_eq_ok] at hstage
    obtain ⟨_, hvalid, rfl⟩ := hstage
    exact ⟨⟨h.current, hvalid, h.stock, h.metrics, h.status, h.shortage⟩, rfl, rfl, rfl, rfl⟩

theorem simulated_keeps (s : SettlementState) (config : SettlementSimulationConfig) :
    (s.simulated config).finalizeMarker = s.finalizeMarker ∧
      (s.simulated config).tick = s.tick ∧ (s.simulated config).population = s.population := by
  change s.applyPendingAllocation.finalizeMarker = _ ∧ s.applyPendingAllocation.tick = _ ∧
    s.applyPendingAllocation.population = _
  unfold applyPendingAllocation
  split <;> exact ⟨rfl, rfl, rfl⟩

theorem sane_finalize {s : SettlementState} {marker : UInt64} :
    (s.finalize marker).Sane ↔ s.Sane := by
  constructor
  · exact fun h => ⟨h.current, h.pending, h.stock, h.metrics, h.status, h.shortage⟩
  · exact fun h => ⟨h.current, h.pending, h.stock, h.metrics, h.status, h.shortage⟩

theorem finalize_finalizeMarker (s : SettlementState) (marker : UInt64) :
    (s.finalize marker).finalizeMarker = marker := rfl

theorem withinLimit_finalize {s : SettlementState} {marker : UInt64} {maxInventory : Int64} :
    (s.finalize marker).WithinLimit maxInventory ↔ s.WithinLimit maxInventory := Iff.rfl

theorem cleared_finalize {s : SettlementState} {marker : UInt64} :
    (s.finalize marker).Cleared ↔ s.Cleared := Iff.rfl

/- The validator finds the marker that the last phase wrote: both hash the state with
no marker in it. -/
theorem finalize_marker (s : SettlementState) (ctx : TickContext SettlementCommand)
    (hseed : ctx.tickSeed = tickSeed ctx.baseSeed ctx.tick) (hmarker : s.finalizeMarker = 0) :
    (s.finalize (s.markerOf ctx)).previewFinalizeMarker ctx.baseSeed ctx.tick =
      s.markerOf ctx := by
  have hsnapshot : ∀ marker, { (s.finalize marker).snapshot with finalizeMarker := 0 } =
      s.snapshot := by
    intro marker
    simp only [finalize, snapshot, hmarker]
  have hchecksum : SimulationState.checksum s = snapshotChecksum s.snapshot := rfl
  rw [previewFinalizeMarker, hsnapshot, markerOf, hseed, hchecksum]

/-- Where a tick leads once its command is staged. -/
def settled (s : SettlementState) (config : SettlementSimulationConfig) (seed : Seed)
    (frame : InputFrame SettlementCommand) : SettlementState :=
  SimulationState.setTick ((s.simulated config).finalize ((s.simulated config).markerOf
    ⟨seed, tickSeed seed frame.tick, frame.tick, frame⟩)) frame.tick

/- The marker and the tick number play no part in these checks. -/
theorem stamped (s : SettlementState) (marker : UInt64) (tick : Tick) (maxInventory : Int64) :
    let t : SettlementState := SimulationState.setTick (s.finalize marker) tick
    (s.Sane → t.Sane) ∧ (s.Cleared → t.Cleared) ∧
      (t.WithinLimit maxInventory ↔ s.WithinLimit maxInventory) ∧ t.tick = tick ∧
      t.population = s.population :=
  ⟨fun h => ⟨h.current, h.pending, h.stock, h.metrics, h.status, h.shortage⟩, id, Iff.rfl, rfl, rfl⟩

/-- An allocation that fits the population exactly. -/
def Fits (population : UInt32) (allocation : WorkerAllocation) : Prop :=
  allocation.farmers.toNat + allocation.loggers.toNat ≤ population.toNat

theorem validateAgainst_eq_ok {allocation : WorkerAllocation} {population : UInt32} :
    allocation.validateAgainst population = .ok () ↔
      min (allocation.farmers.toNat + allocation.loggers.toNat) (2 ^ 32 - 1) ≤
        population.toNat := by
  have hfarmers := allocation.farmers.toNat_lt
  have hloggers := allocation.loggers.toNat_lt
  rw [WorkerAllocation.validateAgainst, rejectIf_eq_ok, gt_iff_lt, UInt32.not_lt,
    UInt32.le_iff_toNat_le, WorkerAllocation.totalAssigned, saturatingAddU32]
  split
  · rename_i hsum
    rw [UInt32.toNat_add, Nat.mod_eq_of_lt hsum]
    omega
  · rw [UInt32.toNat_ofNat_of_lt' (by decide)]
    omega

theorem staged_of_fits {s : SettlementState} {command : SettlementCommand}
    (h : ∀ allocation, command = .setWorkerAllocation allocation →
      Fits s.population allocation) : ∃ s1, s.staged command = .ok s1 := by
  cases command with
  | hold => exact ⟨_, rfl⟩
  | setWorkerAllocation allocation =>
    have hfits := h allocation rfl
    have hvalid : allocation.validateAgainst s.population = .ok () :=
      validateAgainst_eq_ok.mpr ((Nat.min_le_left _ _).trans hfits)
    exact ⟨{ s.resetFinalizeMarker with
      pendingAllocation := allocation, pendingAllocationPresent := true }, by
        simp only [staged, stageAllocation, bind_eq_ok, mapError_eq_ok, pure_eq_ok, and_true]
        exact ⟨(), hvalid⟩⟩

end SettlementState

open SettlementState

section Tick
variable {config : SettlementSimulationConfig} {seed : Seed} {s s' state : SettlementState}
  {frame : InputFrame SettlementCommand}

theorem settlement_tickStep_passes :
    (∃ record, (settlementEngineFrom seed config state).tickStep s frame = .ok (s', record)) ↔
      frame.tick = saturatingAddU64 s.tick 1 ∧
        SettlementStateValidator.validate ⟨seed, config⟩
          ⟨.beforeTickBegin, frame.tick, tickSeed seed frame.tick⟩ s = .ok () ∧
        ∃ t, Passes config.validationPolicy (⟨seed, config⟩ : SettlementStateValidator)
          (defaultSettlementScheduler config).phasePlan
          ⟨seed, tickSeed seed frame.tick, frame.tick, frame⟩ 0
          ((defaultSettlementScheduler config).planOrder.map (·.phase)) s t ∧
          s' = SimulationState.setTick t frame.tick :=
  DeterministicEngine.tickStep_ok_iff (e := settlementEngineFrom seed config state)
    (defaultSettlementScheduler_ordered config)

/- When a tick goes through, under either policy: the checks within it and after it add
only the upper limit to those before it. -/
theorem settlement_tickStep_iff (hamounts : SettlementAmounts config) :
    (∃ record, (settlementEngineFrom seed config state).tickStep s frame = .ok (s', record)) ↔
      frame.tick.toNat = s.tick.toNat + 1 ∧ s.Sane ∧ s.WithinLimit config.maxInventory ∧
        s.Cleared ∧ s.Marked ∧ ∃ s1, s.staged frame.command = .ok s1 ∧
          (s1.simulated config).WithinLimit config.maxInventory ∧
          s' = s1.settled config seed frame := by
  rw [settlement_tickStep_passes]
  constructor
  · rintro ⟨hexp, hbefore, t, hpasses, rfl⟩
    obtain ⟨htick, hsane, hlimit, hcleared, hmarked⟩ := settlement_validate_eq_ok.mp hbefore
    obtain ⟨s1, hstage, -, -, hfinal, rfl⟩ := settlement_passes.mp hpasses
    obtain ⟨-, -, hlimit1, -⟩ := settlement_validate_eq_ok.mp hfinal
    exact ⟨expected_tick_iff.mp ⟨hexp, htick⟩, hsane, hlimit, hcleared, hmarked, s1, hstage,
      withinLimit_finalize.mp hlimit1, rfl⟩
  · rintro ⟨hnext, hsane, hlimit, hcleared, hmarked, s1, hstage, hlimit1, rfl⟩
    obtain ⟨hexp, htick⟩ := expected_tick_iff.mpr hnext
    obtain ⟨hsane1, hmarker1, htick1, -, hinventory1⟩ := staged_sane hsane hstage
    obtain ⟨hmarker2, htick2, -⟩ := s1.simulated_keeps config
    obtain ⟨hsane2, hcleared2⟩ := simulated_sane hamounts hsane1
    have hinput : s1.WithinLimit config.maxInventory := by
      intro r
      rw [hinventory1]
      exact hlimit r
    have hmark := (s1.simulated config).finalize_marker
      ⟨seed, tickSeed seed frame.tick, frame.tick, frame⟩ rfl (hmarker2.trans hmarker1)
    refine ⟨hexp, settlement_validate_eq_ok.mpr ⟨htick, hsane, hlimit, hcleared, hmarked⟩, _,
      settlement_passes.mpr ⟨s1, hstage, fun _ => settlement_validate_eq_ok.mpr ?_,
        fun _ => settlement_validate_eq_ok.mpr ?_, settlement_validate_eq_ok.mpr ?_, rfl⟩, rfl⟩
    · exact ⟨htick1.trans htick, hsane1, hinput, hmarker1⟩
    · exact ⟨htick2.trans (htick1.trans htick), hsane2, hlimit1, hmarker2.trans hmarker1,
        hcleared2⟩
    · refine ⟨htick2.trans (htick1.trans htick), sane_finalize.mpr hsane2,
        withinLimit_finalize.mpr hlimit1, cleared_finalize.mpr hcleared2, ?_⟩
      exact (finalize_finalizeMarker _ _).trans hmark.symm

/- What the phases alone make of a state. -/
theorem settlement_phasesStep_iff {out : SettlementState} :
    (settlementEngineFrom seed config state).phasesStep s frame = .ok (s', out) ↔
      out = s' ∧ ∃ s1, s.staged frame.command = .ok s1 ∧ s' = s1.settled config seed frame := by
  rw [DeterministicEngine.phasesStep_eq_ok]
  refine and_congr_right fun _ => ?_
  constructor
  · rintro ⟨t, hacts, rfl⟩
    obtain ⟨s1, hstage, rfl⟩ := settlement_acts.mp hacts
    exact ⟨s1, hstage, rfl⟩
  · rintro ⟨s1, hstage, rfl⟩
    exact ⟨_, settlement_acts.mpr ⟨s1, hstage, rfl⟩, rfl⟩

end Tick

end XenorEngine.Rust
