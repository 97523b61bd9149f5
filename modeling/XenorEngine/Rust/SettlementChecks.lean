import XenorEngine.Rust.SettlementLedger
import XenorEngine.Rust.TickOutcome

/-!
# What the settlement validator accepts

The validator's checks as a predicate, and a tick of the default schedule as two
steps: the command is staged, the rest is computed. On what these steps make of an
accepted state, a check can only fail for the inventory limit or the marker.
-/

namespace XenorEngine.Rust
open XenorEngine.Lib.Fallible XenorEngine.Lib.Runs

namespace SettlementState

/-- Every amount the validator wants non-negative. -/
def metrics (s : SettlementState) : List ResourceMap :=
  [s.lastProduction, s.lastConsumption, s.lastShortage, s.cumulativeProduction,
    s.cumulativeConsumption, s.cumulativeShortage]

/-- The checks made at every checkpoint, but for the tick and the upper limit. -/
structure Sane (s : SettlementState) : Prop where
  current : s.currentAllocation.validateAgainst s.population = .ok ()
  pending : if s.pendingAllocationPresent
    then s.pendingAllocation.validateAgainst s.population = .ok ()
    else s.pendingAllocation = .zero
  stock : ∀ r, 0 ≤ (s.inventory r).toInt
  metrics : ∀ m ∈ s.metrics, ∀ r, 0 ≤ (m r).toInt
  status : s.lastStatus =
    SettlementStatus.fromShortages (s.lastShortage .food) (s.lastShortage .wood)
  shortage : ∀ r, 0 < (s.lastShortage r).toInt → s.inventory r = 0

def WithinLimit (maxInventory : Int64) (s : SettlementState) : Prop :=
  ∀ r, (s.inventory r).toInt ≤ maxInventory.toInt

def Cleared (s : SettlementState) : Prop :=
  s.pendingAllocationPresent = false ∧ s.pendingAllocation = .zero

def Marked (s : SettlementState) : Prop := MarkerFor s.tick s.finalizeMarker

/-- The checks that only one checkpoint makes. -/
def AtCheckpoint (seed : Seed) (context : ValidationContext) (s : SettlementState) : Prop :=
  match context.checkpoint with
  | .beforeTickBegin => s.Cleared ∧ s.Marked
  | .afterInputApplied => s.finalizeMarker = 0
  | .afterSimulationGroup => s.finalizeMarker = 0 ∧ s.Cleared
  | .afterFinalize => s.Cleared ∧ s.finalizeMarker = s.previewFinalizeMarker seed context.tick

end SettlementState

theorem int64_not_neg {x : Int64} : ¬ x < 0 ↔ 0 ≤ x.toInt := by
  rw [Int64.lt_iff_toInt_lt, not_lt]
  rfl

theorem int64_pos {x : Int64} : x > 0 ↔ 0 < x.toInt := by
  rw [gt_iff_lt, Int64.lt_iff_toInt_lt]
  rfl

theorem forall_resource {p : ResourceKind → Prop} : (∀ r, p r) ↔ p .food ∧ p .wood := by
  constructor
  · exact fun h => ⟨h .food, h .wood⟩
  · rintro ⟨hf, hw⟩ r
    cases r <;> assumption

/-! ### The validator -/

section Validator
open SettlementStateValidator SettlementState
variable {v : SettlementStateValidator} {context : ValidationContext} {s : SettlementState}

theorem expectAllocationValid_eq_ok : expectAllocationValid context s = .ok () ↔
    s.currentAllocation.validateAgainst s.population = .ok () ∧
      if s.pendingAllocationPresent
        then s.pendingAllocation.validateAgainst s.population = .ok ()
        else s.pendingAllocation = .zero := by
  simp only [expectAllocationValid, check_bind_eq_ok, mapError_eq_ok]
  cases s.pendingAllocationPresent <;> simp

theorem expectInventoryLimits_eq_ok : v.expectInventoryLimits context s = .ok () ↔
    (∀ r, 0 ≤ (s.inventory r).toInt) ∧ s.WithinLimit v.config.maxInventory := by
  simp only [expectInventoryLimits, forM_eq_ok, check_bind_eq_ok, rejectIf_eq_ok, WithinLimit,
    ResourceKind.ORDER, List.forall_mem_cons, List.not_mem_nil, IsEmpty.forall_iff, implies_true,
    and_true, forall_resource, gt_iff_lt, not_lt, Int64.lt_iff_toInt_lt]
  tauto

theorem expectNonNegativeMetrics_eq_ok : expectNonNegativeMetrics context s = .ok () ↔
    ∀ m ∈ s.metrics, ∀ r, 0 ≤ (m r).toInt := by
  simp only [expectNonNegativeMetrics, rejectNegative_eq_ok, List.forall_mem_cons,
    List.not_mem_nil, IsEmpty.forall_iff, implies_true, and_true, int64_not_neg,
    SettlementState.metrics, forall_resource, and_assoc]

theorem expectShortageConsistency_eq_ok : expectShortageConsistency context s = .ok () ↔
    s.lastStatus = SettlementStatus.fromShortages (s.lastShortage .food) (s.lastShortage .wood) ∧
      ∀ r, 0 < (s.lastShortage r).toInt → s.inventory r = 0 := by
  simp only [expectShortageConsistency, check_bind_eq_ok, rejectIf_eq_ok, ne_eq, not_not,
    not_and, int64_pos, forall_resource]

theorem expectPendingCleared_eq_ok :
    SettlementStateValidator.expectPendingCleared context s = .ok () ↔ s.Cleared := by
  simp only [SettlementStateValidator.expectPendingCleared, rejectIf_eq_ok, not_or,
    Bool.not_eq_true, ne_eq, not_not, Cleared]

theorem settlement_validate_eq_ok : v.validate context s = .ok () ↔
    s.tick = saturatingSubU64 context.tick 1 ∧ s.Sane ∧ s.WithinLimit v.config.maxInventory ∧
      s.AtCheckpoint v.seed context := by
  have hcheckpoint : (match context.checkpoint with
      | .beforeTickBegin => do
        SettlementStateValidator.expectPendingCleared context s
        expectPreviousMarker context s.tick s.finalizeMarker
      | .afterInputApplied => expectMarkerZero context s.finalizeMarker
      | .afterSimulationGroup => do
        expectMarkerZero context s.finalizeMarker
        SettlementStateValidator.expectPendingCleared context s
      | .afterFinalize => do
        SettlementStateValidator.expectPendingCleared context s
        expectCurrentMarker context (s.previewFinalizeMarker v.seed context.tick)
          s.finalizeMarker) = .ok () ↔ s.AtCheckpoint v.seed context := by
    unfold AtCheckpoint
    cases context.checkpoint with
    | beforeTickBegin =>
      simp only [check_bind_eq_ok, expectPendingCleared_eq_ok, expectPreviousMarker_eq_ok, Marked]
    | afterInputApplied => exact expectMarkerZero_eq_ok
    | afterSimulationGroup =>
      simp only [check_bind_eq_ok, expectPendingCleared_eq_ok, expectMarkerZero_eq_ok]
    | afterFinalize =>
      simp only [check_bind_eq_ok, expectPendingCleared_eq_ok, expectCurrentMarker_eq_ok]
  simp only [SettlementStateValidator.validate, check_bind_eq_ok, expectTickAlignment_eq_ok,
    expectAllocationValid_eq_ok, expectInventoryLimits_eq_ok, expectNonNegativeMetrics_eq_ok,
    expectShortageConsistency_eq_ok]
  constructor
  · rintro ⟨htick, ⟨hcurrent, hpending⟩, ⟨hstock, hlimit⟩, hmetrics, ⟨hstatus, hshort⟩, hat⟩
    exact ⟨htick, ⟨hcurrent, hpending, hstock, hmetrics, hstatus, hshort⟩, hlimit,
      hcheckpoint.mp hat⟩
  · rintro ⟨htick, hsane, hlimit, hat⟩
    exact ⟨htick, ⟨hsane.current, hsane.pending⟩, ⟨hsane.stock, hlimit⟩, hsane.metrics,
      ⟨hsane.status, hsane.shortage⟩, hcheckpoint.mpr hat⟩

/- A snapshot is checked for no more than the validator is. -/
theorem sane_snapshot_valid (h : s.Sane) (hcleared : s.Cleared) :
    s.snapshot.validate = .ok () := by
  have hpending : s.pendingAllocation.validateAgainst s.population = .ok () := by
    rw [hcleared.2]
    exact WorkerAllocation.zero_validateAgainst _
  have hmetrics := h.metrics
  simp only [SettlementState.metrics, List.forall_mem_cons, forall_resource] at hmetrics
  obtain ⟨⟨hlastFood, hlastWood⟩, ⟨hconsFood, hconsWood⟩, ⟨hshortFood, hshortWood⟩, ⟨htotalFood,
    htotalWood⟩, ⟨hallConsFood, hallConsWood⟩, ⟨hallShortFood, hallShortWood⟩, -⟩ := hmetrics
  simp only [SettlementSnapshot.validate, check_bind_eq_ok, rejectNegative_eq_ok, rejectIf_eq_ok,
    ne_eq, not_not, not_and, int64_pos, int64_not_neg, List.forall_mem_cons, List.not_mem_nil,
    IsEmpty.forall_iff, implies_true, and_true]
  exact ⟨h.current, hpending, fun _ => hcleared.2,
    ⟨h.stock .food, h.stock .wood, hlastFood, hlastWood, hconsFood, hconsWood, hshortFood,
      hshortWood, htotalFood, htotalWood, hallConsFood, hallConsWood, hallShortFood,
      hallShortWood⟩, h.status, h.shortage .food, h.shortage .wood⟩

end Validator

/-! ### A tick in two steps -/

namespace SettlementState

/-- The groups before the simulation. -/
def staged (s : SettlementState) (command : SettlementCommand) :
    Except EngineError SettlementState :=
  match command with
  | .hold => .ok s.resetFinalizeMarker
  | .setWorkerAllocation allocation => s.resetFinalizeMarker.stageAllocation allocation

/-- The simulation group. -/
def simulated (s : SettlementState) (config : SettlementSimulationConfig) : SettlementState :=
  ((s.applyPendingAllocation.produce config).consume config).resolveShortage

/-- The marker the last phase writes. -/
def markerOf (s : SettlementState) (ctx : TickContext SettlementCommand) : UInt64 :=
  mix64 (ctx.tickSeed ^^^ SimulationState.checksum s ^^^ ctx.tick)

end SettlementState

theorem stageSettlementCommand_iff {ctx : TickContext SettlementCommand}
    {s t : SettlementState} :
    PurePhase.act SettlementPhase.stageSettlementCommandPhase ctx s.resetFinalizeMarker =
        .ok () t ↔ s.staged ctx.frame.command = .ok t := by
  change SettlementPhase.run .stageSettlementCommandPhase ctx _ = _ ↔ _
  cases hcmd : ctx.frame.command with
  | hold =>
    simp only [SettlementPhase.run, hcmd, SettlementState.staged, estate_pure_ok, true_and,
      Except.ok.injEq]
  | setWorkerAllocation allocation =>
    simp only [SettlementPhase.run, hcmd, SettlementState.staged]
    cases s.resetFinalizeMarker.stageAllocation allocation <;> simp

/- The phases of the default schedule. -/
theorem settlement_acts {config : SettlementSimulationConfig}
    {ctx : TickContext SettlementCommand} {s t : SettlementState} :
    (DeterministicEngine.actAll ((defaultSettlementScheduler config).planOrder.map (·.phase)) ctx :
        EStateM EngineError SettlementState Unit) s = .ok () t ↔
      ∃ s1, s.staged ctx.frame.command = .ok s1 ∧
        t = (s1.simulated config).finalize ((s1.simulated config).markerOf ctx) := by
  rw [defaultSettlementScheduler_phases]
  simp only [DeterministicEngine.actAll, estate_bind_ok, estate_pure_ok]
  constructor
  · rintro ⟨_, s0, hreset, _, s1, hstage, _, s2, happly, _, s3, hproduce, _, s4, hconsume, _, s5,
      hresolve, _, s6, hfinalize, -, rfl⟩
    obtain rfl := estate_modify_ok.mp hreset
    obtain rfl := estate_modify_ok.mp happly
    obtain rfl := estate_modify_ok.mp hproduce
    obtain rfl := estate_modify_ok.mp hconsume
    obtain rfl := estate_modify_ok.mp hresolve
    exact ⟨s1, stageSettlementCommand_iff.mp hstage, estate_modify_ok.mp hfinalize⟩
  · rintro ⟨s1, hstage, rfl⟩
    exact ⟨(), _, rfl, (), s1, stageSettlementCommand_iff.mpr hstage, (), _, rfl, (), _, rfl, (), _,
      rfl, (), _, rfl, (), _, rfl, trivial, rfl⟩

/- Where the default schedule checks. -/
theorem settlement_checkpointAt (config : SettlementSimulationConfig) (policy : ValidationPolicy) :
    (∀ k ∈ [0, 2, 3, 4],
      checkpointAt policy (defaultSettlementScheduler config).phasePlan k = none) ∧
    ∀ k ∈ [(1, ValidationCheckpoint.afterInputApplied), (5, .afterSimulationGroup),
        (6, .afterFinalize)],
      checkpointAt policy (defaultSettlementScheduler config).phasePlan k.1 =
        if policy.shouldValidate k.2 then some k.2 else none := by
  rw [defaultSettlementScheduler_plan]
  constructor
  · simp [checkpointAt, checkpointAfter]
  · simp [checkpointAt, checkpointAfter, Option.filter_some]

/- A tick of the default schedule, with its checks where the policy has them. -/
theorem settlement_passes {config : SettlementSimulationConfig} {policy : ValidationPolicy}
    {v : SettlementStateValidator} {ctx : TickContext SettlementCommand}
    {s t : SettlementState} :
    Passes policy v (defaultSettlementScheduler config).phasePlan ctx 0
        ((defaultSettlementScheduler config).planOrder.map (·.phase)) s t ↔
      ∃ s1, s.staged ctx.frame.command = .ok s1 ∧
        (policy.shouldValidate .afterInputApplied = true →
          v.validate ⟨.afterInputApplied, ctx.tick, ctx.tickSeed⟩ s1 = .ok ()) ∧
        (policy.shouldValidate .afterSimulationGroup = true →
          v.validate ⟨.afterSimulationGroup, ctx.tick, ctx.tickSeed⟩ (s1.simulated config) =
            .ok ()) ∧
        v.validate ⟨.afterFinalize, ctx.tick, ctx.tickSeed⟩ t = .ok () ∧
        t = (s1.simulated config).finalize ((s1.simulated config).markerOf ctx) := by
  obtain ⟨hquiet, hchecked⟩ := settlement_checkpointAt config policy
  have hskip : ∀ k ∈ [0, 2, 3, 4], ∀ r : SettlementState, PassesAt policy v
      (defaultSettlementScheduler config).phasePlan ctx k r :=
    fun k hk r => (passesAt_none (hquiet k hk)).mpr trivial
  have hcheck : ∀ k ∈ [(1, ValidationCheckpoint.afterInputApplied), (5, .afterSimulationGroup),
      (6, .afterFinalize)], ∀ r : SettlementState, PassesAt policy v
        (defaultSettlementScheduler config).phasePlan ctx k.1 r ↔
          (policy.shouldValidate k.2 = true → v.validate ⟨k.2, ctx.tick, ctx.tickSeed⟩ r = .ok ()) :=
    fun k hk r => passesAt_some (hchecked k hk)
  have hinput := hcheck (1, .afterInputApplied) (by simp)
  have hsimulation := hcheck (5, .afterSimulationGroup) (by simp)
  have hfinal := hcheck (6, .afterFinalize) (by simp)
  rw [defaultSettlementScheduler_phases]
  constructor
  · rintro ⟨s0, hreset, -, s1, hstage, hp1, s2, happly, -, s3, hproduce, -, s4, hconsume, -, s5,
      hresolve, hp5, s6, hfinalize, hp6, rfl⟩
    obtain rfl := estate_modify_ok.mp hreset
    obtain rfl := estate_modify_ok.mp happly
    obtain rfl := estate_modify_ok.mp hproduce
    obtain rfl := estate_modify_ok.mp hconsume
    obtain rfl := estate_modify_ok.mp hresolve
    obtain rfl := estate_modify_ok.mp hfinalize
    exact ⟨s1, stageSettlementCommand_iff.mp hstage, (hinput s1).mp hp1, (hsimulation _).mp hp5,
      (hfinal _).mp hp6 (shouldValidate_afterFinalize policy), rfl⟩
  · rintro ⟨s1, hstage, hp1, hp5, hp6, rfl⟩
    exact ⟨_, rfl, hskip 0 (by simp) _, s1, stageSettlementCommand_iff.mpr hstage,
      (hinput s1).mpr hp1, _, rfl, hskip 2 (by simp) _, _, rfl, hskip 3 (by simp) _, _, rfl,
      hskip 4 (by simp) _, _, rfl, (hsimulation _).mpr hp5, _, rfl,
      (hfinal _).mpr fun _ => hp6, rfl⟩

/- The last checkpoint of a tick makes the snapshot of its state a valid one. -/
theorem settlement_tickStep {e : SettlementEngine} {config : SettlementSimulationConfig}
    (he : e.scheduler = defaultSettlementScheduler config) {s s' : SettlementState}
    {frame : InputFrame SettlementCommand}
    {record : ReplayTickRecord SettlementCommand SettlementSnapshot}
    (h : e.tickStep s frame = .ok (s', record)) : s'.snapshot.validate = .ok () := by
  have hs : e.scheduler.Ordered := he ▸ defaultSettlementScheduler_ordered config
  obtain ⟨t, -, rfl, hval⟩ := DeterministicEngine.tickStep_acts hs h
  rw [he, defaultSettlementScheduler_plan] at hval
  have hlast : e.validator.validate _ t = .ok () :=
    hval 6 .afterFinalize rfl (by cases e.validationPolicy <;> rfl)
  obtain ⟨-, hsane, -, hcleared, -⟩ := settlement_validate_eq_ok.mp hlast
  show t.snapshot.validate = .ok ()
  exact sane_snapshot_valid hsane hcleared

end XenorEngine.Rust
