import XenorEngine.Rust.Counter
import XenorEngine.Rust.TickOutcome

/-!
# What the counter validator accepts

The validator's checks as a predicate, and a tick of the default schedule as the
staging of its command and the rest. The limits are all that a tick within them can
break, and the limit of the delta is looked at within a tick only.
-/

namespace XenorEngine.Rust
open XenorEngine.Lib.Fallible XenorEngine.Lib.Runs

namespace CounterState

/-- The limits on what a tick leaves behind. -/
structure WithinLimits (config : CounterSimulationConfig) (s : CounterState) : Prop where
  value : (s.value.toInt.natAbs : ℤ) ≤ config.maxAbsValue.toInt
  velocity : (s.velocity.toInt.natAbs : ℤ) ≤ config.maxAbsVelocity.toInt

/-- The limit on what is staged. -/
def PendingWithin (config : CounterSimulationConfig) (s : CounterState) : Prop :=
  (s.transient.pendingDelta.toInt.natAbs : ℤ) ≤ config.maxAbsPendingDelta.toInt

structure StoreOrdered (s : CounterState) : Prop where
  first : s.entityOrder.head? = some s.primaryEntity
  fresh : ∀ id ∈ s.entityOrder, id.id < s.nextEntityId

def Cleared (s : CounterState) : Prop := s.transient = ⟨0, 0⟩

def Marked (s : CounterState) : Prop := MarkerFor s.tick s.finalizeMarker

/-- The checks that only one checkpoint makes. -/
def AtCheckpoint (seed : Seed) (context : ValidationContext) (s : CounterState) : Prop :=
  match context.checkpoint with
  | .beforeTickBegin => s.Cleared ∧ s.Marked
  | .afterInputApplied => s.finalizeMarker = 0
  | .afterSimulationGroup => s.finalizeMarker = 0
  | .afterFinalize => s.Cleared ∧ s.finalizeMarker = s.previewFinalizeMarker seed context.tick

end CounterState

/-! ### The validator -/

section Validator
open CounterStateValidator CounterState
variable {v : CounterStateValidator} {context : ValidationContext} {s : CounterState}

theorem expectWithinLimit_eq_ok {label : String} {value limit : Int64} :
    expectWithinLimit context label value limit = .ok () ↔
      (value.toInt.natAbs : ℤ) ≤ limit.toInt := by
  simp only [expectWithinLimit, rejectIf_eq_ok, gt_iff_lt, not_lt]

theorem expectLimits_eq_ok : v.expectLimits context s = .ok () ↔
    s.WithinLimits v.config ∧ s.PendingWithin v.config := by
  simp only [expectLimits, check_bind_eq_ok, expectWithinLimit_eq_ok, PendingWithin]
  constructor
  · rintro ⟨hvalue, hvelocity, hpending⟩
    exact ⟨⟨hvalue, hvelocity⟩, hpending⟩
  · rintro ⟨⟨hvalue, hvelocity⟩, hpending⟩
    exact ⟨hvalue, hvelocity, hpending⟩

theorem counter_expectPendingCleared_eq_ok :
    CounterStateValidator.expectPendingCleared context s = .ok () ↔ s.Cleared := by
  simp only [CounterStateValidator.expectPendingCleared, check_bind_eq_ok, rejectIf_eq_ok,
    ne_eq, not_not, Cleared]
  constructor
  · rintro ⟨hdelta, hentropy⟩
    cases htransient : s.transient with
    | mk delta entropy =>
      rw [htransient] at hdelta hentropy
      simp only at hdelta hentropy
      rw [hdelta, hentropy]
  · intro h
    rw [h]
    exact ⟨rfl, rfl⟩

theorem expectEntityStore_eq_ok : expectEntityStore context s = .ok () ↔ s.StoreOrdered := by
  have hsome : (s.entitySnapshot s.primaryEntity).isNone = false := by
    obtain ⟨entity, hget⟩ := Option.isSome_iff_exists.mp
      ((s.stored s.primaryEntity).mp s.primary_stored)
    rw [entitySnapshot, hget]
    rfl
  have hcount : s.entityCount ≠ 0 := List.length_pos_iff.mpr
    (List.ne_nil_of_mem s.primary_stored) |>.ne'
  simp only [expectEntityStore, check_bind_eq_ok, rejectIf_eq_ok, hsome, hcount,
    Bool.false_eq_true, not_false_eq_true, true_and, ne_eq, not_not, UInt64.not_le,
    CounterSnapshot.foldl_max_lt, List.forall_mem_map]
  constructor
  · rintro ⟨hfirst, -, hfresh⟩
    exact ⟨hfirst, hfresh⟩
  · rintro ⟨hfirst, hfresh⟩
    have hlt := hfresh s.primaryEntity s.primary_stored
    refine ⟨hfirst, ?_, hfresh⟩
    rw [UInt64.lt_iff_toNat_lt] at hlt ⊢
    exact Nat.lt_of_le_of_lt (Nat.zero_le _) hlt

theorem counter_validate_eq_ok : v.validate context s = .ok () ↔
    s.tick = saturatingSubU64 context.tick 1 ∧ (s.WithinLimits v.config ∧ s.PendingWithin v.config) ∧
      s.StoreOrdered ∧ s.AtCheckpoint v.seed context := by
  have hcheckpoint : (match context.checkpoint with
      | .beforeTickBegin => do
        CounterStateValidator.expectPendingCleared context s
        expectPreviousMarker context s.tick s.finalizeMarker
      | .afterInputApplied => expectMarkerZero context s.finalizeMarker
      | .afterSimulationGroup => expectMarkerZero context s.finalizeMarker
      | .afterFinalize => do
        CounterStateValidator.expectPendingCleared context s
        expectCurrentMarker context (s.previewFinalizeMarker v.seed context.tick)
          s.finalizeMarker) = .ok () ↔ s.AtCheckpoint v.seed context := by
    unfold AtCheckpoint
    cases context.checkpoint with
    | beforeTickBegin =>
      simp only [check_bind_eq_ok, counter_expectPendingCleared_eq_ok, expectPreviousMarker_eq_ok,
        Marked]
    | afterInputApplied => exact expectMarkerZero_eq_ok
    | afterSimulationGroup => exact expectMarkerZero_eq_ok
    | afterFinalize =>
      simp only [check_bind_eq_ok, counter_expectPendingCleared_eq_ok, expectCurrentMarker_eq_ok]
  simp only [CounterStateValidator.validate, check_bind_eq_ok, expectTickAlignment_eq_ok,
    expectLimits_eq_ok, expectEntityStore_eq_ok]
  exact and_congr_right fun _ => and_congr_right fun _ => and_congr_right fun _ => hcheckpoint

end Validator

/-! ### A tick in two steps -/

namespace CounterState

def entropyOf (ctx : TickContext CounterCommand) : UInt64 :=
  if ctx.frame.command.consumeEntropy then
    (ctx.rngFor CounterPhase.applyCounterInputPhase.name).nextU64.1 &&& 0xff
  else 0

/-- The groups before the simulation. -/
def staged (s : CounterState) (ctx : TickContext CounterCommand) : CounterState :=
  s.resetFinalizeMarker.stageInput ctx.frame.command.delta (entropyOf ctx)

/-- The marker the last phase writes. -/
def markerOf (s : CounterState) (ctx : TickContext CounterCommand) : UInt64 :=
  mix64 (ctx.tickSeed ^^^ SimulationState.checksum s ^^^ ctx.tick)

end CounterState

theorem defaultCounterScheduler_phases : defaultCounterScheduler.planOrder.map (·.phase) =
    [.resetFinalizeMarkerPhase, .applyCounterInputPhase, .simulateCounterPhase,
      .settleCounterPhase, .finalizeCounterPhase] := by
  rw [FixedScheduler.planOrder_eq defaultCounterScheduler_ordered]
  rfl

/- Where the default schedule checks. -/
theorem counter_checkpointAt (policy : ValidationPolicy) :
    (∀ k ∈ [0, 3], checkpointAt policy defaultCounterScheduler.phasePlan k = none) ∧
    ∀ k ∈ [(1, ValidationCheckpoint.afterInputApplied), (2, .afterSimulationGroup),
        (4, .afterFinalize)],
      checkpointAt policy defaultCounterScheduler.phasePlan k.1 =
        if policy.shouldValidate k.2 then some k.2 else none := by
  rw [defaultCounterScheduler_plan]
  constructor
  · simp [checkpointAt, checkpointAfter]
  · simp [checkpointAt, checkpointAfter, Option.filter_some]

/- A tick of the default schedule, with its checks where the policy has them. -/
theorem counter_passes {policy : ValidationPolicy} {v : CounterStateValidator}
    {ctx : TickContext CounterCommand} {s t : CounterState} :
    Passes policy v defaultCounterScheduler.phasePlan ctx 0
        (defaultCounterScheduler.planOrder.map (·.phase)) s t ↔
      (policy.shouldValidate .afterInputApplied = true →
        v.validate ⟨.afterInputApplied, ctx.tick, ctx.tickSeed⟩ (s.staged ctx) = .ok ()) ∧
      (policy.shouldValidate .afterSimulationGroup = true →
        v.validate ⟨.afterSimulationGroup, ctx.tick, ctx.tickSeed⟩ (s.staged ctx).simulate =
          .ok ()) ∧
      v.validate ⟨.afterFinalize, ctx.tick, ctx.tickSeed⟩ t = .ok () ∧
      t = (s.staged ctx).simulate.settle.finalize ((s.staged ctx).simulate.settle.markerOf ctx) := by
  obtain ⟨hquiet, hchecked⟩ := counter_checkpointAt policy
  have hskip : ∀ k ∈ [0, 3], ∀ r : CounterState, PassesAt policy v
      defaultCounterScheduler.phasePlan ctx k r :=
    fun k hk r => (passesAt_none (hquiet k hk)).mpr trivial
  have hcheck : ∀ k ∈ [(1, ValidationCheckpoint.afterInputApplied), (2, .afterSimulationGroup),
      (4, .afterFinalize)], ∀ r : CounterState, PassesAt policy v
        defaultCounterScheduler.phasePlan ctx k.1 r ↔
          (policy.shouldValidate k.2 = true → v.validate ⟨k.2, ctx.tick, ctx.tickSeed⟩ r = .ok ()) :=
    fun k hk r => passesAt_some (hchecked k hk)
  have hinput := hcheck (1, .afterInputApplied) (by simp)
  have hsimulation := hcheck (2, .afterSimulationGroup) (by simp)
  have hfinal := hcheck (4, .afterFinalize) (by simp)
  rw [defaultCounterScheduler_phases]
  constructor
  · rintro ⟨s0, hreset, -, s1, hstage, hp1, s2, hsimulate, hp2, s3, hsettle, -, s4, hfinalize, hp4,
      rfl⟩
    obtain rfl := estate_modify_ok.mp hreset
    obtain rfl := estate_modify_ok.mp hstage
    obtain rfl := estate_modify_ok.mp hsimulate
    obtain rfl := estate_modify_ok.mp hsettle
    obtain rfl := estate_modify_ok.mp hfinalize
    exact ⟨(hinput _).mp hp1, (hsimulation _).mp hp2,
      (hfinal _).mp hp4 (shouldValidate_afterFinalize policy), rfl⟩
  · rintro ⟨hp1, hp2, hp4, rfl⟩
    exact ⟨_, rfl, hskip 0 (by simp) _, _, rfl, (hinput _).mpr hp1, _, rfl, (hsimulation _).mpr hp2,
      _, rfl, hskip 3 (by simp) _, _, rfl, (hfinal _).mpr fun _ => hp4, rfl⟩

end XenorEngine.Rust
