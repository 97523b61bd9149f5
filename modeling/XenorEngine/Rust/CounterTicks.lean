import XenorEngine.Rust.CounterChecks

/-!
# What the phases make of a counter

The three saturating additions of a tick, and that the checks within it and after it
add only the limits to those before it.
-/

namespace XenorEngine.Rust
open XenorEngine.Lib.Fallible XenorEngine.Lib.Runs

namespace CounterState

theorem primaryEntityRef_modifyPrimary (s : CounterState) (f : CounterEntity → CounterEntity) :
    (s.modifyPrimary f).primaryEntityRef = f s.primaryEntityRef := by
  simp only [primaryEntityRef, modifyPrimary, DeterministicMap.get_insert, if_true,
    Option.get_some]

theorem get_primaryEntity (s : CounterState) :
    s.entities.get s.primaryEntity = some s.primaryEntityRef :=
  (Option.some_get _).symm

theorem spawnEntity_get (s : CounterState) (init : CounterEntityInit) (id : EntityId) :
    (s.spawnEntity init).entities.get id =
      if id = ⟨s.nextEntityId⟩ then some (.fromInit init) else s.entities.get id :=
  DeterministicMap.get_insert _ _ _ _

theorem entityId_ne {i j : ℕ} (hi : i < 2 ^ 64) (hj : j < 2 ^ 64) (hne : i ≠ j) :
    (⟨UInt64.ofNat i⟩ : EntityId) ≠ ⟨UInt64.ofNat j⟩ := by
  intro heq
  have hnat := congrArg (fun id : EntityId => id.id.toNat) heq
  simp only [UInt64.toNat_ofNat_of_lt' hi, UInt64.toNat_ofNat_of_lt' hj] at hnat
  exact hne hnat

/- The induction is on the entities still to spawn; the ids before them keep their entities. -/
theorem spawnEntities_get {n : ℕ} {s : CounterState} (h : s.Counted n)
    {extras : List CounterEntityInit} (hlen : n + extras.length < 2 ^ 64 - 1) :
    (∀ i ≤ n, (extras.foldl spawnEntity s).entities.get ⟨UInt64.ofNat i⟩ =
      s.entities.get ⟨UInt64.ofNat i⟩) ∧
    ∀ i init, extras[i]? = some init →
      (extras.foldl spawnEntity s).entities.get ⟨UInt64.ofNat (n + 1 + i)⟩ =
        some (.fromInit init) := by
  induction extras generalizing n s with
  | nil => exact ⟨fun _ _ => rfl, fun i init hi => by simp at hi⟩
  | cons first extras ih =>
    rw [List.length_cons] at hlen
    obtain ⟨hbefore, hafter⟩ := ih (spawnEntity_counted h first) (by omega)
    simp only [List.foldl_cons]
    constructor
    · intro i hi
      rw [hbefore i (by omega), spawnEntity_get, h.next]
      exact if_neg (entityId_ne (by omega) (by omega) (by omega))
    · intro i init hi
      cases i with
      | zero =>
        obtain rfl : first = init := by simpa using hi
        rw [Nat.add_zero, hbefore (n + 1) le_rfl, spawnEntity_get, h.next]
        exact if_pos rfl
      | succ i =>
        rw [Nat.add_comm i 1, ← Nat.add_assoc]
        exact hafter i init hi

/- The store of a new engine, as long as its ids have not wrapped: the first entity is
still the primary one. -/
theorem withInitialEntities_primary (value velocity : Int64)
    {extraEntities : List CounterEntityInit} (hlen : extraEntities.length + 1 < 2 ^ 64 - 1) :
    (withInitialEntities value velocity extraEntities).primaryEntityRef = ⟨value, velocity⟩ := by
  have hkept : ∀ s : CounterState, s.Counted 1 →
      (extraEntities.foldl spawnEntity s).entities.get ⟨UInt64.ofNat 1⟩ =
        s.entities.get ⟨UInt64.ofNat 1⟩ :=
    fun s hs => (spawnEntities_get hs (by omega)).1 1 le_rfl
  have hopened : (withInitialEntities value velocity extraEntities).entities.get ⟨1⟩ =
      some ⟨value, velocity⟩ := hkept _ ⟨rfl, rfl, rfl, Nat.one_pos⟩
  have hget := (withInitialEntities value velocity extraEntities).get_primaryEntity
  rw [(withInitialEntities_counted value velocity extraEntities).primary] at hget
  exact Option.some.inj (hget.symm.trans hopened)

/-- What the simulation adds to the value besides the velocity. -/
def impulseOf (entropy : UInt64) : Int64 := (entropy &&& 0xff).toInt64

theorem impulseOf_bounds (entropy : UInt64) :
    0 ≤ (impulseOf entropy).toInt ∧ (impulseOf entropy).toInt ≤ 255 := by
  have hle : (entropy &&& 0xff).toNat ≤ 255 := by
    rw [UInt64.toNat_and]
    exact Nat.and_le_right
  have hint : (impulseOf entropy).toInt = (entropy &&& 0xff).toNat :=
    BitVec.toInt_eq_toNat_of_lt (by
      change 2 * (entropy &&& 0xff).toNat < 2 ^ 64
      omega)
  rw [hint]
  omega

theorem simulate_velocity (s : CounterState) :
    s.simulate.velocity = saturatingAddI64 s.velocity s.transient.pendingDelta := by
  simp only [velocity, simulate, primaryEntityRef_modifyPrimary]

theorem simulate_value (s : CounterState) :
    s.simulate.value = saturatingAddI64 (saturatingAddI64 s.value s.simulate.velocity)
      (impulseOf s.transient.pendingEntropy) := by
  simp only [value, velocity, simulate, primaryEntityRef_modifyPrimary, impulseOf]

theorem staged_transient {s : CounterState} (h : s.Cleared) (ctx : TickContext CounterCommand) :
    (s.staged ctx).transient = ⟨ctx.frame.command.delta, entropyOf ctx⟩ := by
  have hdelta : saturatingAddI64 0 ctx.frame.command.delta = ctx.frame.command.delta := by
    have hlo := Int64.le_toInt ctx.frame.command.delta
    have hhi := Int64.toInt_lt ctx.frame.command.delta
    rw [← Int64.toInt_inj, saturatingAddI64, toInt_saturateI64, Int64.toInt_zero]
    omega
  have htransient : s.transient = ⟨0, 0⟩ := h
  simp only [staged, stageInput, resetFinalizeMarker, htransient, hdelta, UInt64.zero_add]

theorem staged_keeps (s : CounterState) (ctx : TickContext CounterCommand) :
    (s.staged ctx).tick = s.tick ∧ (s.staged ctx).finalizeMarker = 0 ∧
      ((s.staged ctx).StoreOrdered ↔ s.StoreOrdered) ∧
      ∀ config, (s.staged ctx).WithinLimits config ↔ s.WithinLimits config :=
  ⟨rfl, rfl, ⟨fun h => ⟨h.first, h.fresh⟩, fun h => ⟨h.first, h.fresh⟩⟩,
    fun _ => ⟨fun h => ⟨h.value, h.velocity⟩, fun h => ⟨h.value, h.velocity⟩⟩⟩

theorem simulate_keeps (s : CounterState) :
    s.simulate.tick = s.tick ∧ s.simulate.finalizeMarker = s.finalizeMarker ∧
      s.simulate.transient = s.transient ∧ (s.simulate.StoreOrdered ↔ s.StoreOrdered) :=
  ⟨rfl, rfl, rfl, ⟨fun h => ⟨h.first, h.fresh⟩, fun h => ⟨h.first, h.fresh⟩⟩⟩

theorem settle_keeps (s : CounterState) :
    s.settle.tick = s.tick ∧ s.settle.finalizeMarker = s.finalizeMarker ∧ s.settle.Cleared ∧
      (s.settle.StoreOrdered ↔ s.StoreOrdered) ∧
      ∀ config, s.settle.WithinLimits config ↔ s.WithinLimits config :=
  ⟨rfl, rfl, rfl, ⟨fun h => ⟨h.first, h.fresh⟩, fun h => ⟨h.first, h.fresh⟩⟩,
    fun _ => ⟨fun h => ⟨h.value, h.velocity⟩, fun h => ⟨h.value, h.velocity⟩⟩⟩

theorem finalize_keeps (s : CounterState) (marker : UInt64) :
    (s.finalize marker).tick = s.tick ∧ (s.finalize marker).finalizeMarker = marker ∧
      ((s.finalize marker).Cleared ↔ s.Cleared) ∧
      ((s.finalize marker).StoreOrdered ↔ s.StoreOrdered) ∧
      ∀ config, (s.finalize marker).WithinLimits config ↔ s.WithinLimits config :=
  ⟨rfl, rfl, Iff.rfl, ⟨fun h => ⟨h.first, h.fresh⟩, fun h => ⟨h.first, h.fresh⟩⟩,
    fun _ => ⟨fun h => ⟨h.value, h.velocity⟩, fun h => ⟨h.value, h.velocity⟩⟩⟩

theorem setTick_withinLimits (s : CounterState) (tick : Tick) (config : CounterSimulationConfig) :
    (SimulationState.setTick s tick : CounterState).WithinLimits config ↔ s.WithinLimits config :=
  ⟨fun h => ⟨h.value, h.velocity⟩, fun h => ⟨h.value, h.velocity⟩⟩

/- The validator finds the marker that the last phase wrote. -/
theorem finalize_marker (s : CounterState) (ctx : TickContext CounterCommand)
    (hseed : ctx.tickSeed = tickSeed ctx.baseSeed ctx.tick) (hmarker : s.finalizeMarker = 0) :
    (s.finalize (s.markerOf ctx)).previewFinalizeMarker ctx.baseSeed ctx.tick =
      s.markerOf ctx := by
  have hsnapshot : ∀ marker, { (s.finalize marker).snapshot with finalizeMarker := 0 } =
      s.snapshot := by
    intro marker
    simp only [snapshot, hmarker, finalize]
    rfl
  have hchecksum : SimulationState.checksum s =
      checksumWords (snapshotChecksumWords s.snapshot) := rfl
  simp only [previewFinalizeMarker, hsnapshot, markerOf, hseed, hchecksum]

theorem pendingWithin_of_cleared {config : CounterSimulationConfig} {s : CounterState}
    (hpending : 0 ≤ config.maxAbsPendingDelta.toInt) (h : s.Cleared) : s.PendingWithin config := by
  have htransient : s.transient = ⟨0, 0⟩ := h
  rw [PendingWithin, htransient]
  exact hpending

/-- The state when all phases but the last are done. -/
def simulated (s : CounterState) (seed : Seed) (frame : InputFrame CounterCommand) :
    CounterState :=
  (s.staged ⟨seed, tickSeed seed frame.tick, frame.tick, frame⟩).simulate.settle

/-- Where a tick leads. -/
def settled (s : CounterState) (seed : Seed) (frame : InputFrame CounterCommand) : CounterState :=
  SimulationState.setTick ((s.simulated seed frame).finalize ((s.simulated seed frame).markerOf
    ⟨seed, tickSeed seed frame.tick, frame.tick, frame⟩)) frame.tick

end CounterState

open CounterState

section Tick
variable {config : CounterSimulationConfig} {seed : Seed} {s s' : CounterState}
  {frame : InputFrame CounterCommand}

theorem counter_tickStep_passes :
    (∃ record, (buildCounterEngineInternal seed defaultCounterScheduler config).tickStep s frame =
        .ok (s', record)) ↔
      frame.tick = saturatingAddU64 s.tick 1 ∧
        CounterStateValidator.validate ⟨seed, config⟩
          ⟨.beforeTickBegin, frame.tick, tickSeed seed frame.tick⟩ s = .ok () ∧
        ∃ t, Passes config.validationPolicy (⟨seed, config⟩ : CounterStateValidator)
          defaultCounterScheduler.phasePlan
          ⟨seed, tickSeed seed frame.tick, frame.tick, frame⟩ 0
          (defaultCounterScheduler.planOrder.map (·.phase)) s t ∧
          s' = SimulationState.setTick t frame.tick :=
  DeterministicEngine.tickStep_ok_iff
    (e := buildCounterEngineInternal seed defaultCounterScheduler config)
    defaultCounterScheduler_ordered

/- When a tick goes through. The checks within it see the delta, which those before and
after it do not. -/
theorem counter_tickStep_iff (hpending : 0 ≤ config.maxAbsPendingDelta.toInt) :
    (∃ record, (buildCounterEngineInternal seed defaultCounterScheduler config).tickStep s frame =
        .ok (s', record)) ↔
      frame.tick.toNat = s.tick.toNat + 1 ∧ s.WithinLimits config ∧ s.StoreOrdered ∧ s.Cleared ∧
        s.Marked ∧ (config.validationPolicy = .everyPhase →
          (frame.command.delta.toInt.natAbs : ℤ) ≤ config.maxAbsPendingDelta.toInt) ∧
        s'.WithinLimits config ∧ s' = s.settled seed frame := by
  rw [counter_tickStep_passes]
  generalize hctx : (⟨seed, tickSeed seed frame.tick, frame.tick, frame⟩ :
    TickContext CounterCommand) = ctx
  constructor
  · rintro ⟨hexp, hbefore, t, hpasses, rfl⟩
    obtain ⟨htick, ⟨hlimits, -⟩, hstore, hcleared, hmarked⟩ := counter_validate_eq_ok.mp hbefore
    obtain ⟨hinput, -, hfinal, ht⟩ := counter_passes.mp hpasses
    obtain ⟨-, ⟨hlimits', -⟩, -, -⟩ := counter_validate_eq_ok.mp hfinal
    refine ⟨expected_tick_iff.mp ⟨hexp, htick⟩, hlimits, hstore, hcleared, hmarked, ?_,
      (setTick_withinLimits t frame.tick config).mpr hlimits', ?_⟩
    · intro hpolicy
      obtain ⟨-, ⟨-, hdelta⟩, -⟩ := counter_validate_eq_ok.mp (hinput (by rw [hpolicy]; rfl))
      rw [PendingWithin, staged_transient hcleared, ← hctx] at hdelta
      exact hdelta
    · rw [ht, settled, simulated, hctx]
  · rintro ⟨hnext, hlimits, hstore, hcleared, hmarked, hdelta, hlimits', rfl⟩
    obtain ⟨hexp, htick⟩ := expected_tick_iff.mpr hnext
    have hzero := pendingWithin_of_cleared hpending hcleared
    have hstaged : (s.staged ctx).PendingWithin config ↔
        (frame.command.delta.toInt.natAbs : ℤ) ≤ config.maxAbsPendingDelta.toInt := by
      rw [PendingWithin, staged_transient hcleared, ← hctx]
    obtain ⟨htick1, hmarker1, hstore1, hlimits1⟩ := s.staged_keeps ctx
    obtain ⟨htick2, hmarker2, htransient2, hstore2⟩ := (s.staged ctx).simulate_keeps
    obtain ⟨htick3, hmarker3, hcleared3, hstore3, hlimits3⟩ := (s.staged ctx).simulate.settle_keeps
    obtain ⟨htick4, hmarker4, hcleared4, hstore4, hlimits4⟩ :=
      (s.staged ctx).simulate.settle.finalize_keeps ((s.staged ctx).simulate.settle.markerOf ctx)
    rw [settled, setTick_withinLimits, simulated, hctx, hlimits4, hlimits3] at hlimits'
    have halign : s.tick = saturatingSubU64 ctx.tick 1 := by
      rw [← hctx]
      exact htick
    have hevery : config.validationPolicy.shouldValidate .afterInputApplied = true →
        config.validationPolicy = .everyPhase := by
      cases config.validationPolicy <;> simp [ValidationPolicy.shouldValidate]
    have hsim : config.validationPolicy.shouldValidate .afterSimulationGroup = true →
        config.validationPolicy = .everyPhase := by
      cases config.validationPolicy <;> simp [ValidationPolicy.shouldValidate]
    have hmark := (s.staged ctx).simulate.settle.finalize_marker ctx (by rw [← hctx])
      (hmarker3.trans (hmarker2.trans hmarker1))
    have hbase : ctx.baseSeed = seed := by rw [← hctx]
    rw [hbase] at hmark
    refine ⟨hexp, counter_validate_eq_ok.mpr ⟨htick, ⟨hlimits, hzero⟩, hstore, hcleared, hmarked⟩,
      _, counter_passes.mpr ⟨fun hon => counter_validate_eq_ok.mpr ?_,
        fun hon => counter_validate_eq_ok.mpr ?_, counter_validate_eq_ok.mpr ?_, rfl⟩, ?_⟩
    · exact ⟨halign, ⟨(hlimits1 config).mpr hlimits, hstaged.mpr (hdelta (hevery hon))⟩,
        hstore1.mpr hstore, hmarker1⟩
    · refine ⟨halign, ⟨hlimits', ?_⟩, hstore2.mpr (hstore1.mpr hstore), hmarker2.trans hmarker1⟩
      rw [PendingWithin, htransient2]
      exact hstaged.mpr (hdelta (hsim hon))
    · exact ⟨halign, ⟨(hlimits4 config).mpr ((hlimits3 config).mpr hlimits'),
          pendingWithin_of_cleared hpending (hcleared4.mpr hcleared3)⟩,
        hstore4.mpr (hstore3.mpr (hstore2.mpr (hstore1.mpr hstore))), hcleared4.mpr hcleared3,
        hmarker4.trans hmark.symm⟩
    · rw [settled, simulated, hctx]

end Tick

end XenorEngine.Rust
