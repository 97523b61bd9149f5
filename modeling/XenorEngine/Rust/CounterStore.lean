import XenorEngine.Rust.CounterGuarantees

/-!
# Counter runs: the entity store

The order list and the map describe the same entities, the ids count up from 1, a
tick writes to the primary entity only, and what it drew is added to the budget
when the transient fields are cleared.
-/

namespace XenorEngine.Rust
open XenorEngine.Lib.Fallible XenorEngine.Lib.Runs
open DeterministicEngine

namespace CounterState

/-- The low byte of the first draw from the stream of `apply_counter_input` at a tick. -/
def drawnByte (seed : Seed) (tick : Tick) : UInt64 :=
  (SplitMix64.fromSeed (forkSeed (tickSeed seed tick) "apply_counter_input")).nextU64.1 &&& 0xff

def entropyDrawn (seed : Seed) (frames : List (InputFrame CounterCommand)) : UInt64 :=
  ((frames.filter (·.command.consumeEntropy)).map fun frame =>
    drawnByte seed frame.tick).foldl (· + ·) 0

theorem entropyDrawn_snoc (seed : Seed) (frames : List (InputFrame CounterCommand))
    (frame : InputFrame CounterCommand) :
    entropyDrawn seed (frames ++ [frame]) = entropyDrawn seed frames +
      entropyOf ⟨seed, tickSeed seed frame.tick, frame.tick, frame⟩ := by
  unfold entropyDrawn entropyOf
  rw [List.filter_append, List.map_append, List.foldl_append]
  cases hconsume : frame.command.consumeEntropy with
  | true =>
    simp only [List.filter_cons, List.filter_nil, hconsume, if_true, List.map_cons, List.map_nil,
      List.foldl_cons, List.foldl_nil]
    rfl
  | false =>
    simp only [List.filter_cons, List.filter_nil, hconsume, Bool.false_eq_true, if_false,
      List.map_nil, List.foldl_nil, UInt64.add_zero]

/-- What the store is after these ticks. -/
structure StoreHolds (config : CounterSimulationConfig) (seed : Seed)
    (frames : List (InputFrame CounterCommand)) (s : CounterState) : Prop where
  counted : s.Counted (config.initialEntities.length + 1)
  others : ∀ i init, config.initialEntities[i]? = some init →
    s.entities.get ⟨UInt64.ofNat (i + 2)⟩ = some (.fromInit init)
  cleared : s.Cleared
  budget : s.entropyBudget = entropyDrawn seed frames

theorem storeHolds_initial (config : CounterSimulationConfig) (seed : Seed)
    (hlen : config.initialEntities.length < 2 ^ 64 - 2) :
    StoreHolds config seed [] (withInitialEntities config.initialValue config.initialVelocity
      config.initialEntities) := by
  have hkept : ∀ (extras : List CounterEntityInit) (s : CounterState),
      (extras.foldl spawnEntity s).transient = s.transient ∧
        (extras.foldl spawnEntity s).entropyBudget = s.entropyBudget := by
    intro extras
    induction extras with
    | nil => exact fun _ => ⟨rfl, rfl⟩
    | cons init extras ih => exact fun s => ih (s.spawnEntity init)
  refine ⟨withInitialEntities_counted _ _ _, ?_, (hkept _ _).1, (hkept _ _).2⟩
  intro i init hi
  have hspawned : ∀ s : CounterState, s.Counted 1 →
      (config.initialEntities.foldl spawnEntity s).entities.get ⟨UInt64.ofNat (i + 2)⟩ =
        some (.fromInit init) := by
    intro s hs
    rw [Nat.add_comm i 2]
    exact (spawnEntities_get hs (by omega)).2 i init hi
  exact hspawned _ ⟨rfl, rfl, rfl, Nat.one_pos⟩

/- A tick writes to the primary entity, and to no other. -/
theorem settled_get (s : CounterState) (seed : Seed) (frame : InputFrame CounterCommand)
    {id : EntityId} (hid : id ≠ s.primaryEntity) :
    (s.settled seed frame).entities.get id = s.entities.get id := by
  show (s.entities.insert s.primaryEntity _).get id = _
  rw [DeterministicMap.get_insert, if_neg hid]

theorem simulated_same (s : CounterState) (seed : Seed) (frame : InputFrame CounterCommand) :
    s.SameEntities (s.simulated seed frame) := by
  have hstaged : (s.staged ⟨seed, tickSeed seed frame.tick, frame.tick, frame⟩).SameEntities
      (s.simulated seed frame) := ⟨rfl, rfl, rfl⟩
  exact ⟨hstaged.order, hstaged.next, hstaged.primary⟩

theorem settled_same (s : CounterState) (seed : Seed) (frame : InputFrame CounterCommand) :
    s.SameEntities (s.settled seed frame) := by
  have hsimulated := s.simulated_same seed frame
  exact ⟨hsimulated.order, hsimulated.next, hsimulated.primary⟩

theorem settled_budget {s : CounterState} (h : s.Cleared) (seed : Seed)
    (frame : InputFrame CounterCommand) :
    (s.settled seed frame).entropyBudget = s.entropyBudget +
      entropyOf ⟨seed, tickSeed seed frame.tick, frame.tick, frame⟩ := by
  have htransient := staged_transient h ⟨seed, tickSeed seed frame.tick, frame.tick, frame⟩
  show s.entropyBudget + (s.staged _).transient.pendingEntropy = _
  rw [htransient]

theorem settled_storeHolds {config : CounterSimulationConfig} {seed : Seed}
    {frames : List (InputFrame CounterCommand)} {s : CounterState}
    (hlen : config.initialEntities.length < 2 ^ 64 - 2) (h : StoreHolds config seed frames s)
    (frame : InputFrame CounterCommand) :
    StoreHolds config seed (frames ++ [frame]) (s.settled seed frame) := by
  refine ⟨counted_of_same h.counted (s.settled_same seed frame), ?_, rfl, ?_⟩
  · intro i init hi
    have hbound := (List.getElem?_eq_some_iff.mp hi).1
    have hprimary : s.primaryEntity = ⟨UInt64.ofNat 1⟩ := h.counted.primary
    rw [settled_get]
    · exact h.others i init hi
    · rw [hprimary]
      exact entityId_ne (by omega) (by omega) (by omega)
  · rw [settled_budget h.cleared, h.budget, entropyDrawn_snoc]

/- A store whose ids have not wrapped makes a valid snapshot. -/
theorem counted_snapshot_valid {n : ℕ} {s : CounterState} (h : s.Counted n)
    (hn : n < 2 ^ 64 - 1) : s.snapshot.Valid := by
  apply snapshot_valid h
  intro id hid
  rw [h.order] at hid
  obtain ⟨i, hi, rfl⟩ := List.mem_map.mp hid
  have hi := List.mem_range.mp hi
  rw [h.next, UInt64.lt_iff_toNat_lt, UInt64.toNat_ofNat_of_lt' (by omega : i + 1 < 2 ^ 64),
    UInt64.toNat_ofNat_of_lt' (by omega : n + 1 < 2 ^ 64)]
  omega

end CounterState

open CounterState

/- After any run of ticks that succeed. A `Vec` holds `isize::MAX` bytes at most, so the ids
of the initial entities do not wrap. -/
theorem counter_store_invariant {config : CounterSimulationConfig} {seed : Seed}
    {engine engine' : CounterEngine} {frames : List (InputFrame CounterCommand)}
    (hmemory : config.initialEntities.length ≤ ISIZE_MAX)
    (hengine : counterEngineWithConfig seed config = .ok engine)
    (hrun : tickAll frames engine = .ok () engine') :
    engine'.state.entityOrder.map (·.id.toNat) =
        List.range' 1 (config.initialEntities.length + 1) ∧
      engine'.state.primaryEntity.id = 1 ∧
      engine'.state.nextEntityId.toNat = config.initialEntities.length + 2 ∧
      engine'.state.snapshot.validate = .ok () ∧
      (∀ i init id, config.initialEntities[i]? = some init → id.id.toNat = i + 2 →
        engine'.state.entities.get id = some ⟨init.value, init.velocity⟩) ∧
      engine'.state.transient = ⟨0, 0⟩ ∧
      engine'.state.entropyBudget = entropyDrawn seed frames := by
  obtain ⟨hvalid, rfl⟩ := counterEngineWithConfig_eq_ok.mp hengine
  obtain ⟨s', records, hmachine, rfl⟩ :=
    (tickAll_refines defaultCounterScheduler_ordered rfl).mp hrun
  have hpending := counter_config_limits hvalid
  unfold ISIZE_MAX at hmemory
  have hinitial := storeHolds_initial config seed (by omega)
  have hholds : StoreHolds config seed frames s' := by
    refine run_holds (fun s done _ => StoreHolds config seed done s) ?_ hinitial hmachine
    intro s done _ frame t record hdone hstep
    obtain ⟨-, -, -, -, -, -, -, rfl⟩ := (counter_tickStep_iff hpending).mp ⟨record, hstep⟩
    exact settled_storeHolds (by omega) hdone frame
  obtain ⟨hcounted, hothers, hcleared, hbudget⟩ := hholds
  refine ⟨?_, ?_, ?_, ?_, ?_, hcleared, hbudget⟩
  · show s'.entityOrder.map _ = _
    rw [hcounted.order, List.map_map, List.range'_eq_map_range]
    apply List.map_congr_left
    intro i hi
    have hbound := List.mem_range.mp hi
    have hsmall : i + 1 < 2 ^ 64 := by omega
    rw [Function.comp_apply, UInt64.toNat_ofNat_of_lt' hsmall, Nat.add_comm]
  · exact congrArg EntityId.id hcounted.primary
  · have hsmall : config.initialEntities.length + 2 < 2 ^ 64 := by omega
    show s'.nextEntityId.toNat = _
    rw [hcounted.next, UInt64.toNat_ofNat_of_lt' hsmall]
  · exact CounterSnapshot.validate_eq_ok.mpr (counted_snapshot_valid hcounted (by omega))
  · intro i init id hi hid
    have hbound := (List.getElem?_eq_some_iff.mp hi).1
    have hsmall : i + 2 < 2 ^ 64 := by omega
    have hword : id = ⟨UInt64.ofNat (i + 2)⟩ := by
      cases id
      rw [EntityId.mk.injEq, ← UInt64.toNat_inj, UInt64.toNat_ofNat_of_lt' hsmall]
      exact hid
    rw [hword]
    exact hothers i init hi

/-- Two more entities, and ticks with and without entropy. -/
def threeEntitiesConfig : CounterSimulationConfig :=
  { CounterSimulationConfig.default with initialEntities := [⟨3, 1⟩, ⟨4, -1⟩] }

theorem counter_store_invariant_three : ∃ engine' : CounterEngine,
    tickAll [⟨1, ⟨5, true⟩⟩, ⟨2, ⟨-1, false⟩⟩] (buildCounterEngineInternal 7
        defaultCounterScheduler threeEntitiesConfig) = .ok () engine' ∧
      engine'.state.entityOrder.map (·.id.toNat) = [1, 2, 3] ∧
      engine'.state.entities.get ⟨3⟩ = some ⟨4, -1⟩ ∧
      engine'.state.entropyBudget = drawnByte 7 1 := by
  have hfine : (okState (tickAll [⟨1, ⟨5, true⟩⟩, ⟨2, ⟨-1, false⟩⟩] (buildCounterEngineInternal 7
      defaultCounterScheduler threeEntitiesConfig))).isSome = true := by decide +kernel
  obtain ⟨_, engine', hok⟩ := okState_isSome.mp hfine
  obtain ⟨horder, -, -, -, hothers, -, hbudget⟩ :=
    @counter_store_invariant threeEntitiesConfig 7 _ _ _ (by decide) rfl hok
  refine ⟨engine', hok, horder, hothers 1 ⟨4, -1⟩ ⟨3⟩ rfl rfl, ?_⟩
  rw [hbudget]
  exact UInt64.zero_add (drawnByte 7 1)

end XenorEngine.Rust
