import XenorEngine.Rust.SettlementTicks

/-!
# Food and wood do not interfere

Two runs side by side. Seen from one resource, a state is its figures for that
resource, the workers that make it and the population; no phase reads anything else
to write these, so runs that agree on them keep agreeing.
-/

namespace XenorEngine.Rust
open XenorEngine.Lib.Fallible XenorEngine.Lib.Runs

def workersOf (r : ResourceKind) (allocation : WorkerAllocation) : UInt32 :=
  match r with
  | .food => allocation.farmers
  | .wood => allocation.loggers

/-- Configurations that differ only in the settings of the other resource. -/
def ConfigsAgree (r : ResourceKind) (c c' : SettlementSimulationConfig) : Prop :=
  match r with
  | .food => c' = { c with
      initialWood := c'.initialWood
      woodPerLogger := c'.woodPerLogger
      woodConsumptionPerTick := c'.woodConsumptionPerTick
      initialAllocation := ⟨c.initialAllocation.farmers, c'.initialAllocation.loggers⟩ }
  | .wood => c' = { c with
      initialFood := c'.initialFood
      foodPerFarmer := c'.foodPerFarmer
      foodConsumptionPerWorker := c'.foodConsumptionPerWorker
      initialAllocation := ⟨c'.initialAllocation.farmers, c.initialAllocation.loggers⟩ }

/-- Commands that differ only in the workers of the other resource. -/
inductive CommandsAgree (r : ResourceKind) : SettlementCommand → SettlementCommand → Prop
  | hold : CommandsAgree r .hold .hold
  | setWorkerAllocation {allocation allocation' : WorkerAllocation}
      (h : workersOf r allocation = workersOf r allocation') :
      CommandsAgree r (.setWorkerAllocation allocation) (.setWorkerAllocation allocation')

/-- All that a state records of one resource. -/
structure ResourceFigures where
  inventory : Int64
  lastProduction : Int64
  lastConsumption : Int64
  lastShortage : Int64
  cumulativeProduction : Int64
  cumulativeConsumption : Int64
  cumulativeShortage : Int64
  deriving DecidableEq, Repr

namespace ResourceFigures

def fill (f : ResourceFigures) (amount : Int64) : ResourceFigures :=
  { f with
    inventory := saturatingAddI64 f.inventory amount
    lastProduction := amount
    cumulativeProduction := saturatingAddI64 f.cumulativeProduction amount }

def draw (f : ResourceFigures) (required : Int64) : ResourceFigures :=
  let used := if f.inventory ≤ required then f.inventory else required
  let missing := saturatingSubI64 required used
  { f with
    inventory := saturatingSubI64 f.inventory used
    lastConsumption := used
    lastShortage := missing
    cumulativeConsumption := saturatingAddI64 f.cumulativeConsumption used
    cumulativeShortage := saturatingAddI64 f.cumulativeShortage missing }

end ResourceFigures

namespace SettlementState

def figures (s : SettlementState) (r : ResourceKind) : ResourceFigures where
  inventory := s.inventory r
  lastProduction := s.lastProduction r
  lastConsumption := s.lastConsumption r
  lastShortage := s.lastShortage r
  cumulativeProduction := s.cumulativeProduction r
  cumulativeConsumption := s.cumulativeConsumption r
  cumulativeShortage := s.cumulativeShortage r

/- The two phases that write figures do the same to both resources. -/
theorem figures_produce (s : SettlementState) (config : SettlementSimulationConfig)
    (r : ResourceKind) :
    (s.produce config).figures r = (s.figures r).fill (s.produced config r) := by
  cases r <;> rfl

theorem figures_consume (s : SettlementState) (config : SettlementSimulationConfig)
    (r : ResourceKind) :
    (s.consume config).figures r = (s.figures r).draw (required s.population config r) := by
  cases r <;> rfl

/-- The invariant of two runs: besides the figures, all that later figures are made of. -/
structure Alike (r : ResourceKind) (s s' : SettlementState) : Prop where
  figures : s.figures r = s'.figures r
  population : s.population = s'.population
  workers : workersOf r s.currentAllocation = workersOf r s'.currentAllocation
  present : s.pendingAllocationPresent = s'.pendingAllocationPresent
  pending : workersOf r s.pendingAllocation = workersOf r s'.pendingAllocation

section Phases
variable {r : ResourceKind} {s s' : SettlementState} {config config' : SettlementSimulationConfig}

theorem Alike.staged {s1 s1' : SettlementState} {command command' : SettlementCommand}
    (h : Alike r s s') (hcommands : CommandsAgree r command command')
    (hs : s.staged command = .ok s1) (hs' : s'.staged command' = .ok s1') : Alike r s1 s1' := by
  cases hcommands with
  | hold =>
    obtain rfl := Except.ok.inj hs
    obtain rfl := Except.ok.inj hs'
    exact ⟨h.figures, h.population, h.workers, h.present, h.pending⟩
  | setWorkerAllocation hworkers =>
    obtain rfl := stageAllocation_ok hs
    obtain rfl := stageAllocation_ok hs'
    exact ⟨h.figures, h.population, h.workers, rfl, hworkers⟩

theorem Alike.applyPendingAllocation (h : Alike r s s') :
    Alike r s.applyPendingAllocation s'.applyPendingAllocation := by
  unfold SettlementState.applyPendingAllocation
  rw [← h.present]
  split
  · exact ⟨h.figures, h.population, h.pending, rfl, rfl⟩
  · exact h

/- A resource is made by its own workers, each at its own rate. -/
theorem Alike.produced (h : Alike r s s') (hconfigs : ConfigsAgree r config config') :
    s.produced config r = s'.produced config' r := by
  have hworkers := h.workers
  cases r with
  | food =>
    rw [hconfigs]
    exact congrArg (fun n => saturatingMulI64 (i64OfU32 n) config.foodPerFarmer) hworkers
  | wood =>
    rw [hconfigs]
    exact congrArg (fun n => saturatingMulI64 (i64OfU32 n) config.woodPerLogger) hworkers

theorem required_agrees (population : UInt32) (hconfigs : ConfigsAgree r config config') :
    required population config r = required population config' r := by
  cases r with
  | food =>
    rw [hconfigs]
    rfl
  | wood =>
    rw [hconfigs]
    rfl

theorem Alike.produce (h : Alike r s s') (hconfigs : ConfigsAgree r config config') :
    Alike r (s.produce config) (s'.produce config') := by
  refine ⟨?_, h.population, h.workers, h.present, h.pending⟩
  rw [figures_produce, figures_produce, h.figures, h.produced hconfigs]

theorem Alike.consume (h : Alike r s s') (hconfigs : ConfigsAgree r config config') :
    Alike r (s.consume config) (s'.consume config') := by
  refine ⟨?_, h.population, h.workers, h.present, h.pending⟩
  rw [figures_consume, figures_consume, h.figures, h.population, required_agrees _ hconfigs]

/- The status mixes the two resources; no figure is made from it. -/
theorem Alike.simulated (h : Alike r s s') (hconfigs : ConfigsAgree r config config') :
    Alike r (s.simulated config) (s'.simulated config') := by
  have hconsumed := (h.applyPendingAllocation.produce hconfigs).consume hconfigs
  exact ⟨hconsumed.figures, hconsumed.population, hconsumed.workers, hconsumed.present,
    hconsumed.pending⟩

theorem Alike.settled (h : Alike r s s') (hconfigs : ConfigsAgree r config config')
    (seed seed' : Seed) (frame frame' : InputFrame SettlementCommand) :
    Alike r (s.settled config seed frame) (s'.settled config' seed' frame') := by
  have hsimulated := h.simulated hconfigs
  exact ⟨hsimulated.figures, hsimulated.population, hsimulated.workers, hsimulated.present,
    hsimulated.pending⟩

end Phases

end SettlementState

open SettlementState

section Runs
variable {r : ResourceKind} {config config' : SettlementSimulationConfig}

theorem fromConfig_alike {s s' : SettlementState} (hconfigs : ConfigsAgree r config config')
    (hs : SettlementState.fromConfig config = .ok s)
    (hs' : SettlementState.fromConfig config' = .ok s') : Alike r s s' := by
  obtain ⟨-, rfl⟩ := check_pure_eq_ok.mp hs
  obtain ⟨-, rfl⟩ := check_pure_eq_ok.mp hs'
  cases r with
  | food =>
    rw [hconfigs]
    exact ⟨rfl, rfl, rfl, rfl, rfl⟩
  | wood =>
    rw [hconfigs]
    exact ⟨rfl, rfl, rfl, rfl, rfl⟩

/- One tick of both runs. -/
theorem tickStep_alike {seed seed' : Seed} {state state' s s' t t' : SettlementState}
    {frame frame' : InputFrame SettlementCommand}
    {record record' : ReplayTickRecord SettlementCommand SettlementSnapshot}
    (hconfigs : ConfigsAgree r config config') (hamounts : SettlementAmounts config)
    (hamounts' : SettlementAmounts config') (h : Alike r s s')
    (hcommands : CommandsAgree r frame.command frame'.command)
    (hstep : (settlementEngineFrom seed config state).tickStep s frame = .ok (t, record))
    (hstep' : (settlementEngineFrom seed' config' state').tickStep s' frame' =
      .ok (t', record')) : Alike r t t' := by
  obtain ⟨-, -, -, -, -, s1, hstage, -, rfl⟩ :=
    (settlement_tickStep_iff hamounts).mp ⟨record, hstep⟩
  obtain ⟨-, -, -, -, -, s1', hstage', -, rfl⟩ :=
    (settlement_tickStep_iff hamounts').mp ⟨record', hstep'⟩
  exact (h.staged hcommands hstage hstage').settled hconfigs seed seed' frame frame'

theorem run_alike {seed seed' : Seed} {state state' s s' t t' : SettlementState}
    {frames frames' : List (InputFrame SettlementCommand)}
    {records records' : List (ReplayTickRecord SettlementCommand SettlementSnapshot)}
    (hconfigs : ConfigsAgree r config config') (hamounts : SettlementAmounts config)
    (hamounts' : SettlementAmounts config') (h : Alike r s s')
    (hframes : List.Forall₂ (fun f f' => CommandsAgree r f.command f'.command) frames frames')
    (hrun : (settlementEngineFrom seed config state).machine.run s frames = .ok (t, records))
    (hrun' : (settlementEngineFrom seed' config' state').machine.run s' frames' =
      .ok (t', records')) : Alike r t t' := by
  refine run_related ?_ hframes h hrun hrun'
  intro s s' frame frame' t record t' record' hs hcommands hstep hstep'
  exact tickStep_alike hconfigs hamounts hamounts' hs hcommands hstep hstep'

end Runs

theorem resources_do_not_interfere (r : ResourceKind)
    (config config' : SettlementSimulationConfig) (seed seed' : Seed)
    (engine engine' : SettlementEngine) (frames frames' : List (InputFrame SettlementCommand))
    (hconfigs : ConfigsAgree r config config')
    (hengine : settlementEngineWithConfig seed config = .ok engine)
    (hengine' : settlementEngineWithConfig seed' config' = .ok engine')
    (hframes : List.Forall₂ (fun f f' => CommandsAgree r f.command f'.command) frames frames')
    (n : ℕ) (e e' : SettlementEngine)
    (hrun : DeterministicEngine.tickAll (frames.take n) engine = .ok () e)
    (hrun' : DeterministicEngine.tickAll (frames'.take n) engine' = .ok () e') :
    e.state.figures r = e'.state.figures r := by
  obtain ⟨hvalid, state, hstate, rfl⟩ := settlementEngineWithConfig_eq_ok.mp hengine
  obtain ⟨hvalid', state', hstate', rfl⟩ := settlementEngineWithConfig_eq_ok.mp hengine'
  obtain ⟨t, records, hmachine, rfl⟩ := (DeterministicEngine.tickAll_refines
    (defaultSettlementScheduler_ordered config) rfl).mp hrun
  obtain ⟨t', records', hmachine', rfl⟩ := (DeterministicEngine.tickAll_refines
    (defaultSettlementScheduler_ordered config') rfl).mp hrun'
  have halike := run_alike hconfigs (settlement_amounts hvalid) (settlement_amounts hvalid')
    (fromConfig_alike hconfigs hstate hstate') (List.forall₂_take n hframes) hmachine hmachine'
  exact halike.figures

/-- A settlement with less wood, fewer loggers and another demand for wood. -/
def woodlessConfig : SettlementSimulationConfig :=
  { SettlementSimulationConfig.default with
    initialWood := 1
    woodPerLogger := 7
    woodConsumptionPerTick := 40
    initialAllocation := ⟨3, 0⟩ }

theorem resources_do_not_interfere_woodless : ∃ engine engine' e e' : SettlementEngine,
    DeterministicEngine.tickAll [⟨1, .setWorkerAllocation ⟨2, 4⟩⟩] engine = .ok () e ∧
      DeterministicEngine.tickAll [⟨1, .setWorkerAllocation ⟨2, 1⟩⟩] engine' = .ok () e' ∧
      e.state.figures .food = e'.state.figures .food ∧
      e.state.figures .wood ≠ e'.state.figures .wood := by
  obtain ⟨state, hstate⟩ : ∃ state, SettlementState.fromConfig .default = .ok state := ⟨_, rfl⟩
  obtain ⟨state', hstate'⟩ : ∃ state, SettlementState.fromConfig woodlessConfig = .ok state :=
    ⟨_, rfl⟩
  have hrun : (okState (DeterministicEngine.tickAll [⟨1, .setWorkerAllocation ⟨2, 4⟩⟩]
      (settlementEngineFrom 7 .default state))).map (fun e => (e.state.figures .wood).inventory) =
      some 14 := by
    cases hstate
    decide +kernel
  have hrun' : (okState (DeterministicEngine.tickAll [⟨1, .setWorkerAllocation ⟨2, 1⟩⟩]
      (settlementEngineFrom 7 woodlessConfig state'))).map (fun e =>
        (e.state.figures .wood).inventory) = some 0 := by
    cases hstate'
    decide +kernel
  obtain ⟨_, e, hok, hwood⟩ := okState_map_eq_some.mp hrun
  obtain ⟨_, e', hok', hwood'⟩ := okState_map_eq_some.mp hrun'
  have hfood := resources_do_not_interfere .food .default woodlessConfig 7 7 _ _
    [⟨1, .setWorkerAllocation ⟨2, 4⟩⟩] [⟨1, .setWorkerAllocation ⟨2, 1⟩⟩] rfl
    (settlementEngineWithConfig_eq_ok.mpr ⟨rfl, state, hstate, rfl⟩)
    (settlementEngineWithConfig_eq_ok.mpr ⟨rfl, state', hstate', rfl⟩)
    (.cons (.setWorkerAllocation rfl) .nil) 1 e e' hok hok'
  refine ⟨_, _, e, e', hok, hok', hfood, fun heq => ?_⟩
  rw [heq, hwood'] at hwood
  exact absurd hwood (by decide)

end XenorEngine.Rust
