import XenorEngine.Rust.EngineRun

/-!
# The settlement simulation (settlement/mod.rs, api/settlement.rs)

Workers fill two inventories and the population draws from them; totals and
shortages are kept for each resource. A resource map of the source always holds
both resources, so it is a function of the resource here.
-/

namespace XenorEngine.Rust
open XenorEngine.Lib.Fallible
open Debug (debug)

inductive ResourceKind
  | food
  | wood
  deriving DecidableEq, Repr

def ResourceKind.ORDER : List ResourceKind := [.food, .wood]

def ResourceKind.asStr : ResourceKind → String
  | .food => "food"
  | .wood => "wood"

/-! ### Allocations and status -/

structure WorkerAllocation where
  farmers : UInt32
  loggers : UInt32
  deriving DecidableEq, Repr

namespace WorkerAllocation

def zero : WorkerAllocation := ⟨0, 0⟩

def totalAssigned (a : WorkerAllocation) : UInt32 := saturatingAddU32 a.farmers a.loggers

def validateAgainst (a : WorkerAllocation) (population : UInt32) : Except String Unit :=
  rejectIf (a.totalAssigned > population)
    s!"worker allocation exceeds population: assigned={a.totalAssigned}, population={population}"

theorem zero_validateAgainst (population : UInt32) : zero.validateAgainst population = .ok () := by
  rw [validateAgainst, rejectIf_eq_ok, gt_iff_lt, UInt32.not_lt]
  exact UInt32.le_iff_toNat_le.mpr (Nat.zero_le _)

end WorkerAllocation

instance : Debug WorkerAllocation where
  debug a := debugFields "WorkerAllocation"
    [("farmers", debug a.farmers), ("loggers", debug a.loggers)]

inductive SettlementStatus
  | stable
  | foodShortage
  | woodShortage
  | foodAndWoodShortage
  deriving DecidableEq, Repr

namespace SettlementStatus

def asStr : SettlementStatus → String
  | .stable => "stable"
  | .foodShortage => "food_shortage"
  | .woodShortage => "wood_shortage"
  | .foodAndWoodShortage => "food_and_wood_shortage"

def parse (value : String) : Option SettlementStatus :=
  if value = "stable" then some .stable
  else if value = "food_shortage" then some .foodShortage
  else if value = "wood_shortage" then some .woodShortage
  else if value = "food_and_wood_shortage" then some .foodAndWoodShortage
  else none

def code : SettlementStatus → UInt64
  | .stable => 0
  | .foodShortage => 1
  | .woodShortage => 2
  | .foodAndWoodShortage => 3

def fromShortages (foodShortage woodShortage : Int64) : SettlementStatus :=
  match decide (foodShortage > 0), decide (woodShortage > 0) with
  | false, false => .stable
  | true, false => .foodShortage
  | false, true => .woodShortage
  | true, true => .foodAndWoodShortage

theorem parse_asStr (status : SettlementStatus) : parse status.asStr = some status := by
  cases status <;> rfl

theorem of_parse {value : String} {status : SettlementStatus} (h : parse value = some status) :
    value = status.asStr := by
  unfold parse at h
  split_ifs at h with h1 h2 h3 h4 <;> cases h <;> assumption

end SettlementStatus

instance : Debug SettlementStatus where
  debug
    | .stable => "Stable"
    | .foodShortage => "FoodShortage"
    | .woodShortage => "WoodShortage"
    | .foodAndWoodShortage => "FoodAndWoodShortage"

/-! ### Configuration -/

structure SettlementSimulationConfig where
  population : UInt32
  initialFood : Int64
  initialWood : Int64
  initialAllocation : WorkerAllocation
  foodPerFarmer : Int64
  woodPerLogger : Int64
  foodConsumptionPerWorker : Int64
  woodConsumptionPerTick : Int64
  snapshotPolicy : SnapshotPolicy
  validationPolicy : ValidationPolicy
  maxInventory : Int64
  deriving DecidableEq, Repr

instance : Debug SettlementSimulationConfig where
  debug c := debugFields "SettlementSimulationConfig" [("population", debug c.population),
    ("initial_food", debug c.initialFood), ("initial_wood", debug c.initialWood),
    ("initial_allocation", debug c.initialAllocation),
    ("food_per_farmer", debug c.foodPerFarmer), ("wood_per_logger", debug c.woodPerLogger),
    ("food_consumption_per_worker", debug c.foodConsumptionPerWorker),
    ("wood_consumption_per_tick", debug c.woodConsumptionPerTick),
    ("snapshot_policy", debug c.snapshotPolicy), ("validation_policy", debug c.validationPolicy),
    ("max_inventory", debug c.maxInventory)]

/-- `for (label, value) in [...] { if value < 0 { return Err(..) } }`. -/
def rejectNegative {ε : Type} (err : String → ε) (fields : List (String × Int64)) :
    Except ε Unit :=
  fields.forM fun (label, value) =>
    rejectIf (value < 0) (err s!"{label} must be non-negative, got {value}")

theorem rejectNegative_eq_ok {ε : Type} {err : String → ε} {fields : List (String × Int64)}
    {u : Unit} : rejectNegative err fields = .ok u ↔ ∀ f ∈ fields, ¬ f.2 < 0 := by
  simp only [rejectNegative, forM_eq_ok, rejectIf_eq_ok]

namespace SettlementSimulationConfig

def default : SettlementSimulationConfig where
  population := 6
  initialFood := 12
  initialWood := 8
  initialAllocation := ⟨3, 2⟩
  foodPerFarmer := 3
  woodPerLogger := 2
  foodConsumptionPerWorker := 1
  woodConsumptionPerTick := 2
  snapshotPolicy := .every 2
  validationPolicy := .everyPhase
  maxInventory := 1000

def validate (config : SettlementSimulationConfig) : Except EngineError Unit := do
  rejectIf (config.population = 0)
    (.configMismatch "settlement population must be greater than 0")
  (config.initialAllocation.validateAgainst config.population).mapError EngineError.configMismatch
  rejectNegative EngineError.configMismatch
    [("initial_food", config.initialFood), ("initial_wood", config.initialWood),
      ("food_per_farmer", config.foodPerFarmer), ("wood_per_logger", config.woodPerLogger),
      ("food_consumption_per_worker", config.foodConsumptionPerWorker),
      ("wood_consumption_per_tick", config.woodConsumptionPerTick),
      ("max_inventory", config.maxInventory)]
  [("initial_food", config.initialFood), ("initial_wood", config.initialWood)].forM
    fun (label, value) => rejectIf (value > config.maxInventory) (.configMismatch
      s!"{label} exceeds max_inventory: value={value}, max_inventory={config.maxInventory}")

end SettlementSimulationConfig

inductive SettlementCommand
  | hold
  | setWorkerAllocation (allocation : WorkerAllocation)
  deriving DecidableEq, Repr

instance : Debug SettlementCommand where
  debug
    | .hold => "Hold"
    | .setWorkerAllocation allocation => "SetWorkerAllocation(" ++ debug allocation ++ ")"

/-! ### Snapshots -/

structure SettlementSnapshot where
  tick : Tick
  population : UInt32
  currentAllocation : WorkerAllocation
  pendingAllocationPresent : Bool
  pendingAllocation : WorkerAllocation
  food : Int64
  wood : Int64
  lastProducedFood : Int64
  lastProducedWood : Int64
  lastConsumedFood : Int64
  lastConsumedWood : Int64
  lastFoodShortage : Int64
  lastWoodShortage : Int64
  totalFoodProduced : Int64
  totalWoodProduced : Int64
  totalFoodConsumed : Int64
  totalWoodConsumed : Int64
  totalFoodShortage : Int64
  totalWoodShortage : Int64
  shortageTicks : Tick
  lastStatus : SettlementStatus
  finalizeMarker : UInt64
  deriving DecidableEq, Repr

instance : Debug SettlementSnapshot where
  debug s := debugFields "SettlementSnapshot" [("tick", debug s.tick),
    ("population", debug s.population), ("current_allocation", debug s.currentAllocation),
    ("pending_allocation_present", debug s.pendingAllocationPresent),
    ("pending_allocation", debug s.pendingAllocation), ("food", debug s.food),
    ("wood", debug s.wood), ("last_produced_food", debug s.lastProducedFood),
    ("last_produced_wood", debug s.lastProducedWood),
    ("last_consumed_food", debug s.lastConsumedFood),
    ("last_consumed_wood", debug s.lastConsumedWood),
    ("last_food_shortage", debug s.lastFoodShortage),
    ("last_wood_shortage", debug s.lastWoodShortage),
    ("total_food_produced", debug s.totalFoodProduced),
    ("total_wood_produced", debug s.totalWoodProduced),
    ("total_food_consumed", debug s.totalFoodConsumed),
    ("total_wood_consumed", debug s.totalWoodConsumed),
    ("total_food_shortage", debug s.totalFoodShortage),
    ("total_wood_shortage", debug s.totalWoodShortage),
    ("shortage_ticks", debug s.shortageTicks), ("last_status", debug s.lastStatus),
    ("finalize_marker", debug s.finalizeMarker)]

namespace SettlementSnapshot

def validate (s : SettlementSnapshot) : Except String Unit := do
  s.currentAllocation.validateAgainst s.population
  s.pendingAllocation.validateAgainst s.population
  rejectIf (¬ s.pendingAllocationPresent ∧ s.pendingAllocation ≠ .zero)
    "pending allocation must be zeroed when not present"
  rejectNegative id
    [("food", s.food), ("wood", s.wood), ("last_produced_food", s.lastProducedFood),
      ("last_produced_wood", s.lastProducedWood), ("last_consumed_food", s.lastConsumedFood),
      ("last_consumed_wood", s.lastConsumedWood), ("last_food_shortage", s.lastFoodShortage),
      ("last_wood_shortage", s.lastWoodShortage), ("total_food_produced", s.totalFoodProduced),
      ("total_wood_produced", s.totalWoodProduced), ("total_food_consumed", s.totalFoodConsumed),
      ("total_wood_consumed", s.totalWoodConsumed), ("total_food_shortage", s.totalFoodShortage),
      ("total_wood_shortage", s.totalWoodShortage)]
  let expectedStatus := SettlementStatus.fromShortages s.lastFoodShortage s.lastWoodShortage
  rejectIf (s.lastStatus ≠ expectedStatus)
    s!"last_status mismatch: expected `{expectedStatus.asStr}`, got `{s.lastStatus.asStr}`"
  rejectIf (s.lastFoodShortage > 0 ∧ s.food ≠ 0)
    s!"food must be 0 when food shortage is recorded, got {s.food}"
  rejectIf (s.lastWoodShortage > 0 ∧ s.wood ≠ 0)
    s!"wood must be 0 when wood shortage is recorded, got {s.wood}"

end SettlementSnapshot

/-! ### The state -/

abbrev ResourceMap := ResourceKind → Int64

def resourceMap (food wood : Int64) : ResourceMap
  | .food => food
  | .wood => wood

def zeroResourceMap : ResourceMap := resourceMap 0 0

def setResource (map : ResourceMap) (resource : ResourceKind) (value : Int64) : ResourceMap :=
  Function.update map resource value

def addToResourceMap (map : ResourceMap) (resource : ResourceKind) (amount : Int64) :
    ResourceMap := setResource map resource (saturatingAddI64 (map resource) amount)

/-- The amount consumed with the new `inventory` and `shortages`. -/
def consumeResource (inventory shortages : ResourceMap) (resource : ResourceKind)
    (required : Int64) : Int64 × ResourceMap × ResourceMap :=
  let available := inventory resource
  let actual := if available ≤ required then available else required
  let shortage := saturatingSubI64 required actual
  (actual, setResource inventory resource (saturatingSubI64 available actual),
    setResource shortages resource shortage)

theorem resourceMap_self (map : ResourceMap) : resourceMap (map .food) (map .wood) = map := by
  funext r
  cases r <;> rfl

structure SettlementState where
  tick : Tick
  population : UInt32
  currentAllocation : WorkerAllocation
  pendingAllocationPresent : Bool
  pendingAllocation : WorkerAllocation
  inventory : ResourceMap
  lastProduction : ResourceMap
  lastConsumption : ResourceMap
  lastShortage : ResourceMap
  cumulativeProduction : ResourceMap
  cumulativeConsumption : ResourceMap
  cumulativeShortage : ResourceMap
  shortageTicks : Tick
  lastStatus : SettlementStatus
  finalizeMarker : UInt64

def i64OfU32 (n : UInt32) : Int64 := Int64.ofNat n.toNat

namespace SettlementState

def fromConfig (config : SettlementSimulationConfig) : Except EngineError SettlementState := do
  config.validate
  pure {
    tick := 0
    population := config.population
    currentAllocation := config.initialAllocation
    pendingAllocationPresent := false
    pendingAllocation := .zero
    inventory := resourceMap config.initialFood config.initialWood
    lastProduction := zeroResourceMap
    lastConsumption := zeroResourceMap
    lastShortage := zeroResourceMap
    cumulativeProduction := zeroResourceMap
    cumulativeConsumption := zeroResourceMap
    cumulativeShortage := zeroResourceMap
    shortageTicks := 0
    lastStatus := .stable
    finalizeMarker := 0 }

def resetFinalizeMarker (s : SettlementState) : SettlementState := { s with finalizeMarker := 0 }

def stageAllocation (s : SettlementState) (allocation : WorkerAllocation) :
    Except EngineError SettlementState := do
  (allocation.validateAgainst s.population).mapError EngineError.replayLifecycle
  pure { s with pendingAllocation := allocation, pendingAllocationPresent := true }

def applyPendingAllocation (s : SettlementState) : SettlementState :=
  if s.pendingAllocationPresent then
    { s with
      currentAllocation := s.pendingAllocation
      pendingAllocationPresent := false
      pendingAllocation := .zero }
  else s

def produce (s : SettlementState) (config : SettlementSimulationConfig) : SettlementState :=
  let foodProduced := saturatingMulI64 (i64OfU32 s.currentAllocation.farmers) config.foodPerFarmer
  let woodProduced := saturatingMulI64 (i64OfU32 s.currentAllocation.loggers) config.woodPerLogger
  { s with
    lastProduction := setResource (setResource s.lastProduction .food foodProduced) .wood woodProduced
    inventory := addToResourceMap (addToResourceMap s.inventory .food foodProduced) .wood woodProduced
    cumulativeProduction := addToResourceMap
      (addToResourceMap s.cumulativeProduction .food foodProduced) .wood woodProduced }

def consume (s : SettlementState) (config : SettlementSimulationConfig) : SettlementState :=
  let (foodConsumed, inventory, lastShortage) := consumeResource s.inventory s.lastShortage .food
    (saturatingMulI64 (i64OfU32 s.population) config.foodConsumptionPerWorker)
  let (woodConsumed, inventory, lastShortage) := consumeResource inventory lastShortage .wood
    config.woodConsumptionPerTick
  { s with
    inventory := inventory
    lastShortage := lastShortage
    lastConsumption := setResource (setResource s.lastConsumption .food foodConsumed) .wood woodConsumed
    cumulativeConsumption := addToResourceMap
      (addToResourceMap s.cumulativeConsumption .food foodConsumed) .wood woodConsumed
    cumulativeShortage := addToResourceMap
      (addToResourceMap s.cumulativeShortage .food (lastShortage .food)) .wood (lastShortage .wood) }

def resolveShortage (s : SettlementState) : SettlementState :=
  let lastStatus := SettlementStatus.fromShortages (s.lastShortage .food) (s.lastShortage .wood)
  { s with
    lastStatus := lastStatus
    shortageTicks :=
      if lastStatus ≠ .stable then saturatingAddU64 s.shortageTicks 1 else s.shortageTicks }

def finalize (s : SettlementState) (marker : UInt64) : SettlementState :=
  { s with finalizeMarker := marker }

def snapshotChecksumWords (s : SettlementSnapshot) : List UInt64 :=
  [s.tick, s.population.toUInt64, s.currentAllocation.farmers.toUInt64,
    s.currentAllocation.loggers.toUInt64, s.pendingAllocationPresent.toUInt64,
    s.pendingAllocation.farmers.toUInt64, s.pendingAllocation.loggers.toUInt64, s.food.toUInt64,
    s.wood.toUInt64, s.lastProducedFood.toUInt64, s.lastProducedWood.toUInt64,
    s.lastConsumedFood.toUInt64, s.lastConsumedWood.toUInt64, s.lastFoodShortage.toUInt64,
    s.lastWoodShortage.toUInt64, s.totalFoodProduced.toUInt64, s.totalWoodProduced.toUInt64,
    s.totalFoodConsumed.toUInt64, s.totalWoodConsumed.toUInt64, s.totalFoodShortage.toUInt64,
    s.totalWoodShortage.toUInt64, s.shortageTicks, s.lastStatus.code, s.finalizeMarker]

def snapshot (s : SettlementState) : SettlementSnapshot where
  tick := s.tick
  population := s.population
  currentAllocation := s.currentAllocation
  pendingAllocationPresent := s.pendingAllocationPresent
  pendingAllocation := s.pendingAllocation
  food := s.inventory .food
  wood := s.inventory .wood
  lastProducedFood := s.lastProduction .food
  lastProducedWood := s.lastProduction .wood
  lastConsumedFood := s.lastConsumption .food
  lastConsumedWood := s.lastConsumption .wood
  lastFoodShortage := s.lastShortage .food
  lastWoodShortage := s.lastShortage .wood
  totalFoodProduced := s.cumulativeProduction .food
  totalWoodProduced := s.cumulativeProduction .wood
  totalFoodConsumed := s.cumulativeConsumption .food
  totalWoodConsumed := s.cumulativeConsumption .wood
  totalFoodShortage := s.cumulativeShortage .food
  totalWoodShortage := s.cumulativeShortage .wood
  shortageTicks := s.shortageTicks
  lastStatus := s.lastStatus
  finalizeMarker := s.finalizeMarker

def snapshotChecksum (snapshot : SettlementSnapshot) : UInt64 :=
  checksumWords (snapshotChecksumWords snapshot)

def previewFinalizeMarker (s : SettlementState) (seed : Seed) (tick : Tick) : UInt64 :=
  mix64 (tickSeed seed tick ^^^ snapshotChecksum { s.snapshot with finalizeMarker := 0 } ^^^ tick)

/-- What `restore_snapshot` leaves behind; every field is overwritten. -/
def ofSnapshot (snapshot : SettlementSnapshot) : SettlementState where
  tick := snapshot.tick
  population := snapshot.population
  currentAllocation := snapshot.currentAllocation
  pendingAllocationPresent := snapshot.pendingAllocationPresent
  pendingAllocation := snapshot.pendingAllocation
  inventory := resourceMap snapshot.food snapshot.wood
  lastProduction := resourceMap snapshot.lastProducedFood snapshot.lastProducedWood
  lastConsumption := resourceMap snapshot.lastConsumedFood snapshot.lastConsumedWood
  lastShortage := resourceMap snapshot.lastFoodShortage snapshot.lastWoodShortage
  cumulativeProduction := resourceMap snapshot.totalFoodProduced snapshot.totalWoodProduced
  cumulativeConsumption := resourceMap snapshot.totalFoodConsumed snapshot.totalWoodConsumed
  cumulativeShortage := resourceMap snapshot.totalFoodShortage snapshot.totalWoodShortage
  shortageTicks := snapshot.shortageTicks
  lastStatus := snapshot.lastStatus
  finalizeMarker := snapshot.finalizeMarker

def restoreSnapshot (_ : SettlementState) (snapshot : SettlementSnapshot) :
    Except String SettlementState :=
  match snapshot.validate with
  | .ok _ => .ok (ofSnapshot snapshot)
  | .error detail =>
    .error ("settlement snapshot must be valid before restore: " ++ debug detail)

end SettlementState

instance : SimulationState SettlementState SettlementSnapshot where
  tick := SettlementState.tick
  setTick s tick := { s with tick := tick }
  checksum s := SettlementState.snapshotChecksum s.snapshot
  snapshot := SettlementState.snapshot
  restoreSnapshot := SettlementState.restoreSnapshot
  snapshotSchemaVersion := 1
  snapshotChecksum := SettlementState.snapshotChecksum
  snapshotTick := SettlementSnapshot.tick

instance : LawfulSimulationState SettlementState SettlementSnapshot :=
  ⟨fun _ _ => rfl, fun _ => rfl, fun _ => rfl⟩

namespace SettlementState

theorem ofSnapshot_snapshot (s : SettlementState) : ofSnapshot s.snapshot = s := by
  simp only [ofSnapshot, snapshot, resourceMap_self]

/- A snapshot holds all of the state: restoring one over any state gives it back. -/
theorem restore_snapshot {s : SettlementState} (t : SettlementState)
    (h : s.snapshot.validate = .ok ()) : t.restoreSnapshot s.snapshot = .ok s := by
  rw [restoreSnapshot, h]
  exact congrArg Except.ok (ofSnapshot_snapshot s)

end SettlementState

/-! ### Validator -/

structure SettlementStateValidator where
  seed : Seed
  config : SettlementSimulationConfig

namespace SettlementStateValidator

def expectAllocationValid (context : ValidationContext) (s : SettlementState) :
    Except EngineError Unit := do
  (s.currentAllocation.validateAgainst s.population).mapError context.invariantError
  if s.pendingAllocationPresent then
    (s.pendingAllocation.validateAgainst s.population).mapError context.invariantError
  else rejectIf (s.pendingAllocation ≠ .zero) (context.invariantError
    s!"pending allocation must be zeroed when absent, got {debug s.pendingAllocation}")

def expectInventoryLimits (v : SettlementStateValidator) (context : ValidationContext)
    (s : SettlementState) : Except EngineError Unit :=
  ResourceKind.ORDER.forM fun resource => do
    let value := s.inventory resource
    rejectIf (value < 0) (context.invariantError
      s!"{resource.asStr} inventory must be non-negative, got {value}")
    rejectIf (value > v.config.maxInventory) (context.invariantError
      s!"{resource.asStr} inventory exceeds max_inventory: value={value}, max_inventory={v.config.maxInventory}")

def expectNonNegativeMetrics (context : ValidationContext) (s : SettlementState) :
    Except EngineError Unit :=
  rejectNegative context.invariantError
    [("last_produced_food", s.lastProduction .food),
      ("last_produced_wood", s.lastProduction .wood),
      ("last_consumed_food", s.lastConsumption .food),
      ("last_consumed_wood", s.lastConsumption .wood),
      ("last_food_shortage", s.lastShortage .food),
      ("last_wood_shortage", s.lastShortage .wood),
      ("total_food_produced", s.cumulativeProduction .food),
      ("total_wood_produced", s.cumulativeProduction .wood),
      ("total_food_consumed", s.cumulativeConsumption .food),
      ("total_wood_consumed", s.cumulativeConsumption .wood),
      ("total_food_shortage", s.cumulativeShortage .food),
      ("total_wood_shortage", s.cumulativeShortage .wood)]

def expectShortageConsistency (context : ValidationContext) (s : SettlementState) :
    Except EngineError Unit := do
  let expectedStatus :=
    SettlementStatus.fromShortages (s.lastShortage .food) (s.lastShortage .wood)
  rejectIf (s.lastStatus ≠ expectedStatus) (context.invariantError
    s!"last_status mismatch: expected `{expectedStatus.asStr}`, got `{s.lastStatus.asStr}`")
  rejectIf (s.lastShortage .food > 0 ∧ s.inventory .food ≠ 0) (context.invariantError
    s!"food inventory must be 0 when shortage is recorded, got {s.inventory .food}")
  rejectIf (s.lastShortage .wood > 0 ∧ s.inventory .wood ≠ 0) (context.invariantError
    s!"wood inventory must be 0 when shortage is recorded, got {s.inventory .wood}")

def expectPendingCleared (context : ValidationContext) (s : SettlementState) :
    Except EngineError Unit :=
  rejectIf (s.pendingAllocationPresent ∨ s.pendingAllocation ≠ .zero) (context.invariantError
    s!"pending allocation must be cleared after phase boundary, got present={s.pendingAllocationPresent} allocation={debug s.pendingAllocation}")

def validate (v : SettlementStateValidator) (context : ValidationContext) (s : SettlementState) :
    Except EngineError Unit := do
  expectTickAlignment context s.tick
  expectAllocationValid context s
  v.expectInventoryLimits context s
  expectNonNegativeMetrics context s
  expectShortageConsistency context s
  match context.checkpoint with
  | .beforeTickBegin =>
    expectPendingCleared context s
    expectPreviousMarker context s.tick s.finalizeMarker
  | .afterInputApplied => expectMarkerZero context s.finalizeMarker
  | .afterSimulationGroup =>
    expectMarkerZero context s.finalizeMarker
    expectPendingCleared context s
  | .afterFinalize =>
    expectPendingCleared context s
    expectCurrentMarker context (s.previewFinalizeMarker v.seed context.tick) s.finalizeMarker

end SettlementStateValidator

instance : StateValidator SettlementStateValidator SettlementState :=
  ⟨SettlementStateValidator.validate⟩

theorem settlement_validate_tick {v : SettlementStateValidator} {context : ValidationContext}
    {s : SettlementState} {u : Unit} (h : v.validate context s = .ok u) :
    s.tick = saturatingSubU64 context.tick 1 := by
  simp only [SettlementStateValidator.validate, expectTickAlignment, bind_eq_ok, rejectIf_eq_ok,
    exists_const, ne_eq, not_not] at h
  exact h.1

/-! ### Phases -/

inductive SettlementPhase
  | resetSettlementFinalizeMarkerPhase
  | stageSettlementCommandPhase
  | applySettlementAllocationPhase
  | settlementProductionPhase (config : SettlementSimulationConfig)
  | settlementConsumptionPhase (config : SettlementSimulationConfig)
  | resolveSettlementStatusPhase
  | finalizeSettlementPhase
  deriving DecidableEq, Repr

namespace SettlementPhase

def name : SettlementPhase → String
  | resetSettlementFinalizeMarkerPhase => "reset_settlement_finalize_marker"
  | stageSettlementCommandPhase => "stage_settlement_command"
  | applySettlementAllocationPhase => "apply_settlement_allocation"
  | settlementProductionPhase _ => "settlement_production"
  | settlementConsumptionPhase _ => "settlement_consumption"
  | resolveSettlementStatusPhase => "resolve_settlement_status"
  | finalizeSettlementPhase => "finalize_settlement"

def run (phase : SettlementPhase) (ctx : TickContext SettlementCommand) :
    EStateM EngineError SettlementState Unit :=
  match phase with
  | resetSettlementFinalizeMarkerPhase => modify (·.resetFinalizeMarker)
  | stageSettlementCommandPhase =>
    match ctx.frame.command with
    | .hold => pure ()
    | .setWorkerAllocation allocation => fun s =>
      match s.stageAllocation allocation with
      | .ok s' => .ok () s'
      | .error e => .error e s
  | applySettlementAllocationPhase => modify (·.applyPendingAllocation)
  | settlementProductionPhase config => modify (·.produce config)
  | settlementConsumptionPhase config => modify (·.consume config)
  | resolveSettlementStatusPhase => modify (·.resolveShortage)
  | finalizeSettlementPhase => modify fun s =>
    s.finalize (mix64 (ctx.tickSeed ^^^ SimulationState.checksum s ^^^ ctx.tick))

end SettlementPhase

instance : Phase SettlementPhase SettlementState SettlementCommand SettlementSnapshot where
  name := SettlementPhase.name
  run ctx := Phase.onState SettlementPhase.run ctx

instance : PurePhase SettlementPhase SettlementState SettlementCommand SettlementSnapshot where
  act := SettlementPhase.run
  run_eq := fun _ _ _ _ => rfl

namespace SettlementState

theorem finalize_tick (s : SettlementState) (marker : UInt64) :
    (s.finalize marker).tick = s.tick := rfl

theorem stageAllocation_ok {s s' : SettlementState} {allocation : WorkerAllocation}
    (h : s.stageAllocation allocation = .ok s') :
    s' = { s with pendingAllocation := allocation, pendingAllocationPresent := true } := by
  simp only [stageAllocation, bind_eq_ok, mapError_eq_ok, pure_eq_ok] at h
  obtain ⟨u, -, rfl⟩ := h
  rfl

theorem applyPendingAllocation_tick (s : SettlementState) :
    s.applyPendingAllocation.tick = s.tick := by
  unfold applyPendingAllocation
  split <;> rfl

end SettlementState

theorem stageSettlementCommand_ok {ctx : TickContext SettlementCommand} {s s' : SettlementState}
    (h : SettlementPhase.run .stageSettlementCommandPhase ctx s = .ok () s') :
    ∃ allocation present,
      s' = { s with pendingAllocation := allocation, pendingAllocationPresent := present } := by
  cases hcmd : ctx.frame.command with
  | hold =>
    simp only [SettlementPhase.run, hcmd] at h
    obtain ⟨-, rfl⟩ := estate_pure_ok.mp h
    exact ⟨s.pendingAllocation, s.pendingAllocationPresent, rfl⟩
  | setWorkerAllocation allocation =>
    simp only [SettlementPhase.run, hcmd] at h
    split at h
    · rename_i s1 hs1
      rw [← (EStateM.Result.ok.inj h).2, SettlementState.stageAllocation_ok hs1]
      exact ⟨_, _, rfl⟩
    · cases h

theorem settlement_run_tick {phase : SettlementPhase} {ctx : TickContext SettlementCommand}
    {s s' : SettlementState} (h : phase.run ctx s = .ok () s') : s'.tick = s.tick := by
  cases phase with
  | resetSettlementFinalizeMarkerPhase =>
    obtain rfl := estate_modify_ok.mp h
    rfl
  | stageSettlementCommandPhase =>
    obtain ⟨allocation, present, rfl⟩ := stageSettlementCommand_ok h
    rfl
  | applySettlementAllocationPhase =>
    obtain rfl := estate_modify_ok.mp h
    exact s.applyPendingAllocation_tick
  | settlementProductionPhase config =>
    obtain rfl := estate_modify_ok.mp h
    rfl
  | settlementConsumptionPhase config =>
    obtain rfl := estate_modify_ok.mp h
    rfl
  | resolveSettlementStatusPhase =>
    obtain rfl := estate_modify_ok.mp h
    rfl
  | finalizeSettlementPhase =>
    obtain rfl := estate_modify_ok.mp h
    exact s.finalize_tick _

/- Only the command phase can fail, and it fails before it writes. -/
theorem settlement_run_error {phase : SettlementPhase} {ctx : TickContext SettlementCommand}
    {s s' : SettlementState} {err : EngineError} (h : phase.run ctx s = .error err s') :
    s' = s := by
  cases phase with
  | stageSettlementCommandPhase =>
    cases hcmd : ctx.frame.command with
    | hold =>
      simp only [SettlementPhase.run, hcmd] at h
      cases h
    | setWorkerAllocation allocation =>
      simp only [SettlementPhase.run, hcmd] at h
      split at h
      · cases h
      · exact (EStateM.Result.error.inj h).2.symm
  | resetSettlementFinalizeMarkerPhase => cases h
  | applySettlementAllocationPhase => cases h
  | settlementProductionPhase config => cases h
  | settlementConsumptionPhase config => cases h
  | resolveSettlementStatusPhase => cases h
  | finalizeSettlementPhase => cases h

instance : QuietPhase SettlementPhase SettlementState SettlementCommand SettlementSnapshot :=
  quietPhase_of_act fun _ _ _ _ h => settlement_run_tick h

/-! ### Engine -/

abbrev SettlementScheduler := FixedScheduler SettlementPhase
abbrev SettlementEngine :=
  DeterministicEngine SettlementState SettlementCommand SettlementPhase SettlementStateValidator
    SettlementSnapshot

def defaultSettlementScheduler (config : SettlementSimulationConfig) : SettlementScheduler :=
  (((((((FixedScheduler.new.addPhase .preInput .resetSettlementFinalizeMarkerPhase).addPhase
    .input .stageSettlementCommandPhase).addPhase
    .simulation .applySettlementAllocationPhase).addPhase
    .simulation (.settlementProductionPhase config)).addPhase
    .simulation (.settlementConsumptionPhase config)).addPhase
    .simulation .resolveSettlementStatusPhase).addPhase
    .finalize .finalizeSettlementPhase)

def settlementEngineFrom (seed : Seed) (config : SettlementSimulationConfig)
    (state : SettlementState) : SettlementEngine where
  seed := seed
  state := state
  replayLog := .default
  scheduler := defaultSettlementScheduler config
  snapshotPolicy := config.snapshotPolicy
  validationPolicy := config.validationPolicy
  validator := ⟨seed, config⟩

def buildSettlementEngineInternal (seed : Seed) (config : SettlementSimulationConfig) :
    Outcome SettlementEngine := do
  let state ← (SettlementState.fromConfig config).mapError fun e => Failure.panicked
    ("validated settlement config should build authoritative state: " ++ debug e)
  pure (settlementEngineFrom seed config state)

def settlementEngineWithConfig (seed : Seed) (config : SettlementSimulationConfig) :
    Outcome SettlementEngine := do
  orFail config.validate
  buildSettlementEngineInternal seed config

/- The `expect` of the builder never fires on a valid config. -/
theorem exists_fromConfig {config : SettlementSimulationConfig} (h : config.validate = .ok ()) :
    ∃ state, SettlementState.fromConfig config = .ok state :=
  ⟨_, check_pure_eq_ok.mpr ⟨h, rfl⟩⟩

theorem defaultSettlementScheduler_ordered (config : SettlementSimulationConfig) :
    (defaultSettlementScheduler config).Ordered := by
  unfold defaultSettlementScheduler
  iterate 7 apply FixedScheduler.addPhase_ordered
  exact FixedScheduler.new_ordered

theorem defaultSettlementScheduler_phases (config : SettlementSimulationConfig) :
    (defaultSettlementScheduler config).planOrder.map (·.phase) =
      [.resetSettlementFinalizeMarkerPhase, .stageSettlementCommandPhase,
        .applySettlementAllocationPhase, .settlementProductionPhase config,
        .settlementConsumptionPhase config, .resolveSettlementStatusPhase,
        .finalizeSettlementPhase] := by
  rw [FixedScheduler.planOrder_eq (defaultSettlementScheduler_ordered config)]
  rfl

theorem defaultSettlementScheduler_plan (config : SettlementSimulationConfig) :
    (defaultSettlementScheduler config).phasePlan =
      [⟨0, .preInput, "reset_settlement_finalize_marker"⟩, ⟨1, .input, "stage_settlement_command"⟩,
        ⟨2, .simulation, "apply_settlement_allocation"⟩, ⟨3, .simulation, "settlement_production"⟩,
        ⟨4, .simulation, "settlement_consumption"⟩, ⟨5, .simulation, "resolve_settlement_status"⟩,
        ⟨6, .finalize, "finalize_settlement"⟩] := by
  rw [FixedScheduler.phasePlan,
    FixedScheduler.planOrder_eq (defaultSettlementScheduler_ordered config)]
  rfl

end XenorEngine.Rust
