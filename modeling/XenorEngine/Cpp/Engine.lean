import XenorEngine.Cpp.SnapshotBoundary

/-!
# The engine (simulation_engine, step_context, replay_trace, system_phase, input_sequence)

A call on an engine keeps what it did before it threw. An engine without inputs
steps with no input, so its `step` is `stepImpl none`.
-/

namespace XenorEngine.Cpp
open XenorEngine.Lib.Fallible

inductive SystemPhase
  | preUpdate
  | update
  | postUpdate
  deriving DecidableEq, Repr

def orderedSystemPhases : List SystemPhase := [.preUpdate, .update, .postUpdate]

/-- The random source that a context points to is passed next to the state. -/
structure StepContext (Input : Type) where
  tick : UInt64
  tickDuration : Int64
  elapsed : Int64
  seed : UInt64
  stepSeed : UInt64
  input : Option Input

/-- `input()`, which throws when the context has none. -/
def StepContext.inputOf {Input : Type} (context : StepContext Input) : Except Exception Input :=
  match context.input with
  | none => .error (.standard "step context does not have an input value")
  | some input => .ok input

/-! ### Traces -/

inductive ReplayEventKind
  | tickStarted
  | inputApplied
  | systemExecuted
  | tickCompleted
  | snapshotRestored
  deriving DecidableEq, Repr

structure ReplayEvent (Input : Type) where
  kind : ReplayEventKind
  tick : UInt64
  elapsed : Int64
  stepSeed : UInt64 := 0
  phase : SystemPhase := .update
  systemName : String := ""
  input : Option Input := none
  deriving DecidableEq, Repr

namespace ReplayEvent
variable {Input : Type}

def tickStarted (tick : UInt64) (elapsed : Int64) (stepSeed : UInt64) : ReplayEvent Input :=
  { kind := .tickStarted, tick, elapsed, stepSeed }

def tickCompleted (tick : UInt64) (elapsed : Int64) : ReplayEvent Input :=
  { kind := .tickCompleted, tick, elapsed }

def snapshotRestored (tick : UInt64) (elapsed : Int64) : ReplayEvent Input :=
  { kind := .snapshotRestored, tick, elapsed }

def systemExecuted (tick : UInt64) (elapsed : Int64) (phase : SystemPhase)
    (systemName : String) : ReplayEvent Input :=
  { kind := .systemExecuted, tick, elapsed, phase, systemName }

def inputApplied (tick : UInt64) (elapsed : Int64) (input : Input) : ReplayEvent Input :=
  { kind := .inputApplied, tick, elapsed, input := some input }

end ReplayEvent

structure ReplayTrace (Input : Type) where
  seed : UInt64
  events : List (ReplayEvent Input)
  deriving DecidableEq, Repr

/-! ### Input sequences -/

namespace InputSequence
variable {Input : Type}

def npos : ℕ := 2 ^ 64 - 1

def slice (inputs : List Input) (offset : ℕ) (count : ℕ := npos) :
    Except Exception (List Input) :=
  if offset > inputs.length then
    .error (.outOfRange "input sequence slice offset is out of range")
  else .ok ((inputs.drop offset).take (min count (inputs.length - offset)))

end InputSequence

/-! ### The engine -/

abbrev SystemCallback (Data Input : Type) :=
  StepContext Input → EStateM Exception (SimulationState Data × DeterministicRng) Unit

structure RegisteredSystem (Data Input : Type) where
  phase : SystemPhase
  name : String
  callback : SystemCallback Data Input

structure SimulationEngine (Data Input : Type) where
  config : SimulationConfig
  clock : SimulationClock config
  state : SimulationState Data
  replayTrace : ReplayTrace Input
  replayCaptureEnabled : Bool
  systems : List (RegisteredSystem Data Input)

def deriveStepSeed (seed tick : UInt64) : UInt64 :=
  DeterministicRng.mix (seed + 0x9e3779b97f4a7c15 * tick)

namespace SimulationEngine
variable {Data Input : Type}

abbrev Call (Data Input α : Type) := EStateM Exception (SimulationEngine Data Input) α

def new (config : SimulationConfig) (initialState : SimulationState Data) :
    SimulationEngine Data Input where
  config := config
  clock := .new config
  state := initialState.setLastCompletedTick (SimulationClock.new config).currentTick
  replayTrace := ⟨config.seed, []⟩
  replayCaptureEnabled := false
  systems := []

def clearReplayTrace (engine : SimulationEngine Data Input) : SimulationEngine Data Input :=
  { engine with replayTrace := ⟨engine.config.seed, []⟩ }

def enableReplayCapture (engine : SimulationEngine Data Input) : SimulationEngine Data Input :=
  clearReplayTrace { engine with replayCaptureEnabled := true }

def disableReplayCapture (engine : SimulationEngine Data Input) : SimulationEngine Data Input :=
  { engine with replayCaptureEnabled := false }

/-- An empty `std::function` is `none`. -/
def addSystem (phase : SystemPhase) (name : String) (system : Option (SystemCallback Data Input)) :
    Call Data Input ℕ := fun engine =>
  if name = "" then .error (.invalidArgument "system name must not be empty") engine
  else
    match system with
    | none => .error (.invalidArgument "system callback must not be empty") engine
    | some callback =>
      .ok engine.systems.length { engine with systems := engine.systems ++ [⟨phase, name, callback⟩] }

def recordReplayEvent (event : ReplayEvent Input) (engine : SimulationEngine Data Input) :
    SimulationEngine Data Input :=
  if engine.replayCaptureEnabled then
    { engine with replayTrace :=
      { engine.replayTrace with events := engine.replayTrace.events ++ [event] } }
  else engine

def recordReplayInput (tick : UInt64) (elapsed : Int64) (input : Option Input)
    (engine : SimulationEngine Data Input) : SimulationEngine Data Input :=
  match input with
  | none => engine
  | some input => engine.recordReplayEvent (.inputApplied tick elapsed input)

/-- A call on the engine's clock. -/
def onClock (f : ∀ config, SimulationClock config → Except Exception (SimulationClock config)) :
    Call Data Input Unit := fun engine =>
  match f engine.config engine.clock with
  | .ok clock => .ok () { engine with clock := clock }
  | .error exception => .error exception engine

/-! ### Steps -/

/-- `system.callback(state_, context)` -/
def callSystem (context : StepContext Input) (system : RegisteredSystem Data Input) :
    EStateM Exception (SimulationEngine Data Input × DeterministicRng) Unit := fun (engine, rng) =>
  match system.callback context (engine.state, rng) with
  | .ok () (state, rng) => .ok () ({ engine with state := state }, rng)
  | .error exception (state, rng) => .error exception ({ engine with state := state }, rng)

def runSystem (context : StepContext Input) (system : RegisteredSystem Data Input) :
    EStateM Exception (SimulationEngine Data Input × DeterministicRng) Unit := do
  modify (Prod.map (recordReplayEvent
    (.systemExecuted context.tick context.elapsed system.phase system.name)) id)
  callSystem context system

def runSystems (context : StepContext Input) (systems : List (RegisteredSystem Data Input)) :
    EStateM Exception (SimulationEngine Data Input × DeterministicRng) Unit :=
  orderedSystemPhases.forM fun phase =>
    systems.forM fun system =>
      if system.phase ≠ phase then pure () else runSystem context system

/-- The random source of a step lives as long as the step. -/
def withStepRng (rng : DeterministicRng)
    (call : EStateM Exception (SimulationEngine Data Input × DeterministicRng) Unit) :
    Call Data Input Unit := fun engine =>
  match call (engine, rng) with
  | .ok () (engine, _) => .ok () engine
  | .error exception (engine, _) => .error exception engine

def stepImpl (input : Option Input) : Call Data Input Unit := do
  let engine ← get
  let currentTick := engine.clock.currentTick
  liftExcept (rejectIf (currentTick = maxTick) (Exception.overflowError "simulation tick overflow"))
  let nextTick := currentTick + 1
  let stepSeed := deriveStepSeed engine.config.seed nextTick
  let elapsed ← liftExcept (engine.clock.elapsedDurationAt nextTick)
  let context : StepContext Input :=
    ⟨nextTick, engine.config.tickDuration, elapsed, engine.config.seed, stepSeed, input⟩
  modify (recordReplayEvent (.tickStarted nextTick elapsed stepSeed))
  modify (recordReplayInput nextTick elapsed input)
  withStepRng ⟨stepSeed⟩ (runSystems context engine.systems)
  onClock fun _ clock => clock.advance
  modify fun engine =>
    { engine with state := engine.state.setLastCompletedTick engine.clock.currentTick }
  let engine ← get
  let elapsed ← liftExcept engine.clock.elapsedDuration
  modify (recordReplayEvent (.tickCompleted engine.clock.currentTick elapsed))

def runForTicks (ticks : UInt64) : Call Data Input Unit :=
  (List.range ticks.toNat).forM fun _ => stepImpl none

def runForSequence (inputs : List Input) : Call Data Input Unit :=
  inputs.forM fun input => stepImpl (some input)

/-! ### Snapshots -/

def captureSnapshot (engine : SimulationEngine Data Input) :
    Except Exception (SimulationSnapshot Data) := do
  let elapsed ← engine.clock.elapsedDuration
  pure ⟨engine.clock.currentTick, elapsed, engine.config.seed, engine.state⟩

def captureSnapshotBoundary {Adapter Payload : Type} (engine : SimulationEngine Data Input)
    (adapter : SnapshotStateAdapter Adapter Payload Data) :
    EStateM Exception Adapter (SnapshotBoundary Payload) := do
  let snapshot ← liftExcept engine.captureSnapshot
  makeSnapshotBoundary snapshot adapter

def validateSnapshot (engine : SimulationEngine Data Input) (snapshot : SimulationSnapshot Data) :
    Except Exception Unit := do
  let expected ← engine.clock.elapsedDurationAt snapshot.tick
  rejectIf (snapshot.elapsed ≠ expected) (.invalidArgument
    "snapshot elapsed duration does not match the engine configuration")
  rejectIf (snapshot.seed ≠ engine.config.seed) (.invalidArgument
    "snapshot seed does not match the engine configuration")
  rejectIf (snapshot.state.lastCompletedTick ≠ snapshot.tick) (.invalidArgument
    "snapshot state metadata does not match the captured tick")

/-- What both restores do once their checks have passed. -/
def installSnapshot (snapshot : SimulationSnapshot Data) : Call Data Input Unit := do
  onClock fun _ clock => clock.restore snapshot.tick
  modify fun engine => { engine with state := snapshot.state }
  modify (recordReplayEvent (.snapshotRestored snapshot.tick snapshot.elapsed))

def restoreSnapshot (snapshot : SimulationSnapshot Data) : Call Data Input Unit := do
  let engine ← get
  liftExcept (engine.validateSnapshot snapshot)
  installSnapshot snapshot

def restoreSnapshotBoundary {Adapter Payload : Type} (boundary : SnapshotBoundary Payload)
    (adapter : SnapshotStateAdapter Adapter Payload Data) :
    EStateM Exception (SimulationEngine Data Input × Adapter) Unit := do
  let (engine, _) ← get
  liftExcept (validateSnapshotBoundaryMetadataFor boundary.metadata engine.config)
  let restored ← onSnd (restoreSnapshotFromBoundary boundary adapter)
  liftExcept (rejectIf
    (restored.tick ≠ boundary.metadata.tick ∨ restored.elapsed ≠ boundary.metadata.elapsed ∨
      restored.seed ≠ boundary.metadata.seed ∨
      restored.state.lastCompletedTick ≠ boundary.metadata.stateLastCompletedTick)
    (Exception.snapshotBoundaryError .invalidStateMetadata
      ("snapshot boundary restore produced a snapshot that does not match " ++
        "the validated boundary metadata")))
  onFst (installSnapshot restored)

end SimulationEngine

end XenorEngine.Cpp
