import XenorEngine.Rust.Replay

/-!
# DeterministicEngine (engine/mod.rs, phases/mod.rs, state/mod.rs, validation/mod.rs)

One tick: check the frame's tick, open a replay record, validate, run the phases
in schedule order with their checkpoints, advance the tick, take the checksum and
perhaps a snapshot, close the record. A tick that fails keeps every change made
before the failure, so the computation carries its state through errors.
-/

namespace XenorEngine.Rust
open XenorEngine.Lib.Fallible

class SimulationState (S : Type) (Snapshot : outParam Type) where
  tick : S → Tick
  setTick : S → Tick → S
  checksum : S → UInt64
  snapshot : S → Snapshot
  /- The error is the message of a failed `expect`. -/
  restoreSnapshot : S → Snapshot → Except String S
  snapshotSchemaVersion : UInt32
  snapshotChecksum : Snapshot → UInt64
  snapshotTick : Snapshot → Tick

class StateValidator (V S : Type) where
  validate : V → ValidationContext → S → Except EngineError Unit

/-! ### Checks that the validators share -/

def ValidationContext.invariantError (context : ValidationContext) (detail : String) :
    EngineError := .invariantViolation context.tick context.checkpoint.asStr detail

def expectTickAlignment (context : ValidationContext) (stateTick : Tick) :
    Except EngineError Unit :=
  let expected := saturatingSubU64 context.tick 1
  rejectIf (stateTick ≠ expected) (context.invariantError
    s!"authoritative tick mismatch: expected {expected}, got {stateTick}")

def expectMarkerZero (context : ValidationContext) (marker : UInt64) : Except EngineError Unit :=
  rejectIf (marker ≠ 0)
    (context.invariantError s!"finalize_marker must be cleared, got {marker}")

def expectPreviousMarker (context : ValidationContext) (stateTick : Tick) (marker : UInt64) :
    Except EngineError Unit :=
  if stateTick = 0 then expectMarkerZero context marker
  else rejectIf (marker = 0) (context.invariantError
    s!"finalize_marker missing for completed tick {stateTick}")

def expectCurrentMarker (context : ValidationContext) (expected marker : UInt64) :
    Except EngineError Unit :=
  rejectIf (marker ≠ expected) (context.invariantError
    s!"finalize_marker mismatch for tick {context.tick}: expected {expected}, got {marker}")

inductive NoopStateValidator
  | noop
  deriving DecidableEq, Repr

instance {S : Type} : StateValidator NoopStateValidator S := ⟨fun _ _ _ => .ok ()⟩

/-- The read-only part of `TickContext`; the borrowed state and log are the state of
the phase's computation. -/
structure TickContext (C : Type) where
  baseSeed : Seed
  tickSeed : Seed
  tick : Tick
  frame : InputFrame C

def TickContext.rngFor {C : Type} (ctx : TickContext C) (stream : String) : SplitMix64 :=
  SplitMix64.fromSeed (forkSeed ctx.tickSeed stream)

class Phase (P : Type) (S C Snapshot : outParam Type) extends PhaseName P where
  run : TickContext C → EStateM EngineError (P × S × InMemoryReplayLog C Snapshot) Unit

/-- A phase that only calls `state_mut`. -/
def Phase.onState {P S C Snapshot : Type} (act : P → TickContext C → EStateM EngineError S Unit)
    (ctx : TickContext C) : EStateM EngineError (P × S × InMemoryReplayLog C Snapshot) Unit :=
  fun (phase, state, log) =>
    match act phase ctx state with
    | .ok () state => .ok () (phase, state, log)
    | .error e state => .error e (phase, state, log)

structure TickResult (Snapshot : Type) where
  tick : Tick
  checksum : UInt64
  snapshot : Option Snapshot
  deriving DecidableEq, Repr

structure DeterministicEngine (S C P V Snapshot : Type) where
  seed : Seed
  state : S
  replayLog : InMemoryReplayLog C Snapshot
  scheduler : FixedScheduler P
  snapshotPolicy : SnapshotPolicy
  validationPolicy : ValidationPolicy
  validator : V

/-- The match on the group just run and the group of the next entry of the plan. -/
def checkpointAfter (group : PhaseGroup) (next : Option PhaseGroup) :
    Option ValidationCheckpoint :=
  match group, next with
  | .input, some next => if next ≠ .input then some .afterInputApplied else none
  | .input, none => some .afterInputApplied
  | .simulation, some next => if next ≠ .simulation then some .afterSimulationGroup else none
  | .simulation, none => some .afterSimulationGroup
  | .finalize, _ => some .afterFinalize
  | _, _ => none

section Validate
variable {S C V Snapshot : Type} [SimulationState S Snapshot] [StateValidator V S]

def validateAndRecord (validator : V) (context : ValidationContext) :
    EStateM EngineError (S × InMemoryReplayLog C Snapshot) Unit := fun (state, log) =>
  match StateValidator.validate validator context state with
  | .error e => .error e (state, log)
  | .ok () =>
    match log.recordValidation
        ⟨context.checkpoint, SimulationState.tick state, SimulationState.checksum state⟩ with
    | .error e => .error e (state, log)
    | .ok log => .ok () (state, log)

end Validate

namespace DeterministicEngine
variable {S C P V Snapshot : Type} [SimulationState S Snapshot] [Phase P S C Snapshot]
  [StateValidator V S]

abbrev Call (S C P V Snapshot α : Type) :=
  EStateM EngineError (DeterministicEngine S C P V Snapshot) α

def onLog (f : InMemoryReplayLog C Snapshot → Except EngineError (InMemoryReplayLog C Snapshot)) :
    Call S C P V Snapshot Unit := fun e =>
  match f e.replayLog with
  | .ok log => .ok () { e with replayLog := log }
  | .error err => .error err e

def validateOrderedInput (frame : InputFrame C) : Call S C P V Snapshot Tick := fun e =>
  let expected := saturatingAddU64 (SimulationState.tick e.state) 1
  if frame.tick ≠ expected then .error (.unexpectedInputTick expected frame.tick) e
  else .ok frame.tick e

def recordReplayInputBegin (frame : InputFrame C) (tickSeed : Seed) :
    Call S C P V Snapshot Unit := onLog fun log => log.beginTick frame tickSeed

def runValidationCheckpoint (checkpoint : ValidationCheckpoint) (tick : Tick) (tickSeed : Seed) :
    Call S C P V Snapshot Unit := fun e =>
  if !e.validationPolicy.shouldValidate checkpoint then .ok () e
  else
    match validateAndRecord e.validator ⟨checkpoint, tick, tickSeed⟩ (e.state, e.replayLog) with
    | .ok () (state, log) => .ok () { e with state := state, replayLog := log }
    | .error err (state, log) => .error err { e with state := state, replayLog := log }

/-- The closure handed to the scheduler; its last component is `phase_index`. -/
def phaseVisitor (plan : List PhaseDescriptor) (policy : ValidationPolicy) (validator : V)
    (ctx : TickContext C) (d : PhaseDescriptor) :
    EStateM EngineError (P × S × InMemoryReplayLog C Snapshot × ℕ) Unit :=
  fun (phase, state, log, index) =>
    match log.recordPhase (PhaseMarker.fromDescriptor d) with
    | .error e => .error e (phase, state, log, index)
    | .ok log =>
      match Phase.run ctx (phase, state, log) with
      | .error e (phase, state, log) =>
        .error (.phaseFailed ctx.tick d.group.asStr d.name e.display) (phase, state, log, index)
      | .ok () (phase, state, log) =>
        let next := plan[index + 1]?.map (·.group)
        match (checkpointAfter d.group next).filter policy.shouldValidate with
        | none => .ok () (phase, state, log, index + 1)
        | some checkpoint =>
          match validateAndRecord validator ⟨checkpoint, ctx.tick, ctx.tickSeed⟩ (state, log) with
          | .error e (state, log) => .error e (phase, state, log, index + 1)
          | .ok () (state, log) => .ok () (phase, state, log, index + 1)

def runSchedulerPhases (frame : InputFrame C) (tick : Tick) (tickSeed : Seed) :
    Call S C P V Snapshot Unit := fun e =>
  let ctx : TickContext C := ⟨e.seed, tickSeed, tick, frame⟩
  let visitor := phaseVisitor e.scheduler.phasePlan e.validationPolicy e.validator ctx
  match FixedScheduler.visitPhases visitor (e.scheduler, e.state, e.replayLog, 0) with
  | .ok () (scheduler, state, log, _) =>
    .ok () { e with scheduler := scheduler, state := state, replayLog := log }
  | .error err (scheduler, state, log, _) =>
    .error err { e with scheduler := scheduler, state := state, replayLog := log }

def applySnapshotPolicy (e : DeterministicEngine S C P V Snapshot) (tick : Tick)
    (checksum : UInt64) : Option (SnapshotRecord Snapshot) :=
  (e.snapshotPolicy.shouldCapture tick).map fun reason =>
    ⟨⟨SimulationState.snapshotSchemaVersion S, tick, checksum⟩, reason,
      SimulationState.snapshot e.state⟩

def finalizeReplayRecord (checksum : UInt64) (snapshot : Option (SnapshotRecord Snapshot)) :
    Call S C P V Snapshot Unit := onLog fun log => log.completeTick checksum snapshot

def tick (frame : InputFrame C) : Call S C P V Snapshot (TickResult Snapshot) := do
  let tick ← validateOrderedInput frame
  let tickSeed := tickSeed (← get).seed tick
  recordReplayInputBegin frame tickSeed
  runValidationCheckpoint .beforeTickBegin tick tickSeed
  runSchedulerPhases frame tick tickSeed
  modify fun e => { e with state := SimulationState.setTick e.state tick }
  let e ← get
  let checksum := SimulationState.checksum e.state
  let snapshotRecord := e.applySnapshotPolicy tick checksum
  finalizeReplayRecord checksum snapshotRecord
  pure ⟨tick, checksum, snapshotRecord.map (·.payload)⟩

def manualSnapshot (e : DeterministicEngine S C P V Snapshot) : SnapshotRecord Snapshot :=
  let payload := SimulationState.snapshot e.state
  ⟨⟨SimulationState.snapshotSchemaVersion S, SimulationState.snapshotTick S payload,
    SimulationState.snapshotChecksum S payload⟩, .manual, payload⟩

def restoreSnapshot (e : DeterministicEngine S C P V Snapshot) (snapshot : Snapshot) :
    Outcome (DeterministicEngine S C P V Snapshot) := do
  let state ← (SimulationState.restoreSnapshot e.state snapshot).mapError Failure.panicked
  pure { e with state := state }

def replayRecords (e : DeterministicEngine S C P V Snapshot) :
    List (ReplayTickRecord C Snapshot) := e.replayLog.records

end DeterministicEngine

end XenorEngine.Rust
