import XenorEngine.Cpp.Engine

/-!
# What a step and a run do

The trace is written and never read, so an engine may be looked at without it. With
systems that do not throw a step goes through as long as the elapsed duration of its
tick is representable, and it leaves the tick of the clock in the state.
-/

namespace XenorEngine.Cpp
open XenorEngine.Lib.Fallible

namespace SimulationEngine
variable {Data Input : Type}

/-! ### Engines without their trace -/

/-- Tracing switched off and the trace cleared. -/
def untraced (engine : SimulationEngine Data Input) : SimulationEngine Data Input :=
  engine.disableReplayCapture.clearReplayTrace

theorem recordReplayEvent_untraced (event : ReplayEvent Input)
    (engine : SimulationEngine Data Input) :
    recordReplayEvent event engine.untraced = (recordReplayEvent event engine).untraced := by
  unfold recordReplayEvent
  cases engine.replayCaptureEnabled <;> rfl

theorem recordReplayInput_untraced (tick : UInt64) (elapsed : Int64) (input : Option Input)
    (engine : SimulationEngine Data Input) :
    recordReplayInput tick elapsed input engine.untraced =
      (recordReplayInput tick elapsed input engine).untraced := by
  cases input with
  | none => rfl
  | some input => exact recordReplayEvent_untraced _ engine

theorem onClock_untraced
    (f : ∀ config, SimulationClock config → Except Exception (SimulationClock config)) :
    Commutes untraced (onClock f : Call Data Input Unit) := by
  intro engine
  have hclock : f engine.untraced.config engine.untraced.clock = f engine.config engine.clock := rfl
  unfold onClock
  rw [hclock]
  cases f engine.config engine.clock <;> rfl

theorem callSystem_untraced (context : StepContext Input)
    (system : RegisteredSystem Data Input) :
    Commutes (Prod.map untraced id) (callSystem context system) := by
  rintro ⟨engine, rng⟩
  have hstate : engine.untraced.state = engine.state := rfl
  change callSystem context system (engine.untraced, rng) = _
  unfold callSystem
  simp only [hstate]
  cases system.callback context (engine.state, rng) <;> rfl

theorem runSystem_untraced (context : StepContext Input) (system : RegisteredSystem Data Input) :
    Commutes (Prod.map untraced id) (runSystem context system) := by
  refine commutes_bind (commutes_modify fun s => ?_) fun _ => callSystem_untraced context system
  exact Prod.ext (recordReplayEvent_untraced _ s.1) rfl

theorem runSystems_untraced (context : StepContext Input)
    (systems : List (RegisteredSystem Data Input)) :
    Commutes (Prod.map untraced id) (runSystems context systems) := by
  refine commutes_forM fun phase _ => commutes_forM fun system _ => ?_
  by_cases hphase : system.phase ≠ phase
  · rw [if_pos hphase]
    exact commutes_pure _ ()
  · rw [if_neg hphase]
    exact runSystem_untraced context system

theorem withStepRng_untraced (rng : DeterministicRng)
    {call : EStateM Exception (SimulationEngine Data Input × DeterministicRng) Unit}
    (hcall : Commutes (Prod.map untraced id) call) : Commutes untraced (withStepRng rng call) := by
  intro engine
  have hsame := hcall (engine, rng)
  unfold withStepRng
  change call (engine.untraced, rng) = _ at hsame
  rw [hsame]
  cases call (engine, rng) <;> rfl

theorem stepImpl_untraced (input : Option Input) :
    Commutes untraced (stepImpl input : Call Data Input Unit) := by
  refine commutes_get_bind (fun engine => rfl) fun engine => ?_
  refine commutes_bind (commutes_liftExcept _ _) fun _ => ?_
  refine commutes_bind (commutes_liftExcept _ _) fun elapsed => ?_
  refine commutes_bind (commutes_modify (recordReplayEvent_untraced _)) fun _ => ?_
  refine commutes_bind (commutes_modify (recordReplayInput_untraced _ _ _)) fun _ => ?_
  refine commutes_bind (withStepRng_untraced _ (runSystems_untraced _ _)) fun _ => ?_
  refine commutes_bind (onClock_untraced _) fun _ => ?_
  refine commutes_bind (commutes_modify fun engine => rfl) fun _ => ?_
  refine commutes_get_bind (fun engine => rfl) fun engine => ?_
  refine commutes_bind (commutes_liftExcept _ _) fun elapsed => ?_
  exact commutes_modify (recordReplayEvent_untraced _)

theorem runForSequence_untraced (inputs : List Input) :
    Commutes untraced (runForSequence inputs : Call Data Input Unit) :=
  commutes_forM fun input _ => stepImpl_untraced (some input)

/-! ### What the systems leave alone -/

/-- What the systems of a step have no access to. -/
def frame (engine : SimulationEngine Data Input) :
    SimulationConfig × UInt64 × List (RegisteredSystem Data Input) :=
  (engine.config, engine.clock.currentTick, engine.systems)

@[simp] theorem frame_recordReplayEvent (event : ReplayEvent Input)
    (engine : SimulationEngine Data Input) :
    (recordReplayEvent event engine).frame = engine.frame := by
  unfold recordReplayEvent
  cases engine.replayCaptureEnabled <;> rfl

@[simp] theorem frame_recordReplayInput (tick : UInt64) (elapsed : Int64) (input : Option Input)
    (engine : SimulationEngine Data Input) :
    (recordReplayInput tick elapsed input engine).frame = engine.frame := by
  cases input with
  | none => rfl
  | some input => exact frame_recordReplayEvent _ engine

section Frame
variable (I : SimulationConfig × UInt64 × List (RegisteredSystem Data Input) → Prop)

theorem runSystem_frame (context : StepContext Input) (system : RegisteredSystem Data Input) :
    Preserves (fun s => I s.1.frame) (runSystem context system) := by
  refine preserves_bind (preserves_modify fun s hs => ?_) fun _ => ?_
  · change I (recordReplayEvent _ s.1).frame
    rwa [frame_recordReplayEvent]
  · rintro ⟨engine, rng⟩ hs
    unfold callSystem
    dsimp only
    cases system.callback context (engine.state, rng) <;> exact hs

theorem runSystems_frame (context : StepContext Input)
    (systems : List (RegisteredSystem Data Input)) :
    Preserves (fun s => I s.1.frame) (runSystems context systems) := by
  refine preserves_forM fun phase _ => preserves_forM fun system _ => ?_
  by_cases hphase : system.phase ≠ phase
  · rw [if_pos hphase]
    exact preserves_pure ()
  · rw [if_neg hphase]
    exact runSystem_frame I context system

theorem withStepRng_frame (rng : DeterministicRng) (context : StepContext Input)
    (systems : List (RegisteredSystem Data Input)) :
    Preserves (fun engine => I engine.frame) (withStepRng rng (runSystems context systems)) := by
  intro engine hengine
  have hrun := runSystems_frame I context systems (engine, rng) hengine
  unfold withStepRng
  revert hrun
  cases runSystems context systems (engine, rng) <;> exact id

end Frame

/-- Neither a step that succeeds nor one that fails changes the configuration or the
systems. -/
def SameSetup (engine other : SimulationEngine Data Input) : Prop :=
  other.config = engine.config ∧ other.systems = engine.systems

theorem onClock_ok
    {f : ∀ config, SimulationClock config → Except Exception (SimulationClock config)}
    {engine : SimulationEngine Data Input} {clock : SimulationClock engine.config}
    (hclock : f engine.config engine.clock = .ok clock) :
    onClock f engine = .ok () { engine with clock := clock } := by
  unfold onClock
  rw [hclock]

theorem onClock_setup (first : SimulationEngine Data Input)
    (f : ∀ config, SimulationClock config → Except Exception (SimulationClock config)) :
    Preserves first.SameSetup (onClock f) := by
  intro engine hengine
  unfold onClock
  cases f engine.config engine.clock <;> exact hengine

theorem stepImpl_setup (first : SimulationEngine Data Input) (input : Option Input) :
    Preserves first.SameSetup (stepImpl input) := by
  let I (frame : SimulationConfig × UInt64 × List (RegisteredSystem Data Input)) : Prop :=
    frame.1 = first.config ∧ frame.2.2 = first.systems
  have hrecord (event : ReplayEvent Input) : Preserves first.SameSetup
      (modify (recordReplayEvent event) : Call Data Input PUnit) := by
    refine preserves_modify fun engine hengine => ?_
    change I (recordReplayEvent event engine).frame
    rwa [frame_recordReplayEvent]
  refine preserves_bind preserves_get fun engine => ?_
  refine preserves_bind (preserves_liftExcept _) fun _ => ?_
  refine preserves_bind (preserves_liftExcept _) fun elapsed => ?_
  refine preserves_bind (hrecord _) fun _ => ?_
  refine preserves_bind (preserves_modify fun engine hengine => ?_) fun _ => ?_
  · change I (recordReplayInput _ _ input engine).frame
    rwa [frame_recordReplayInput]
  refine preserves_bind (withStepRng_frame I _ _ _) fun _ => ?_
  refine preserves_bind (onClock_setup first _) fun _ => ?_
  refine preserves_bind (preserves_modify fun engine hengine => hengine) fun _ => ?_
  refine preserves_bind preserves_get fun engine => ?_
  exact preserves_bind (preserves_liftExcept _) fun elapsed => hrecord _

theorem runForSequence_setup (first : SimulationEngine Data Input) (inputs : List Input) :
    Preserves first.SameSetup (runForSequence inputs) :=
  preserves_forM fun input _ => stepImpl_setup first (some input)

/-! ### Steps that succeed -/

end SimulationEngine

/-- The callback returns normally in every context that has an input; without one `input()`
throws. -/
def RegisteredSystem.ReturnsOnInput {Data Input : Type} (system : RegisteredSystem Data Input) :
    Prop := ∀ context, context.input ≠ none → Total (system.callback context)

namespace SimulationEngine
variable {Data Input : Type}

theorem runSystem_total_at {context : StepContext Input} {system : RegisteredSystem Data Input}
    (hquiet : Total (system.callback context)) : Total (runSystem context system) := by
  refine total_bind (total_modify _) fun _ => ?_
  rintro ⟨engine, rng⟩
  obtain ⟨_, ⟨state, rng'⟩, hcall⟩ := hquiet (engine.state, rng)
  refine ⟨(), ({ engine with state := state }, rng'), ?_⟩
  unfold callSystem
  dsimp only
  rw [hcall]

theorem runSystems_total_at {context : StepContext Input}
    {systems : List (RegisteredSystem Data Input)}
    (hquiet : ∀ system ∈ systems, Total (system.callback context)) :
    Total (runSystems context systems) := by
  refine total_forM fun phase _ => total_forM fun system hsystem => ?_
  by_cases hphase : system.phase ≠ phase
  · rw [if_pos hphase]
    exact fun s => ⟨(), s, rfl⟩
  · rw [if_neg hphase]
    exact runSystem_total_at (hquiet system hsystem)

theorem withStepRng_total (rng : DeterministicRng)
    {call : EStateM Exception (SimulationEngine Data Input × DeterministicRng) Unit}
    (hcall : Total call) : Total (withStepRng rng call) := by
  intro engine
  obtain ⟨_, ⟨engine', rng'⟩, hrun⟩ := hcall (engine, rng)
  refine ⟨(), engine', ?_⟩
  unfold withStepRng
  rw [hrun]

/-- Clock and state hold the same tick, and its elapsed duration is representable. -/
structure Aligned (engine : SimulationEngine Data Input) : Prop where
  state_tick : engine.state.lastCompletedTick = engine.clock.currentTick
  elapsed_fits : engine.config.Representable engine.clock.currentTick.toNat

/-- What `n` successful steps come to, the data of the state apart. -/
structure Advanced (n : ℕ) (engine last : SimulationEngine Data Input) : Prop where
  setup : engine.SameSetup last
  tick : last.clock.currentTick.toNat = engine.clock.currentTick.toNat + n
  aligned : last.Aligned

theorem advanced_trans {m n : ℕ} {engine mid last : SimulationEngine Data Input}
    (hmid : Advanced m engine mid) (hlast : Advanced n mid last) :
    Advanced (m + n) engine last where
  setup := ⟨hlast.setup.1.trans hmid.setup.1, hlast.setup.2.trans hmid.setup.2⟩
  tick := by rw [hlast.tick, hmid.tick, Nat.add_assoc]
  aligned := hlast.aligned

theorem advance_ok {config : SimulationConfig} {clock : SimulationClock config}
    (hroom : clock.currentTick.toNat + 1 < 2 ^ 64) :
    clock.advance = .ok ⟨clock.currentTick + 1⟩ := by
  unfold SimulationClock.advance SimulationClock.advanceBy
  rw [if_neg]
  have hmax : maxTick.toNat = 2 ^ 64 - 1 := rfl
  have hle : clock.currentTick ≤ maxTick := by
    rw [UInt64.le_iff_toNat_le]
    omega
  rw [gt_iff_lt, UInt64.lt_iff_toNat_lt, UInt64.toNat_sub_of_le _ _ hle]
  change ¬maxTick.toNat - clock.currentTick.toNat < 1
  omega

/-! ### A step in full -/

/-- The context of the next step. -/
def stepContext (engine : SimulationEngine Data Input) (input : Option Input) :
    StepContext Input where
  tick := engine.clock.currentTick + 1
  tickDuration := engine.config.tickDuration
  elapsed := engine.config.tickDuration * (engine.clock.currentTick + 1).toInt64
  seed := engine.config.seed
  stepSeed := deriveStepSeed engine.config.seed (engine.clock.currentTick + 1)
  input := input

/-- What a step records before its systems run. -/
def started (context : StepContext Input) (engine : SimulationEngine Data Input) :
    SimulationEngine Data Input :=
  recordReplayInput context.tick context.elapsed context.input
    (recordReplayEvent (.tickStarted context.tick context.elapsed context.stepSeed) engine)

/-- The engine before the step's last event is recorded. -/
def ticked (context : StepContext Input) (engine : SimulationEngine Data Input) :
    SimulationEngine Data Input :=
  { engine with
    clock := ⟨context.tick⟩
    state := engine.state.setLastCompletedTick context.tick }

def completed (context : StepContext Input) (engine : SimulationEngine Data Input) :
    SimulationEngine Data Input :=
  recordReplayEvent (.tickCompleted context.tick context.elapsed) (engine.ticked context)

/-- All that a step does once its elapsed duration is known to fit. -/
def stepWith (context : StepContext Input) : Call Data Input Unit := fun engine =>
  match withStepRng ⟨context.stepSeed⟩ (runSystems context engine.systems)
      (engine.started context) with
  | .ok () ran => .ok () (ran.completed context)
  | .error exception ran => .error exception ran

@[simp] theorem frame_started (context : StepContext Input)
    (engine : SimulationEngine Data Input) : (engine.started context).frame = engine.frame := by
  simp [started]

theorem next_toNat {engine : SimulationEngine Data Input}
    (hfit : engine.config.Representable (engine.clock.currentTick.toNat + 1)) :
    (engine.clock.currentTick + 1).toNat = engine.clock.currentTick.toNat + 1 := by
  have hlt := representable_lt hfit
  rw [UInt64.toNat_add, UInt64.toNat_one]
  omega

theorem elapsedDurationAt_next {engine : SimulationEngine Data Input} (input : Option Input)
    (hfit : engine.config.Representable (engine.clock.currentTick.toNat + 1)) :
    engine.clock.elapsedDurationAt (engine.clock.currentTick + 1) =
      .ok (engine.stepContext input).elapsed :=
  checkedDurationProduct_of (by rwa [next_toNat hfit])

theorem stepContext_elapsed {engine : SimulationEngine Data Input} (input : Option Input)
    (hfit : engine.config.Representable (engine.clock.currentTick.toNat + 1)) :
    (engine.stepContext input).elapsed.toInt =
      (engine.clock.currentTick.toNat + 1) * engine.config.tickDuration.toInt := by
  have hnext : engine.config.Representable (engine.clock.currentTick + 1).toNat := by
    rwa [next_toNat hfit]
  have hexact := duration_mul_toInt hnext
  rw [next_toNat hfit, Nat.cast_add, Nat.cast_one] at hexact
  exact hexact

theorem ne_maxTick {engine : SimulationEngine Data Input}
    (hfit : engine.config.Representable (engine.clock.currentTick.toNat + 1)) :
    engine.clock.currentTick ≠ maxTick := by
  intro heq
  have hlt := representable_lt hfit
  have hmax : maxTick.toNat = 2 ^ 64 - 1 := rfl
  rw [heq] at hlt
  omega

/- The systems do not touch the clock, so advancing it cannot fail after them. -/
theorem finish_ok {engine ran : SimulationEngine Data Input} (input : Option Input)
    (hfit : engine.config.Representable (engine.clock.currentTick.toNat + 1))
    (hframe : ran.frame = engine.frame) :
    onClock (fun _ clock => clock.advance) ran =
        .ok () { ran with clock := ⟨(engine.stepContext input).tick⟩ } ∧
      (ran.ticked (engine.stepContext input)).clock.elapsedDuration =
        .ok (engine.stepContext input).elapsed := by
  have hconfig : ran.config = engine.config := congrArg Prod.fst hframe
  have htick : ran.clock.currentTick = engine.clock.currentTick :=
    congrArg (fun frame => frame.2.1) hframe
  have hlt := representable_lt hfit
  have hadvance : ran.clock.advance = .ok ⟨(engine.stepContext input).tick⟩ := by
    rw [advance_ok (by rw [htick]; omega), htick]
    rfl
  refine ⟨onClock_ok hadvance, ?_⟩
  change checkedDurationProduct ran.config.tickDuration (engine.clock.currentTick + 1) = _
  rw [hconfig]
  exact elapsedDurationAt_next input hfit

theorem stepImpl_of_representable {engine : SimulationEngine Data Input} (input : Option Input)
    (hfit : engine.config.Representable (engine.clock.currentTick.toNat + 1)) :
    stepImpl input engine = stepWith (engine.stepContext input) engine := by
  let context := engine.stepContext input
  have hguard : rejectIf (engine.clock.currentTick = maxTick)
      (Exception.overflowError "simulation tick overflow") = .ok () :=
    rejectIf_eq_ok.mpr (ne_maxTick hfit)
  have helapsed := elapsedDurationAt_next input hfit
  have hkeep := withStepRng_frame (fun frame => frame = engine.frame) ⟨context.stepSeed⟩ context
    engine.systems (engine.started context) (frame_started context engine)
  unfold stepWith
  cases hrun : withStepRng ⟨context.stepSeed⟩ (runSystems context engine.systems)
      (engine.started context) with
  | error exception ran =>
    refine estate_bind_error.mpr (.inr ⟨engine, engine, rfl, ?_⟩)
    refine estate_bind_error.mpr (.inr ⟨(), engine, liftExcept_ok.mpr ⟨hguard, rfl⟩, ?_⟩)
    refine estate_bind_error.mpr (.inr ⟨_, engine, liftExcept_ok.mpr ⟨helapsed, rfl⟩, ?_⟩)
    refine estate_bind_error.mpr (.inr ⟨_, _, rfl, ?_⟩)
    exact estate_bind_error.mpr (.inr ⟨_, engine.started context, rfl,
      estate_bind_error.mpr (.inl hrun)⟩)
  | ok _ ran =>
    rw [hrun] at hkeep
    obtain ⟨hadvance, hcompleted⟩ := finish_ok input hfit hkeep
    refine estate_bind_ok.mpr ⟨engine, engine, rfl, ?_⟩
    refine estate_bind_ok.mpr ⟨(), engine, liftExcept_ok.mpr ⟨hguard, rfl⟩, ?_⟩
    refine estate_bind_ok.mpr ⟨_, engine, liftExcept_ok.mpr ⟨helapsed, rfl⟩, ?_⟩
    refine estate_bind_ok.mpr ⟨_, _, rfl, ?_⟩
    refine estate_bind_ok.mpr ⟨_, engine.started context, rfl, ?_⟩
    refine estate_bind_ok.mpr ⟨(), ran, hrun, ?_⟩
    refine estate_bind_ok.mpr ⟨(), _, hadvance, ?_⟩
    refine estate_bind_ok.mpr ⟨_, ran.ticked context, rfl, ?_⟩
    refine estate_bind_ok.mpr ⟨_, ran.ticked context, rfl, ?_⟩
    exact estate_bind_ok.mpr ⟨_, _, liftExcept_ok.mpr ⟨hcompleted, rfl⟩, rfl⟩

/- Where the next elapsed duration does not fit, a step throws before it does anything. -/
theorem stepImpl_of_not_representable {engine : SimulationEngine Data Input}
    (input : Option Input)
    (hfit : ¬engine.config.Representable (engine.clock.currentTick.toNat + 1)) :
    ∃ what, stepImpl input engine = .error (.overflowError what) engine := by
  by_cases hmax : engine.clock.currentTick = maxTick
  · refine ⟨"simulation tick overflow", estate_bind_error.mpr (.inr ⟨engine, engine, rfl, ?_⟩)⟩
    exact estate_bind_error.mpr
      (.inl (liftExcept_error.mpr ⟨rejectIf_eq_error.mpr ⟨hmax, rfl⟩, rfl⟩))
  · have hnext : (engine.clock.currentTick + 1).toNat = engine.clock.currentTick.toNat + 1 := by
      have hlt := engine.clock.currentTick.toNat_lt
      have hmaxNat : maxTick.toNat = 2 ^ 64 - 1 := rfl
      rw [← UInt64.toNat_inj, hmaxNat] at hmax
      rw [UInt64.toNat_add, UInt64.toNat_one]
      omega
    have hoverflow : engine.clock.elapsedDurationAt (engine.clock.currentTick + 1) =
        .error (.overflowError "simulated duration overflow") :=
      checkedDurationProduct_of_not (by rwa [hnext])
    refine ⟨"simulated duration overflow",
      estate_bind_error.mpr (.inr ⟨engine, engine, rfl, ?_⟩)⟩
    refine estate_bind_error.mpr
      (.inr ⟨(), engine, liftExcept_ok.mpr ⟨rejectIf_eq_ok.mpr hmax, rfl⟩, ?_⟩)
    exact estate_bind_error.mpr (.inl (liftExcept_error.mpr ⟨hoverflow, rfl⟩))

@[simp] theorem frame_completed (context : StepContext Input)
    (engine : SimulationEngine Data Input) :
    (engine.completed context).frame = (engine.config, context.tick, engine.systems) :=
  frame_recordReplayEvent _ (engine.ticked context)

@[simp] theorem state_recordReplayEvent (event : ReplayEvent Input)
    (engine : SimulationEngine Data Input) :
    (recordReplayEvent event engine).state = engine.state := by
  unfold recordReplayEvent
  cases engine.replayCaptureEnabled <;> rfl

/- An engine whose step has been completed is one tick further and aligned. -/
theorem advanced_completed {engine ran : SimulationEngine Data Input} (input : Option Input)
    (hfit : engine.config.Representable (engine.clock.currentTick.toNat + 1))
    (hframe : ran.frame = engine.frame) :
    Advanced 1 engine (ran.completed (engine.stepContext input)) := by
  have hlast := frame_completed (engine.stepContext input) ran
  have hconfig : (ran.completed (engine.stepContext input)).config = engine.config :=
    (congrArg Prod.fst hlast).trans (congrArg Prod.fst hframe)
  have htick : (ran.completed (engine.stepContext input)).clock.currentTick =
      engine.clock.currentTick + 1 := congrArg (fun frame => frame.2.1) hlast
  refine ⟨⟨hconfig, ?_⟩, ?_, ⟨?_, ?_⟩⟩
  · exact (congrArg (fun frame => frame.2.2) hlast).trans
      (congrArg (fun frame => frame.2.2) hframe)
  · rw [htick]
    exact next_toNat hfit
  · rw [htick, completed, state_recordReplayEvent]
    rfl
  · rw [htick, hconfig, next_toNat hfit]
    exact hfit

theorem stepImpl_ok_at {engine : SimulationEngine Data Input} (input : Option Input)
    (hquiet : ∀ system ∈ engine.systems, Total (system.callback (engine.stepContext input)))
    (hfit : engine.config.Representable (engine.clock.currentTick.toNat + 1)) :
    ∃ next, stepImpl input engine = .ok () next ∧ Advanced 1 engine next := by
  let context := engine.stepContext input
  obtain ⟨_, ran, hran⟩ := withStepRng_total ⟨context.stepSeed⟩
    (runSystems_total_at hquiet) (engine.started context)
  have hkeep := withStepRng_frame (fun frame => frame = engine.frame) ⟨context.stepSeed⟩ context
    engine.systems (engine.started context) (frame_started context engine)
  rw [hran] at hkeep
  refine ⟨ran.completed context, ?_, advanced_completed input hfit hkeep⟩
  rw [stepImpl_of_representable input hfit]
  unfold stepWith
  rw [hran]

/-! ### Runs -/

theorem runForSequence_append (xs ys : List Input) :
    (runForSequence (xs ++ ys) : Call Data Input Unit) =
      (runForSequence xs >>= fun _ => runForSequence ys) := List.forM_append

theorem runForSequence_ok_on {engine : SimulationEngine Data Input} (inputs : List Input)
    (haligned : engine.Aligned) (hquiet : ∀ system ∈ engine.systems, system.ReturnsOnInput)
    (hfit : engine.config.Representable (engine.clock.currentTick.toNat + inputs.length)) :
    ∃ last, runForSequence inputs engine = .ok () last ∧
      Advanced inputs.length engine last := by
  induction inputs generalizing engine with
  | nil => exact ⟨engine, rfl, ⟨rfl, rfl⟩, rfl, haligned⟩
  | cons input inputs ih =>
    rw [List.length_cons] at hfit
    obtain ⟨next, hstep, hnext⟩ := stepImpl_ok_at (some input)
      (fun system hsystem => hquiet system hsystem _ (Option.some_ne_none input))
      (representable_mono (by omega) hfit)
    have hquiet' : ∀ system ∈ next.systems, system.ReturnsOnInput := by
      rw [hnext.setup.2]
      exact hquiet
    have hfit' : next.config.Representable (next.clock.currentTick.toNat + inputs.length) := by
      rw [hnext.tick, hnext.setup.1]
      exact representable_mono (by omega) hfit
    obtain ⟨last, hrun, hlast⟩ := ih hnext.aligned hquiet' hfit'
    refine ⟨last, estate_bind_ok.mpr ⟨(), next, hstep, hrun⟩, ?_⟩
    rw [List.length_cons, Nat.add_comm]
    exact advanced_trans hnext hlast

/- Two engines that differ in their traces only run alike. -/
theorem runForSequence_of_untraced {engine other last : SimulationEngine Data Input}
    {inputs : List Input} (hsame : other.untraced = engine.untraced)
    (hrun : runForSequence inputs engine = .ok () last) :
    ∃ last', runForSequence inputs other = .ok () last' ∧ last'.untraced = last.untraced := by
  have hengine := runForSequence_untraced inputs engine
  have hother := runForSequence_untraced inputs other
  rw [hrun] at hengine
  rw [hsame, hengine] at hother
  obtain ⟨last', hrun', hlast'⟩ := mapState_ok.mp hother.symm
  exact ⟨last', hrun', hlast'.symm⟩

end SimulationEngine

end XenorEngine.Cpp
