import XenorEngine.Cpp.Sessions

/-!
# What a trace says about a run

The events of a tick are fixed by its number, its input and the order of the systems;
the states the systems work on do not show. So a trace holds the inputs of the run, and
a run that goes on from a checkpoint leaves the events of the run it repeats.
-/

namespace XenorEngine.Cpp
open XenorEngine.Lib.Fallible XenorEngine.Lib.Grouping

/-! ### Events of a run -/

section Events
variable {Data Input : Type}

/-- The context of a tick. -/
def tickContext (config : SimulationConfig) (tick : UInt64) (input : Option Input) :
    StepContext Input where
  tick := tick
  tickDuration := config.tickDuration
  elapsed := config.tickDuration * tick.toInt64
  seed := config.seed
  stepSeed := deriveStepSeed config.seed tick
  input := input

/-- The events of the ticks that follow `tick`. -/
def runEvents (config : SimulationConfig) (order : List (RegisteredSystem Data Input)) :
    UInt64 → List Input → List (ReplayEvent Input)
  | _, [] => []
  | tick, input :: inputs =>
    SimulationEngine.stepEvents (tickContext config (tick + 1) (some input)) order ++
      runEvents config order (tick + 1) inputs

def ReplayTrace.inputs (trace : ReplayTrace Input) : List Input := trace.events.filterMap (·.input)

variable (config : SimulationConfig) (order : List (RegisteredSystem Data Input))

theorem stepEvents_inputs (context : StepContext Input) :
    (SimulationEngine.stepEvents context order).filterMap (·.input) = context.input.toList := by
  have hsystems : (order.map (SimulationEngine.executedEvent context)).filterMap (·.input) =
      [] := by
    rw [List.filterMap_map, List.filterMap_eq_nil_iff]
    exact fun system _ => rfl
  have hinput : (context.input.toList.map
      (ReplayEvent.inputApplied context.tick context.elapsed)).filterMap (·.input) =
      context.input.toList := by
    cases context.input <;> rfl
  rw [SimulationEngine.stepEvents, List.filterMap_append, List.filterMap_append, hsystems,
    List.filterMap_cons_none rfl, hinput, List.filterMap_cons_none rfl, List.filterMap_nil,
    List.append_nil, List.append_nil]

theorem runEvents_inputs (tick : UInt64) (inputs : List Input) :
    (runEvents config order tick inputs).filterMap (·.input) = inputs := by
  induction inputs generalizing tick with
  | nil => rfl
  | cons input inputs ih =>
    rw [runEvents, List.filterMap_append, stepEvents_inputs, ih]
    rfl

theorem runEvents_append (tick : UInt64) (xs ys : List Input) :
    runEvents config order tick (xs ++ ys) =
      runEvents config order tick xs ++
        runEvents config order (tick + UInt64.ofNat xs.length) ys := by
  induction xs generalizing tick with
  | nil =>
    change _ = [] ++ runEvents config order (tick + 0) ys
    rw [UInt64.add_zero]
    rfl
  | cons x xs ih =>
    have hnext : tick + 1 + UInt64.ofNat xs.length = tick + UInt64.ofNat (x :: xs).length := by
      rw [List.length_cons, UInt64.ofNat_add, UInt64.add_assoc, UInt64.add_comm 1]
      rfl
    rw [List.cons_append, runEvents, ih, hnext, runEvents, List.append_assoc]

end Events

namespace SimulationEngine
variable {Data Input : Type}

/- A step that returns normally leaves its events, and the trace as it is otherwise. -/
theorem stepImpl_trace {engine next : SimulationEngine Data Input} {input : Option Input}
    (h : stepImpl input engine = .ok () next) :
    engine.SameSetup next ∧ next.clock.currentTick = engine.clock.currentTick + 1 ∧
      next.replayCaptureEnabled = engine.replayCaptureEnabled ∧
      next.replayTrace.seed = engine.replayTrace.seed ∧
      next.replayTrace.events = engine.replayTrace.events ++
        if engine.replayCaptureEnabled then
          stepEvents (tickContext engine.config (engine.clock.currentTick + 1) input)
            (executionOrder engine.systems)
        else [] := by
  obtain ⟨-, state, rng, -, rfl⟩ := stepImpl_eq_ok h
  obtain ⟨config, clock, old, trace, capture, systems⟩ := engine
  cases capture with
  | false => exact ⟨⟨rfl, rfl⟩, rfl, rfl, rfl, (List.append_nil _).symm⟩
  | true => exact ⟨⟨rfl, rfl⟩, rfl, rfl, rfl, rfl⟩

theorem runForSequence_trace {engine last : SimulationEngine Data Input} {inputs : List Input}
    (h : runForSequence inputs engine = .ok () last) :
    engine.SameSetup last ∧ last.replayCaptureEnabled = engine.replayCaptureEnabled ∧
      last.clock.currentTick = engine.clock.currentTick + UInt64.ofNat inputs.length ∧
      last.replayTrace.seed = engine.replayTrace.seed ∧
      last.replayTrace.events = engine.replayTrace.events ++
        if engine.replayCaptureEnabled then
          runEvents engine.config (executionOrder engine.systems) engine.clock.currentTick inputs
        else [] := by
  induction inputs generalizing engine with
  | nil =>
    obtain ⟨-, rfl⟩ := estate_pure_ok.mp h
    refine ⟨⟨rfl, rfl⟩, rfl, (UInt64.add_zero _).symm, rfl, ?_⟩
    simp [runEvents]
  | cons input inputs ih =>
    obtain ⟨_, next, hstep, hrest⟩ := estate_bind_ok.mp h
    obtain ⟨⟨hconfig, hsystems⟩, htick, hcapture, hseed, hevents⟩ := stepImpl_trace hstep
    obtain ⟨⟨hconfig', hsystems'⟩, hcapture', htick', hseed', hevents'⟩ := ih hrest
    refine ⟨⟨hconfig'.trans hconfig, hsystems'.trans hsystems⟩, hcapture'.trans hcapture, ?_,
      hseed'.trans hseed, ?_⟩
    · rw [htick', htick, List.length_cons, UInt64.ofNat_add, UInt64.add_assoc, UInt64.add_comm 1]
      rfl
    · rw [hevents', hevents, hcapture, htick, hconfig, hsystems, List.append_assoc, runEvents]
      cases engine.replayCaptureEnabled <;> rfl

/-! ### Resumed runs -/

theorem restoreSnapshot_trace {engine back : SimulationEngine Data Input}
    {snapshot : SimulationSnapshot Data} (h : restoreSnapshot snapshot engine = .ok () back) :
    engine.SameSetup back ∧ back.clock.currentTick = snapshot.tick ∧
      back.replayCaptureEnabled = engine.replayCaptureEnabled ∧
      back.replayTrace.events = engine.replayTrace.events ++
        if engine.replayCaptureEnabled then
          [.snapshotRestored snapshot.tick snapshot.elapsed]
        else [] := by
  unfold restoreSnapshot at h
  obtain ⟨source, same, hget, hchecked⟩ := estate_bind_ok.mp h
  obtain ⟨hsource, hsame⟩ := estate_get_ok.mp hget
  rw [hsource, hsame] at hchecked
  obtain ⟨_, checked, hpassed, hinstall⟩ := estate_bind_ok.mp hchecked
  obtain ⟨hvalid, hkept⟩ := liftExcept_ok.mp hpassed
  rw [hkept] at hinstall
  have hfit := (validateSnapshot_eq_ok.mp hvalid).elapsed
  unfold installSnapshot at hinstall
  obtain ⟨_, moved, hclock, hrest⟩ := estate_bind_ok.mp hinstall
  have hmove : engine.clock.restore snapshot.tick = .ok ⟨snapshot.tick⟩ :=
    bind_eq_ok.mpr ⟨snapshot.elapsed, hfit, rfl⟩
  rw [onClock_ok hmove] at hclock
  injection hclock with _ hmoved
  subst hmoved
  obtain ⟨_, installed, hmodify, hrecord⟩ := estate_bind_ok.mp hrest
  obtain rfl := estate_modify_ok.mp hmodify
  obtain rfl := estate_modify_ok.mp hrecord
  obtain ⟨config, clock, old, trace, capture, systems⟩ := engine
  cases capture with
  | false => exact ⟨⟨rfl, rfl⟩, rfl, rfl, (List.append_nil _).symm⟩
  | true => exact ⟨⟨rfl, rfl⟩, rfl, rfl, rfl⟩

/- The events of a run that follows another. -/
theorem runForSequence_events {engine mid last : SimulationEngine Data Input}
    {xs inputs : List Input} (hmid : runForSequence xs engine = .ok () mid)
    (hlast : runForSequence inputs mid = .ok () last) :
    last.replayTrace.events = mid.replayTrace.events ++
      if engine.replayCaptureEnabled then
        runEvents engine.config (executionOrder engine.systems)
          (engine.clock.currentTick + UInt64.ofNat xs.length) inputs
      else [] := by
  obtain ⟨⟨hconfig, hsystems⟩, hcapture, htick, -, -⟩ := runForSequence_trace hmid
  obtain ⟨-, -, -, -, hevents⟩ := runForSequence_trace hlast
  rw [hevents, hcapture, htick, hconfig, hsystems]

/-- A run that is cut after `head`, goes astray, comes back to the checkpoint and is
finished with `tail`, beside the run that was never cut. -/
structure Resumed (engine : SimulationEngine Data Input) (head stray tail : List Input)
    (whole mid astray back last : SimulationEngine Data Input)
    (checkpoint : SimulationSnapshot Data) : Prop where
  whole_run : runForSequence (head ++ tail) engine = .ok () whole
  head_run : runForSequence head engine = .ok () mid
  captured : mid.captureSnapshot = .ok checkpoint
  stray_run : runForSequence stray mid = .ok () astray
  restored : restoreSnapshot checkpoint astray = .ok () back
  tail_run : runForSequence tail back = .ok () last
  same : last.untraced = whole.untraced

theorem exists_resumed {engine : SimulationEngine Data Input} (hfresh : engine.Fresh)
    (head stray tail : List Input) (hfit : engine.config.Representable (head ++ tail).length)
    (hstray : engine.config.Representable (head ++ stray).length) :
    ∃ whole mid astray back last checkpoint,
      Resumed engine head stray tail whole mid astray back last checkpoint := by
  have hzero : engine.clock.currentTick.toNat = 0 := by
    rw [hfresh.clock]
    rfl
  have hruns (inputs : List Input) (hfits : engine.config.Representable inputs.length) :
      ∃ last, runForSequence inputs engine = .ok () last ∧
        Advanced inputs.length engine last :=
    runForSequence_ok_on inputs hfresh.aligned hfresh.quiet (by rwa [hzero, Nat.zero_add])
  obtain ⟨whole, hwhole, -⟩ := hruns (head ++ tail) hfit
  obtain ⟨astray, hastray, -⟩ := hruns (head ++ stray) hstray
  obtain ⟨mid, hmid, hadvanced⟩ :=
    hruns head (representable_mono (by rw [List.length_append]; omega) hfit)
  have hrest {inputs : List Input} {last : SimulationEngine Data Input}
      (hrun : runForSequence (head ++ inputs) engine = .ok () last) :
      runForSequence inputs mid = .ok () last := by
    rw [runForSequence_append] at hrun
    obtain ⟨_, mid', hmid', hlast⟩ := estate_bind_ok.mp hrun
    rw [hmid] at hmid'
    injection hmid' with _ hsame
    rwa [hsame]
  obtain ⟨checkpoint, hcaptured⟩ := captureSnapshot_of_aligned hadvanced.aligned
  obtain ⟨hsetup, -⟩ := runForSequence_trace (hrest hastray)
  obtain ⟨back, hrestored, hback⟩ := restoreSnapshot_captured hadvanced.aligned hsetup hcaptured
  obtain ⟨last, htail, hlast⟩ := runForSequence_of_untraced hback (hrest hwhole)
  exact ⟨whole, mid, astray, back, last, checkpoint,
    hwhole, hmid, hcaptured, hrest hastray, hrestored, htail, hlast⟩

/- What the engines of a resumed run have recorded. -/
theorem Resumed.events {engine whole mid astray back last : SimulationEngine Data Input}
    {head stray tail : List Input} {checkpoint : SimulationSnapshot Data}
    (h : Resumed engine head stray tail whole mid astray back last checkpoint)
    (hcapture : engine.replayCaptureEnabled = true) :
    let events := runEvents engine.config (executionOrder engine.systems)
    let tick := engine.clock.currentTick
    let tick' := tick + UInt64.ofNat head.length
    whole.replayTrace.events = engine.replayTrace.events ++ (events tick head ++ events tick' tail) ∧
      mid.replayTrace.events = engine.replayTrace.events ++ events tick head ∧
      astray.replayTrace.events = mid.replayTrace.events ++ events tick' stray ∧
      last.replayTrace.events = astray.replayTrace.events ++
        .snapshotRestored checkpoint.tick checkpoint.elapsed :: events tick' tail := by
  intro events tick tick'
  obtain ⟨-, -, -, -, hwhole⟩ := runForSequence_trace h.whole_run
  obtain ⟨⟨hconfig, hsystems⟩, hcapture1, htick, -, hmid⟩ := runForSequence_trace h.head_run
  obtain ⟨⟨hconfig2, hsystems2⟩, hcapture2, -, -, -⟩ := runForSequence_trace h.stray_run
  obtain ⟨⟨hconfig3, hsystems3⟩, htick3, hcapture3, hback⟩ := restoreSnapshot_trace h.restored
  obtain ⟨-, -, -, -, hlast⟩ := runForSequence_trace h.tail_run
  have hcheckpoint : checkpoint.tick = tick' := by
    rw [congrArg SimulationSnapshot.tick (captureSnapshot_eq_ok.mp h.captured).2]
    exact htick
  refine ⟨?_, ?_, ?_, ?_⟩
  · rw [hwhole, if_pos hcapture, runEvents_append]
  · rw [hmid, if_pos hcapture]
  · rw [runForSequence_events h.head_run h.stray_run, if_pos hcapture]
  · rw [hlast, hback, hcapture3, hcapture2, hcapture1, if_pos hcapture, if_pos hcapture, htick3,
      hcheckpoint, hconfig3, hconfig2, hconfig, hsystems3, hsystems2, hsystems, List.append_assoc]
    rfl

/- Take the stray events and the restore out of the trace of a resumed run, and the trace
of the run that was never cut is left. -/
theorem resumed_trace_repeats {config : SimulationConfig} {initialState : SimulationState Data}
    {engine : SimulationEngine Data Input} (hbuilt : Built config initialState engine)
    (hquiet : ∀ system ∈ engine.systems, system.ReturnsOnInput) {head tail stray : List Input}
    (hfit : config.Representable (head ++ tail).length)
    (hstray : config.Representable (head ++ stray).length) :
    ∃ whole mid astray back last checkpoint between after,
      Resumed engine.enableReplayCapture head stray tail whole mid astray back last checkpoint ∧
      whole.captureSnapshot = last.captureSnapshot ∧
      astray.replayTrace.events = mid.replayTrace.events ++ between ∧
      last.replayTrace.events = mid.replayTrace.events ++ between ++
        .snapshotRestored checkpoint.tick checkpoint.elapsed :: after ∧
      whole.replayTrace.events = mid.replayTrace.events ++ after ∧
      whole.replayTrace.inputs = head ++ tail ∧
      last.replayTrace.inputs = head ++ stray ++ tail := by
  have hbuilt' : Built config initialState engine.enableReplayCapture :=
    .enableReplayCapture hbuilt
  have hconfig : engine.enableReplayCapture.config = config := (built_tick hbuilt').1
  have hfresh : engine.enableReplayCapture.Fresh :=
    ⟨(built_tick hbuilt').2.1, built_aligned hbuilt', hquiet⟩
  obtain ⟨whole, mid, astray, back, last, checkpoint, h⟩ :=
    exists_resumed hfresh head stray tail (by rwa [hconfig]) (by rwa [hconfig])
  obtain ⟨hwhole, hmid, hastray, hlast⟩ := h.events rfl
  have hnone : engine.enableReplayCapture.replayTrace.events = [] := rfl
  rw [hnone, List.nil_append] at hwhole hmid
  refine ⟨whole, mid, astray, back, last, checkpoint, _, _, h, ?_, hastray, hastray ▸ hlast,
    hmid ▸ hwhole, ?_, ?_⟩
  · change whole.untraced.captureSnapshot = last.untraced.captureSnapshot
    rw [h.same]
  · rw [ReplayTrace.inputs, hwhole, List.filterMap_append, runEvents_inputs, runEvents_inputs]
  · rw [ReplayTrace.inputs, hlast, hastray, hmid, List.filterMap_append, List.filterMap_append,
      List.filterMap_cons_none rfl, runEvents_inputs, runEvents_inputs, runEvents_inputs]

theorem resumed_trace_repeats_drawing :
    ∃ whole mid astray back last checkpoint,
      Resumed drawing.enableReplayCapture [3] [7] [4] whole mid astray back last checkpoint ∧
      whole.replayTrace.inputs = [3, 4] ∧ last.replayTrace.inputs = [3, 7, 4] := by
  obtain ⟨whole, mid, astray, back, last, checkpoint, _, _, h, -, -, -, -, hwhole, hlast⟩ :=
    resumed_trace_repeats drawing_built drawing_quiet
      (by decide : oneMillisecond.Representable ([3] ++ [4] : List UInt64).length)
      (by decide : oneMillisecond.Representable ([3] ++ [7] : List UInt64).length)
  exact ⟨whole, mid, astray, back, last, checkpoint, h, hwhole, hlast⟩

end SimulationEngine

/-! ### Comparing traces -/

section Compare
variable {Data Data' Input : Type}

/-- What a step calls, by phase and name. -/
def callSequence (systems : List (RegisteredSystem Data Input)) : List (SystemPhase × String) :=
  (executionOrder systems).map fun system => (system.phase, system.name)

theorem executedEvents_eq (context : StepContext Input)
    (systems : List (RegisteredSystem Data Input)) :
    (executionOrder systems).map (SimulationEngine.executedEvent context) =
      (callSequence systems).map fun called =>
        .systemExecuted context.tick context.elapsed called.1 called.2 := by
  rw [callSequence, List.map_map]
  rfl

theorem runEvents_congr {config : SimulationConfig}
    {systems : List (RegisteredSystem Data Input)} {systems' : List (RegisteredSystem Data' Input)}
    (hcalls : callSequence systems = callSequence systems') (tick : UInt64) (inputs : List Input) :
    runEvents config (executionOrder systems) tick inputs =
      runEvents config (executionOrder systems') tick inputs := by
  induction inputs generalizing tick with
  | nil => rfl
  | cons input inputs ih =>
    rw [runEvents, runEvents, ih, SimulationEngine.stepEvents, SimulationEngine.stepEvents,
      executedEvents_eq, executedEvents_eq, hcalls]

/- The events of the systems are those up to the one that completes the tick. -/
theorem executedEvents_of_append {context context' : StepContext Input}
    {order : List (RegisteredSystem Data Input)} {order' : List (RegisteredSystem Data' Input)}
    {rest rest' : List (ReplayEvent Input)}
    (h : order.map (SimulationEngine.executedEvent context) ++
        (.tickCompleted context.tick context.elapsed :: rest) =
      order'.map (SimulationEngine.executedEvent context') ++
        (.tickCompleted context'.tick context'.elapsed :: rest')) :
    order.map (fun system => (system.phase, system.name)) =
      order'.map (fun system => (system.phase, system.name)) := by
  induction order generalizing order' with
  | nil =>
    cases order' with
    | nil => rfl
    | cons system' order' =>
      have hkind := congrArg ReplayEvent.kind (List.cons.inj h).1
      cases hkind
  | cons system order ih =>
    cases order' with
    | nil =>
      have hkind := congrArg ReplayEvent.kind (List.cons.inj h).1
      cases hkind
    | cons system' order' =>
      obtain ⟨hevent, hrest⟩ := List.cons.inj h
      have hphase : system.phase = system'.phase := congrArg ReplayEvent.phase hevent
      have hname : system.name = system'.name := congrArg ReplayEvent.systemName hevent
      rw [List.map_cons, List.map_cons, hphase, hname, ih hrest]

theorem elapsed_first (config : SimulationConfig) (input : Option Input) :
    (tickContext config (0 + 1) input).elapsed = config.tickDuration := by
  change config.tickDuration * 1 = _
  exact Int64.mul_one config.tickDuration

/- The first tick of a run gives away the tick duration and what was called. -/
theorem first_tick_of_runEvents {config config' : SimulationConfig}
    {systems : List (RegisteredSystem Data Input)} {systems' : List (RegisteredSystem Data' Input)}
    {input : Input} {inputs : List Input}
    (h : runEvents config (executionOrder systems) 0 (input :: inputs) =
      runEvents config' (executionOrder systems') 0 (input :: inputs)) :
    config.tickDuration = config'.tickDuration ∧ callSequence systems = callSequence systems' := by
  rw [runEvents, runEvents, SimulationEngine.stepEvents, SimulationEngine.stepEvents] at h
  simp only [List.append_assoc, List.cons_append, List.nil_append] at h
  obtain ⟨hstarted, hrest⟩ := List.cons.inj h
  constructor
  · rw [← elapsed_first config (some input), ← elapsed_first config' (some input)]
    exact congrArg ReplayEvent.elapsed hstarted
  · exact executedEvents_of_append (List.cons.inj hrest).2

namespace SimulationEngine
variable {engine : SimulationEngine Data Input} {other : SimulationEngine Data' Input}
  {config config' : SimulationConfig} {initialState : SimulationState Data}
  {initialState' : SimulationState Data'}

theorem trace_of_run (hbuilt : Built config initialState engine) {inputs : List Input}
    {last : SimulationEngine Data Input}
    (hrun : runForSequence inputs engine.enableReplayCapture = .ok () last) :
    last.replayTrace = ⟨config.seed, runEvents config (executionOrder engine.systems) 0 inputs⟩ := by
  obtain ⟨hconfig, hclock, -⟩ := built_tick (.enableReplayCapture hbuilt)
  obtain ⟨-, -, -, hseed, hevents⟩ := runForSequence_trace hrun
  rw [hclock, hconfig] at hevents
  have hstart : engine.enableReplayCapture.replayTrace.seed = config.seed :=
    congrArg SimulationConfig.seed hconfig
  exact congrArg₂ ReplayTrace.mk (hseed.trans hstart) hevents

/- Equal traces mean equal seeds, equal inputs and, once a tick was run, the same tick
duration and the same systems called; the states are not compared. -/
theorem traces_equal_iff (hbuilt : Built config initialState engine)
    (hbuilt' : Built config' initialState' other) {xs ys : List Input}
    {last : SimulationEngine Data Input} {last' : SimulationEngine Data' Input}
    (hrun : runForSequence xs engine.enableReplayCapture = .ok () last)
    (hrun' : runForSequence ys other.enableReplayCapture = .ok () last') :
    last.replayTrace = last'.replayTrace ↔ config.seed = config'.seed ∧ xs = ys ∧
      (xs = [] ∨ config.tickDuration = config'.tickDuration ∧
        callSequence engine.systems = callSequence other.systems) := by
  rw [trace_of_run hbuilt hrun, trace_of_run hbuilt' hrun', ReplayTrace.mk.injEq]
  refine and_congr_right fun hseed => ?_
  constructor
  · intro hevents
    have hinputs : xs = ys := by
      rw [← runEvents_inputs config (executionOrder engine.systems) 0 xs, hevents,
        runEvents_inputs]
    subst hinputs
    refine ⟨rfl, ?_⟩
    cases xs with
    | nil => exact .inl rfl
    | cons input inputs => exact .inr (first_tick_of_runEvents hevents)
  · rintro ⟨rfl, hempty | ⟨hduration, hcalls⟩⟩
    · rw [hempty]
      rfl
    · obtain ⟨tickDuration, seed, positive⟩ := config
      obtain ⟨tickDuration', seed', positive'⟩ := config'
      dsimp only at hseed hduration
      subst hseed hduration
      exact runEvents_congr hcalls 0 xs

end SimulationEngine

end Compare

namespace SimulationEngine

/-- A system of the same name that does nothing. -/
def idling : SimulationEngine Unit UInt64 :=
  { SimulationEngine.new oneMillisecond ⟨0, ()⟩ with
    systems := [⟨.update, "draw", fun _ => pure ()⟩] }

/- Traces agree where states do not. -/
theorem traces_equal_iff_idling : ∃ last last',
    runForSequence [3] drawing.enableReplayCapture = .ok () last ∧
      runForSequence [3] idling.enableReplayCapture = .ok () last' ∧
      last.replayTrace = last'.replayTrace := by
  have hidling : idling.Built oneMillisecond ⟨0, ()⟩ :=
    .addSystem .new (rfl : addSystem .update "draw" (some fun _ => pure ())
      (.new oneMillisecond ⟨0, ()⟩) = .ok 0 idling)
  have hrun : runForSequence [3] drawing.enableReplayCapture = .ok () _ := rfl
  have hrun' : runForSequence [3] idling.enableReplayCapture = .ok () _ := rfl
  exact ⟨_, _, hrun, hrun', (traces_equal_iff drawing_built hidling hrun hrun').mpr
    ⟨rfl, rfl, .inr ⟨rfl, by decide⟩⟩⟩

end SimulationEngine

/-! ### The order of registration -/

namespace SimulationEngine
variable {Data Input : Type}

def withSystems (systems : List (RegisteredSystem Data Input))
    (engine : SimulationEngine Data Input) : SimulationEngine Data Input :=
  { engine with systems := systems }

/-- The same systems in each phase, in the same order. -/
def SamePhases (systems systems' : List (RegisteredSystem Data Input)) : Prop :=
  ∀ phase, (systems.filter fun x => x.phase = phase) = systems'.filter fun x => x.phase = phase

theorem executionOrder_of_samePhases {systems systems' : List (RegisteredSystem Data Input)}
    (h : SamePhases systems systems') : executionOrder systems = executionOrder systems' :=
  List.flatMap_congr fun phase _ => h phase

section WithSystems
variable (systems : List (RegisteredSystem Data Input))

theorem recordReplayEvent_withSystems (event : ReplayEvent Input)
    (engine : SimulationEngine Data Input) :
    recordReplayEvent event (engine.withSystems systems) =
      (recordReplayEvent event engine).withSystems systems := by
  obtain ⟨config, clock, state, trace, capture, old⟩ := engine
  cases capture <;> rfl

theorem recordReplayInput_withSystems (tick : UInt64) (elapsed : Int64) (input : Option Input)
    (engine : SimulationEngine Data Input) :
    recordReplayInput tick elapsed input (engine.withSystems systems) =
      (recordReplayInput tick elapsed input engine).withSystems systems := by
  cases input with
  | none => rfl
  | some input => exact recordReplayEvent_withSystems systems _ engine

theorem onClock_withSystems
    (f : ∀ config, SimulationClock config → Except Exception (SimulationClock config)) :
    Commutes (withSystems systems) (onClock f : Call Data Input Unit) := by
  intro engine
  have hclock : f (engine.withSystems systems).config (engine.withSystems systems).clock =
    f engine.config engine.clock := rfl
  unfold onClock
  rw [hclock]
  cases f engine.config engine.clock <;> rfl

/- A system has no access to the list of systems. -/
theorem runSystem_withSystems (context : StepContext Input)
    (system : RegisteredSystem Data Input) :
    Commutes (Prod.map (withSystems systems) id) (runSystem context system) := by
  refine commutes_bind (commutes_modify fun s => ?_) fun _ s => ?_
  · exact Prod.ext (recordReplayEvent_withSystems systems _ s.1) rfl
  · obtain ⟨engine, rng⟩ := s
    have hstate : (engine.withSystems systems).state = engine.state := rfl
    change callSystem context system (engine.withSystems systems, rng) = _
    unfold callSystem
    simp only [hstate]
    cases system.callback context (engine.state, rng) <;> rfl

theorem withStepRng_withSystems (rng : DeterministicRng) (context : StepContext Input)
    (order : List (RegisteredSystem Data Input)) :
    Commutes (withSystems systems) (withStepRng rng (runSystems context order)) := by
  intro engine
  have hruns : Commutes (Prod.map (withSystems systems) id) (runSystems context order) := by
    rw [runSystems_eq]
    exact commutes_forM fun system _ => runSystem_withSystems systems context system
  have hrun : runSystems context order (engine.withSystems systems, rng) =
    mapState (Prod.map (withSystems systems) id) (runSystems context order (engine, rng)) :=
    hruns (engine, rng)
  unfold withStepRng
  rw [hrun]
  cases runSystems context order (engine, rng) <;> rfl

/- The step looks at the list of systems once, and then only at their order. -/
theorem stepImpl_withSystems {engine : SimulationEngine Data Input}
    (hsame : SamePhases systems engine.systems) (input : Option Input) :
    stepImpl input (engine.withSystems systems) =
      mapState (withSystems systems) (stepImpl input engine) := by
  have horder : executionOrder (engine.withSystems systems).systems =
      executionOrder engine.systems := executionOrder_of_samePhases hsame
  have hruns (context : StepContext Input) :
      runSystems context (engine.withSystems systems).systems =
        runSystems context engine.systems := by
    rw [runSystems_eq, runSystems_eq, horder]
  refine commutes_get_bind_at ?_ fun start => ?_
  · simp only [hruns]
    rfl
  refine commutes_bind (commutes_liftExcept _ _) fun _ => ?_
  refine commutes_bind (commutes_liftExcept _ _) fun elapsed => ?_
  refine commutes_bind (commutes_modify (recordReplayEvent_withSystems systems _)) fun _ => ?_
  refine commutes_bind (commutes_modify (recordReplayInput_withSystems systems _ _ _)) fun _ => ?_
  refine commutes_bind (withStepRng_withSystems systems _ _ _) fun _ => ?_
  refine commutes_bind (onClock_withSystems systems _) fun _ => ?_
  refine commutes_bind (commutes_modify fun engine => rfl) fun _ => ?_
  refine commutes_get_bind (fun engine => rfl) fun engine => ?_
  refine commutes_bind (commutes_liftExcept _ _) fun elapsed => ?_
  exact commutes_modify (recordReplayEvent_withSystems systems _)

end WithSystems

/- Steps with any inputs, and with none. -/
theorem forM_stepImpl_withSystems {α : Type} {engine : SimulationEngine Data Input}
    {systems : List (RegisteredSystem Data Input)} (hsame : SamePhases systems engine.systems)
    (inputOf : α → Option Input) (xs : List α) :
    (xs.forM fun x => stepImpl (inputOf x) : Call Data Input Unit) (engine.withSystems systems) =
      mapState (withSystems systems) ((xs.forM fun x => stepImpl (inputOf x)) engine) := by
  induction xs generalizing engine with
  | nil => rfl
  | cons x xs ih =>
    have hstep := stepImpl_withSystems systems hsame (inputOf x)
    change EStateM.bind (stepImpl (inputOf x)) (fun _ => xs.forM fun x => stepImpl (inputOf x)) _ =
      mapState _
        (EStateM.bind (stepImpl (inputOf x)) (fun _ => xs.forM fun x => stepImpl (inputOf x)) engine)
    unfold EStateM.bind
    rw [hstep]
    cases hnext : stepImpl (inputOf x) engine with
    | error exception next => rfl
    | ok _ next =>
      have hsetup : engine.SameSetup next :=
        preserves_ok (stepImpl_setup engine (inputOf x)) ⟨rfl, rfl⟩ hnext
      exact ih (by rw [hsetup.2]; exact hsame)

/- Only the order within a phase matters: with the systems registered in another order
steps and runs have the same outcome, thrown exceptions and what they leave behind
included. -/
theorem registration_order_within_phases {engine : SimulationEngine Data Input}
    {systems : List (RegisteredSystem Data Input)} (hsame : SamePhases systems engine.systems) :
    (∀ input : Option Input, stepImpl input (engine.withSystems systems) =
      mapState (withSystems systems) (stepImpl input engine)) ∧
    (∀ ticks : UInt64, runForTicks ticks (engine.withSystems systems) =
      mapState (withSystems systems) (runForTicks ticks engine)) ∧
    ∀ inputs : List Input, runForSequence inputs (engine.withSystems systems) =
      mapState (withSystems systems) (runForSequence inputs engine) :=
  ⟨stepImpl_withSystems systems hsame,
    fun ticks => forM_stepImpl_withSystems hsame (fun _ => none) (List.range ticks.toNat),
    forM_stepImpl_withSystems hsame some⟩

theorem registration_order_within_phases_swapped :
    let report : RegisteredSystem UInt64 UInt64 := ⟨.postUpdate, "report", fun _ => pure ()⟩
    let drawn : RegisteredSystem UInt64 UInt64 := ⟨.update, "draw", draw⟩
    runForTicks 2 (drawing.withSystems [report, drawn]) =
        mapState (withSystems [report, drawn])
          (runForTicks 2 (drawing.withSystems [drawn, report])) ∧
      runForSequence [3, 4] (drawing.withSystems [report, drawn]) =
        mapState (withSystems [report, drawn])
          (runForSequence [3, 4] (drawing.withSystems [drawn, report])) := by
  intro report drawn
  have hsame : SamePhases [report, drawn] (drawing.withSystems [drawn, report]).systems := by
    intro phase
    cases phase <;> rfl
  obtain ⟨-, hticks, hsequence⟩ := registration_order_within_phases hsame
  exact ⟨hticks 2, hsequence [3, 4]⟩

end SimulationEngine

end XenorEngine.Cpp
