import XenorEngine.Cpp.EngineCalls
import XenorEngine.Cpp.RestoreGuarantees
import XenorEngine.Lib.Grouping

/-!
# Time, order and trace of steps

What holds of an engine after any calls of its host: clock and state agree on the tick,
a step runs the systems grouped by phase in the order they were registered and records
them in that order, and it goes through exactly as long as the elapsed duration of its
tick fits.
-/

namespace XenorEngine.Cpp
open XenorEngine.Lib.Fallible XenorEngine.Lib.Grouping

/-! ### Clock and state -/

namespace SimulationEngine
variable {Data Input : Type}

theorem clock_and_state_aligned (config : SimulationConfig) (initialState : SimulationState Data)
    (calls : List (EngineCall Data Input)) (hkeeps : ∀ call ∈ calls, call.KeepsTick) :
    let engine := (new config initialState).afterAll calls
    engine.clock.currentTick = engine.state.lastCompletedTick ∧
      (∃ elapsed, engine.clock.elapsedDuration = .ok elapsed) ∧
      ∃ snapshot, engine.captureSnapshot = .ok snapshot ∧
        validateSnapshotBoundaryMetadata (makeSnapshotBoundaryMetadata snapshot) = .ok () ∧
        ∀ {Input' : Type} (other : SimulationEngine Data Input'), other.config = config →
          ∃ back, restoreSnapshot snapshot other = .ok () back := by
  intro engine
  have hsame : engine.config = config := (afterAll_setup calls (new config initialState)).1
  have haligned : engine.Aligned := afterAll_aligned config initialState hkeeps
  obtain ⟨snapshot, hcaptured⟩ := captureSnapshot_of_aligned haligned
  have hacceptable := acceptable_captured haligned hcaptured
  refine ⟨haligned.state_tick.symm, ⟨_, checkedDurationProduct_of haligned.elapsed_fits⟩,
    snapshot, hcaptured, ?_, fun other hconfig => ?_⟩
  · exact validateSnapshotBoundaryMetadata_eq_ok.mpr ⟨rfl, hacceptable.state_tick⟩
  · rw [hsame, ← hconfig] at hacceptable
    obtain ⟨back, hrestore, -⟩ := restoreSnapshot_acceptable hacceptable
    exact ⟨back, hrestore⟩

def countUp : SystemCallback ℕ ℕ := fun context =>
  modify fun (state, rng) => ({ state with data := state.data + context.input.getD 0 }, rng)

/-- Changes the data of the state and throws. -/
def giveUp : SystemCallback ℕ ℕ := fun _ => do
  modify fun (state, rng) => ({ state with data := 0 }, rng)
  throw (.standard "system gave up")

/-- A step whose second system throws, and a restore that is rejected. -/
def failingCalls : List (EngineCall ℕ ℕ) :=
  [.addSystem .update "count up" (some countUp), .step (some 3), .enableReplayCapture,
    .addSystem .postUpdate "give up" (some giveUp), .step (some 4),
    .restoreSnapshot ⟨5, 0, 19, ⟨5, 0⟩⟩]

theorem failingCalls_keepTick : ∀ call ∈ failingCalls, call.KeepsTick := by
  intro call hmem
  simp only [failingCalls, List.mem_cons, List.not_mem_nil, or_false] at hmem
  rcases hmem with rfl | rfl | rfl | rfl | rfl | rfl
  · intro context tick
    exact preserves_modify fun s hs => hs
  · trivial
  · trivial
  · intro context tick
    exact preserves_bind (preserves_modify fun s hs => hs) fun _ _ hs => hs
  · trivial
  · trivial

theorem clock_and_state_aligned_failing :
    let engine := (new oneMillisecond ⟨0, 0⟩).afterAll failingCalls
    engine.clock.currentTick = 1 ∧ engine.clock.currentTick = engine.state.lastCompletedTick ∧
      ∃ snapshot, engine.captureSnapshot = .ok snapshot := by
  obtain ⟨htick, -, snapshot, hcaptured, -⟩ :=
    clock_and_state_aligned oneMillisecond ⟨0, 0⟩ failingCalls failingCalls_keepTick
  exact ⟨by decide +kernel, htick, snapshot, hcaptured⟩

end SimulationEngine

/-! ### The order of the systems -/

/-- The value of the enumerator. -/
def SystemPhase.value : SystemPhase → ℕ
  | preUpdate => 0
  | update => 1
  | postUpdate => 2

/-- The systems in the order in which a step calls them. -/
def executionOrder {Data Input : Type} (systems : List (RegisteredSystem Data Input)) :
    List (RegisteredSystem Data Input) := grouped orderedSystemPhases (·.phase) systems

theorem mem_orderedSystemPhases (phase : SystemPhase) : phase ∈ orderedSystemPhases := by
  cases phase <;> decide

theorem orderedSystemPhases_nodup : orderedSystemPhases.Nodup := by decide

theorem executionOrder_sorted {Data Input : Type} (systems : List (RegisteredSystem Data Input)) :
    (executionOrder systems).Pairwise fun x y => x.phase.value ≤ y.phase.value := by
  have hkeys : orderedSystemPhases.Pairwise fun a b => a.value ≤ b.value := by decide
  refine (pairwise_grouped hkeys).imp fun {x y} hxy => ?_
  rcases hxy with heq | hle
  · rw [heq]
  · exact hle

namespace SimulationEngine
variable {Data Input : Type}

theorem runSystems_eq (context : StepContext Input)
    (systems : List (RegisteredSystem Data Input)) :
    runSystems context systems = (executionOrder systems).forM (runSystem context) :=
  forM_grouped orderedSystemPhases (fun system : RegisteredSystem Data Input => system.phase)
    systems (runSystem context)

/-! ### The trace of a step -/

def recordReplayEvents (events : List (ReplayEvent Input)) (engine : SimulationEngine Data Input) :
    SimulationEngine Data Input :=
  if engine.replayCaptureEnabled then
    { engine with replayTrace :=
      { engine.replayTrace with events := engine.replayTrace.events ++ events } }
  else engine

def withState (state : SimulationState Data) (engine : SimulationEngine Data Input) :
    SimulationEngine Data Input := { engine with state := state }

section Record
variable (events further : List (ReplayEvent Input)) (engine : SimulationEngine Data Input)

theorem recordReplayEvents_nil : recordReplayEvents [] engine = engine := by
  obtain ⟨config, clock, state, trace, capture, systems⟩ := engine
  cases capture with
  | false => rfl
  | true => simp [recordReplayEvents]

theorem recordReplayEvents_append : recordReplayEvents (events ++ further) engine =
    recordReplayEvents further (recordReplayEvents events engine) := by
  obtain ⟨config, clock, state, trace, capture, systems⟩ := engine
  cases capture with
  | false => rfl
  | true => simp [recordReplayEvents]

theorem recordReplayEvents_cons (event : ReplayEvent Input) :
    recordReplayEvents (event :: events) engine =
      recordReplayEvents events (recordReplayEvents [event] engine) :=
  recordReplayEvents_append [event] events engine

theorem recordReplayEvents_ticked (context : StepContext Input) :
    recordReplayEvents events (engine.ticked context) =
      (recordReplayEvents events engine).ticked context := by
  obtain ⟨config, clock, state, trace, capture, systems⟩ := engine
  cases capture <;> rfl

theorem recordReplayEvents_withState (state : SimulationState Data) :
    recordReplayEvents events (engine.withState state) =
      (recordReplayEvents events engine).withState state := by
  obtain ⟨config, clock, old, trace, capture, systems⟩ := engine
  cases capture <;> rfl

@[simp] theorem state_recordReplayEvents :
    (recordReplayEvents events engine).state = engine.state := by
  unfold recordReplayEvents
  cases engine.replayCaptureEnabled <;> rfl

theorem events_recordReplayEvents : (recordReplayEvents events engine).replayTrace.events =
    engine.replayTrace.events ++ if engine.replayCaptureEnabled then events else [] := by
  unfold recordReplayEvents
  cases engine.replayCaptureEnabled <;> simp

end Record

def executedEvent (context : StepContext Input) (system : RegisteredSystem Data Input) :
    ReplayEvent Input :=
  .systemExecuted context.tick context.elapsed system.phase system.name

/-- The events of a step whose systems are called in the given order. -/
def stepEvents (context : StepContext Input) (order : List (RegisteredSystem Data Input)) :
    List (ReplayEvent Input) :=
  (.tickStarted context.tick context.elapsed context.stepSeed ::
      context.input.toList.map (.inputApplied context.tick context.elapsed)) ++
    order.map (executedEvent context) ++ [.tickCompleted context.tick context.elapsed]

theorem mem_stepEvents {context : StepContext Input}
    {order : List (RegisteredSystem Data Input)} {event : ReplayEvent Input}
    (hmem : event ∈ stepEvents context order) :
    event.tick = context.tick ∧ event.elapsed = context.elapsed := by
  simp only [stepEvents, List.mem_append, List.mem_cons, List.mem_map, List.not_mem_nil,
    or_false] at hmem
  rcases hmem with ((rfl | ⟨_, -, rfl⟩) | ⟨_, -, rfl⟩) | rfl <;> exact ⟨rfl, rfl⟩

/-- The callbacks of a step, one after the other. -/
def callAll (context : StepContext Input) (order : List (RegisteredSystem Data Input)) :
    EStateM Exception (SimulationState Data × DeterministicRng) Unit :=
  order.forM fun system => system.callback context

theorem runSystem_ok {context : StepContext Input} {system : RegisteredSystem Data Input}
    {engine ran : SimulationEngine Data Input} {rng rng' : DeterministicRng} :
    runSystem context system (engine, rng) = .ok () (ran, rng') ↔
      ∃ state, system.callback context (engine.state, rng) = .ok () (state, rng') ∧
        ran = (recordReplayEvents [executedEvent context system] engine).withState state := by
  have hstate : (recordReplayEvent (executedEvent context system) engine).state = engine.state :=
    state_recordReplayEvent _ engine
  change callSystem context system
    (recordReplayEvent (executedEvent context system) engine, rng) = _ ↔ _
  unfold callSystem
  simp only [hstate]
  cases system.callback context (engine.state, rng) with
  | ok _ s =>
    obtain ⟨state, rng1⟩ := s
    simp only [EStateM.Result.ok.injEq, Prod.mk.injEq, true_and]
    constructor
    · rintro ⟨rfl, rfl⟩
      exact ⟨state, ⟨rfl, rfl⟩, rfl⟩
    · rintro ⟨state', ⟨rfl, rfl⟩, rfl⟩
      exact ⟨rfl, rfl⟩
  | error exception s => simp

/- The systems of a step call their callbacks one after the other and record as much. -/
theorem forM_runSystem_ok {context : StepContext Input}
    {order : List (RegisteredSystem Data Input)} {engine ran : SimulationEngine Data Input}
    {rng rng' : DeterministicRng}
    (h : order.forM (runSystem context) (engine, rng) = .ok () (ran, rng')) :
    ∃ state, callAll context order (engine.state, rng) = .ok () (state, rng') ∧
      ran = (recordReplayEvents (order.map (executedEvent context)) engine).withState state := by
  induction order generalizing engine rng with
  | nil =>
    obtain ⟨-, hs⟩ := estate_pure_ok.mp h
    obtain ⟨rfl, rfl⟩ := Prod.mk.inj hs
    refine ⟨engine.state, rfl, ?_⟩
    rw [List.map_nil, recordReplayEvents_nil]
    rfl
  | cons system order ih =>
    obtain ⟨_, ⟨mid, rng1⟩, hfirst, hrest⟩ := estate_bind_ok.mp h
    obtain ⟨state, hcall, rfl⟩ := runSystem_ok.mp hfirst
    obtain ⟨last, hcalls, rfl⟩ := ih hrest
    refine ⟨last, estate_bind_ok.mpr ⟨(), (state, rng1), hcall, hcalls⟩, ?_⟩
    rw [List.map_cons, recordReplayEvents_cons (order.map _), recordReplayEvents_withState]
    rfl

theorem started_eq (context : StepContext Input) (engine : SimulationEngine Data Input) :
    engine.started context = recordReplayEvents
      (.tickStarted context.tick context.elapsed context.stepSeed ::
        context.input.toList.map (.inputApplied context.tick context.elapsed)) engine := by
  unfold started recordReplayInput
  cases context.input with
  | none => rfl
  | some input =>
    rw [Option.toList_some, List.map_singleton, recordReplayEvents_cons]
    rfl

/- What a step that returns normally has called, and what it has recorded. -/
theorem stepImpl_eq_ok {engine next : SimulationEngine Data Input} {input : Option Input}
    (h : stepImpl input engine = .ok () next) :
    engine.config.Representable (engine.clock.currentTick.toNat + 1) ∧
      let context := engine.stepContext input
      let order := executionOrder engine.systems
      ∃ state rng, callAll context order (engine.state, ⟨context.stepSeed⟩) = .ok () (state, rng) ∧
        next = (recordReplayEvents (stepEvents context order) (engine.withState state)).ticked
          context := by
  by_cases hfit : engine.config.Representable (engine.clock.currentTick.toNat + 1)
  swap
  · obtain ⟨what, hthrows⟩ := stepImpl_of_not_representable input hfit
    rw [hthrows] at h
    cases h
  refine ⟨hfit, ?_⟩
  intro context order
  rw [stepImpl_of_representable input hfit] at h
  unfold stepWith withStepRng at h
  rw [runSystems_eq] at h
  cases hrun : order.forM (runSystem context) (engine.started context, ⟨context.stepSeed⟩) with
  | error exception s =>
    simp only [context, order] at hrun
    simp only [hrun] at h
    cases h
  | ok _ s =>
    obtain ⟨state, hcalls, hran⟩ := forM_runSystem_ok hrun
    refine ⟨state, s.2, by rwa [state_started] at hcalls, ?_⟩
    simp only [context, order] at hrun
    simp only [hrun, EStateM.Result.ok.injEq, true_and] at h
    rw [← h, hran, started_eq, stepEvents, recordReplayEvents_append, recordReplayEvents_append,
      recordReplayEvents_withState, recordReplayEvents_withState]
    exact recordReplayEvents_ticked _ _ context

/- Systems run grouped by phase, in the order of registration within a phase, and a step
records them in that order; tracing does not show in clock and state. -/
theorem steps_sequenced_and_traced (config : SimulationConfig)
    (initialState : SimulationState Data) (calls : List (EngineCall Data Input)) :
    let engine := (new config initialState).afterAll calls
    let registered := calls.filterMap EngineCall.registration
    let order := executionOrder registered
    (order.Perm registered ∧ (order.Pairwise fun x y => x.phase.value ≤ y.phase.value) ∧
      ∀ phase, (order.filter fun x => x.phase = phase) =
        registered.filter fun x => x.phase = phase) ∧
    (∀ input next, stepImpl input engine = .ok () next →
      ∃ context : StepContext Input, context.input = input ∧
        context.tick = next.clock.currentTick ∧
        context.tick.toNat = engine.clock.currentTick.toNat + 1 ∧
        context.elapsed.toInt = context.tick.toNat * config.tickDuration.toInt ∧
        (∃ state rng, callAll context order (engine.state, ⟨context.stepSeed⟩) =
          .ok () (state, rng) ∧ next.state = state.setLastCompletedTick context.tick) ∧
        next.replayTrace.events = engine.replayTrace.events ++
          if engine.replayCaptureEnabled then stepEvents context order else []) ∧
    ∀ others : List (EngineCall Data Input),
      (others.filter fun call => !call.isTraceControl) =
          (calls.filter fun call => !call.isTraceControl) →
        let other := (new config initialState).afterAll others
        other.clock.currentTick = engine.clock.currentTick ∧ other.state = engine.state := by
  intro engine registered order
  obtain ⟨hconfig, hsystems⟩ := afterAll_setup calls (new config initialState)
  have horder : executionOrder engine.systems = order := congrArg executionOrder hsystems
  refine ⟨⟨?_, executionOrder_sorted registered, ?_⟩, ?_, ?_⟩
  · exact grouped_perm orderedSystemPhases_nodup fun x _ => mem_orderedSystemPhases x.phase
  · exact fun phase => filter_grouped orderedSystemPhases_nodup (mem_orderedSystemPhases phase)
  · intro input next h
    obtain ⟨hfit, state, rng, hcalls, rfl⟩ := stepImpl_eq_ok h
    rw [horder] at hcalls ⊢
    refine ⟨engine.stepContext input, rfl, rfl, next_toNat hfit, ?_, ⟨state, rng, hcalls, ?_⟩, ?_⟩
    · have hduration : engine.config.tickDuration = config.tickDuration :=
        congrArg SimulationConfig.tickDuration hconfig
      have htick : (engine.stepContext input).tick.toNat = engine.clock.currentTick.toNat + 1 :=
        next_toNat hfit
      rw [stepContext_elapsed input hfit, htick, hduration, Nat.cast_add, Nat.cast_one]
    · change (recordReplayEvents _ _).state.setLastCompletedTick _ = _
      rw [state_recordReplayEvents]
      rfl
    · exact events_recordReplayEvents _ (engine.withState state)
  · intro others hsame other
    have huntraced : other.untraced = engine.untraced := by
      rw [afterAll_untraced, afterAll_untraced, hsame]
    exact ⟨congrArg (fun e => e.clock.currentTick) huntraced, congrArg (·.state) huntraced⟩

/-- Two systems registered against the order of their phases, and a captured step. -/
def againstPhases : List (EngineCall ℕ ℕ) :=
  [.addSystem .postUpdate "count up" (some countUp), .enableReplayCapture,
    .addSystem .preUpdate "count up first" (some countUp), .step (some 3)]

theorem steps_sequenced_and_traced_reordered :
    let engine := (new oneMillisecond ⟨0, 0⟩).afterAll againstPhases
    let order := executionOrder (againstPhases.filterMap EngineCall.registration)
    order.map (·.name) = ["count up first", "count up"] ∧
    order.Perm (againstPhases.filterMap EngineCall.registration) ∧
    (∃ next context, stepImpl (some 4) engine = .ok () next ∧ context.tick.toNat = 2 ∧
      context.tick = next.clock.currentTick ∧
      next.replayTrace.events = engine.replayTrace.events ++ stepEvents context order) ∧
    ((new oneMillisecond ⟨0, 0⟩).afterAll
      [.addSystem .postUpdate "count up" (some countUp),
        .addSystem .preUpdate "count up first" (some countUp), .step (some 3)]).state =
      engine.state := by
  intro engine order
  obtain ⟨⟨hperm, -, -⟩, hstep, htraced⟩ :=
    steps_sequenced_and_traced oneMillisecond ⟨0, 0⟩ againstPhases
  have hsystems : engine.systems =
      [⟨.postUpdate, "count up", countUp⟩, ⟨.preUpdate, "count up first", countUp⟩] :=
    (afterAll_setup againstPhases (new oneMillisecond ⟨0, 0⟩)).2
  have hquiet : ∀ system ∈ engine.systems,
      Total (system.callback (engine.stepContext (some 4))) := by
    rw [hsystems]
    simp only [List.forall_mem_cons]
    exact ⟨total_modify _, total_modify _, List.forall_mem_nil _⟩
  obtain ⟨next, hnext, -⟩ := stepImpl_ok_at (some 4) hquiet (by decide)
  obtain ⟨context, -, htick, hsecond, -, -, hevents⟩ := hstep (some 4) next hnext
  refine ⟨rfl, hperm, ⟨next, context, hnext, hsecond, htick, hevents⟩, (htraced _ rfl).2⟩

/-! ### The time limit -/

theorem step_time_limit (engine : SimulationEngine Data Input) (input : Option Input)
    (hquiet : ∀ system ∈ engine.systems, Total (system.callback (engine.stepContext input))) :
    let product : ℤ := (engine.clock.currentTick.toNat + 1) * engine.config.tickDuration.toInt
    let context := engine.stepContext input
    let order := executionOrder engine.systems
    (product ≤ 2 ^ 63 - 1 → ∃ next : SimulationEngine Data Input,
      stepImpl input engine = .ok () next ∧
      context.tick.toNat = engine.clock.currentTick.toNat + 1 ∧ context.elapsed.toInt = product ∧
      (∃ state rng, callAll context order (engine.state, ⟨context.stepSeed⟩) =
        .ok () (state, rng) ∧ next.state = state.setLastCompletedTick context.tick) ∧
      next.replayTrace.events = engine.replayTrace.events ++
        (if engine.replayCaptureEnabled then stepEvents context order else []) ∧
      ∀ event ∈ stepEvents context order,
        event.tick = context.tick ∧ event.elapsed.toInt = product) ∧
    (¬product ≤ 2 ^ 63 - 1 → ∀ systems, ∃ what,
      stepImpl input { engine with systems := systems } =
        .error (.overflowError what) { engine with systems := systems }) ∧
    ∀ (config : SimulationConfig) (initialState : SimulationState Data)
        (calls : List (EngineCall Data Input)),
      let reached := (new config initialState).afterAll calls
      ∃ elapsed, reached.clock.elapsedDuration = .ok elapsed ∧
        elapsed.toInt = reached.clock.currentTick.toNat * reached.config.tickDuration.toInt := by
  intro product context order
  have hproduct : product ≤ 2 ^ 63 - 1 ↔
      engine.config.Representable (engine.clock.currentTick.toNat + 1) := by
    unfold SimulationConfig.Representable product
    push_cast
    omega
  refine ⟨fun hle => ?_, fun hgt systems => ?_, fun config initialState calls => ?_⟩
  · have hfit := hproduct.mp hle
    obtain ⟨next, h, -⟩ := stepImpl_ok_at input hquiet hfit
    obtain ⟨-, state, rng, hcalls, rfl⟩ := stepImpl_eq_ok h
    have helapsed := stepContext_elapsed input hfit
    refine ⟨_, h, next_toNat hfit, helapsed, ⟨state, rng, hcalls, ?_⟩,
      events_recordReplayEvents _ (engine.withState state), fun event hmem => ?_⟩
    · change (recordReplayEvents _ _).state.setLastCompletedTick _ = _
      rw [state_recordReplayEvents]
      rfl
    · obtain ⟨htick, hevent⟩ := mem_stepEvents hmem
      rw [hevent]
      exact ⟨htick, helapsed⟩
  · exact @stepImpl_of_not_representable _ _ { engine with systems := systems } input
      fun hfit => hgt (hproduct.mpr hfit)
  · have hnew : (new config initialState : SimulationEngine Data Input).Fits :=
      new_fits config initialState
    have hfits := afterAll_fits calls hnew
    exact ⟨_, checkedDurationProduct_of hfits, duration_mul_toInt hfits⟩

/-- A tick takes half of the longest duration: the second one no longer fits. -/
def halfLimit : SimulationConfig := ⟨4611686018427387904, 19, by decide⟩

def counting (tick : UInt64) : SimulationEngine ℕ ℕ :=
  { new halfLimit ⟨tick, 0⟩ with
    clock := ⟨tick⟩
    systems := [⟨.update, "count up", countUp⟩] }

theorem counting_quiet (tick : UInt64) (context : StepContext ℕ) :
    ∀ system ∈ (counting tick).systems, Total (system.callback context) := by
  intro system hmem
  rw [List.mem_singleton.mp hmem]
  exact total_modify _

theorem step_time_limit_half :
    (∃ next, stepImpl (some 3) (counting 0) = .ok () next) ∧
      ∃ what, stepImpl (some 3) (counting 1) = .error (.overflowError what) (counting 1) := by
  obtain ⟨hfits, -⟩ := step_time_limit (counting 0) (some 3) (counting_quiet 0 _)
  obtain ⟨-, hexceeds, -⟩ := step_time_limit (counting 1) (some 3) (counting_quiet 1 _)
  obtain ⟨next, h, -⟩ := hfits (by decide)
  exact ⟨⟨next, h⟩, hexceeds (by decide) (counting 1).systems⟩

end SimulationEngine

end XenorEngine.Cpp
