import XenorEngine.Cpp.SnapshotRestore

/-!
# Calls on an engine

What a host can do with an engine, one call after the other. A call that throws
leaves an engine behind, and the host may go on with it.
-/

namespace XenorEngine.Cpp
open XenorEngine.Lib.Fallible

inductive EngineCall (Data Input : Type) : Type 1
  | addSystem (phase : SystemPhase) (name : String) (system : Option (SystemCallback Data Input))
  | enableReplayCapture
  | disableReplayCapture
  | clearReplayTrace
  | step (input : Option Input)
  | runForTicks (ticks : UInt64)
  | runForSequence (inputs : List Input)
  | captureSnapshot
  | captureSnapshotBoundary {Adapter Payload : Type}
      (adapter : SnapshotStateAdapter Adapter Payload Data) (object : Adapter)
  | restoreSnapshot (snapshot : SimulationSnapshot Data)
  | restoreSnapshotBoundary {Adapter Payload : Type} (boundary : SnapshotBoundary Payload)
      (adapter : SnapshotStateAdapter Adapter Payload Data) (object : Adapter)
  /- The host works on `state()`. -/
  | editState (edit : SimulationState Data → SimulationState Data)

namespace SimulationEngine
variable {Data Input : Type}

/-- The engine that a call leaves behind, whether it returns or throws. -/
def after (engine : SimulationEngine Data Input) :
    EngineCall Data Input → SimulationEngine Data Input
  | .addSystem phase name system => endState (addSystem phase name system engine)
  | .enableReplayCapture => engine.enableReplayCapture
  | .disableReplayCapture => engine.disableReplayCapture
  | .clearReplayTrace => engine.clearReplayTrace
  | .step input => endState (stepImpl input engine)
  | .runForTicks ticks => endState (runForTicks ticks engine)
  | .runForSequence inputs => endState (runForSequence inputs engine)
  | .captureSnapshot => engine
  | .captureSnapshotBoundary _ _ => engine
  | .restoreSnapshot snapshot => endState (restoreSnapshot snapshot engine)
  | .restoreSnapshotBoundary boundary adapter object =>
    (endState (restoreSnapshotBoundary boundary adapter (engine, object))).1
  | .editState edit => { engine with state := edit engine.state }

def afterAll (engine : SimulationEngine Data Input) (calls : List (EngineCall Data Input)) :
    SimulationEngine Data Input := calls.foldl after engine

/- What every call keeps, every run of calls keeps. -/
theorem afterAll_keeps {I : SimulationEngine Data Input → Prop}
    {calls : List (EngineCall Data Input)}
    (hcall : ∀ call ∈ calls, ∀ engine, I engine → I (engine.after call))
    {engine : SimulationEngine Data Input} (hengine : I engine) : I (engine.afterAll calls) := by
  induction calls generalizing engine with
  | nil => exact hengine
  | cons call calls ih =>
    exact ih (fun call' hmem => hcall call' (List.mem_cons_of_mem call hmem))
      (hcall call List.mem_cons_self engine hengine)

end SimulationEngine

/-! ### Clock and state -/

/-- The callback leaves the tick of the state alone, also when it throws. -/
def RegisteredSystem.KeepsTick {Data Input : Type} (system : RegisteredSystem Data Input) : Prop :=
  ∀ context tick, Preserves (fun s => s.1.lastCompletedTick = tick) (system.callback context)

/-- Nothing that the host hands over with the call, or does in it, sets the tick of the
state. -/
def EngineCall.KeepsTick {Data Input : Type} : EngineCall Data Input → Prop
  | .addSystem phase name (some callback) =>
    (⟨phase, name, callback⟩ : RegisteredSystem Data Input).KeepsTick
  | .editState edit => ∀ state, (edit state).lastCompletedTick = state.lastCompletedTick
  | _ => True

/-- The systems that a call registers. -/
def EngineCall.registration {Data Input : Type} :
    EngineCall Data Input → Option (RegisteredSystem Data Input)
  | .addSystem phase name (some callback) => if name = "" then none else some ⟨phase, name, callback⟩
  | _ => none

/-- The calls that only switch or clear the trace. -/
def EngineCall.isTraceControl {Data Input : Type} : EngineCall Data Input → Bool
  | .enableReplayCapture => true
  | .disableReplayCapture => true
  | .clearReplayTrace => true
  | _ => false

namespace SimulationEngine
variable {Data Input : Type}

theorem runSystem_keepsTick (context : StepContext Input) {system : RegisteredSystem Data Input}
    (hkeeps : system.KeepsTick) (tick : UInt64) :
    Preserves (fun s => s.1.state.lastCompletedTick = tick) (runSystem context system) := by
  refine preserves_bind (preserves_modify fun s hs => ?_) fun _ => ?_
  · change (recordReplayEvent _ s.1).state.lastCompletedTick = tick
    rwa [state_recordReplayEvent]
  · rintro ⟨engine, rng⟩ hs
    have hcall := hkeeps context tick (engine.state, rng) hs
    unfold callSystem
    revert hcall
    dsimp only
    cases system.callback context (engine.state, rng) <;> exact id

theorem runSystems_keepsTick (context : StepContext Input)
    {systems : List (RegisteredSystem Data Input)}
    (hkeeps : ∀ system ∈ systems, system.KeepsTick) (tick : UInt64) :
    Preserves (fun s => s.1.state.lastCompletedTick = tick) (runSystems context systems) := by
  refine preserves_forM fun phase _ => preserves_forM fun system hsystem => ?_
  by_cases hphase : system.phase ≠ phase
  · rw [if_pos hphase]
    exact preserves_pure ()
  · rw [if_neg hphase]
    exact runSystem_keepsTick context (hkeeps system hsystem) tick

@[simp] theorem state_started (context : StepContext Input)
    (engine : SimulationEngine Data Input) : (engine.started context).state = engine.state := by
  unfold started recordReplayInput
  cases context.input <;> simp

/- How a step ends: it throws before it has begun, a system throws, or it completes. -/
theorem stepImpl_outcome (input : Option Input) (engine : SimulationEngine Data Input) :
    (∃ what, stepImpl input engine = .error (.overflowError what) engine) ∨
    engine.config.Representable (engine.clock.currentTick.toNat + 1) ∧
      ∃ ran : SimulationEngine Data Input, ran.frame = engine.frame ∧
        ((∃ exception, stepImpl input engine = .error exception ran ∧
            ((∀ system ∈ engine.systems, system.KeepsTick) →
              ran.state.lastCompletedTick = engine.state.lastCompletedTick)) ∨
          stepImpl input engine = .ok () (ran.completed (engine.stepContext input))) := by
  by_cases hfit : engine.config.Representable (engine.clock.currentTick.toNat + 1)
  swap
  · exact .inl (stepImpl_of_not_representable input hfit)
  refine .inr ⟨hfit, ?_⟩
  let context := engine.stepContext input
  have hframe := withStepRng_frame (fun frame => frame = engine.frame) ⟨context.stepSeed⟩ context
    engine.systems (engine.started context) (frame_started context engine)
  rw [stepImpl_of_representable input hfit]
  unfold stepWith
  unfold withStepRng at hframe ⊢
  cases hrun : runSystems context engine.systems (engine.started context, ⟨context.stepSeed⟩) with
  | ok _ s =>
    simp only [hrun, endState_ok] at hframe
    exact ⟨s.1, hframe, .inr rfl⟩
  | error exception s =>
    simp only [hrun, endState_error] at hframe
    refine ⟨s.1, hframe, .inl ⟨exception, rfl, fun hkeeps => ?_⟩⟩
    have htick := runSystems_keepsTick context hkeeps engine.state.lastCompletedTick
      (engine.started context, ⟨context.stepSeed⟩)
      (congrArg SimulationState.lastCompletedTick (state_started context engine))
    rwa [hrun] at htick

/-- What comes through a restore has passed the checks of `restore_snapshot`, and is put
into the engine. -/
def Restores (engine back : SimulationEngine Data Input) : Prop :=
  back = engine ∨ ∃ snapshot, Acceptable engine.config snapshot ∧
    back.untraced = engine.holding snapshot

theorem restoreSnapshot_restores (snapshot : SimulationSnapshot Data)
    (engine : SimulationEngine Data Input) :
    engine.Restores (endState (restoreSnapshot snapshot engine)) := by
  by_cases hacceptable : Acceptable engine.config snapshot
  · obtain ⟨back, hrestore, hback⟩ := restoreSnapshot_acceptable hacceptable
    rw [hrestore]
    exact .inr ⟨snapshot, hacceptable, hback⟩
  · cases hrestore : restoreSnapshot snapshot engine with
    | ok _ back =>
      unfold restoreSnapshot at hrestore
      obtain ⟨_, _, hget, hvalidated⟩ := estate_bind_ok.mp hrestore
      obtain ⟨rfl, -⟩ := estate_get_ok.mp hget
      obtain ⟨_, _, hvalid, -⟩ := estate_bind_ok.mp hvalidated
      exact absurd (validateSnapshot_eq_ok.mp (liftExcept_ok.mp hvalid).1) hacceptable
    | error exception back =>
      exact .inl (restoreSnapshot_failKeeps engine snapshot engine exception back rfl hrestore)

theorem restoreSnapshotBoundary_restores {Adapter Payload : Type}
    (boundary : SnapshotBoundary Payload) (adapter : SnapshotStateAdapter Adapter Payload Data)
    (engine : SimulationEngine Data Input) (object : Adapter) :
    engine.Restores (endState (restoreSnapshotBoundary boundary adapter (engine, object))).1 := by
  cases hrestore : restoreSnapshotBoundary boundary adapter (engine, object) with
  | error exception s =>
    exact .inl (restoreSnapshotBoundary_failKeeps engine boundary adapter (engine, object)
      exception s rfl hrestore)
  | ok _ s =>
    unfold restoreSnapshotBoundary at hrestore
    obtain ⟨_, _, hget, hchecked⟩ := estate_bind_ok.mp hrestore
    obtain ⟨rfl, rfl⟩ := estate_get_ok.mp hget
    obtain ⟨_, _, hpassed, hrest⟩ := estate_bind_ok.mp hchecked
    obtain ⟨hvalid, rfl⟩ := liftExcept_ok.mp hpassed
    obtain ⟨restored, ⟨engine1, object1⟩, hmade, htail⟩ := estate_bind_ok.mp hrest
    obtain ⟨hrestored, hengine⟩ := onSnd_ok.mp hmade
    obtain rfl : engine1 = engine := hengine
    obtain ⟨_, _, hagrees, hinstall⟩ := estate_bind_ok.mp htail
    obtain ⟨-, rfl⟩ := liftExcept_ok.mp hagrees
    obtain ⟨hmetadata, helapsed, hseed⟩ := validateSnapshotBoundaryMetadataFor_eq_ok.mp hvalid
    obtain ⟨-, hstate⟩ := validateSnapshotBoundaryMetadata_eq_ok.mp hmetadata
    have hfields := restoreSnapshotFromBoundary_fields hrestored
    have htick : restored.tick = boundary.metadata.tick :=
      congrArg SnapshotBoundaryMetadata.tick hfields
    have hacceptable : Acceptable engine1.config restored := by
      refine ⟨?_, ?_, ?_⟩
      · rw [htick, show restored.elapsed = boundary.metadata.elapsed from
          congrArg SnapshotBoundaryMetadata.elapsed hfields]
        exact helapsed
      · exact (congrArg SnapshotBoundaryMetadata.seed hfields).trans hseed
      · rw [htick]
        exact (congrArg SnapshotBoundaryMetadata.stateLastCompletedTick hfields).trans hstate
    obtain ⟨back, hback, huntraced⟩ := installSnapshot_ok hacceptable.elapsed
    have hlast := (onFst_ok.mp hinstall).1
    rw [show installSnapshot restored engine1 = .ok () back from hback] at hlast
    obtain rfl : back = s.1 := by injection hlast
    exact .inr ⟨restored, hacceptable, huntraced⟩

/-! ### The elapsed duration fits -/

/-- The elapsed duration of the current tick is representable. -/
def Fits (engine : SimulationEngine Data Input) : Prop :=
  engine.config.Representable engine.clock.currentTick.toNat

theorem fits_of_frame {engine ran : SimulationEngine Data Input} (hframe : ran.frame = engine.frame)
    (hfits : engine.Fits) : ran.Fits := by
  unfold Fits
  rw [show ran.clock.currentTick = engine.clock.currentTick from
      congrArg (fun frame => frame.2.1) hframe,
    show ran.config = engine.config from congrArg Prod.fst hframe]
  exact hfits

theorem stepImpl_fits (input : Option Input) :
    Preserves Fits (stepImpl input : Call Data Input Unit) := by
  intro engine hfits
  rcases stepImpl_outcome input engine with ⟨what, h⟩ | ⟨hnext, ran, hframe, ⟨exception, h, -⟩ | h⟩
  · rw [h]
    exact hfits
  · rw [h]
    exact fits_of_frame hframe hfits
  · rw [h]
    exact (advanced_completed input hnext hframe).aligned.elapsed_fits

theorem restores_fits {engine back : SimulationEngine Data Input} (hback : engine.Restores back)
    (hfits : engine.Fits) : back.Fits := by
  rcases hback with rfl | ⟨snapshot, hacceptable, hback⟩
  · exact hfits
  · have hframe : back.untraced.frame = (engine.holding snapshot).frame := by rw [hback]
    exact fits_of_frame hframe (checkedDurationProduct_eq_ok.mp hacceptable.elapsed).1

theorem addSystem_frame (phase : SystemPhase) (name : String)
    (system : Option (SystemCallback Data Input)) (engine : SimulationEngine Data Input) :
    endState (addSystem phase name system engine) = engine ∨ ∃ callback, system = some callback ∧
      name ≠ "" ∧ endState (addSystem phase name system engine) =
        { engine with systems := engine.systems ++ [⟨phase, name, callback⟩] } := by
  unfold addSystem
  by_cases hname : name = ""
  · rw [if_pos hname]
    exact .inl rfl
  rw [if_neg hname]
  cases system with
  | none => exact .inl rfl
  | some callback => exact .inr ⟨callback, rfl, hname, rfl⟩

theorem after_fits (call : EngineCall Data Input) {engine : SimulationEngine Data Input}
    (hfits : engine.Fits) : (engine.after call).Fits := by
  cases call with
  | addSystem phase name system =>
    change (endState (addSystem phase name system engine)).Fits
    rcases addSystem_frame phase name system engine with h | ⟨callback, -, -, h⟩ <;> rw [h] <;>
      exact hfits
  | enableReplayCapture => exact hfits
  | disableReplayCapture => exact hfits
  | clearReplayTrace => exact hfits
  | step input => exact stepImpl_fits input engine hfits
  | runForTicks ticks => exact preserves_forM (fun _ _ => stepImpl_fits none) engine hfits
  | runForSequence inputs =>
    exact preserves_forM (fun input _ => stepImpl_fits (some input)) engine hfits
  | captureSnapshot => exact hfits
  | captureSnapshotBoundary adapter object => exact hfits
  | restoreSnapshot snapshot => exact restores_fits (restoreSnapshot_restores snapshot engine) hfits
  | restoreSnapshotBoundary boundary adapter object =>
    exact restores_fits (restoreSnapshotBoundary_restores boundary adapter engine object) hfits
  | editState edit => exact hfits

theorem new_fits (config : SimulationConfig) (initialState : SimulationState Data) :
    (new config initialState : SimulationEngine Data Input).Fits := by
  simp [Fits, SimulationConfig.Representable, new, SimulationClock.new]

theorem afterAll_fits (calls : List (EngineCall Data Input)) {engine : SimulationEngine Data Input}
    (hfits : engine.Fits) : (engine.afterAll calls).Fits :=
  afterAll_keeps (fun call _ _ h => after_fits call h) hfits

/-! ### Clock and state hold the same tick -/

/-- In step, with systems that leave it so. -/
structure InStep (engine : SimulationEngine Data Input) : Prop where
  state_tick : engine.state.lastCompletedTick = engine.clock.currentTick
  systems : ∀ system ∈ engine.systems, system.KeepsTick

theorem inStep_of_frame {engine ran : SimulationEngine Data Input} (hstep : engine.InStep)
    (hframe : ran.frame = engine.frame)
    (hstate : ran.state.lastCompletedTick = engine.state.lastCompletedTick) : ran.InStep := by
  refine ⟨?_, ?_⟩
  · rw [hstate, hstep.state_tick]
    exact (congrArg (fun frame => frame.2.1) hframe).symm
  · rw [show ran.systems = engine.systems from congrArg (fun frame => frame.2.2) hframe]
    exact hstep.systems

theorem stepImpl_inStep (input : Option Input) :
    Preserves InStep (stepImpl input : Call Data Input Unit) := by
  intro engine hstep
  rcases stepImpl_outcome input engine with
    ⟨what, h⟩ | ⟨hnext, ran, hframe, ⟨exception, h, hkept⟩ | h⟩
  · rw [h]
    exact hstep
  · rw [h]
    exact inStep_of_frame hstep hframe (hkept hstep.systems)
  · rw [h]
    have hadvanced := advanced_completed input hnext hframe
    refine ⟨hadvanced.aligned.state_tick, ?_⟩
    rw [endState_ok, hadvanced.setup.2]
    exact hstep.systems

theorem restores_inStep {engine back : SimulationEngine Data Input} (hback : engine.Restores back)
    (hstep : engine.InStep) : back.InStep := by
  rcases hback with rfl | ⟨snapshot, hacceptable, hback⟩
  · exact hstep
  · have hheld : (engine.holding snapshot).InStep := ⟨hacceptable.state_tick, hstep.systems⟩
    have hsame : back.untraced.InStep := by rwa [hback]
    exact ⟨hsame.state_tick, hsame.systems⟩

theorem after_inStep {call : EngineCall Data Input} (hkeeps : call.KeepsTick)
    {engine : SimulationEngine Data Input} (hstep : engine.InStep) :
    (engine.after call).InStep := by
  cases call with
  | addSystem phase name system =>
    change (endState (addSystem phase name system engine)).InStep
    rcases addSystem_frame phase name system engine with h | ⟨callback, rfl, -, h⟩
    · rw [h]
      exact hstep
    · rw [h]
      refine ⟨hstep.state_tick, fun system hmem => ?_⟩
      rcases List.mem_append.mp hmem with hmem | hmem
      · exact hstep.systems system hmem
      · rw [List.mem_singleton.mp hmem]
        exact hkeeps
  | enableReplayCapture => exact ⟨hstep.state_tick, hstep.systems⟩
  | disableReplayCapture => exact ⟨hstep.state_tick, hstep.systems⟩
  | clearReplayTrace => exact ⟨hstep.state_tick, hstep.systems⟩
  | step input => exact stepImpl_inStep input engine hstep
  | runForTicks ticks => exact preserves_forM (fun _ _ => stepImpl_inStep none) engine hstep
  | runForSequence inputs =>
    exact preserves_forM (fun input _ => stepImpl_inStep (some input)) engine hstep
  | captureSnapshot => exact hstep
  | captureSnapshotBoundary adapter object => exact hstep
  | restoreSnapshot snapshot =>
    exact restores_inStep (restoreSnapshot_restores snapshot engine) hstep
  | restoreSnapshotBoundary boundary adapter object =>
    exact restores_inStep (restoreSnapshotBoundary_restores boundary adapter engine object) hstep
  | editState edit => exact ⟨(hkeeps engine.state).trans hstep.state_tick, hstep.systems⟩

theorem new_inStep (config : SimulationConfig) (initialState : SimulationState Data) :
    (new config initialState : SimulationEngine Data Input).InStep :=
  ⟨rfl, fun _ hmem => absurd hmem List.not_mem_nil⟩

theorem afterAll_aligned (config : SimulationConfig) (initialState : SimulationState Data)
    {calls : List (EngineCall Data Input)} (hkeeps : ∀ call ∈ calls, call.KeepsTick) :
    ((new config initialState).afterAll calls).Aligned where
  state_tick := (afterAll_keeps (fun call hmem _ h => after_inStep (hkeeps call hmem) h)
    (new_inStep config initialState)).state_tick
  elapsed_fits := afterAll_fits calls (new_fits config initialState)

/-! ### Configuration and systems -/

/- Only `addSystem` changes either, and it adds at the end. -/
theorem after_setup (call : EngineCall Data Input) (engine : SimulationEngine Data Input) :
    (engine.after call).config = engine.config ∧
      (engine.after call).systems = engine.systems ++ call.registration.toList := by
  have hsame {other : SimulationEngine Data Input} (hsetup : engine.SameSetup other) :
      other.config = engine.config ∧ other.systems = engine.systems ++ [] :=
    ⟨hsetup.1, hsetup.2.trans (List.append_nil _).symm⟩
  have hrestores {back : SimulationEngine Data Input} (hback : engine.Restores back) :
      engine.SameSetup back := by
    rcases hback with rfl | ⟨snapshot, -, hback⟩
    · exact ⟨rfl, rfl⟩
    · exact ⟨congrArg (·.config) hback, congrArg (·.systems) hback⟩
  cases call with
  | addSystem phase name system =>
    change (endState (addSystem phase name system engine)).config = _ ∧
      (endState (addSystem phase name system engine)).systems = _
    unfold addSystem
    by_cases hname : name = ""
    · rw [if_pos hname]
      cases system <;> simp [EngineCall.registration, hname]
    · rw [if_neg hname]
      cases system <;> simp [EngineCall.registration, hname]
  | enableReplayCapture => exact hsame ⟨rfl, rfl⟩
  | disableReplayCapture => exact hsame ⟨rfl, rfl⟩
  | clearReplayTrace => exact hsame ⟨rfl, rfl⟩
  | step input => exact hsame (stepImpl_setup engine input engine ⟨rfl, rfl⟩)
  | runForTicks ticks =>
    exact hsame (preserves_forM (fun _ _ => stepImpl_setup engine none) engine ⟨rfl, rfl⟩)
  | runForSequence inputs => exact hsame (runForSequence_setup engine inputs engine ⟨rfl, rfl⟩)
  | captureSnapshot => exact hsame ⟨rfl, rfl⟩
  | captureSnapshotBoundary adapter object => exact hsame ⟨rfl, rfl⟩
  | restoreSnapshot snapshot => exact hsame (hrestores (restoreSnapshot_restores snapshot engine))
  | restoreSnapshotBoundary boundary adapter object =>
    exact hsame (hrestores (restoreSnapshotBoundary_restores boundary adapter engine object))
  | editState edit => exact hsame ⟨rfl, rfl⟩

theorem afterAll_setup (calls : List (EngineCall Data Input))
    (engine : SimulationEngine Data Input) :
    (engine.afterAll calls).config = engine.config ∧
      (engine.afterAll calls).systems =
        engine.systems ++ calls.filterMap EngineCall.registration := by
  induction calls generalizing engine with
  | nil => exact ⟨rfl, (List.append_nil _).symm⟩
  | cons call calls ih =>
    obtain ⟨hconfig, hsystems⟩ := after_setup call engine
    obtain ⟨hconfig', hsystems'⟩ := ih (engine.after call)
    refine ⟨hconfig'.trans hconfig, hsystems'.trans ?_⟩
    rw [hsystems, List.append_assoc]
    cases hcall : call.registration with
    | none =>
      rw [List.filterMap_cons_none hcall]
      rfl
    | some system =>
      rw [List.filterMap_cons_some hcall]
      rfl

/-! ### Without the trace -/

theorem installSnapshot_untraced (snapshot : SimulationSnapshot Data) :
    Commutes untraced (installSnapshot snapshot : Call Data Input Unit) :=
  commutes_bind (onClock_untraced _) fun _ =>
    commutes_bind (commutes_modify fun _ => rfl) fun _ =>
      commutes_modify (recordReplayEvent_untraced _)

theorem restoreSnapshot_untraced (snapshot : SimulationSnapshot Data) :
    Commutes untraced (restoreSnapshot snapshot : Call Data Input Unit) :=
  commutes_get_bind (fun _ => rfl) fun _ =>
    commutes_bind (commutes_liftExcept _ _) fun _ => installSnapshot_untraced snapshot

theorem restoreSnapshotBoundary_untraced {Adapter Payload : Type}
    (boundary : SnapshotBoundary Payload) (adapter : SnapshotStateAdapter Adapter Payload Data) :
    Commutes (Prod.map (untraced : SimulationEngine Data Input → SimulationEngine Data Input) id)
      (restoreSnapshotBoundary boundary adapter) :=
  commutes_get_bind (fun _ => rfl) fun _ =>
    commutes_bind (commutes_liftExcept _ _) fun _ =>
      commutes_bind (commutes_onSnd _) fun restored =>
        commutes_bind (commutes_liftExcept _ _) fun _ =>
          commutes_onFst (installSnapshot_untraced restored)

theorem addSystem_untraced (phase : SystemPhase) (name : String)
    (system : Option (SystemCallback Data Input)) :
    Commutes untraced (addSystem phase name system : Call Data Input ℕ) := by
  intro engine
  unfold addSystem
  by_cases hname : name = ""
  · rw [if_pos hname, if_pos hname]
    rfl
  · rw [if_neg hname, if_neg hname]
    cases system <;> rfl

theorem after_untraced (call : EngineCall Data Input) (engine : SimulationEngine Data Input) :
    (engine.after call).untraced =
      if call.isTraceControl then engine.untraced else engine.untraced.after call := by
  cases call with
  | addSystem phase name system =>
    exact (endState_commutes (addSystem_untraced phase name system) engine).symm
  | enableReplayCapture => rfl
  | disableReplayCapture => rfl
  | clearReplayTrace => rfl
  | step input => exact (endState_commutes (stepImpl_untraced input) engine).symm
  | runForTicks ticks =>
    exact (endState_commutes (commutes_forM fun _ _ => stepImpl_untraced none) engine).symm
  | runForSequence inputs =>
    exact (endState_commutes (runForSequence_untraced inputs) engine).symm
  | captureSnapshot => rfl
  | captureSnapshotBoundary adapter object => rfl
  | restoreSnapshot snapshot =>
    exact (endState_commutes (restoreSnapshot_untraced snapshot) engine).symm
  | restoreSnapshotBoundary boundary adapter object =>
    exact congrArg Prod.fst (endState_commutes
      (restoreSnapshotBoundary_untraced boundary adapter) (engine, object)).symm
  | editState edit => rfl

/- The engine without its trace is the one that the other calls alone lead to. -/
theorem afterAll_untraced (calls : List (EngineCall Data Input))
    (engine : SimulationEngine Data Input) :
    (engine.afterAll calls).untraced =
      engine.untraced.afterAll (calls.filter fun call => !call.isTraceControl) := by
  induction calls generalizing engine with
  | nil => rfl
  | cons call calls ih =>
    change ((engine.after call).afterAll calls).untraced = _
    rw [ih, after_untraced]
    cases hcontrol : call.isTraceControl with
    | true => rw [List.filter_cons_of_neg (by simp [hcontrol])]; rfl
    | false => rw [List.filter_cons_of_pos (by simp [hcontrol])]; rfl

end SimulationEngine

end XenorEngine.Cpp
