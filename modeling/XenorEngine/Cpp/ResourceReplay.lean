import XenorEngine.Cpp.ResourcePipeline

/-!
# The checks of the resource pipeline

What `main` of examples/resource_pipeline_example.cpp compares, for any seed, inputs and
checkpoint, and what a boundary of the older payload version does to the runs that follow.
-/

namespace XenorEngine.Cpp
open XenorEngine.Lib.Fallible

namespace ResourcePipeline
open SimulationEngine (runForSequence restoreSnapshot restoreSnapshotBoundary)

def identicalState (left right : SimulationState ResourcePipelineState) : Bool :=
  left.data.ore == right.data.ore && left.data.ingots == right.data.ingots &&
    left.data.finishedUnits == right.data.finishedUnits &&
    left.data.backlog == right.data.backlog &&
    left.data.randomChecksum == right.data.randomChecksum &&
    left.lastCompletedTick == right.lastCompletedTick

def identical (left right : SimulationSnapshot ResourcePipelineState) : Bool :=
  left.tick == right.tick && left.elapsed == right.elapsed && left.seed == right.seed &&
    identicalState left.state right.state

def countEvents (trace : ReplayTrace ResourceTickInput) (kind : ReplayEventKind) : ℕ :=
  trace.events.countP (·.kind == kind)

def makeInputs : List ResourceTickInput :=
  [⟨3, 1⟩, ⟨1, 2⟩, ⟨4, 2⟩, ⟨2, 3⟩, ⟨5, 2⟩, ⟨1, 1⟩, ⟨3, 3⟩, ⟨2, 1⟩]

/-- A call that `main` makes: an exception ends it. -/
def finish {σ α : Type} (call : EStateM Exception σ α) (object : σ) : Except Exception (α × σ) :=
  match call object with
  | .ok value object => .ok (value, object)
  | .error exception _ => .error exception

/-- Whether `main` finds its runs deterministic. -/
def replayCheck (seed : UInt64) (inputs : List ResourceTickInput) (checkpointTicks : ℕ) :
    Except Exception Bool := do
  let initialInputs ← InputSequence.slice inputs 0 checkpointTicks
  let remainingInputs ← InputSequence.slice inputs checkpointTicks
  let capturing := (makeEngine seed).enableReplayCapture
  let (_, uninterrupted) ← finish (runForSequence inputs) capturing
  let uninterruptedFinal ← uninterrupted.captureSnapshot
  let (_, restored) ← finish (runForSequence initialInputs) capturing
  let checkpoint ← restored.captureSnapshot
  let (_, restored) ← finish (runForSequence remainingInputs) restored
  let firstContinuation ← restored.captureSnapshot
  let (_, restored) ← finish (restoreSnapshot checkpoint) restored
  let (_, restored) ← finish (runForSequence remainingInputs) restored
  let replayedContinuation ← restored.captureSnapshot
  let (_, repeated) ← finish (runForSequence inputs) capturing
  let repeatedFinal ← repeated.captureSnapshot
  let (serializedBoundary, adapter) ←
    finish (uninterrupted.captureSnapshotBoundary resourcePipelineSnapshotAdapter) ()
  let (_, boundaryRestored, adapter) ← finish
    (restoreSnapshotBoundary serializedBoundary resourcePipelineSnapshotAdapter)
    (makeEngine seed, adapter)
  let boundaryRestoredSnapshot ← boundaryRestored.captureSnapshot
  let legacyBoundary := { serializedBoundary with
    payloadVersion := 1, statePayload := { serializedBoundary.statePayload with backlog := 0 } }
  let (_, migratedBoundaryRestored, _) ← finish
    (restoreSnapshotBoundary legacyBoundary resourcePipelineSnapshotAdapter)
    (makeEngine seed, adapter)
  let migratedBoundarySnapshot ← migratedBoundaryRestored.captureSnapshot
  pure (identical uninterruptedFinal repeatedFinal &&
    identical firstContinuation replayedContinuation &&
    identical uninterruptedFinal replayedContinuation &&
    identical uninterruptedFinal boundaryRestoredSnapshot &&
    migratedBoundarySnapshot.state.data.backlog == 0 &&
    uninterrupted.replayTrace == repeated.replayTrace &&
    countEvents restored.replayTrace .snapshotRestored == 1)

theorem identical_self (snapshot : SimulationSnapshot ResourcePipelineState) :
    identical snapshot snapshot = true := by
  simp [identical, identicalState]

theorem finish_eq_ok {σ α : Type} {call : EStateM Exception σ α} {object object' : σ} {value : α} :
    finish call object = .ok (value, object') ↔ call object = .ok value object' := by
  unfold finish
  cases call object <;> simp

/- A run records no restore. -/
theorem countEvents_runEvents (config : SimulationConfig)
    (order : List (RegisteredSystem ResourcePipelineState ResourceTickInput)) (tick : UInt64)
    (inputs : List ResourceTickInput) :
    (runEvents config order tick inputs).countP (·.kind == .snapshotRestored) = 0 := by
  induction inputs generalizing tick with
  | nil => rfl
  | cons input inputs ih =>
    rw [runEvents, List.countP_append, ih, Nat.add_zero, List.countP_eq_zero]
    intro event hmem
    simp only [SimulationEngine.stepEvents, List.mem_append, List.mem_cons, List.mem_map,
      List.not_mem_nil, or_false] at hmem
    rcases hmem with ((rfl | ⟨_, -, rfl⟩) | ⟨_, -, rfl⟩) | rfl <;> exact Bool.false_ne_true

/-! ### Boundaries of a pipeline -/

section Boundary
variable {source engine : PipelineEngine}

/- What an engine puts into a boundary. -/
theorem captureSnapshotBoundary_eq (haligned : source.Aligned) :
    ∃ snapshot, source.captureSnapshot = .ok snapshot ∧
      source.captureSnapshotBoundary resourcePipelineSnapshotAdapter () =
        .ok ⟨makeSnapshotBoundaryMetadata snapshot, 2,
          ResourcePipelineSnapshotAdapter.capture source.state⟩ () := by
  obtain ⟨snapshot, hcaptured⟩ := SimulationEngine.captureSnapshot_of_aligned haligned
  have hstate : snapshot.state = source.state :=
    congrArg SimulationSnapshot.state (SimulationEngine.captureSnapshot_eq_ok.mp hcaptured).2
  have hacceptable := SimulationEngine.acceptable_captured haligned hcaptured
  have hvalid : validateSnapshotBoundaryMetadata (makeSnapshotBoundaryMetadata snapshot) = .ok () :=
    validateSnapshotBoundaryMetadata_eq_ok.mpr ⟨rfl, hacceptable.state_tick⟩
  refine ⟨snapshot, hcaptured, ?_⟩
  refine estate_bind_ok.mpr ⟨snapshot, (), liftExcept_ok.mpr ⟨hcaptured, rfl⟩, ?_⟩
  refine estate_bind_ok.mpr ⟨(), (), liftExcept_ok.mpr ⟨hvalid, rfl⟩, ?_⟩
  rw [← hstate]
  rfl

/- The metadata of a boundary is right for any engine of the same setup. -/
theorem metadata_valid {snapshot : SimulationSnapshot ResourcePipelineState}
    (haligned : source.Aligned) (hsetup : source.SameSetup engine)
    (hcaptured : source.captureSnapshot = .ok snapshot) :
    validateSnapshotBoundaryMetadataFor (makeSnapshotBoundaryMetadata snapshot) engine.config =
      .ok () := by
  have hacceptable := SimulationEngine.acceptable_captured haligned hcaptured
  rw [hsetup.1]
  exact validateSnapshotBoundaryMetadataFor_eq_ok.mpr
    ⟨validateSnapshotBoundaryMetadata_eq_ok.mpr ⟨rfl, hacceptable.state_tick⟩,
      hacceptable.elapsed, hacceptable.seed⟩

/-- The engine without its trace, and with another backlog. -/
def withBacklog (backlog : UInt64) (engine : PipelineEngine) : PipelineEngine :=
  SimulationEngine.untraced { engine with
    state := ⟨engine.state.lastCompletedTick, { engine.state.data with backlog := backlog }⟩ }

/- A payload of version 1 brings everything but the backlog. -/
theorem restore_legacy {snapshot : SimulationSnapshot ResourcePipelineState}
    (haligned : source.Aligned) (hsetup : source.SameSetup engine)
    (hcaptured : source.captureSnapshot = .ok snapshot) (backlog : UInt64) :
    ∃ back, restoreSnapshotBoundary
        ⟨makeSnapshotBoundaryMetadata snapshot, 1,
          { ResourcePipelineSnapshotAdapter.capture source.state with backlog := backlog }⟩
        resourcePipelineSnapshotAdapter (engine, ()) = .ok () (back, ()) ∧
      back.untraced = withBacklog 0 source := by
  have hvalid := metadata_valid haligned hsetup hcaptured
  have hacceptable := SimulationEngine.acceptable_captured haligned hcaptured
  rw [← hsetup.1] at hacceptable
  let migrated : SimulationSnapshot ResourcePipelineState :=
    ⟨snapshot.tick, snapshot.elapsed, snapshot.seed,
      ⟨snapshot.state.lastCompletedTick, { source.state.data with backlog := 0 }⟩⟩
  have hfit : checkedDurationProduct engine.config.tickDuration migrated.tick =
      .ok migrated.elapsed := hacceptable.elapsed
  obtain ⟨back, hinstall, hback⟩ := SimulationEngine.installSnapshot_ok hfit
  have hholding : engine.holding migrated = withBacklog 0 source := by
    have hholding := SimulationEngine.holding_captured hsetup hcaptured
    obtain ⟨-, hsnapshot⟩ := SimulationEngine.captureSnapshot_eq_ok.mp hcaptured
    obtain ⟨config, clock, state, trace, capture, systems⟩ := source
    obtain ⟨config', clock', state', trace', capture', systems'⟩ := engine
    obtain ⟨hconfig, hsystems⟩ := hsetup
    dsimp only at hconfig hsystems hsnapshot
    subst hconfig hsystems
    dsimp only [migrated]
    rw [hsnapshot]
    rfl
  refine ⟨back, ?_, hback.trans hholding⟩
  unfold restoreSnapshotBoundary
  refine estate_bind_ok.mpr ⟨(engine, ()), (engine, ()), rfl, ?_⟩
  refine estate_bind_ok.mpr ⟨(), (engine, ()), liftExcept_ok.mpr ⟨hvalid, rfl⟩, ?_⟩
  refine estate_bind_ok.mpr ⟨migrated, (engine, ()), onSnd_ok.mpr ⟨?_, rfl⟩, ?_⟩
  · have hmetadata := (validateSnapshotBoundaryMetadataFor_eq_ok.mp hvalid).1
    refine estate_bind_ok.mpr ⟨(), (), liftExcept_ok.mpr ⟨hmetadata, rfl⟩, ?_⟩
    refine estate_bind_ok.mpr ⟨(), (), rfl, ?_⟩
    refine estate_bind_ok.mpr ⟨⟨0, { source.state.data with backlog := 0 }⟩, (),
      rethrow_ok.mpr rfl, ?_⟩
    exact estate_bind_ok.mpr ⟨(), (), liftExcept_ok.mpr
      ⟨rejectIf_eq_ok.mpr (not_not.mpr rfl), rfl⟩, rfl⟩
  refine estate_bind_ok.mpr
    ⟨(), (engine, ()), liftExcept_ok.mpr ⟨rejectIf_eq_ok.mpr ?_, rfl⟩, ?_⟩
  · simp [migrated, makeSnapshotBoundaryMetadata]
  · exact onFst_ok.mpr ⟨hinstall, rfl⟩

def unsupportedVersion (version : UInt32) : Exception :=
  .snapshotBoundaryError .unsupportedPayloadVersion
    ("snapshot boundary payload version " ++ toString version ++ " is not supported by the adapter")

/- Versions other than the two are refused before the payload is read. -/
theorem restore_unsupported {metadata : SnapshotBoundaryMetadata} {version : UInt32}
    (hvalid : validateSnapshotBoundaryMetadataFor metadata engine.config = .ok ())
    (hversion : version ≠ 1 ∧ version ≠ 2) (payload : ResourcePipelinePayload) :
    restoreSnapshotBoundary ⟨metadata, version, payload⟩ resourcePipelineSnapshotAdapter
      (engine, ()) = .error (unsupportedVersion version) (engine, ()) := by
  have hmetadata := (validateSnapshotBoundaryMetadataFor_eq_ok.mp hvalid).1
  have hunsupported : (version == 1 || version == 2) = false := by
    simp [hversion.1, hversion.2]
  have hcheck : resourcePipelineSnapshotAdapter.supportsPayloadVersion version () =
      .ok false () := congrArg (fun b => EStateM.Result.ok b ()) hunsupported
  unfold restoreSnapshotBoundary
  refine estate_bind_error.mpr (.inr ⟨(engine, ()), (engine, ()), rfl, ?_⟩)
  refine estate_bind_error.mpr (.inr
    ⟨(), (engine, ()), liftExcept_ok.mpr ⟨hvalid, rfl⟩, ?_⟩)
  refine estate_bind_error.mpr (.inl (onSnd_error.mpr ⟨?_, rfl⟩))
  refine estate_bind_error.mpr (.inr ⟨(), (), liftExcept_ok.mpr ⟨hmetadata, rfl⟩, ?_⟩)
  refine estate_bind_error.mpr (.inl (rethrow_error.mpr ⟨unsupportedVersion version, ?_, rfl⟩))
  exact estate_bind_error.mpr (.inr ⟨false, (), hcheck, rfl⟩)

end Boundary

/-! ### A backlog that is lost stays lost -/

def addBacklog (backlog : UInt64) (data : ResourcePipelineState) : ResourcePipelineState :=
  { data with backlog := data.backlog + backlog }

theorem tick_addBacklog (stepSeed backlog : UInt64) (input : ResourceTickInput)
    (data : ResourcePipelineState) :
    tick stepSeed input (addBacklog backlog data) =
      addBacklog backlog (tick stepSeed input data) := by
  have hbacklog (unmet : UInt64) :
      data.backlog + backlog + unmet = data.backlog + unmet + backlog := by
    rw [UInt64.add_assoc, UInt64.add_comm backlog, UInt64.add_assoc]
  unfold tick addBacklog
  dsimp only
  rw [hbacklog]

theorem foldl_advance_addBacklog (seed backlog : UInt64) (inputs : List ResourceTickInput)
    (reached : UInt64) (data : ResourcePipelineState) :
    inputs.foldl (advance seed) (reached, addBacklog backlog data) =
      Prod.map id (addBacklog backlog) (inputs.foldl (advance seed) (reached, data)) := by
  induction inputs generalizing reached data with
  | nil => rfl
  | cons input inputs ih =>
    rw [List.foldl_cons, List.foldl_cons, advance, advance, tick_addBacklog, ih]

theorem addBacklog_of_zero (data : ResourcePipelineState) :
    addBacklog data.backlog { data with backlog := 0 } = data := by
  rw [addBacklog, UInt64.zero_add]

/- A boundary that is restored as one of version 1, on any engine of the same setup, gives
runs like those that were never interrupted, less the backlog at the boundary. No other
version is taken. -/
theorem legacy_restore_loses_backlog (seed : UInt64) {history further : List ResourceTickInput}
    (hfit : (config seed).Representable (history ++ further).length) {engine : PipelineEngine}
    (hsetup : (makeEngine seed).SameSetup engine) :
    ∃ source boundary back last whole,
      runForSequence history (makeEngine seed) = .ok () source ∧
      source.captureSnapshotBoundary resourcePipelineSnapshotAdapter () = .ok boundary () ∧
      restoreSnapshotBoundary { boundary with payloadVersion := 1 }
        resourcePipelineSnapshotAdapter (engine, ()) = .ok () (back, ()) ∧
      runForSequence further back = .ok () last ∧
      runForSequence (history ++ further) (makeEngine seed) = .ok () whole ∧
      whole.clock.currentTick = last.clock.currentTick ∧
      whole.state = ⟨last.state.lastCompletedTick,
        addBacklog source.state.data.backlog last.state.data⟩ ∧
      ∀ version, version ≠ 1 ∧ version ≠ 2 →
        restoreSnapshotBoundary { boundary with payloadVersion := version }
          resourcePipelineSnapshotAdapter (engine, ()) =
            .error (unsupportedVersion version) (engine, ()) := by
  have hfresh := makeEngine_fresh seed
  have hzero : (makeEngine seed).clock.currentTick.toNat = 0 := rfl
  obtain ⟨whole, hwhole, hadvanced⟩ := SimulationEngine.runForSequence_ok_on (history ++ further)
    hfresh.aligned hfresh.quiet (by rwa [hzero, Nat.zero_add])
  obtain ⟨source, hsource, hreached⟩ := SimulationEngine.runForSequence_ok_on history
    hfresh.aligned hfresh.quiet (by
      rw [hzero, Nat.zero_add]
      exact representable_mono (by rw [List.length_append]; omega) hfit)
  have hfurther : runForSequence further source = .ok () whole := by
    rw [SimulationEngine.runForSequence_append] at hwhole
    obtain ⟨_, source', hsource', hfurther⟩ := estate_bind_ok.mp hwhole
    rw [hsource] at hsource'
    injection hsource' with _ hsame
    rwa [hsame]
  have hsame : source.SameSetup engine :=
    ⟨hsetup.1.trans hreached.setup.1.symm, hsetup.2.trans hreached.setup.2.symm⟩
  obtain ⟨snapshot, hcaptured, hboundary⟩ := captureSnapshotBoundary_eq hreached.aligned
  obtain ⟨back, hrestore, hback⟩ :=
    restore_legacy hreached.aligned hsame hcaptured source.state.data.backlog
  have hconfig : back.config = source.config := congrArg (·.config) hback
  have hsystems : back.systems = source.systems := congrArg (·.systems) hback
  have htick : back.clock.currentTick = source.clock.currentTick :=
    congrArg (fun e => e.clock.currentTick) hback
  have hstate : back.state = (withBacklog 0 source).state := congrArg (·.state) hback
  have haligned : back.Aligned := by
    refine ⟨?_, ?_⟩
    · rw [hstate, htick]
      exact hreached.aligned.state_tick
    · rw [htick, hconfig]
      exact hreached.aligned.elapsed_fits
  have hquiet : ∀ system ∈ back.systems, system.ReturnsOnInput := by
    rw [hsystems, hreached.setup.2]
    exact hfresh.quiet
  obtain ⟨last, hlast, hadvanced'⟩ := SimulationEngine.runForSequence_ok_on further haligned hquiet
    (by
      rw [htick, hreached.tick, hzero, Nat.zero_add, ← List.length_append, hconfig,
        hreached.setup.1]
      exact hfit)
  have hdata := runForSequence_data (hreached.setup.2.trans (makeEngine_systems seed)) hfurther
  have hdata' := runForSequence_data (hsystems.trans
    (hreached.setup.2.trans (makeEngine_systems seed))) hlast
  have hkept : source.state.data = addBacklog source.state.data.backlog back.state.data := by
    rw [hstate]
    exact (addBacklog_of_zero _).symm
  rw [hkept, foldl_advance_addBacklog, ← htick, ← hconfig, ← hdata'] at hdata
  obtain ⟨hclock, hwholeData⟩ := Prod.mk.inj hdata
  refine ⟨source, _, back, last, whole, hsource, hboundary, hrestore, hlast, hwhole, hclock, ?_,
    fun version hversion => ?_⟩
  · have hstate' : whole.state = ⟨whole.state.lastCompletedTick, whole.state.data⟩ := rfl
    rw [hstate', hadvanced.aligned.state_tick, hadvanced'.aligned.state_tick, hclock, hwholeData]
    rfl
  · exact restore_unsupported (metadata_valid hreached.aligned hsame hcaptured) hversion _

theorem representable_of_lt {seed : UInt64} {n : ℕ} (h : n < 184467440737) :
    (config seed).Representable n := by
  have hduration : (config seed).tickDuration.toInt = 50000000 := rfl
  unfold SimulationConfig.Representable
  rw [hduration]
  omega

def started : List ResourceTickInput := [⟨3, 1⟩, ⟨1, 9⟩]

def continued : List ResourceTickInput := [⟨4, 2⟩]

theorem legacy_restore_loses_backlog_started :
    ∃ source boundary back last whole,
      runForSequence started (makeEngine 41) = .ok () source ∧
      source.captureSnapshotBoundary resourcePipelineSnapshotAdapter () = .ok boundary () ∧
      restoreSnapshotBoundary { boundary with payloadVersion := 1 }
        resourcePipelineSnapshotAdapter (makeEngine 41, ()) = .ok () (back, ()) ∧
      runForSequence continued back = .ok () last ∧
      runForSequence (started ++ continued) (makeEngine 41) = .ok () whole ∧
      whole.state = ⟨last.state.lastCompletedTick,
        addBacklog source.state.data.backlog last.state.data⟩ := by
  have hfit : (config 41).Representable (started ++ continued).length :=
    representable_of_lt (by simp [started, continued])
  have hsetup : (makeEngine 41).SameSetup (makeEngine 41) := ⟨rfl, rfl⟩
  obtain ⟨source, boundary, back, last, whole, hsource, hboundary, hrestore, hlast, hwhole, -,
    hstate, -⟩ := legacy_restore_loses_backlog 41 hfit hsetup
  exact ⟨source, boundary, back, last, whole, hsource, hboundary, hrestore, hlast, hwhole, hstate⟩

/-! ### The check of `main` -/

theorem representable_of_run {engine last : PipelineEngine} (hfresh : engine.Fresh)
    {inputs : List ResourceTickInput} (hrun : runForSequence inputs engine = .ok () last) :
    engine.config.Representable inputs.length := by
  induction inputs using List.reverseRecOn generalizing last with
  | nil => exact representable_mono (Nat.zero_le _) hfresh.aligned.elapsed_fits
  | append_singleton inputs input ih =>
    rw [SimulationEngine.runForSequence_append] at hrun
    obtain ⟨_, mid, hmid, hrest⟩ := estate_bind_ok.mp hrun
    obtain ⟨_, next, hstep, -⟩ := estate_bind_ok.mp hrest
    have hreaches : engine.Reaches mid inputs := ⟨ih hmid, mid, hmid, rfl⟩
    by_contra hfit
    have hrejected : ¬mid.config.Representable (mid.clock.currentTick.toNat + 1) := by
      rwa [hfresh.tick hreaches, (hfresh.source hreaches).2.1, ← List.length_singleton (a := input),
        ← List.length_append]
    obtain ⟨what, hthrows⟩ := SimulationEngine.stepImpl_of_not_representable (some input) hrejected
    have hstep' : SimulationEngine.stepImpl (some input) mid = .ok () next := hstep
    rw [hthrows] at hstep'
    cases hstep'

/- The whole run and the resumed run that `main` compares. -/
theorem exists_runs {seed : UInt64} {inputs : List ResourceTickInput}
    (hfit : (config seed).Representable inputs.length) (k : ℕ) :
    ∃ whole mid back last checkpoint final,
      runForSequence inputs (makeEngine seed).enableReplayCapture = .ok () whole ∧
      whole.captureSnapshot = .ok final ∧ whole.Aligned ∧ (makeEngine seed).SameSetup whole ∧
      runForSequence (inputs.take k) (makeEngine seed).enableReplayCapture = .ok () mid ∧
      mid.captureSnapshot = .ok checkpoint ∧
      runForSequence (inputs.drop k) mid = .ok () whole ∧
      restoreSnapshot checkpoint whole = .ok () back ∧
      runForSequence (inputs.drop k) back = .ok () last ∧ last.captureSnapshot = .ok final ∧
      countEvents last.replayTrace .snapshotRestored = 1 := by
  have hbuilt : (makeEngine seed).enableReplayCapture.Built (config seed) ⟨0, {}⟩ :=
    .enableReplayCapture (makeEngine_built seed)
  have hfresh : (makeEngine seed).enableReplayCapture.Fresh :=
    Session.fresh_of_built hbuilt systems_return
  have hsplit : (inputs.take k ++ inputs.drop k).length = inputs.length := by
    rw [List.take_append_drop]
  have hfits : (makeEngine seed).enableReplayCapture.config.Representable
      (inputs.take k ++ inputs.drop k).length := by
    rw [hsplit]
    exact hfit
  obtain ⟨whole, mid, astray, back, last, checkpoint, h⟩ :=
    SimulationEngine.exists_resumed hfresh (inputs.take k) (inputs.drop k) (inputs.drop k) hfits
      hfits
  obtain ⟨-, hmid, hastray, hlast⟩ := h.events rfl
  have hwhole := h.whole_run
  rw [SimulationEngine.runForSequence_append] at hwhole
  obtain ⟨_, mid', hmid', hrest⟩ := estate_bind_ok.mp hwhole
  rw [h.head_run] at hmid'
  injection hmid' with _ hsame
  rw [← hsame, h.stray_run] at hrest
  injection hrest with _ hsame'
  subst hsame'
  obtain ⟨haligned, hsetup⟩ := hfresh.source ⟨hfits, astray, h.whole_run, rfl⟩
  obtain ⟨final, hfinal⟩ := SimulationEngine.captureSnapshot_of_aligned haligned
  refine ⟨astray, mid, back, last, checkpoint, final, ?_, hfinal, haligned, hsetup, h.head_run,
    h.captured, h.stray_run, h.restored, h.tail_run, ?_, ?_⟩
  · rw [← h.whole_run, List.take_append_drop]
  · change last.untraced.captureSnapshot = _
    rw [h.same]
    exact hfinal
  · have hnone : (makeEngine seed).enableReplayCapture.replayTrace.events = [] := rfl
    rw [countEvents, hlast, hastray, hmid, hnone, List.nil_append, List.countP_append,
      List.countP_append, countEvents_runEvents, countEvents_runEvents, List.countP_cons,
      countEvents_runEvents]
    rfl

theorem replayCheck_of_representable {seed : UInt64} {inputs : List ResourceTickInput}
    (hfit : (config seed).Representable inputs.length) {k : ℕ} (hk : k ≤ inputs.length) :
    replayCheck seed inputs k = .ok true := by
  obtain ⟨whole, mid, back, last, checkpoint, final, hwhole, hfinal, haligned, hsetup, hmid,
    hcheckpoint, htail, hback, hlast, hresumed, hcount⟩ := exists_runs hfit k
  have hsame : whole.SameSetup (makeEngine seed) := ⟨hsetup.1.symm, hsetup.2.symm⟩
  obtain ⟨snapshot, hcaptured, hboundary⟩ := captureSnapshotBoundary_eq haligned
  obtain ⟨boundary, _, hboundary', hrestores⟩ :=
    SimulationEngine.restoreSnapshotBoundary_captured haligned adapter_faithful ()
  rw [hboundary] at hboundary'
  injection hboundary' with hboundary'
  subst hboundary'
  obtain ⟨replaced, _, hrestore, hreplaced⟩ := hrestores (makeEngine seed) () hsame
  obtain ⟨migrated, hlegacy, hmigrated⟩ := restore_legacy haligned hsame hcaptured 0
  have hsnapshot : replaced.captureSnapshot = .ok final := by
    change replaced.untraced.captureSnapshot = _
    rw [hreplaced]
    exact hfinal
  have hsnapshot' : ∃ snapshot', migrated.captureSnapshot = .ok snapshot' ∧
      snapshot'.state.data.backlog = 0 := by
    obtain ⟨helapsed, -⟩ := SimulationEngine.captureSnapshot_eq_ok.mp hfinal
    refine ⟨⟨whole.clock.currentTick, final.elapsed, whole.config.seed,
      (withBacklog 0 whole).state⟩, ?_, rfl⟩
    change migrated.untraced.captureSnapshot = _
    rw [hmigrated]
    exact SimulationEngine.captureSnapshot_eq_ok.mpr ⟨helapsed, rfl⟩
  obtain ⟨snapshot', hcaptured', hbacklog⟩ := hsnapshot'
  have hsize := (representable_lt hfit).trans (by decide : 2 ^ 63 < InputSequence.npos)
  unfold replayCheck
  refine bind_eq_ok.mpr ⟨_, SimulationEngine.slice_head hk,
    bind_eq_ok.mpr ⟨_, SimulationEngine.slice_tail hk hsize, ?_⟩⟩
  refine bind_eq_ok.mpr ⟨((), whole), finish_eq_ok.mpr hwhole, bind_eq_ok.mpr ⟨final, hfinal, ?_⟩⟩
  refine bind_eq_ok.mpr ⟨((), mid), finish_eq_ok.mpr hmid,
    bind_eq_ok.mpr ⟨checkpoint, hcheckpoint, ?_⟩⟩
  refine bind_eq_ok.mpr ⟨((), whole), finish_eq_ok.mpr htail, bind_eq_ok.mpr ⟨final, hfinal, ?_⟩⟩
  refine bind_eq_ok.mpr ⟨((), back), finish_eq_ok.mpr hback, ?_⟩
  refine bind_eq_ok.mpr ⟨((), last), finish_eq_ok.mpr hlast, bind_eq_ok.mpr ⟨final, hresumed, ?_⟩⟩
  refine bind_eq_ok.mpr ⟨((), whole), finish_eq_ok.mpr hwhole, bind_eq_ok.mpr ⟨final, hfinal, ?_⟩⟩
  refine bind_eq_ok.mpr ⟨_, finish_eq_ok.mpr hboundary, ?_⟩
  refine bind_eq_ok.mpr ⟨_, finish_eq_ok.mpr hrestore, bind_eq_ok.mpr ⟨final, hsnapshot, ?_⟩⟩
  refine bind_eq_ok.mpr ⟨_, finish_eq_ok.mpr hlegacy, bind_eq_ok.mpr ⟨snapshot', hcaptured', ?_⟩⟩
  simp only [identical_self, hbacklog, hcount, BEq.rfl, Bool.and_self]
  rfl

/- `main` has an answer just when the inputs can be cut at the checkpoint and their ticks
fit into the clock, and then the answer is that its runs are deterministic. -/
theorem replayCheck_eq_ok (seed : UInt64) (inputs : List ResourceTickInput)
    (checkpointTicks : ℕ) (deterministic : Bool) :
    replayCheck seed inputs checkpointTicks = .ok deterministic ↔
      deterministic = true ∧ checkpointTicks ≤ inputs.length ∧
        (config seed).Representable inputs.length := by
  constructor
  · intro hanswer
    have hchecks := hanswer
    unfold replayCheck at hchecks
    obtain ⟨_, -, hchecks⟩ := bind_eq_ok.mp hchecks
    obtain ⟨remainingInputs, hslice, hchecks⟩ := bind_eq_ok.mp hchecks
    obtain ⟨⟨_, whole⟩, hrun, -⟩ := bind_eq_ok.mp hchecks
    have hfresh : (makeEngine seed).enableReplayCapture.Fresh :=
      Session.fresh_of_built (.enableReplayCapture (makeEngine_built seed)) systems_return
    have hfit : (config seed).Representable inputs.length :=
      representable_of_run hfresh (finish_eq_ok.mp hrun)
    have hk : checkpointTicks ≤ inputs.length := by
      unfold InputSequence.slice at hslice
      split at hslice
      case isTrue => cases hslice
      case isFalse hout => omega
    rw [replayCheck_of_representable hfit hk] at hanswer
    exact ⟨(Except.ok.inj hanswer).symm, hk, hfit⟩
  · rintro ⟨rfl, hk, hfit⟩
    exact replayCheck_of_representable hfit hk

end ResourcePipeline

end XenorEngine.Cpp
