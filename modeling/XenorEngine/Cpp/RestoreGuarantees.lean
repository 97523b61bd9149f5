import XenorEngine.Cpp.SnapshotRestore

/-!
# Resuming from a checkpoint, and restores that fail

The tick and the state of an engine fix its future, so a run goes on from a restored
checkpoint as if it had never been interrupted. A restore that fails changes nothing
in the engine, and says which check failed first as long as the elapsed duration of
the tick can be computed.
-/

namespace XenorEngine.Cpp
open XenorEngine.Lib.Fallible

namespace SimulationEngine
variable {Data Input : Type}

/-! ### Resuming -/

/-- An engine before its first step: built, given systems, tracing switched on or off. -/
inductive Built (config : SimulationConfig) (initialState : SimulationState Data) :
    SimulationEngine Data Input → Prop
  | new : Built config initialState (.new config initialState)
  | addSystem {engine engine' : SimulationEngine Data Input} {phase : SystemPhase} {name : String}
      {system : Option (SystemCallback Data Input)} {index : ℕ}
      (hbuilt : Built config initialState engine)
      (hadd : addSystem phase name system engine = .ok index engine') :
      Built config initialState engine'
  | enableReplayCapture {engine : SimulationEngine Data Input}
      (hbuilt : Built config initialState engine) :
      Built config initialState engine.enableReplayCapture
  | disableReplayCapture {engine : SimulationEngine Data Input}
      (hbuilt : Built config initialState engine) :
      Built config initialState engine.disableReplayCapture
  | clearReplayTrace {engine : SimulationEngine Data Input}
      (hbuilt : Built config initialState engine) :
      Built config initialState engine.clearReplayTrace

theorem addSystem_eq_ok {engine engine' : SimulationEngine Data Input} {phase : SystemPhase}
    {name : String} {system : Option (SystemCallback Data Input)} {index : ℕ}
    (hadd : addSystem phase name system engine = .ok index engine') :
    ∃ callback, engine' = { engine with systems := engine.systems ++ [⟨phase, name, callback⟩] } := by
  unfold addSystem at hadd
  by_cases hname : name = ""
  · rw [if_pos hname] at hadd
    cases hadd
  rw [if_neg hname] at hadd
  cases system with
  | none => cases hadd
  | some callback =>
    cases hadd
    exact ⟨callback, rfl⟩

/- The state of a built engine is the initial one, at tick zero. -/
theorem built_tick {config : SimulationConfig} {initialState : SimulationState Data}
    {engine : SimulationEngine Data Input} (hbuilt : Built config initialState engine) :
    engine.config = config ∧ engine.clock.currentTick = 0 ∧ engine.state.lastCompletedTick = 0 := by
  induction hbuilt with
  | new => exact ⟨rfl, rfl, rfl⟩
  | addSystem hbuilt hadd ih =>
    obtain ⟨callback, rfl⟩ := addSystem_eq_ok hadd
    exact ih
  | enableReplayCapture hbuilt ih => exact ih
  | disableReplayCapture hbuilt ih => exact ih
  | clearReplayTrace hbuilt ih => exact ih

theorem built_aligned {config : SimulationConfig} {initialState : SimulationState Data}
    {engine : SimulationEngine Data Input} (hbuilt : Built config initialState engine) :
    engine.Aligned := by
  obtain ⟨-, hclock, hstate⟩ := built_tick hbuilt
  refine ⟨hstate.trans hclock.symm, ?_⟩
  rw [hclock]
  unfold SimulationConfig.Representable
  simp

theorem slice_head {inputs : List Input} {k : ℕ} (hk : k ≤ inputs.length) :
    InputSequence.slice inputs 0 k = .ok (inputs.take k) := by
  unfold InputSequence.slice
  rw [if_neg (by omega), List.drop_zero, Nat.sub_zero, Nat.min_eq_left hk]

theorem slice_tail {inputs : List Input} {k : ℕ} (hk : k ≤ inputs.length)
    (hsize : inputs.length < InputSequence.npos) :
    InputSequence.slice inputs k = .ok (inputs.drop k) := by
  unfold InputSequence.slice
  rw [if_neg (by omega), Nat.min_eq_right (by omega), ← List.length_drop, List.take_length]

/-- The engine runs `inputs` and is then seen as `final`. -/
def RunsTo (inputs : List Input) (final : SimulationSnapshot Data)
    (engine : SimulationEngine Data Input) : Prop :=
  ∃ last, runForSequence inputs engine = .ok () last ∧ last.captureSnapshot = .ok final

theorem runsTo_of_untraced {engine other : SimulationEngine Data Input} {inputs : List Input}
    {final : SimulationSnapshot Data} (hsame : other.untraced = engine.untraced)
    (hruns : RunsTo inputs final engine) : RunsTo inputs final other := by
  obtain ⟨last, hrun, hfinal⟩ := hruns
  obtain ⟨last', hrun', hlast'⟩ := runForSequence_of_untraced hsame hrun
  refine ⟨last', hrun', ?_⟩
  change last'.untraced.captureSnapshot = _
  rw [hlast']
  exact hfinal

theorem restored_run_matches_uninterrupted {config : SimulationConfig}
    {initialState : SimulationState Data} {engine : SimulationEngine Data Input}
    (hbuilt : Built config initialState engine)
    (hquiet : ∀ system ∈ engine.systems, system.ReturnsOnInput) {inputs : List Input}
    (hfit : config.Representable inputs.length) {k : ℕ} (hk : k ≤ inputs.length) :
    ∃ head tail mid snapshot final,
      InputSequence.slice inputs 0 k = .ok head ∧ InputSequence.slice inputs k = .ok tail ∧
      RunsTo inputs final engine ∧
      runForSequence head engine = .ok () mid ∧ mid.captureSnapshot = .ok snapshot ∧
      (∀ further, ∃ back,
        restoreSnapshot snapshot (endState (runForSequence further mid)) = .ok () back ∧
          RunsTo tail final back) ∧
      ∀ {Adapter Payload : Type} (adapter : SnapshotStateAdapter Adapter Payload Data) (a : Adapter),
        adapter.Faithful → ∃ boundary a',
          mid.captureSnapshotBoundary adapter a = .ok boundary a' ∧
          ∀ (other : SimulationEngine Data Input) (b : Adapter), other.config = config →
            other.systems = engine.systems → ∃ back b',
              restoreSnapshotBoundary boundary adapter (other, b) = .ok () (back, b') ∧
                RunsTo tail final back := by
  obtain ⟨hconfig, hclock, -⟩ := built_tick hbuilt
  have haligned := built_aligned hbuilt
  have hsize := representable_lt hfit
  have hfits (engine' : SimulationEngine Data Input) {n : ℕ} (hsetup : engine.SameSetup engine')
      (hn : n ≤ inputs.length) : engine'.config.Representable n := by
    rw [hsetup.1, hconfig]
    exact representable_mono hn hfit
  have hzero : engine.clock.currentTick.toNat = 0 := by
    rw [hclock]
    rfl
  have htake : (inputs.take k).length = k := List.length_take_of_le hk
  have hdrop : (inputs.drop k).length = inputs.length - k := List.length_drop
  obtain ⟨mid, hhead, hmid⟩ := runForSequence_ok_on (inputs.take k) haligned hquiet
    (hfits engine ⟨rfl, rfl⟩ (by omega))
  have hquiet' : ∀ system ∈ mid.systems, system.ReturnsOnInput := by
    rw [hmid.setup.2]
    exact hquiet
  have htick := hmid.tick
  obtain ⟨last, htail, hlast⟩ := runForSequence_ok_on (inputs.drop k) hmid.aligned hquiet'
    (hfits mid hmid.setup (by omega))
  have hwhole : runForSequence inputs engine = .ok () last := by
    rw [← List.take_append_drop k inputs, runForSequence_append]
    exact estate_bind_ok.mpr ⟨(), mid, hhead, htail⟩
  obtain ⟨snapshot, hsnapshot⟩ := captureSnapshot_of_aligned hmid.aligned
  obtain ⟨final, hfinal⟩ := captureSnapshot_of_aligned hlast.aligned
  have hruns : RunsTo (inputs.drop k) final mid := ⟨last, htail, hfinal⟩
  refine ⟨_, _, mid, snapshot, final, slice_head hk,
    slice_tail hk (hsize.trans (by decide)), ⟨last, hwhole, hfinal⟩, hhead, hsnapshot, ?_, ?_⟩
  · intro further
    have hsetup := runForSequence_setup mid further mid ⟨rfl, rfl⟩
    obtain ⟨back, hrestore, hback⟩ := restoreSnapshot_captured hmid.aligned hsetup hsnapshot
    exact ⟨back, hrestore, runsTo_of_untraced hback hruns⟩
  · intro Adapter Payload adapter a hfaithful
    obtain ⟨boundary, a', hmade, hrestores⟩ :=
      restoreSnapshotBoundary_captured hmid.aligned hfaithful a
    refine ⟨boundary, a', hmade, fun other b hother hsystems => ?_⟩
    have hsetup : mid.SameSetup other := by
      refine ⟨hother.trans (hconfig.symm.trans hmid.setup.1.symm), hsystems.trans hmid.setup.2.symm⟩
    obtain ⟨back, b', hrestore, hback⟩ := hrestores other b hsetup
    exact ⟨back, b', hrestore, runsTo_of_untraced hback hruns⟩

def oneMillisecond : SimulationConfig := ⟨1000000, 19, by decide⟩

/-- Adds a draw and the input to the state. -/
def draw : SystemCallback UInt64 UInt64 := fun context => do
  let input ← liftExcept context.inputOf
  modify fun (state, rng) =>
    let (value, rng) := rng.nextU64
    ({ state with data := state.data + value + input }, rng)

def drawing : SimulationEngine UInt64 UInt64 :=
  { SimulationEngine.new oneMillisecond ⟨0, 0⟩ with systems := [⟨.update, "draw", draw⟩] }

theorem drawing_built : drawing.Built oneMillisecond ⟨0, 0⟩ :=
  .addSystem .new (rfl : addSystem .update "draw" (some draw) (.new oneMillisecond ⟨0, 0⟩) =
    .ok 0 drawing)

theorem drawing_quiet : ∀ system ∈ drawing.systems, system.ReturnsOnInput := by
  intro system hsystem context hinput
  rw [List.mem_singleton.mp hsystem]
  obtain ⟨input, hsome⟩ := Option.ne_none_iff_exists'.mp hinput
  intro s
  refine ⟨(), _, estate_bind_ok.mpr ⟨input, s, liftExcept_ok.mpr ⟨?_, rfl⟩, rfl⟩⟩
  rw [StepContext.inputOf, hsome]

end SimulationEngine

/-- The payload is the data of the state. -/
def copying : SnapshotStateAdapter Unit UInt64 UInt64 where
  payloadVersion := pure 1
  supportsPayloadVersion version := pure (version == 1)
  capture state := pure state.data
  restore payload _ := pure ⟨0, payload⟩

theorem copying_faithful : copying.Faithful := by
  intro a
  refine ⟨1, a, rfl, fun b => ⟨b, rfl⟩, fun state b => ⟨state.data, b, rfl, fun c => ?_⟩⟩
  exact ⟨⟨0, state.data⟩, c, rfl, rfl⟩

namespace SimulationEngine

theorem restored_run_matches_uninterrupted_drawing :
    ∃ mid snapshot final, RunsTo [3, 4] final drawing ∧
      runForSequence [3] drawing = .ok () mid ∧ mid.captureSnapshot = .ok snapshot ∧
      (∃ back, restoreSnapshot snapshot (endState (runForSequence [7] mid)) = .ok () back ∧
        RunsTo [4] final back) ∧
      ∃ boundary back, mid.captureSnapshotBoundary copying () = .ok boundary () ∧
        restoreSnapshotBoundary boundary copying (drawing, ()) = .ok () (back, ()) ∧
        RunsTo [4] final back := by
  obtain ⟨head, tail, mid, snapshot, final, hhead, htail, hruns, hmid, hsnapshot, hrestores,
    hboundaries⟩ := restored_run_matches_uninterrupted drawing_built drawing_quiet
      (by decide : oneMillisecond.Representable ([3, 4] : List UInt64).length)
      (by decide : 1 ≤ ([3, 4] : List UInt64).length)
  obtain rfl : [3] = head := Except.ok.inj hhead
  obtain rfl : [4] = tail := Except.ok.inj htail
  obtain ⟨boundary, _, hmade, hrestore⟩ := hboundaries copying () copying_faithful
  obtain ⟨back, _, hback, hresumed⟩ := hrestore drawing () rfl rfl
  exact ⟨mid, snapshot, final, hruns, hmid, hsnapshot, hrestores [7], boundary, back, hmade,
    hback, hresumed⟩

/-! ### All or nothing -/

theorem failed_restore_keeps_engine {Adapter Payload : Type} (engine : SimulationEngine Data Input) :
    (∀ snapshot exception engine',
      restoreSnapshot snapshot engine = .error exception engine' → engine' = engine) ∧
    ∀ (boundary : SnapshotBoundary Payload) (adapter : SnapshotStateAdapter Adapter Payload Data)
      (a : Adapter) exception engine' a',
      restoreSnapshotBoundary boundary adapter (engine, a) = .error exception (engine', a') →
        engine' = engine := by
  constructor
  · intro snapshot exception engine' h
    exact restoreSnapshot_failKeeps engine snapshot engine exception engine' rfl h
  · intro boundary adapter a exception engine' a' h
    exact restoreSnapshotBoundary_failKeeps engine boundary adapter (engine, a) exception
      (engine', a') rfl h

end SimulationEngine

/-- Accepts version 1 and then cannot restore it. -/
def throwingAdapter : SnapshotStateAdapter Unit UInt64 UInt64 where
  payloadVersion := pure 1
  supportsPayloadVersion version := pure (version == 1)
  capture state := pure state.data
  restore _ _ := throw (.standard "adapter restore rejected the payload")

namespace SimulationEngine

theorem failed_restore_keeps_engine_throwing :
    ∃ exception engine', restoreSnapshotBoundary ⟨⟨1, 0, 0, 19, 0⟩, 1, 5⟩ throwingAdapter
      (drawing, ()) = .error exception (engine', ()) ∧ engine' = drawing := by
  have h : restoreSnapshotBoundary ⟨⟨1, 0, 0, 19, 0⟩, 1, 5⟩ throwingAdapter (drawing, ()) =
      .error _ (drawing, ()) := rfl
  exact ⟨_, _, h, (failed_restore_keeps_engine drawing).2 _ throwingAdapter () _ _ _ h⟩

end SimulationEngine

/-! ### Which check failed -/

inductive AdapterCall
  | payloadVersion
  | supportsPayloadVersion
  | capture
  | restore
  deriving DecidableEq, Repr

section Recorded
variable {Adapter Payload Data : Type}

def recordedCall {α : Type} (call : AdapterCall) (method : EStateM Exception Adapter α) :
    EStateM Exception (Adapter × List AdapterCall) α := do
  modify (Prod.map id (· ++ [call]))
  onFst method

/-- The adapter, with the calls of its methods written down. -/
def SnapshotStateAdapter.recorded (adapter : SnapshotStateAdapter Adapter Payload Data) :
    SnapshotStateAdapter (Adapter × List AdapterCall) Payload Data where
  payloadVersion := recordedCall .payloadVersion adapter.payloadVersion
  supportsPayloadVersion version :=
    recordedCall .supportsPayloadVersion (adapter.supportsPayloadVersion version)
  capture state := recordedCall .capture (adapter.capture state)
  restore payload version := recordedCall .restore (adapter.restore payload version)

end Recorded

namespace SimulationEngine
variable {Data Input : Type}

/- The elapsed check throws `std::overflow_error` itself when the product of tick and
tick duration does not fit. -/
theorem boundary_failures_ordered {Adapter Payload : Type}
    {adapter : SnapshotStateAdapter Adapter Payload Data} (hown : adapter.OwnErrors)
    (engine : SimulationEngine Data Input) (boundary : SnapshotBoundary Payload) (a : Adapter) :
    ((∀ exception engine' a',
        restoreSnapshotBoundary boundary adapter (engine, a) = .error exception (engine', a') →
          ∃ code, firstFailure engine.config boundary adapter a = some code ∧
            exception.Carries code) ∧
      (metadataFailure engine.config boundary.metadata ≠ none → ∀ calls,
        (endState (restoreSnapshotBoundary boundary adapter.recorded (engine, (a, calls)))).2 =
          (a, calls))) ↔
      boundary.metadata.engineVersion ≠ currentSnapshotBoundaryEngineVersion ∨
        boundary.metadata.stateLastCompletedTick ≠ boundary.metadata.tick ∨
          engine.config.Representable boundary.metadata.tick.toNat := by
  constructor
  · rintro ⟨hordered, -⟩
    by_contra hcomparable
    have hoverflow := validateSnapshotBoundaryMetadataFor_overflow hcomparable
    obtain ⟨code, -, what, hcarries⟩ :=
      hordered _ _ _ (restoreSnapshotBoundary_rejected hoverflow adapter a)
    cases hcarries
  · intro hcomparable
    cases hvalid : validateSnapshotBoundaryMetadataFor boundary.metadata engine.config with
    | error rejected =>
      obtain ⟨code, hcode, hcarries⟩ :=
        validateSnapshotBoundaryMetadataFor_error hcomparable hvalid
      refine ⟨fun exception engine' a' h => ?_, fun _ calls => ?_⟩
      · rw [restoreSnapshotBoundary_rejected hvalid adapter a] at h
        injection h with hexception
        subst hexception
        refine ⟨code, ?_, hcarries⟩
        rw [firstFailure, hcode, Option.some_or]
      · rw [restoreSnapshotBoundary_rejected hvalid]
        rfl
    | ok _ =>
      have hnone := metadataFailure_eq_none.mpr hvalid
      refine ⟨fun exception engine' a' h => ?_, fun hne => absurd hnone hne⟩
      obtain ⟨code, hcode, hcarries⟩ := restoreSnapshotBoundary_error hown hvalid h
      refine ⟨code, ?_, hcarries⟩
      rw [firstFailure, hnone, Option.none_or, hcode]

theorem throwingAdapter_ownErrors : throwingAdapter.OwnErrors := by
  constructor
  · intro version a code what a' h
    cases h
  · intro payload version a code what a' h
    cases h

theorem boundary_failures_ordered_throwing :
    ∃ exception, restoreSnapshotBoundary ⟨⟨1, 0, 0, 19, 0⟩, 1, 5⟩ throwingAdapter (drawing, ()) =
      .error exception (drawing, ()) ∧ exception.Carries .adapterRestoreFailure := by
  have h : restoreSnapshotBoundary ⟨⟨1, 0, 0, 19, 0⟩, 1, 5⟩ throwingAdapter (drawing, ()) =
      .error _ (drawing, ()) := rfl
  have hfirst : firstFailure drawing.config ⟨⟨1, 0, 0, 19, 0⟩, 1, 5⟩ throwingAdapter () =
      some .adapterRestoreFailure := by decide
  obtain ⟨code, hcode, hcarries⟩ := ((boundary_failures_ordered throwingAdapter_ownErrors drawing
    ⟨⟨1, 0, 0, 19, 0⟩, 1, 5⟩ ()).mpr (.inr (.inr (by decide)))).1 _ _ _ h
  rw [hfirst] at hcode
  obtain rfl := Option.some.inj hcode
  exact ⟨_, h, hcarries⟩

/- A boundary at tick 2^63 of an engine with ticks of one millisecond. -/
theorem unrepresentable_tick_overflows :
    throwingAdapter.OwnErrors ∧ ∃ exception,
      restoreSnapshotBoundary ⟨⟨1, 9223372036854775808, 0, 19, 9223372036854775808⟩, 1, 5⟩
        throwingAdapter (drawing, ()) = .error exception (drawing, ()) ∧
      ∀ code, ¬exception.Carries code := by
  have hinvalid : validateSnapshotBoundaryMetadataFor
      ⟨1, 9223372036854775808, 0, 19, 9223372036854775808⟩ drawing.config =
        .error (.overflowError "simulated duration overflow") :=
    validateSnapshotBoundaryMetadataFor_overflow (by decide)
  refine ⟨throwingAdapter_ownErrors, _, restoreSnapshotBoundary_rejected hinvalid _ (), ?_⟩
  rintro code ⟨what, hcarries⟩
  cases hcarries

end SimulationEngine

end XenorEngine.Cpp
