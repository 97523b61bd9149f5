import XenorEngine.Cpp.EngineRun

/-!
# Restores

Both restores check first and install the snapshot last. A snapshot that an engine
has captured passes all checks of an engine with the same configuration, and what it
installs is the engine it was captured from, the trace apart.
-/

namespace XenorEngine.Cpp
open XenorEngine.Lib.Fallible

/-! ### Faithful adapters -/

section Adapter
variable {Adapter Payload Data : Type}

/-- Whatever the state of the adapter object, it supports the version it declares and
gives back what it has captured, up to the tick that the engine keeps. -/
def SnapshotStateAdapter.Faithful (adapter : SnapshotStateAdapter Adapter Payload Data) : Prop :=
  ∀ a, ∃ version a', adapter.payloadVersion a = .ok version a' ∧
    (∀ b, ∃ b', adapter.supportsPayloadVersion version b = .ok true b') ∧
    ∀ state b, ∃ payload b', adapter.capture state b = .ok payload b' ∧
      ∀ c, ∃ restored c', adapter.restore payload version c = .ok restored c' ∧
        restored.data = state.data

theorem validateSnapshotBoundaryMetadata_eq_ok {metadata : SnapshotBoundaryMetadata} :
    validateSnapshotBoundaryMetadata metadata = .ok () ↔
      metadata.engineVersion = currentSnapshotBoundaryEngineVersion ∧
        metadata.stateLastCompletedTick = metadata.tick := by
  unfold validateSnapshotBoundaryMetadata validateSnapshotBoundaryEngineVersion
  rw [check_bind_eq_ok]
  simp only [rejectIf_eq_ok, not_not]

theorem validateSnapshotBoundaryMetadataFor_eq_ok {metadata : SnapshotBoundaryMetadata}
    {config : SimulationConfig} :
    validateSnapshotBoundaryMetadataFor metadata config = .ok () ↔
      validateSnapshotBoundaryMetadata metadata = .ok () ∧
        checkedDurationProduct config.tickDuration metadata.tick = .ok metadata.elapsed ∧
          metadata.seed = config.seed := by
  unfold validateSnapshotBoundaryMetadataFor
  rw [check_bind_eq_ok, bind_eq_ok]
  simp only [check_bind_eq_ok, rejectIf_eq_ok, not_not]
  refine and_congr_right fun _ => ⟨?_, ?_⟩
  · rintro ⟨expected, hexpected, rfl, hseed⟩
    exact ⟨hexpected, hseed⟩
  · rintro ⟨helapsed, hseed⟩
    exact ⟨metadata.elapsed, helapsed, rfl, hseed⟩

/- A snapshot goes through a faithful adapter unchanged. -/
theorem restoreSnapshotFromBoundary_made {adapter : SnapshotStateAdapter Adapter Payload Data}
    (hfaithful : adapter.Faithful) {snapshot : SimulationSnapshot Data}
    (htick : snapshot.state.lastCompletedTick = snapshot.tick) (a : Adapter) :
    ∃ boundary a', makeSnapshotBoundary snapshot adapter a = .ok boundary a' ∧
      boundary.metadata = makeSnapshotBoundaryMetadata snapshot ∧
      ∀ b, ∃ b', restoreSnapshotFromBoundary boundary adapter b = .ok snapshot b' := by
  obtain ⟨version, a1, hversion, hsupports, hcapture⟩ := hfaithful a
  obtain ⟨a2, ha2⟩ := hsupports a1
  obtain ⟨payload, a3, hpayload, hrestore⟩ := hcapture snapshot.state a2
  have hvalid : validateSnapshotBoundaryMetadata (makeSnapshotBoundaryMetadata snapshot) = .ok () :=
    validateSnapshotBoundaryMetadata_eq_ok.mpr ⟨rfl, htick⟩
  refine ⟨⟨makeSnapshotBoundaryMetadata snapshot, version, payload⟩, a3, ?_, rfl, fun b => ?_⟩
  · unfold makeSnapshotBoundary
    refine estate_bind_ok.mpr ⟨(), a, liftExcept_ok.mpr ⟨hvalid, rfl⟩, ?_⟩
    refine estate_bind_ok.mpr ⟨version, a1, hversion, ?_⟩
    refine estate_bind_ok.mpr ⟨(), a2, rethrow_ok.mpr ?_, ?_⟩
    · exact estate_bind_ok.mpr ⟨true, a2, ha2, rfl⟩
    · exact estate_bind_ok.mpr ⟨payload, a3, hpayload, rfl⟩
  · obtain ⟨b1, hb1⟩ := hsupports b
    obtain ⟨restored, b2, hrestored, hdata⟩ := hrestore b1
    have hstate : restored.setLastCompletedTick snapshot.state.lastCompletedTick =
        snapshot.state := by
      unfold SimulationState.setLastCompletedTick
      rw [hdata]
    refine ⟨b2, ?_⟩
    unfold restoreSnapshotFromBoundary validateSnapshotBoundaryPayloadVersion
    refine estate_bind_ok.mpr ⟨(), b, liftExcept_ok.mpr ⟨hvalid, rfl⟩, ?_⟩
    refine estate_bind_ok.mpr ⟨(), b1, rethrow_ok.mpr ?_, ?_⟩
    · exact estate_bind_ok.mpr ⟨true, b1, hb1, rfl⟩
    refine estate_bind_ok.mpr ⟨restored, b2, rethrow_ok.mpr hrestored, ?_⟩
    refine estate_bind_ok.mpr ⟨(), b2, liftExcept_ok.mpr ⟨?_, rfl⟩, estate_pure_ok.mpr ⟨?_, rfl⟩⟩
    · exact rejectIf_eq_ok.mpr (not_not.mpr rfl)
    · simp only [makeSnapshotBoundaryMetadata, hstate]

end Adapter

/-! ### Installing a captured snapshot -/

namespace SimulationEngine
variable {Data Input : Type}

/-- The engine without its trace in which `snapshot` has been put. -/
def holding (snapshot : SimulationSnapshot Data) (engine : SimulationEngine Data Input) :
    SimulationEngine Data Input :=
  untraced { engine with clock := ⟨snapshot.tick⟩, state := snapshot.state }

theorem installSnapshot_ok {engine : SimulationEngine Data Input}
    {snapshot : SimulationSnapshot Data}
    (hfit : checkedDurationProduct engine.config.tickDuration snapshot.tick =
      .ok snapshot.elapsed) :
    ∃ back, installSnapshot snapshot engine = .ok () back ∧
      back.untraced = engine.holding snapshot := by
  let moved : SimulationEngine Data Input := { engine with clock := ⟨snapshot.tick⟩ }
  let installed : SimulationEngine Data Input := { moved with state := snapshot.state }
  have hclock : engine.clock.restore snapshot.tick = .ok ⟨snapshot.tick⟩ :=
    bind_eq_ok.mpr ⟨snapshot.elapsed, hfit, rfl⟩
  refine ⟨recordReplayEvent (.snapshotRestored snapshot.tick snapshot.elapsed) installed, ?_, ?_⟩
  · unfold installSnapshot
    exact estate_bind_ok.mpr ⟨(), moved, onClock_ok hclock,
      estate_bind_ok.mpr ⟨_, installed, rfl, rfl⟩⟩
  · rw [← recordReplayEvent_untraced]
    rfl

theorem captureSnapshot_eq_ok {engine : SimulationEngine Data Input}
    {snapshot : SimulationSnapshot Data} :
    engine.captureSnapshot = .ok snapshot ↔
      checkedDurationProduct engine.config.tickDuration engine.clock.currentTick =
          .ok snapshot.elapsed ∧
        snapshot = ⟨engine.clock.currentTick, snapshot.elapsed, engine.config.seed,
          engine.state⟩ := by
  unfold captureSnapshot
  rw [bind_eq_ok]
  simp only [pure_eq_ok]
  constructor
  · rintro ⟨elapsed, helapsed, rfl⟩
    exact ⟨helapsed, rfl⟩
  · rintro ⟨helapsed, hsnapshot⟩
    exact ⟨snapshot.elapsed, helapsed, hsnapshot.symm⟩

theorem captureSnapshot_of_aligned {engine : SimulationEngine Data Input}
    (haligned : engine.Aligned) : ∃ snapshot, engine.captureSnapshot = .ok snapshot := by
  have helapsed := checkedDurationProduct_of haligned.elapsed_fits
  exact ⟨⟨engine.clock.currentTick, _, engine.config.seed, engine.state⟩,
    captureSnapshot_eq_ok.mpr ⟨helapsed, rfl⟩⟩

/- Putting a captured snapshot back into an engine of the same setup gives the engine it
was captured from. -/
theorem holding_captured {source engine : SimulationEngine Data Input}
    {snapshot : SimulationSnapshot Data} (hsetup : source.SameSetup engine)
    (hcaptured : source.captureSnapshot = .ok snapshot) :
    engine.holding snapshot = source.untraced := by
  obtain ⟨-, hsnapshot⟩ := captureSnapshot_eq_ok.mp hcaptured
  obtain ⟨config, clock, state, trace, capture, systems⟩ := source
  obtain ⟨config', clock', state', trace', capture', systems'⟩ := engine
  obtain ⟨hconfig, hsystems⟩ := hsetup
  dsimp only at hconfig hsystems hsnapshot
  subst hconfig hsystems
  rw [hsnapshot]
  rfl

/-- What the checks of a restore ask of a snapshot. -/
structure Acceptable (config : SimulationConfig) (snapshot : SimulationSnapshot Data) : Prop where
  elapsed : checkedDurationProduct config.tickDuration snapshot.tick = .ok snapshot.elapsed
  seed : snapshot.seed = config.seed
  state_tick : snapshot.state.lastCompletedTick = snapshot.tick

theorem validateSnapshot_eq_ok {engine : SimulationEngine Data Input}
    {snapshot : SimulationSnapshot Data} :
    engine.validateSnapshot snapshot = .ok () ↔ Acceptable engine.config snapshot := by
  unfold validateSnapshot
  rw [bind_eq_ok]
  simp only [check_bind_eq_ok, rejectIf_eq_ok, not_not]
  constructor
  · rintro ⟨expected, hexpected, rfl, hseed, htick⟩
    exact ⟨hexpected, hseed, htick⟩
  · rintro ⟨helapsed, hseed, htick⟩
    exact ⟨snapshot.elapsed, helapsed, rfl, hseed, htick⟩

theorem restoreSnapshot_acceptable {engine : SimulationEngine Data Input}
    {snapshot : SimulationSnapshot Data} (hacceptable : Acceptable engine.config snapshot) :
    ∃ back, restoreSnapshot snapshot engine = .ok () back ∧
      back.untraced = engine.holding snapshot := by
  obtain ⟨back, hinstall, hback⟩ := installSnapshot_ok hacceptable.elapsed
  refine ⟨back, ?_, hback⟩
  unfold restoreSnapshot
  refine estate_bind_ok.mpr ⟨engine, engine, rfl, ?_⟩
  have hvalid := validateSnapshot_eq_ok.mpr hacceptable
  exact estate_bind_ok.mpr ⟨(), engine, liftExcept_ok.mpr ⟨hvalid, rfl⟩, hinstall⟩

theorem acceptable_captured {source : SimulationEngine Data Input}
    {snapshot : SimulationSnapshot Data} (haligned : source.Aligned)
    (hcaptured : source.captureSnapshot = .ok snapshot) : Acceptable source.config snapshot := by
  obtain ⟨helapsed, hsnapshot⟩ := captureSnapshot_eq_ok.mp hcaptured
  have htick : snapshot.tick = source.clock.currentTick :=
    congrArg SimulationSnapshot.tick hsnapshot
  have hseed : snapshot.seed = source.config.seed := congrArg SimulationSnapshot.seed hsnapshot
  have hstate : snapshot.state = source.state := congrArg SimulationSnapshot.state hsnapshot
  refine ⟨?_, hseed, ?_⟩
  · rw [htick]
    exact helapsed
  · rw [hstate, htick]
    exact haligned.state_tick

theorem restoreSnapshot_captured {source engine : SimulationEngine Data Input}
    {snapshot : SimulationSnapshot Data} (haligned : source.Aligned)
    (hsetup : source.SameSetup engine) (hcaptured : source.captureSnapshot = .ok snapshot) :
    ∃ back, restoreSnapshot snapshot engine = .ok () back ∧ back.untraced = source.untraced := by
  have hacceptable := acceptable_captured haligned hcaptured
  rw [← hsetup.1] at hacceptable
  obtain ⟨back, hrestore, hback⟩ := restoreSnapshot_acceptable hacceptable
  exact ⟨back, hrestore, hback.trans (holding_captured hsetup hcaptured)⟩

theorem restoreSnapshotBoundary_captured {Adapter Payload : Type}
    {source : SimulationEngine Data Input} {adapter : SnapshotStateAdapter Adapter Payload Data}
    (haligned : source.Aligned) (hfaithful : adapter.Faithful) (a : Adapter) :
    ∃ boundary a', source.captureSnapshotBoundary adapter a = .ok boundary a' ∧
      ∀ (engine : SimulationEngine Data Input) (b : Adapter), source.SameSetup engine →
        ∃ back b', restoreSnapshotBoundary boundary adapter (engine, b) = .ok () (back, b') ∧
          back.untraced = source.untraced := by
  obtain ⟨snapshot, hcaptured⟩ := captureSnapshot_of_aligned haligned
  have hself := acceptable_captured haligned hcaptured
  obtain ⟨boundary, a', hmade, hmetadata, hrestored⟩ :=
    restoreSnapshotFromBoundary_made hfaithful hself.state_tick a
  refine ⟨boundary, a', ?_, fun engine b hsetup => ?_⟩
  · exact estate_bind_ok.mpr ⟨snapshot, a, liftExcept_ok.mpr ⟨hcaptured, rfl⟩, hmade⟩
  obtain ⟨b', hb'⟩ := hrestored b
  have hacceptable : Acceptable engine.config snapshot := by
    rw [hsetup.1]
    exact hself
  obtain ⟨back, hinstall, hback⟩ := installSnapshot_ok hacceptable.elapsed
  refine ⟨back, b', ?_, hback.trans (holding_captured hsetup hcaptured)⟩
  have hvalid : validateSnapshotBoundaryMetadataFor boundary.metadata engine.config = .ok () := by
    rw [hmetadata]
    exact validateSnapshotBoundaryMetadataFor_eq_ok.mpr
      ⟨validateSnapshotBoundaryMetadata_eq_ok.mpr ⟨rfl, hacceptable.state_tick⟩,
        hacceptable.elapsed, hacceptable.seed⟩
  unfold restoreSnapshotBoundary
  refine estate_bind_ok.mpr ⟨(engine, b), (engine, b), rfl, ?_⟩
  refine estate_bind_ok.mpr ⟨(), (engine, b), liftExcept_ok.mpr ⟨hvalid, rfl⟩, ?_⟩
  refine estate_bind_ok.mpr ⟨snapshot, (engine, b'), onSnd_ok.mpr ⟨hb', rfl⟩, ?_⟩
  refine estate_bind_ok.mpr ⟨(), (engine, b'), liftExcept_ok.mpr ⟨rejectIf_eq_ok.mpr ?_, rfl⟩, ?_⟩
  · simp [hmetadata, makeSnapshotBoundaryMetadata]
  · exact onFst_ok.mpr ⟨hinstall, rfl⟩

/-! ### Restores that fail -/

theorem onClock_failKeeps (first : SimulationEngine Data Input)
    (f : ∀ config, SimulationClock config → Except Exception (SimulationClock config)) :
    FailKeeps (fun engine => engine = first) (onClock f) := by
  rintro engine exception engine' rfl h
  unfold onClock at h
  cases hclock : f engine.config engine.clock with
  | ok clock =>
    rw [hclock] at h
    cases h
  | error exception' =>
    rw [hclock] at h
    injection h with _ hengine
    exact hengine.symm

/- The clock is the only part of an installation that can refuse. -/
theorem installSnapshot_failKeeps (first : SimulationEngine Data Input)
    (snapshot : SimulationSnapshot Data) :
    FailKeeps (fun engine => engine = first) (installSnapshot snapshot) :=
  failKeeps_bind_total (onClock_failKeeps first _) fun _ =>
    total_bind (total_modify _) fun _ => total_modify _

theorem restoreSnapshot_failKeeps (first : SimulationEngine Data Input)
    (snapshot : SimulationSnapshot Data) :
    FailKeeps (fun engine => engine = first) (restoreSnapshot snapshot) :=
  failKeeps_bind preserves_get fun _ =>
    failKeeps_bind (preserves_liftExcept _) fun _ => installSnapshot_failKeeps first snapshot

theorem restoreSnapshotBoundary_failKeeps {Adapter Payload : Type}
    (first : SimulationEngine Data Input) (boundary : SnapshotBoundary Payload)
    (adapter : SnapshotStateAdapter Adapter Payload Data) :
    FailKeeps (fun s => s.1 = first) (restoreSnapshotBoundary boundary adapter) :=
  failKeeps_bind preserves_get fun _ =>
    failKeeps_bind (preserves_liftExcept _) fun _ =>
      failKeeps_bind (preserves_onSnd (I := fun engine => engine = first) _) fun restored =>
        failKeeps_bind (preserves_liftExcept _) fun _ =>
          failKeeps_onFst (installSnapshot_failKeeps first restored)

end SimulationEngine

/-! ### The first check that fails -/

/-- The checks on the metadata, the elapsed duration compared as an integer. -/
def metadataFailure (config : SimulationConfig) (metadata : SnapshotBoundaryMetadata) :
    Option SnapshotBoundaryErrorCode :=
  if metadata.engineVersion ≠ currentSnapshotBoundaryEngineVersion then
    some .incompatibleEngineVersion
  else if metadata.stateLastCompletedTick ≠ metadata.tick then some .invalidStateMetadata
  else if metadata.elapsed.toInt ≠ metadata.tick.toNat * config.tickDuration.toInt then
    some .incompatibleElapsedDuration
  else if metadata.seed ≠ config.seed then some .incompatibleSeed
  else none

section Failure
variable {Adapter Payload Data Input : Type}

/-- The checks that call the adapter. -/
def adapterFailure (boundary : SnapshotBoundary Payload)
    (adapter : SnapshotStateAdapter Adapter Payload Data) (a : Adapter) :
    Option SnapshotBoundaryErrorCode :=
  match adapter.supportsPayloadVersion boundary.payloadVersion a with
  | .error _ _ => some .adapterContractViolation
  | .ok false _ => some .unsupportedPayloadVersion
  | .ok true a =>
    match adapter.restore boundary.statePayload boundary.payloadVersion a with
    | .error _ _ => some .adapterRestoreFailure
    | .ok _ _ => none

def firstFailure (config : SimulationConfig) (boundary : SnapshotBoundary Payload)
    (adapter : SnapshotStateAdapter Adapter Payload Data) (a : Adapter) :
    Option SnapshotBoundaryErrorCode :=
  (metadataFailure config boundary.metadata).or (adapterFailure boundary adapter a)

/-- The adapter leaves `SnapshotBoundaryError` to the engine. -/
def SnapshotStateAdapter.OwnErrors (adapter : SnapshotStateAdapter Adapter Payload Data) : Prop :=
  (∀ version a code what a',
    adapter.supportsPayloadVersion version a ≠ .error (.snapshotBoundaryError code what) a') ∧
  ∀ payload version a code what a',
    adapter.restore payload version a ≠ .error (.snapshotBoundaryError code what) a'

/-- The elapsed check compares, or an earlier check has failed. -/
def ElapsedComparable (config : SimulationConfig) (metadata : SnapshotBoundaryMetadata) : Prop :=
  metadata.engineVersion ≠ currentSnapshotBoundaryEngineVersion ∨
    metadata.stateLastCompletedTick ≠ metadata.tick ∨ config.Representable metadata.tick.toNat

instance {config : SimulationConfig} {metadata : SnapshotBoundaryMetadata} :
    Decidable (ElapsedComparable config metadata) :=
  inferInstanceAs (Decidable (_ ∨ _ ∨ _))

/-- The error of a check that fails with `code`. -/
def Exception.Carries (exception : Exception) (code : SnapshotBoundaryErrorCode) : Prop :=
  ∃ what, exception = .snapshotBoundaryError code what

theorem adapterHandler_carries {code : SnapshotBoundaryErrorCode} {message : String}
    {exception : Exception} (hown : ∀ code what, exception ≠ .snapshotBoundaryError code what) :
    (adapterHandler code message exception).Carries code := by
  cases exception with
  | snapshotBoundaryError code what => exact absurd rfl (hown code what)
  | overflowError what => exact ⟨_, rfl⟩
  | invalidArgument what => exact ⟨_, rfl⟩
  | outOfRange what => exact ⟨_, rfl⟩
  | standard what => exact ⟨_, rfl⟩
  | nonStandard => exact ⟨_, rfl⟩

/- All checks on the metadata pass. -/
theorem metadataFailure_eq_none {config : SimulationConfig} {metadata : SnapshotBoundaryMetadata} :
    metadataFailure config metadata = none ↔
      validateSnapshotBoundaryMetadataFor metadata config = .ok () := by
  rw [validateSnapshotBoundaryMetadataFor_eq_ok, validateSnapshotBoundaryMetadata_eq_ok,
    checkedDurationProduct_eq_ok]
  unfold metadataFailure
  have hbound : metadata.elapsed.toInt = metadata.tick.toNat * config.tickDuration.toInt →
      config.Representable metadata.tick.toNat := by
    intro heq
    have hlt := Int64.toInt_lt metadata.elapsed
    unfold SimulationConfig.Representable
    omega
  by_cases hversion : metadata.engineVersion = currentSnapshotBoundaryEngineVersion
  · by_cases htick : metadata.stateLastCompletedTick = metadata.tick
    · by_cases helapsed :
        metadata.elapsed.toInt = metadata.tick.toNat * config.tickDuration.toInt
      · by_cases hseed : metadata.seed = config.seed <;>
          simp [hversion, htick, helapsed, hseed, hbound helapsed]
      · simp [hversion, htick, helapsed]
    · simp [hversion, htick]
  · simp [hversion]

theorem validateSnapshotBoundaryMetadataFor_error {config : SimulationConfig}
    {metadata : SnapshotBoundaryMetadata} {exception : Exception}
    (hcomparable : ElapsedComparable config metadata)
    (h : validateSnapshotBoundaryMetadataFor metadata config = .error exception) :
    ∃ code, metadataFailure config metadata = some code ∧ exception.Carries code := by
  unfold validateSnapshotBoundaryMetadataFor at h
  unfold metadataFailure
  rcases bind_eq_error.mp h with h | ⟨_, hmetadata, h⟩
  · unfold validateSnapshotBoundaryMetadata validateSnapshotBoundaryEngineVersion at h
    rcases bind_eq_error.mp h with h | ⟨_, hversion, h⟩
    · obtain ⟨hversion, rfl⟩ := rejectIf_eq_error.mp h
      exact ⟨_, if_pos hversion, _, rfl⟩
    · obtain ⟨htick, rfl⟩ := rejectIf_eq_error.mp h
      rw [if_neg (rejectIf_eq_ok.mp hversion), if_pos htick]
      exact ⟨_, rfl, _, rfl⟩
  obtain ⟨hversion, htick⟩ := validateSnapshotBoundaryMetadata_eq_ok.mp hmetadata
  have hfit : config.Representable metadata.tick.toNat := by
    rcases hcomparable with hne | hne | hfit
    · exact absurd hversion hne
    · exact absurd htick hne
    · exact hfit
  rw [if_neg (not_not.mpr hversion), if_neg (not_not.mpr htick)]
  rcases bind_eq_error.mp h with h | ⟨expected, hexpected, h⟩
  · change checkedDurationProduct config.tickDuration metadata.tick = _ at h
    rw [checkedDurationProduct_of hfit] at h
    cases h
  have hsame : metadata.elapsed.toInt ≠ metadata.tick.toNat * config.tickDuration.toInt ↔
      metadata.elapsed ≠ expected := by
    rw [← (checkedDurationProduct_eq_ok.mp hexpected).2, ne_eq, Int64.toInt_inj]
  rcases bind_eq_error.mp h with h | ⟨_, helapsed, h⟩
  · obtain ⟨helapsed, rfl⟩ := rejectIf_eq_error.mp h
    exact ⟨_, if_pos (hsame.mpr helapsed), _, rfl⟩
  · obtain ⟨hseed, rfl⟩ := rejectIf_eq_error.mp h
    rw [if_neg (fun hne => rejectIf_eq_ok.mp helapsed (hsame.mp hne)), if_pos hseed]
    exact ⟨_, rfl, _, rfl⟩

/- Where the elapsed duration cannot be compared, the multiplication throws. -/
theorem validateSnapshotBoundaryMetadataFor_overflow {config : SimulationConfig}
    {metadata : SnapshotBoundaryMetadata} (hcomparable : ¬ElapsedComparable config metadata) :
    validateSnapshotBoundaryMetadataFor metadata config =
      .error (.overflowError "simulated duration overflow") := by
  unfold ElapsedComparable at hcomparable
  push Not at hcomparable
  obtain ⟨hversion, htick, hfit⟩ := hcomparable
  have hmetadata := validateSnapshotBoundaryMetadata_eq_ok.mpr ⟨hversion, htick⟩
  refine bind_eq_error.mpr (.inr ⟨(), hmetadata, bind_eq_error.mpr (.inl ?_)⟩)
  exact checkedDurationProduct_of_not hfit

theorem restoreSnapshotFromBoundary_error {boundary : SnapshotBoundary Payload}
    {adapter : SnapshotStateAdapter Adapter Payload Data} (hown : adapter.OwnErrors)
    (hvalid : validateSnapshotBoundaryMetadata boundary.metadata = .ok ()) {a a' : Adapter}
    {exception : Exception}
    (h : restoreSnapshotFromBoundary boundary adapter a = .error exception a') :
    ∃ code, adapterFailure boundary adapter a = some code ∧ exception.Carries code := by
  unfold restoreSnapshotFromBoundary validateSnapshotBoundaryPayloadVersion at h
  unfold adapterFailure
  rcases estate_bind_error.mp h with hfirst | ⟨_, b, hok, hrest⟩
  · rw [(liftExcept_error.mp hfirst).1] at hvalid
    cases hvalid
  obtain ⟨-, rfl⟩ := liftExcept_ok.mp hok
  rcases estate_bind_error.mp hrest with hsupport | ⟨_, c, hsupported, hrest⟩
  · obtain ⟨thrown, hthrown, rfl⟩ := rethrow_error.mp hsupport
    rcases estate_bind_error.mp hthrown with hthrown | ⟨supported, c, hsupports, hthrown⟩
    · -- the support check itself throws
      rw [hthrown]
      refine ⟨_, rfl, adapterHandler_carries fun code what heq => ?_⟩
      rw [heq] at hthrown
      exact hown.1 _ _ code what _ hthrown
    · obtain ⟨hrefused, rfl⟩ := liftExcept_error.mp hthrown
      obtain ⟨hrefused, rfl⟩ := rejectIf_eq_error.mp hrefused
      rw [hsupports]
      cases supported with
      | true => cases hrefused
      | false => exact ⟨_, rfl, _, rfl⟩
  obtain ⟨supported, d, hsupports, hpassed⟩ := estate_bind_ok.mp (rethrow_ok.mp hsupported)
  obtain ⟨hkept, rfl⟩ := liftExcept_ok.mp hpassed
  have htrue : supported = true := by
    simpa using rejectIf_eq_ok.mp hkept
  subst htrue
  rw [hsupports]
  rcases estate_bind_error.mp hrest with hrestore | ⟨state, e, -, hrest⟩
  · obtain ⟨thrown, hthrown, rfl⟩ := rethrow_error.mp hrestore
    dsimp only
    rw [hthrown]
    refine ⟨_, rfl, adapterHandler_carries fun code what heq => ?_⟩
    rw [heq] at hthrown
    exact hown.2 _ _ _ code what _ hthrown
  · -- the tick was set just before it is compared
    rcases estate_bind_error.mp hrest with htick | ⟨_, _, -, hpure⟩
    · exact absurd rfl (rejectIf_eq_error.mp (liftExcept_error.mp htick).1).1
    · cases hpure

theorem restoreSnapshotFromBoundary_fields {boundary : SnapshotBoundary Payload}
    {adapter : SnapshotStateAdapter Adapter Payload Data} {a a' : Adapter}
    {snapshot : SimulationSnapshot Data}
    (h : restoreSnapshotFromBoundary boundary adapter a = .ok snapshot a') :
    makeSnapshotBoundaryMetadata snapshot =
      { boundary.metadata with engineVersion := currentSnapshotBoundaryEngineVersion } := by
  unfold restoreSnapshotFromBoundary at h
  obtain ⟨_, _, -, h⟩ := estate_bind_ok.mp h
  obtain ⟨_, _, -, h⟩ := estate_bind_ok.mp h
  obtain ⟨state, _, -, h⟩ := estate_bind_ok.mp h
  obtain ⟨_, _, -, h⟩ := estate_bind_ok.mp h
  rw [← (estate_pure_ok.mp h).1]
  rfl

end Failure

namespace SimulationEngine
variable {Data Input Adapter Payload : Type}

/- No method of the adapter is called before the metadata has passed its checks. -/
theorem restoreSnapshotBoundary_rejected {engine : SimulationEngine Data Input}
    {boundary : SnapshotBoundary Payload} {exception : Exception}
    (h : validateSnapshotBoundaryMetadataFor boundary.metadata engine.config = .error exception)
    (adapter : SnapshotStateAdapter Adapter Payload Data) (a : Adapter) :
    restoreSnapshotBoundary boundary adapter (engine, a) = .error exception (engine, a) := by
  unfold restoreSnapshotBoundary
  refine estate_bind_error.mpr (.inr ⟨(engine, a), (engine, a), rfl, ?_⟩)
  exact estate_bind_error.mpr (.inl (liftExcept_error.mpr ⟨h, rfl⟩))

/- Once the metadata has passed, only the adapter's own calls can fail. -/
theorem restoreSnapshotBoundary_error {engine engine' : SimulationEngine Data Input}
    {boundary : SnapshotBoundary Payload} {adapter : SnapshotStateAdapter Adapter Payload Data}
    (hown : adapter.OwnErrors)
    (hvalid : validateSnapshotBoundaryMetadataFor boundary.metadata engine.config = .ok ())
    {a a' : Adapter} {exception : Exception}
    (h : restoreSnapshotBoundary boundary adapter (engine, a) = .error exception (engine', a')) :
    ∃ code, adapterFailure boundary adapter a = some code ∧ exception.Carries code := by
  obtain ⟨hmetadata, helapsed, -⟩ := validateSnapshotBoundaryMetadataFor_eq_ok.mp hvalid
  unfold restoreSnapshotBoundary at h
  rcases estate_bind_error.mp h with hget | ⟨_, _, hget, hchecked⟩
  · cases hget
  obtain ⟨rfl, rfl⟩ := estate_get_ok.mp hget
  rcases estate_bind_error.mp hchecked with hinvalid | ⟨_, _, hpassed, hrest⟩
  · rw [(liftExcept_error.mp hinvalid).1] at hvalid
    cases hvalid
  obtain ⟨-, rfl⟩ := liftExcept_ok.mp hpassed
  rcases estate_bind_error.mp hrest with hfailed | ⟨restored, ⟨engine1, b⟩, hmade, htail⟩
  · exact restoreSnapshotFromBoundary_error hown hmetadata (onSnd_error.mp hfailed).1
  obtain ⟨hrestored, hengine⟩ := onSnd_ok.mp hmade
  obtain rfl : engine1 = engine := hengine
  have hfields := restoreSnapshotFromBoundary_fields hrestored
  have htick := congrArg SnapshotBoundaryMetadata.tick hfields
  have helapsed' := congrArg SnapshotBoundaryMetadata.elapsed hfields
  rcases estate_bind_error.mp htail with hdiffers | ⟨_, _, hagrees, hlast⟩
  · obtain ⟨hmismatch, -⟩ := rejectIf_eq_error.mp (liftExcept_error.mp hdiffers).1
    rcases hmismatch with hne | hne | hne | hne
    · exact absurd htick hne
    · exact absurd helapsed' hne
    · exact absurd (congrArg SnapshotBoundaryMetadata.seed hfields) hne
    · exact absurd (congrArg SnapshotBoundaryMetadata.stateLastCompletedTick hfields) hne
  obtain ⟨-, rfl⟩ := liftExcept_ok.mp hagrees
  have hfit : checkedDurationProduct engine1.config.tickDuration restored.tick =
      .ok restored.elapsed := by
    rw [show restored.tick = boundary.metadata.tick from htick,
      show restored.elapsed = boundary.metadata.elapsed from helapsed']
    exact helapsed
  obtain ⟨back, hinstall, -⟩ := installSnapshot_ok hfit
  rw [show installSnapshot restored engine1 = .error exception engine' from
    (onFst_error.mp hlast).1] at hinstall
  cases hinstall

end SimulationEngine

end XenorEngine.Cpp
