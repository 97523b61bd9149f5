import XenorEngine.Rust.CounterTicks

/-!
# Counter runs: limits
-/

namespace XenorEngine.Rust
open XenorEngine.Lib.Fallible XenorEngine.Lib.Runs
open DeterministicEngine CounterState

theorem counter_config_limits {config : CounterSimulationConfig} (h : config.validate = .ok ()) :
    0 ≤ config.maxAbsPendingDelta.toInt := by
  simp only [CounterSimulationConfig.validate, check_bind_eq_ok, rejectIf_eq_ok,
    Int64.lt_iff_toInt_lt, not_lt] at h
  exact h.2.2.1

/-! ### The limit of the delta -/

/- Under `EveryPhase` no tick takes a delta over the limit, whatever was called before.
Under `TickBoundary` the limit plays no part. -/
theorem delta_limit_every_phase (config : CounterSimulationConfig) (seed : Seed)
    (engine : CounterEngine) (hengine : counterEngineWithConfig seed config = .ok engine) :
    (config.validationPolicy = .everyPhase → ∀ calls e results frame result e',
      callMachine.run engine calls = .ok (e, results) → e.tick frame = .ok result e' →
      (frame.command.delta.toInt.natAbs : ℤ) ≤ config.maxAbsPendingDelta.toInt) ∧
    (config.validationPolicy = .tickBoundary → ∀ limit : Int64, 0 ≤ limit.toInt →
      ∀ frames engine', tickAll frames engine = .ok () engine' →
        ∃ engine'', tickAll frames (buildCounterEngineInternal seed defaultCounterScheduler
            { config with maxAbsPendingDelta := limit }) = .ok () engine'' ∧
          engine''.state = engine'.state) := by
  obtain ⟨hvalid, rfl⟩ := counterEngineWithConfig_eq_ok.mp hengine
  have hpending := counter_config_limits hvalid
  constructor
  · intro hpolicy calls e results frame result e' hrun htick
    have hwiring := (calls_grow (e := buildCounterEngineInternal seed defaultCounterScheduler
      config) defaultCounterScheduler_ordered rfl hrun).1
    have hsched : e.scheduler = defaultCounterScheduler := congrArg (·.2.1) hwiring
    obtain ⟨record, hstep⟩ := tick_tickStep (hsched ▸ defaultCounterScheduler_ordered) htick
    rw [tickStep_congr hwiring] at hstep
    obtain ⟨-, -, -, -, -, hdelta, -⟩ := (counter_tickStep_iff hpending).mp ⟨record, hstep⟩
    exact hdelta hpolicy
  · intro hpolicy limit hlimit frames engine' hrun
    obtain ⟨s', records, hmachine, rfl⟩ :=
      (tickAll_refines defaultCounterScheduler_ordered rfl).mp hrun
    have hsteps : ∀ s frame s' record, (buildCounterEngineInternal seed defaultCounterScheduler
          config).machine.step s frame = .ok (s', record) →
        ∃ record', (buildCounterEngineInternal seed defaultCounterScheduler
          { config with maxAbsPendingDelta := limit }).machine.step s frame = .ok (s', record') ∧
            unvalidated record' = unvalidated record := by
      intro s frame s' record hstep
      obtain ⟨htick, hlimits, hstore, hcleared, hmarked, -, hlimits', hs'⟩ :=
        (counter_tickStep_iff hpending).mp ⟨record, hstep⟩
      have hiff := @counter_tickStep_iff { config with maxAbsPendingDelta := limit } seed s s' frame
        hlimit
      obtain ⟨record', hstep'⟩ := hiff.mpr ⟨htick, ⟨hlimits.value, hlimits.velocity⟩, hstore,
        hcleared, hmarked, fun h => absurd (hpolicy.symm.trans h) (by decide),
        ⟨hlimits'.value, hlimits'.velocity⟩, hs'⟩
      refine ⟨record', hstep', ?_⟩
      have hrecord := tickStep_record defaultCounterScheduler_ordered hstep
      have hrecord' := tickStep_record defaultCounterScheduler_ordered hstep'
      exact hrecord'.trans hrecord.symm
    obtain ⟨records', hmachine', -⟩ := run_agrees hsteps hmachine
    exact ⟨_, (tickAll_refines defaultCounterScheduler_ordered rfl).mpr
      ⟨s', records', hmachine', rfl⟩, rfl⟩

/-- Every delta over 1 is too large for it. -/
def cautiousConfig (policy : ValidationPolicy) : CounterSimulationConfig :=
  { CounterSimulationConfig.default with validationPolicy := policy, maxAbsPendingDelta := 1 }

theorem delta_limit_every_phase_one : ∃ (engine engine' : CounterEngine)
    (result : TickResult CounterSnapshot),
    counterEngineWithConfig 7 (cautiousConfig .everyPhase) = .ok engine ∧
      engine.tick ⟨1, ⟨1, true⟩⟩ = .ok result engine' ∧
      ((⟨1, true⟩ : CounterCommand).delta.toInt.natAbs : ℤ) ≤
        (cautiousConfig .everyPhase).maxAbsPendingDelta.toInt := by
  have hfine : (okState ((buildCounterEngineInternal 7 defaultCounterScheduler
      (cautiousConfig .everyPhase)).tick ⟨1, ⟨1, true⟩⟩)).isSome = true := by decide +kernel
  obtain ⟨result, engine', hok⟩ := okState_isSome.mp hfine
  exact ⟨_, engine', result, rfl, hok,
    (delta_limit_every_phase (cautiousConfig .everyPhase) 7 _ rfl).1 rfl [] _ []
      ⟨1, ⟨1, true⟩⟩ result engine' rfl hok⟩

theorem large_delta_accepted : ∃ (engine engine' : CounterEngine)
    (result : TickResult CounterSnapshot),
    counterEngineWithConfig 7 (cautiousConfig .tickBoundary) = .ok engine ∧
      engine.tick ⟨1, ⟨5, false⟩⟩ = .ok result engine' ∧
      ¬ ((⟨5, false⟩ : CounterCommand).delta.toInt.natAbs : ℤ) ≤
        (cautiousConfig .tickBoundary).maxAbsPendingDelta.toInt := by
  have hfine : (okState ((buildCounterEngineInternal 7 defaultCounterScheduler
      (cautiousConfig .tickBoundary)).tick ⟨1, ⟨5, false⟩⟩)).isSome = true := by decide +kernel
  obtain ⟨result, engine', hok⟩ := okState_isSome.mp hfine
  exact ⟨_, engine', result, rfl, hok, by decide⟩

/-! ### Sums -/

/-- The range of an `i64`. -/
def InI64 (n : ℤ) : Prop := -2 ^ 63 ≤ n ∧ n < 2 ^ 63

/-- The entropy that a tick adds to the value. -/
def impulse (seed : Seed) (frame : InputFrame CounterCommand) : ℤ :=
  (impulseOf (entropyOf ⟨seed, tickSeed seed frame.tick, frame.tick, frame⟩)).toInt

/-- What each tick adds to the value, in exact arithmetic, from the velocity before it. -/
def gains (seed : Seed) : ℤ → List (InputFrame CounterCommand) → List ℤ
  | _, [] => []
  | velocity, frame :: frames =>
    (velocity + frame.command.delta.toInt + impulse seed frame) ::
      gains seed (velocity + frame.command.delta.toInt) frames

def deltas (frames : List (InputFrame CounterCommand)) : List ℤ :=
  frames.map (·.command.delta.toInt)

/-- The exact sums from `s` over `frames` are what `t` holds. -/
structure SumsTo (seed : Seed) (s : CounterState) (frames : List (InputFrame CounterCommand))
    (t : CounterState) : Prop where
  velocity : t.velocity.toInt = s.velocity.toInt + (deltas frames).sum
  value : t.value.toInt = s.value.toInt + (gains seed s.velocity.toInt frames).sum

/- Three additions, each saturated, the last of something small and not negative: they add
up just when none has left the range. -/
theorem saturated_sums_iff {v d x e v' x' : ℤ}
    (hv : v' = max (-2 ^ 63) (min (v + d) (2 ^ 63 - 1)))
    (hx : x' = max (-2 ^ 63) (min (max (-2 ^ 63) (min (x + v') (2 ^ 63 - 1)) + e) (2 ^ 63 - 1)))
    (he : 0 ≤ e ∧ e ≤ 255) :
    v' = v + d ∧ x' = x + (v + d) + e ↔
      InI64 (v + d) ∧ InI64 (x + (v + d)) ∧ InI64 (x + (v + d) + e) := by
  unfold InI64
  constructor
  · rintro ⟨h1, h2⟩
    rw [h1] at hx hv
    refine ⟨?_, ?_, ?_⟩ <;> omega
  · rintro ⟨h1, h2, h3⟩
    have hv' : v' = v + d := by omega
    rw [hv'] at hx
    omega

/- Within limits that are away from the ends of the range nothing has saturated. -/
theorem within_limits_exact {v d x e v' x' mv mx : ℤ}
    (hv : v' = max (-2 ^ 63) (min (v + d) (2 ^ 63 - 1)))
    (hx : x' = max (-2 ^ 63) (min (max (-2 ^ 63) (min (x + v') (2 ^ 63 - 1)) + e) (2 ^ 63 - 1)))
    (he : 0 ≤ e ∧ e ≤ 255) (hmv : mv < 2 ^ 63 - 1) (hmx : mx ≤ 2 ^ 63 - 1 - 255)
    (hv' : (v'.natAbs : ℤ) ≤ mv) (hx' : (x'.natAbs : ℤ) ≤ mx) :
    InI64 (v + d) ∧ InI64 (x + (v + d)) ∧ InI64 (x + (v + d) + e) := by
  have hexact : v' = v + d := by omega
  rw [hexact] at hx
  unfold InI64
  refine ⟨?_, ?_, ?_⟩ <;> omega

/-- None of the three additions of any tick leaves the range of an `i64`. -/
def NoSaturation (seed : Seed) : ℤ → ℤ → List (InputFrame CounterCommand) → Prop
  | _, _, [] => True
  | velocity, value, frame :: frames =>
    let velocity' := velocity + frame.command.delta.toInt
    InI64 velocity' ∧ InI64 (value + velocity') ∧ InI64 (value + velocity' + impulse seed frame) ∧
      NoSaturation seed velocity' (value + velocity' + impulse seed frame) frames

section Sums
variable {config : CounterSimulationConfig} {seed : Seed} {s s' : CounterState}
  {frame : InputFrame CounterCommand}

/- The additions of a tick. -/
theorem settled_sums (seed : Seed) (frame : InputFrame CounterCommand) (h : s.Cleared) :
    (s.settled seed frame).velocity.toInt =
        max (-2 ^ 63) (min (s.velocity.toInt + frame.command.delta.toInt) (2 ^ 63 - 1)) ∧
      (s.settled seed frame).value.toInt = max (-2 ^ 63) (min (max (-2 ^ 63)
        (min (s.value.toInt + (s.settled seed frame).velocity.toInt) (2 ^ 63 - 1)) +
          impulse seed frame) (2 ^ 63 - 1)) := by
  generalize hctx : (⟨seed, tickSeed seed frame.tick, frame.tick, frame⟩ :
    TickContext CounterCommand) = ctx
  have hkept : ∀ (u : CounterState) (marker : UInt64) (tick : Tick),
      (SimulationState.setTick (u.settle.finalize marker) tick : CounterState).velocity =
        u.velocity ∧
      (SimulationState.setTick (u.settle.finalize marker) tick : CounterState).value = u.value :=
    fun _ _ _ => ⟨rfl, rfl⟩
  have hstart : (s.staged ctx).velocity = s.velocity ∧ (s.staged ctx).value = s.value :=
    ⟨rfl, rfl⟩
  have htransient := staged_transient h ctx
  have hvelocity : (s.settled seed frame).velocity = (s.staged ctx).simulate.velocity := by
    rw [settled, simulated, hctx]
    exact (hkept _ _ _).1
  have hvalue : (s.settled seed frame).value = (s.staged ctx).simulate.value := by
    rw [settled, simulated, hctx]
    exact (hkept _ _ _).2
  have hdelta : ctx.frame.command.delta = frame.command.delta := by rw [← hctx]
  rw [hvalue, hvelocity, simulate_value, simulate_velocity, htransient, hstart.1, hstart.2, hdelta,
    impulse, hctx]
  simp only [saturatingAddI64, toInt_saturateI64, and_self]

theorem sumsTo_one {t : CounterState} : SumsTo seed s [frame] t ↔
    t.velocity.toInt = s.velocity.toInt + frame.command.delta.toInt ∧
      t.value.toInt = s.value.toInt + (s.velocity.toInt + frame.command.delta.toInt) +
        impulse seed frame := by
  constructor
  · rintro ⟨hvelocity, hvalue⟩
    simp only [deltas, gains, List.map_cons, List.map_nil, List.sum_cons, List.sum_nil,
      add_zero] at hvelocity hvalue
    exact ⟨hvelocity, by omega⟩
  · rintro ⟨hvelocity, hvalue⟩
    constructor
    · simpa [deltas] using hvelocity
    · simp only [gains, List.sum_cons, List.sum_nil, add_zero]
      omega

/- From an exact first tick on, the sums are those from where it led. -/
theorem sumsTo_cons {s1 t : CounterState} {frames : List (InputFrame CounterCommand)}
    (h : SumsTo seed s [frame] s1) : SumsTo seed s (frame :: frames) t ↔ SumsTo seed s1 frames t := by
  obtain ⟨hvelocity, hvalue⟩ := sumsTo_one.mp h
  have hdeltas : (deltas (frame :: frames)).sum = frame.command.delta.toInt + (deltas frames).sum :=
    List.sum_cons
  have hgains : (gains seed s.velocity.toInt (frame :: frames)).sum =
      s.velocity.toInt + frame.command.delta.toInt + impulse seed frame +
        (gains seed s1.velocity.toInt frames).sum := by
    rw [gains, List.sum_cons, hvelocity]
  constructor
  · rintro ⟨hv, hx⟩
    rw [hdeltas] at hv
    rw [hgains] at hx
    exact ⟨by omega, by omega⟩
  · rintro ⟨hv, hx⟩
    refine ⟨?_, ?_⟩
    · rw [hdeltas]
      omega
    · rw [hgains]
      omega

/- A tick is exact just when it does not saturate. -/
theorem settled_exact_iff (seed : Seed) (frame : InputFrame CounterCommand) (h : s.Cleared) :
    SumsTo seed s [frame] (s.settled seed frame) ↔
      NoSaturation seed s.velocity.toInt s.value.toInt [frame] := by
  obtain ⟨hvelocity, hvalue⟩ := settled_sums seed frame h
  rw [sumsTo_one, saturated_sums_iff hvelocity hvalue (impulseOf_bounds _)]
  simp only [NoSaturation, and_true]

theorem noSaturation_cons {velocity value : ℤ} {frames : List (InputFrame CounterCommand)} :
    NoSaturation seed velocity value (frame :: frames) ↔
      NoSaturation seed velocity value [frame] ∧
        NoSaturation seed (velocity + frame.command.delta.toInt)
          (value + (velocity + frame.command.delta.toInt) + impulse seed frame) frames := by
  simp only [NoSaturation, and_true, and_assoc]

/- After each tick of a run the sums are exact, just when no tick of it saturates. -/
theorem sums_run_iff (hpending : 0 ≤ config.maxAbsPendingDelta.toInt)
    {frames : List (InputFrame CounterCommand)}
    {records : List (ReplayTickRecord CounterCommand CounterSnapshot)}
    (h : (buildCounterEngineInternal seed defaultCounterScheduler config).machine.run s frames =
      .ok (s', records)) :
    (∀ k ≤ frames.length, ∃ t records', (buildCounterEngineInternal seed defaultCounterScheduler
        config).machine.run s (frames.take k) = .ok (t, records') ∧
          SumsTo seed s (frames.take k) t) ↔
      NoSaturation seed s.velocity.toInt s.value.toInt frames := by
  induction frames generalizing s records with
  | nil =>
    simp only [NoSaturation, iff_true]
    intro k _
    rw [List.take_nil]
    exact ⟨s, [], rfl, by simp [deltas], by simp [gains]⟩
  | cons frame frames ih =>
    obtain ⟨s1, record, records1, hstep, hrest, rfl⟩ := run_cons_ok.mp h
    obtain ⟨-, -, -, hcleared, -, -, -, hs1⟩ := (counter_tickStep_iff hpending).mp ⟨record, hstep⟩
    have hfirst := settled_exact_iff seed frame hcleared
    rw [← hs1] at hfirst
    have hsame : ∀ t o, (buildCounterEngineInternal seed defaultCounterScheduler
        config).machine.step s frame = .ok (t, o) → t = s1 := by
      intro t o hstep'
      exact (Prod.mk.inj (Except.ok.inj (hstep'.symm.trans hstep))).1
    rw [noSaturation_cons]
    constructor
    · intro hall
      have hone : SumsTo seed s [frame] s1 := by
        obtain ⟨t, _, hrun, hsums⟩ := hall 1 (Nat.succ_le_succ (Nat.zero_le _))
        obtain ⟨t1, o, _, hstep', hend, -⟩ := run_cons_ok.mp hrun
        rw [List.take_zero] at hend
        rwa [← (run_nil_ok.mp hend).1, hsame t1 o hstep'] at hsums
      obtain ⟨hvelocity, hvalue⟩ := sumsTo_one.mp hone
      refine ⟨hfirst.mp hone, ?_⟩
      rw [← hvalue, ← hvelocity]
      refine (ih hrest).mp fun k hk => ?_
      obtain ⟨t, _, hrun, hsums⟩ := hall (k + 1) (Nat.succ_le_succ hk)
      obtain ⟨t1, o, records', hstep', hmore, -⟩ := run_cons_ok.mp hrun
      rw [hsame t1 o hstep'] at hmore
      exact ⟨t, records', hmore, (sumsTo_cons hone).mp hsums⟩
    · rintro ⟨hno, hmore⟩ k hk
      have hone := hfirst.mpr hno
      obtain ⟨hvelocity, hvalue⟩ := sumsTo_one.mp hone
      rw [← hvalue, ← hvelocity] at hmore
      cases k with
      | zero => exact ⟨s, [], rfl, by simp [deltas], by simp [gains]⟩
      | succ k =>
        obtain ⟨t, records', hrun, hsums⟩ := (ih hrest).mpr hmore k (Nat.le_of_succ_le_succ hk)
        exact ⟨t, _, run_cons_ok.mpr ⟨s1, record, records', hstep, hrun, rfl⟩,
          (sumsTo_cons hone).mpr hsums⟩

/- Limits that leave room for one impulse keep every addition within the range. -/
theorem run_noSaturation (hpending : 0 ≤ config.maxAbsPendingDelta.toInt)
    (hvelocity : config.maxAbsVelocity.toInt < 2 ^ 63 - 1)
    (hvalue : config.maxAbsValue.toInt ≤ 2 ^ 63 - 1 - 255)
    {frames : List (InputFrame CounterCommand)}
    {records : List (ReplayTickRecord CounterCommand CounterSnapshot)}
    (h : (buildCounterEngineInternal seed defaultCounterScheduler config).machine.run s frames =
      .ok (s', records)) : NoSaturation seed s.velocity.toInt s.value.toInt frames := by
  induction frames generalizing s records with
  | nil => trivial
  | cons frame frames ih =>
    obtain ⟨s1, record, records1, hstep, hrest, rfl⟩ := run_cons_ok.mp h
    obtain ⟨-, -, -, hcleared, -, -, hlimits, hs1⟩ :=
      (counter_tickStep_iff hpending).mp ⟨record, hstep⟩
    obtain ⟨hv, hx⟩ := settled_sums seed frame hcleared
    rw [← hs1] at hv hx
    have hranges := within_limits_exact hv hx (impulseOf_bounds _) hvelocity hvalue
      hlimits.velocity hlimits.value
    have hone := (saturated_sums_iff hv hx (impulseOf_bounds _)).mpr hranges
    have hmore := ih hrest
    rw [hone.1, hone.2] at hmore
    exact ⟨hranges.1, hranges.2.1, hranges.2.2, hmore⟩

end Sums

def exactVelocity (config : CounterSimulationConfig)
    (frames : List (InputFrame CounterCommand)) : ℤ :=
  config.initialVelocity.toInt + (deltas frames).sum

def exactValue (config : CounterSimulationConfig) (seed : Seed)
    (frames : List (InputFrame CounterCommand)) : ℤ :=
  config.initialValue.toInt + (gains seed config.initialVelocity.toInt frames).sum

def Unsaturated (config : CounterSimulationConfig) (seed : Seed)
    (frames : List (InputFrame CounterCommand)) : Prop :=
  NoSaturation seed config.initialVelocity.toInt config.initialValue.toInt frames

/-- The limits leave room for one impulse. -/
def RoomyLimits (config : CounterSimulationConfig) : Prop :=
  config.maxAbsVelocity.toInt < 2 ^ 63 - 1 ∧ config.maxAbsValue.toInt ≤ 2 ^ 63 - 1 - 255

/- An engine whose first tick is accepted has the primary entity of its configuration. -/
theorem initial_entity {config : CounterSimulationConfig} {seed : Seed} {s' : CounterState}
    (hpending : 0 ≤ config.maxAbsPendingDelta.toInt)
    {frame : InputFrame CounterCommand} {frames : List (InputFrame CounterCommand)}
    {records : List (ReplayTickRecord CounterCommand CounterSnapshot)}
    (h : (buildCounterEngineInternal seed defaultCounterScheduler config).machine.run
      (buildCounterEngineInternal seed defaultCounterScheduler config).state (frame :: frames) =
        .ok (s', records)) :
    (buildCounterEngineInternal seed defaultCounterScheduler config).state.velocity =
        config.initialVelocity ∧
      (buildCounterEngineInternal seed defaultCounterScheduler config).state.value =
        config.initialValue := by
  obtain ⟨s1, record, _, hstep, -, -⟩ := run_cons_ok.mp h
  obtain ⟨-, -, hstore, -⟩ := (counter_tickStep_iff hpending).mp ⟨record, hstep⟩
  have hcounted := withInitialEntities_counted config.initialValue config.initialVelocity
    config.initialEntities
  have hentity := withInitialEntities_primary config.initialValue config.initialVelocity
    (counted_lt hcounted hstore.fresh)
  exact ⟨congrArg CounterEntity.velocity hentity, congrArg CounterEntity.value hentity⟩

section Accepted
variable {config : CounterSimulationConfig} {seed : Seed} {s' : CounterState}
  {frames : List (InputFrame CounterCommand)}
  {records : List (ReplayTickRecord CounterCommand CounterSnapshot)}

theorem exact_iff_unsaturated (hpending : 0 ≤ config.maxAbsPendingDelta.toInt)
    (h : (buildCounterEngineInternal seed defaultCounterScheduler config).machine.run
      (buildCounterEngineInternal seed defaultCounterScheduler config).state frames =
        .ok (s', records)) :
    (∀ k, 0 < k → k ≤ frames.length → ∃ t records',
      (buildCounterEngineInternal seed defaultCounterScheduler config).machine.run
        (buildCounterEngineInternal seed defaultCounterScheduler config).state (frames.take k) =
          .ok (t, records') ∧ t.velocity.toInt = exactVelocity config (frames.take k) ∧
        t.value.toInt = exactValue config seed (frames.take k)) ↔
      Unsaturated config seed frames := by
  cases frames with
  | nil =>
    refine iff_of_true (fun k hpos hk => ?_) trivial
    rw [List.length_nil] at hk
    omega
  | cons frame frames =>
    obtain ⟨hvelocity, hvalue⟩ := initial_entity hpending h
    have hiff := sums_run_iff hpending h
    rw [hvelocity, hvalue] at hiff
    rw [Unsaturated, ← hiff]
    constructor
    · intro hall k hk
      cases k with
      | zero => exact ⟨_, [], rfl, by simp [deltas], by simp [gains]⟩
      | succ k =>
        obtain ⟨t, records', hrun, hv, hx⟩ := hall (k + 1) (Nat.succ_pos k) hk
        refine ⟨t, records', hrun, ?_, ?_⟩
        · rw [hvelocity, hv, exactVelocity]
        · rw [hvelocity, hvalue, hx, exactValue]
    · intro hall k _ hk
      obtain ⟨t, records', hrun, hv, hx⟩ := hall k hk
      rw [hvelocity] at hv
      rw [hvelocity, hvalue] at hx
      exact ⟨t, records', hrun, hv, hx⟩

theorem roomy_unsaturated (hpending : 0 ≤ config.maxAbsPendingDelta.toInt)
    (hroomy : RoomyLimits config)
    (h : (buildCounterEngineInternal seed defaultCounterScheduler config).machine.run
      (buildCounterEngineInternal seed defaultCounterScheduler config).state frames =
        .ok (s', records)) : Unsaturated config seed frames := by
  cases frames with
  | nil => trivial
  | cons frame frames =>
    obtain ⟨hvelocity, hvalue⟩ := initial_entity hpending h
    have hno := run_noSaturation hpending hroomy.1 hroomy.2 h
    rwa [hvelocity, hvalue] at hno

end Accepted

/- The sums after each of the first `n` ticks are exact just when none of these ticks
saturates, which limits with room for an impulse see to; and then a tick whose exact
result leaves the limits fails. -/
theorem counter_sums_exact (config : CounterSimulationConfig) (seed : Seed)
    (engine engine' : CounterEngine) (frames : List (InputFrame CounterCommand)) (n : ℕ)
    (hengine : counterEngineWithConfig seed config = .ok engine) (hn : n ≤ frames.length)
    (hrun : tickAll (frames.take n) engine = .ok () engine') :
    ((∀ k, 0 < k → k ≤ n → ∃ done, tickAll (frames.take k) engine = .ok () done ∧
        done.state.velocity.toInt = exactVelocity config (frames.take k) ∧
        done.state.value.toInt = exactValue config seed (frames.take k)) ↔
      Unsaturated config seed (frames.take n)) ∧
    (RoomyLimits config → Unsaturated config seed (frames.take n)) ∧
    ∀ frame, Unsaturated config seed (frames.take n ++ [frame]) ∨ RoomyLimits config →
      config.maxAbsVelocity.toInt < (exactVelocity config (frames.take n ++ [frame])).natAbs ∨
        config.maxAbsValue.toInt < (exactValue config seed (frames.take n ++ [frame])).natAbs →
      ∃ err engine'', engine'.tick frame = .error err engine'' := by
  obtain ⟨hvalid, rfl⟩ := counterEngineWithConfig_eq_ok.mp hengine
  have hpending := counter_config_limits hvalid
  obtain ⟨s', records, hmachine, rfl⟩ :=
    (tickAll_refines defaultCounterScheduler_ordered rfl).mp hrun
  have hlength : (frames.take n).length = n := by
    rw [List.length_take, Nat.min_eq_left hn]
  refine ⟨?_, fun hroomy => roomy_unsaturated hpending hroomy hmachine, ?_⟩
  · rw [← exact_iff_unsaturated hpending hmachine, hlength]
    refine forall_congr' fun k => forall_congr' fun _ => forall_congr' fun hk => ?_
    rw [List.take_take, Nat.min_eq_left hk]
    constructor
    · rintro ⟨done, hdone, hsums⟩
      obtain ⟨t, records', hrun', rfl⟩ :=
        (tickAll_refines defaultCounterScheduler_ordered rfl).mp hdone
      exact ⟨t, records', hrun', hsums⟩
    · rintro ⟨t, records', hrun', hsums⟩
      exact ⟨_, (tickAll_refines defaultCounterScheduler_ordered rfl).mpr
        ⟨t, records', hrun', rfl⟩, hsums⟩
  · intro frame hno hover
    cases htick : ((buildCounterEngineInternal seed defaultCounterScheduler config).advance s'
        records).tick frame with
    | error err e => exact ⟨err, e, rfl⟩
    | ok result e =>
      exfalso
      obtain ⟨record, hstep⟩ := tick_tickStep defaultCounterScheduler_ordered htick
      have hwiring : ((buildCounterEngineInternal seed defaultCounterScheduler config).advance s'
          records).wiring =
        (buildCounterEngineInternal seed defaultCounterScheduler config).wiring := rfl
      rw [tickStep_congr hwiring] at hstep
      have hlonger := run_append_ok.mpr ⟨s', records, [record], hmachine,
        run_cons_ok.mpr ⟨e.state, record, [], hstep, run_nil_ok.mpr ⟨rfl, rfl⟩, rfl⟩, rfl⟩
      have hno' : Unsaturated config seed (frames.take n ++ [frame]) :=
        hno.elim id fun hroomy => roomy_unsaturated hpending hroomy hlonger
      obtain ⟨t, _, hrun', hvelocity, hvalue⟩ := (exact_iff_unsaturated hpending hlonger).mpr hno'
        (frames.take n ++ [frame]).length (by simp) le_rfl
      rw [List.take_length] at hrun' hvelocity hvalue
      obtain rfl := (Prod.mk.inj (Except.ok.inj (hlonger.symm.trans hrun'))).1
      obtain ⟨-, -, -, -, -, -, hlimits, -⟩ :=
        (counter_tickStep_iff hpending).mp ⟨record, hstep⟩
      have hx := hlimits.value
      have hv := hlimits.velocity
      rw [hvalue] at hx
      rw [hvelocity] at hv
      omega

/-- A configuration whose limits leave room. -/
def roomyConfig : CounterSimulationConfig :=
  { CounterSimulationConfig.default with maxAbsValue := 1000, maxAbsVelocity := 1000 }

theorem counter_sums_exact_one : ∃ engine' : CounterEngine,
    tickAll [⟨1, ⟨5, true⟩⟩] (buildCounterEngineInternal 7 defaultCounterScheduler roomyConfig) =
        .ok () engine' ∧ engine'.state.velocity.toInt = exactVelocity roomyConfig [⟨1, ⟨5, true⟩⟩] ∧
      engine'.state.value.toInt = exactValue roomyConfig 7 [⟨1, ⟨5, true⟩⟩] := by
  have hfine : (okState (tickAll [⟨1, ⟨5, true⟩⟩] (buildCounterEngineInternal 7
      defaultCounterScheduler roomyConfig))).isSome = true := by decide +kernel
  obtain ⟨_, engine', hok⟩ := okState_isSome.mp hfine
  obtain ⟨hiff, hroomy, -⟩ := counter_sums_exact roomyConfig 7 _ engine' [⟨1, ⟨5, true⟩⟩] 1 rfl
    le_rfl hok
  obtain ⟨done, hdone, hvelocity, hvalue⟩ :=
    hiff.mpr (hroomy ⟨by decide, by decide⟩) 1 Nat.one_pos le_rfl
  exact ⟨done, hdone, hvelocity, hvalue⟩

/-- Two deltas whose sum is beyond the range. -/
def saturatingFrames : List (InputFrame CounterCommand) :=
  [⟨1, ⟨Int64.ofInt (2 ^ 63 - 1), false⟩⟩, ⟨2, ⟨1, false⟩⟩]

theorem saturated_velocity_accepted : ∃ engine engine' : CounterEngine,
    counterEngineWithConfig 7 .default = .ok engine ∧
      tickAll saturatingFrames engine = .ok () engine' ∧
      engine'.state.velocity.toInt ≠ exactVelocity .default saturatingFrames ∧
      engine'.state.value.toInt ≠ exactValue .default 7 saturatingFrames := by
  have hrun : (okState (tickAll saturatingFrames (buildCounterEngineInternal 7
      defaultCounterScheduler .default))).map (fun e =>
        (e.state.velocity.toInt, e.state.value.toInt)) = some (2 ^ 63 - 1, 2 ^ 63 - 1) := by
    decide +kernel
  obtain ⟨_, engine', hok, hsums⟩ := okState_map_eq_some.mp hrun
  obtain ⟨hvelocity, hvalue⟩ := Prod.mk.inj hsums
  refine ⟨_, engine', rfl, hok, ?_, ?_⟩
  · rw [hvelocity]
    decide
  · rw [hvalue]
    decide +kernel

end XenorEngine.Rust
