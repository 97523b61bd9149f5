import XenorEngine.Rust.SettlementTicks

/-!
# Settlement runs: validation, allocations
-/

namespace XenorEngine.Rust
open XenorEngine.Lib.Fallible XenorEngine.Lib.Runs
open DeterministicEngine SettlementState

/-! ### The validation policy -/

/- A step made under one policy is made under the other. -/
theorem settlement_step_agrees {config : SettlementSimulationConfig}
    (hamounts : SettlementAmounts config) {seed : Seed} {state s s' : SettlementState}
    {frame : InputFrame SettlementCommand}
    {record : ReplayTickRecord SettlementCommand SettlementSnapshot}
    (policy policy' : ValidationPolicy)
    (h : (settlementEngineFrom seed { config with validationPolicy := policy } state).tickStep s
      frame = .ok (s', record)) :
    ∃ record', (settlementEngineFrom seed { config with validationPolicy := policy' }
        state).tickStep s frame = .ok (s', record') ∧ unvalidated record' = unvalidated record := by
  have hamounts' : ∀ p, SettlementAmounts { config with validationPolicy := p } :=
    fun p => ⟨hamounts.initial, hamounts.food, hamounts.wood, hamounts.consumption, hamounts.demand⟩
  obtain ⟨record', h'⟩ := (settlement_tickStep_iff (hamounts' policy')).mpr
    ((settlement_tickStep_iff (hamounts' policy)).mp ⟨record, h⟩)
  refine ⟨record', h', ?_⟩
  have hrecord := tickStep_record (defaultSettlementScheduler_ordered _) h
  have hrecord' := tickStep_record (defaultSettlementScheduler_ordered _) h'
  have hplan : ∀ p, (settlementEngineFrom seed { config with validationPolicy := p }
      state).scheduler.phasePlan = (defaultSettlementScheduler config).phasePlan := by
    intro p
    rw [defaultSettlementScheduler_plan]
    exact defaultSettlementScheduler_plan _
  rw [hrecord', hrecord, recordTo, recordTo, hplan, hplan]
  rfl

/-- Two engines accept the same prefixes of `frames`, and after each of them agree on the
state, its checksum and the records, the validation summaries of these apart. -/
def SameOutcome (e e' : SettlementEngine) (frames : List (InputFrame SettlementCommand)) : Prop :=
  ∀ n, ((∃ done, tickAll (frames.take n) e = .ok () done) ↔
      ∃ done, tickAll (frames.take n) e' = .ok () done) ∧
    ∀ done done', tickAll (frames.take n) e = .ok () done →
      tickAll (frames.take n) e' = .ok () done' →
        done.state = done'.state ∧
          SimulationState.checksum done.state = SimulationState.checksum done'.state ∧
          done.replayLog.records.map unvalidated = done'.replayLog.records.map unvalidated

theorem settlement_run_agrees {config : SettlementSimulationConfig}
    (hamounts : SettlementAmounts config) {seed : Seed} {state : SettlementState}
    {frames : List (InputFrame SettlementCommand)} {done : SettlementEngine}
    (policy policy' : ValidationPolicy)
    (h : tickAll frames (settlementEngineFrom seed { config with validationPolicy := policy }
      state) = .ok () done) :
    ∃ done', tickAll frames (settlementEngineFrom seed
        { config with validationPolicy := policy' } state) = .ok () done' ∧
      done'.state = done.state ∧
      done'.replayLog.records.map unvalidated = done.replayLog.records.map unvalidated := by
  obtain ⟨s', records, hrun, rfl⟩ := (tickAll_refines
    (defaultSettlementScheduler_ordered _) rfl).mp h
  have hstep : ∀ s frame s' record, (settlementEngineFrom seed
        { config with validationPolicy := policy } state).machine.step s frame = .ok (s', record) →
      ∃ record', (settlementEngineFrom seed { config with validationPolicy := policy' }
        state).machine.step s frame = .ok (s', record') ∧ unvalidated record' = unvalidated record :=
    fun _ _ _ _ => settlement_step_agrees hamounts policy policy'
  obtain ⟨records', hrun', hmap⟩ := run_agrees hstep hrun
  exact ⟨_, (tickAll_refines (defaultSettlementScheduler_ordered _) rfl).mpr
    ⟨s', records', hrun', rfl⟩, rfl, hmap⟩

theorem validation_policy_keeps_outcome (config : SettlementSimulationConfig) (seed : Seed)
    (hvalid : config.validate = .ok ()) :
    ∃ boundary every : SettlementEngine,
      settlementEngineWithConfig seed { config with validationPolicy := .tickBoundary } =
        .ok boundary ∧
      settlementEngineWithConfig seed { config with validationPolicy := .everyPhase } =
        .ok every ∧
      ∀ frames, SameOutcome boundary every frames := by
  have hamounts := settlement_amounts hvalid
  have hvalid' : ∀ policy, SettlementSimulationConfig.validate
      { config with validationPolicy := policy } = .ok () := fun _ => hvalid
  obtain ⟨state, hstate⟩ := exists_fromConfig hvalid
  have hstate' : ∀ policy, SettlementState.fromConfig
      { config with validationPolicy := policy } = .ok state := fun _ => hstate
  refine ⟨_, _, settlementEngineWithConfig_eq_ok.mpr ⟨hvalid' .tickBoundary, state,
    hstate' .tickBoundary, rfl⟩, settlementEngineWithConfig_eq_ok.mpr ⟨hvalid' .everyPhase, state,
    hstate' .everyPhase, rfl⟩, ?_⟩
  intro frames n
  constructor
  · constructor
    · rintro ⟨done, h⟩
      obtain ⟨done', h', -⟩ := settlement_run_agrees hamounts .tickBoundary .everyPhase h
      exact ⟨done', h'⟩
    · rintro ⟨done, h⟩
      obtain ⟨done', h', -⟩ := settlement_run_agrees hamounts .everyPhase .tickBoundary h
      exact ⟨done', h'⟩
  · intro done done' h h'
    obtain ⟨done1, h1, hstate1, hrecords⟩ :=
      settlement_run_agrees hamounts .tickBoundary .everyPhase h
    obtain rfl := (EStateM.Result.ok.inj (h1.symm.trans h')).2
    exact ⟨hstate1.symm, congrArg _ hstate1.symm, hrecords.symm⟩

theorem validation_policy_keeps_outcome_default : ∃ boundary every : SettlementEngine,
    settlementEngineWithConfig 7 { SettlementSimulationConfig.default with
        validationPolicy := .tickBoundary } = .ok boundary ∧
      settlementEngineWithConfig 7 { SettlementSimulationConfig.default with
        validationPolicy := .everyPhase } = .ok every ∧
      ∀ frames, SameOutcome boundary every frames :=
  validation_policy_keeps_outcome .default 7 (by decide)

/-! ### Spurious rejections -/

/-- What holds before tick `n + 1` of a run, whether the validator looks or not. -/
structure Ready (config : SettlementSimulationConfig) (n : ℕ) (s : SettlementState) : Prop where
  tick : s.tick.toNat = n
  population : s.population = config.population
  sane : s.Sane
  cleared : s.Cleared

/-- Ticks `n + 1, n + 2, …` with commands that fit the population. -/
def Fitting (population : UInt32) (n : ℕ) (frames : List (InputFrame SettlementCommand)) : Prop :=
  ∀ i frame, frames[i]? = some frame → frame.tick.toNat = n + i + 1 ∧
    ∀ allocation, frame.command = .setWorkerAllocation allocation → Fits population allocation

theorem fitting_cons {population : UInt32} {n : ℕ} {frame : InputFrame SettlementCommand}
    {frames : List (InputFrame SettlementCommand)} (h : Fitting population n (frame :: frames)) :
    (frame.tick.toNat = n + 1 ∧ ∀ allocation,
      frame.command = .setWorkerAllocation allocation → Fits population allocation) ∧
      Fitting population (n + 1) frames := by
  constructor
  · have hfirst := h 0 frame rfl
    simpa using hfirst
  · intro i next hi
    have hnext := h (i + 1) next hi
    refine ⟨?_, hnext.2⟩
    omega

section Run
variable {config : SettlementSimulationConfig} {seed : Seed} {state : SettlementState}

/- Where a staged command leads is ready for the next tick. -/
theorem ready_settled (seed : Seed) (hamounts : SettlementAmounts config) {n : ℕ}
    {s s1 : SettlementState} (h : Ready config n s) {frame : InputFrame SettlementCommand}
    (htick : frame.tick.toNat = n + 1) (hstage : s.staged frame.command = .ok s1) :
    Ready config (n + 1) (s1.settled config seed frame) := by
  obtain ⟨hsane1, -, -, hpop1, -⟩ := staged_sane h.sane hstage
  obtain ⟨hsane2, hcleared2⟩ := simulated_sane hamounts hsane1
  obtain ⟨hsane, hcleared, -, htick', hpop⟩ := stamped (s1.simulated config)
    ((s1.simulated config).markerOf ⟨seed, tickSeed seed frame.tick, frame.tick, frame⟩)
    frame.tick config.maxInventory
  refine ⟨?_, ?_, hsane hsane2, hcleared hcleared2⟩
  · rw [settled, htick', htick]
  · exact hpop.trans ((s1.simulated_keeps config).2.2.trans (hpop1.trans h.population))

/- A fitting tick always has an end, ready for the next tick. -/
theorem ready_tick (seed : Seed) (hamounts : SettlementAmounts config) {n : ℕ} {s : SettlementState}
    (h : Ready config n s) {frame : InputFrame SettlementCommand}
    (htick : frame.tick.toNat = n + 1) (hfits : ∀ allocation,
      frame.command = .setWorkerAllocation allocation → Fits config.population allocation) :
    ∃ s1, s.staged frame.command = .ok s1 ∧ Ready config (n + 1) (s1.settled config seed frame) := by
  rw [← h.population] at hfits
  obtain ⟨s1, hstage⟩ := staged_of_fits hfits
  exact ⟨s1, hstage, ready_settled seed hamounts h htick hstage⟩

theorem ready_marked {n : ℕ} {s : SettlementState} (h : Ready config (n + 1) s) :
    s.Marked ↔ s.finalizeMarker ≠ 0 := by
  have hne : s.tick ≠ 0 := by
    intro hzero
    have htick := h.tick
    rw [hzero, UInt64.toNat_zero] at htick
    omega
  rw [Marked, MarkerFor, if_neg hne]

/- The phases alone never fail on fitting commands. -/
theorem ready_phases (seed : Seed) (state : SettlementState)
    (hamounts : SettlementAmounts config) {n : ℕ} {s : SettlementState}
    (h : Ready config n s) {frames : List (InputFrame SettlementCommand)}
    (hfit : Fitting config.population n frames) :
    ∃ last states, (settlementEngineFrom seed config state).phasesMachine.run s frames =
      .ok (last, states) := by
  induction frames generalizing n s with
  | nil => exact ⟨s, [], rfl⟩
  | cons frame frames ih =>
    obtain ⟨⟨htick, hfits⟩, hrest⟩ := fitting_cons hfit
    obtain ⟨s1, hstage, hready⟩ := ready_tick seed hamounts h htick hfits
    obtain ⟨last, states, hrun⟩ := ih hready hrest
    have hstep : (settlementEngineFrom seed config state).phasesStep s frame =
        .ok (s1.settled config seed frame, s1.settled config seed frame) :=
      settlement_phasesStep_iff.mpr ⟨rfl, s1, hstage, rfl⟩
    exact ⟨last, _, run_cons_ok.mpr ⟨_, _, states, hstep, hrun, rfl⟩⟩

theorem ready_step_iff (seed : Seed) (state s' : SettlementState)
    (hamounts : SettlementAmounts config) {n : ℕ} {s s1 : SettlementState}
    (h : Ready config n s) (hlimit : s.WithinLimit config.maxInventory) (hmarked : s.Marked)
    {frame : InputFrame SettlementCommand} (htick : frame.tick.toNat = n + 1)
    (hstage : s.staged frame.command = .ok s1) :
    (∃ record, (settlementEngineFrom seed config state).tickStep s frame = .ok (s', record)) ↔
      s' = s1.settled config seed frame ∧ s'.WithinLimit config.maxInventory := by
  have hsettled : (s1.settled config seed frame).WithinLimit config.maxInventory ↔
      (s1.simulated config).WithinLimit config.maxInventory := (stamped _ _ _ _).2.2.1
  rw [settlement_tickStep_iff hamounts]
  constructor
  · rintro ⟨-, -, -, -, -, s2, hstage', hlimit', rfl⟩
    obtain rfl := Except.ok.inj (hstage.symm.trans hstage')
    exact ⟨rfl, hsettled.mpr hlimit'⟩
  · rintro ⟨rfl, hlimit'⟩
    exact ⟨htick.trans (congrArg (· + 1) h.tick.symm), h.sane, hlimit, h.cleared, hmarked, s1,
      hstage, hsettled.mp hlimit', rfl⟩

/- The engine follows the phases for as long as the inventories stay within the limit and
no tick starts from a zero marker. -/
theorem ready_run_iff (hamounts : SettlementAmounts config) {n : ℕ} {s : SettlementState}
    (h : Ready config n s) (hlimit : s.WithinLimit config.maxInventory) (hmarked : s.Marked)
    {frames : List (InputFrame SettlementCommand)} (hfit : Fitting config.population n frames)
    {last : SettlementState} {states : List SettlementState}
    (hrun : (settlementEngineFrom seed config state).phasesMachine.run s frames =
      .ok (last, states)) :
    (∃ t records, (settlementEngineFrom seed config state).machine.run s frames =
        .ok (t, records)) ↔
      (∀ u ∈ states, u.WithinLimit config.maxInventory) ∧
        ∀ u ∈ states.dropLast, u.finalizeMarker ≠ 0 := by
  induction frames generalizing n s states with
  | nil =>
    obtain ⟨rfl, rfl⟩ := run_nil_ok.mp hrun
    simp [run_nil_ok]
  | cons frame frames ih =>
    obtain ⟨s', out, states, hstep, hphases, rfl⟩ := run_cons_ok.mp hrun
    obtain ⟨rfl, s1, hstage, hsettled⟩ := settlement_phasesStep_iff.mp hstep
    obtain ⟨⟨htick, hfits⟩, hrest⟩ := fitting_cons hfit
    obtain ⟨s1', hstage', hready⟩ := ready_tick seed hamounts h htick hfits
    obtain rfl := Except.ok.inj (hstage.symm.trans hstage')
    rw [← hsettled] at hready
    have hstepIff := fun s' => ready_step_iff seed state s' hamounts h
      hlimit hmarked htick hstage
    rw [← hsettled] at hstepIff
    have hsplit : (∃ t records, (settlementEngineFrom seed config state).machine.run s
        (frame :: frames) = .ok (t, records)) ↔ out.WithinLimit config.maxInventory ∧
          ∃ t records, (settlementEngineFrom seed config state).machine.run out frames =
            .ok (t, records) := by
      constructor
      · rintro ⟨t, records, h⟩
        obtain ⟨s', record, records', hfirst, hmore, rfl⟩ := run_cons_ok.mp h
        obtain ⟨rfl, hwithin⟩ := (hstepIff s').mp ⟨record, hfirst⟩
        exact ⟨hwithin, t, records', hmore⟩
      · rintro ⟨hwithin, t, records', hmore⟩
        obtain ⟨record, hfirst⟩ := (hstepIff out).mpr ⟨rfl, hwithin⟩
        exact ⟨t, _, run_cons_ok.mpr ⟨out, record, records', hfirst, hmore, rfl⟩⟩
    rw [hsplit, List.forall_mem_cons, and_assoc]
    refine and_congr_right fun hwithin => ?_
    cases frames with
    | nil =>
      obtain ⟨rfl, rfl⟩ := run_nil_ok.mp hphases
      simp [run_nil_ok]
    | cons next rest =>
      obtain ⟨s2, out2, states, -, -, rfl⟩ := run_cons_ok.mp hphases
      have hdrop : (∀ u ∈ (out :: out2 :: states).dropLast, u.finalizeMarker ≠ 0) ↔
          out.finalizeMarker ≠ 0 ∧ ∀ u ∈ (out2 :: states).dropLast, u.finalizeMarker ≠ 0 := by
        rw [List.dropLast_cons_cons, List.forall_mem_cons]
      rw [hdrop]
      by_cases hzero : out.finalizeMarker = 0
      · constructor
        · rintro ⟨t, records, hmore⟩
          obtain ⟨s', record, -, hnext, -⟩ := run_cons_ok.mp hmore
          obtain ⟨-, -, -, -, hmarked', -⟩ :=
            (settlement_tickStep_iff hamounts).mp ⟨record, hnext⟩
          exact absurd hzero ((ready_marked hready).mp hmarked')
        · rintro ⟨-, hne, -⟩
          exact absurd hzero hne
      · rw [ih hready hwithin ((ready_marked hready).mpr hzero) hrest hphases]
        exact and_congr_right fun _ => ⟨fun h => ⟨hzero, h⟩, fun h => h.2⟩

end Run

/- A configuration that passes its checks makes a state that passes the first ones. -/
theorem fromConfig_ready {config : SettlementSimulationConfig} {s : SettlementState}
    (h : SettlementState.fromConfig config = .ok s) :
    Ready config 0 s ∧ s.WithinLimit config.maxInventory ∧ s.Marked := by
  simp only [SettlementState.fromConfig, bind_eq_ok, pure_eq_ok] at h
  obtain ⟨u, hvalid, rfl⟩ := h
  have hamounts := settlement_amounts hvalid
  simp only [SettlementSimulationConfig.validate, check_bind_eq_ok, mapError_eq_ok, forM_eq_ok,
    rejectIf_eq_ok, List.forall_mem_cons, gt_iff_lt, Int64.lt_iff_toInt_lt, not_lt] at hvalid
  obtain ⟨-, hcurrent, -, hfood, hwood, -⟩ := hvalid
  have hzero : ∀ r, zeroResourceMap r = 0 := by
    intro r
    cases r <;> rfl
  refine ⟨⟨rfl, rfl, ⟨hcurrent, rfl, ?_, ?_, rfl, ?_⟩, rfl, rfl⟩, ?_, rfl⟩
  · intro r
    cases r with
    | food => exact hamounts.initial .food
    | wood => exact hamounts.initial .wood
  · intro m hm r
    simp only [metrics, List.mem_cons, List.not_mem_nil, or_false, or_self] at hm
    rw [hm, hzero]
    decide
  · intro r hpos
    change 0 < (zeroResourceMap r).toInt at hpos
    rw [hzero] at hpos
    exact absurd hpos (by decide)
  · exact forall_resource.mpr ⟨hfood, hwood⟩

/- On fitting commands every tick returns `Ok` exactly when the inventories stay within
the limit and no tick, the first apart, starts in a state whose marker is 0. -/
theorem rejections_explained (config : SettlementSimulationConfig) (seed : Seed)
    (engine : SettlementEngine) (frames : List (InputFrame SettlementCommand))
    (hengine : settlementEngineWithConfig seed config = .ok engine)
    (hfit : Fitting config.population 0 frames) :
    ∃ last states, engine.phasesMachine.run engine.state frames = .ok (last, states) ∧
      ((∃ engine', tickAll frames engine = .ok () engine') ↔
        (∀ s ∈ states, s.WithinLimit config.maxInventory) ∧
          ∀ s ∈ states.dropLast, s.finalizeMarker ≠ 0) := by
  obtain ⟨hvalid, state, hstate, rfl⟩ := settlementEngineWithConfig_eq_ok.mp hengine
  have hamounts := settlement_amounts hvalid
  obtain ⟨hready, hlimit, hmarked⟩ := fromConfig_ready hstate
  obtain ⟨last, states, hrun⟩ := ready_phases seed state hamounts hready hfit
  refine ⟨last, states, hrun, ?_⟩
  rw [← ready_run_iff hamounts hready hlimit hmarked hfit hrun]
  constructor
  · rintro ⟨engine', h⟩
    obtain ⟨t, records, hmachine, -⟩ :=
      (tickAll_refines (defaultSettlementScheduler_ordered config) rfl).mp h
    exact ⟨t, records, hmachine⟩
  · rintro ⟨t, records, hmachine⟩
    exact ⟨_, (tickAll_refines (defaultSettlementScheduler_ordered config) rfl).mpr
      ⟨t, records, hmachine, rfl⟩⟩

/-- A seed whose first tick of `default` mixes to 0. -/
def unmarkedSeed : Seed := 10540946785833474131

def twoHolds : List (InputFrame SettlementCommand) := [⟨1, .hold⟩, ⟨2, .hold⟩]

theorem twoHolds_fitting (population : UInt32) : Fitting population 0 twoHolds := by
  intro i frame hi
  match i with
  | 0 =>
    obtain rfl := Option.some.inj hi
    exact ⟨rfl, fun _ h => nomatch h⟩
  | 1 =>
    obtain rfl := Option.some.inj hi
    exact ⟨rfl, fun _ h => nomatch h⟩
  | _ + 2 => cases hi

theorem rejections_explained_default : ∃ (engine : SettlementEngine) (last : SettlementState)
    (states : List SettlementState), settlementEngineWithConfig 7 .default = .ok engine ∧
      engine.phasesMachine.run engine.state twoHolds = .ok (last, states) ∧
      ((∃ engine', tickAll twoHolds engine = .ok () engine') ↔
        (∀ s ∈ states, s.WithinLimit 1000) ∧ ∀ s ∈ states.dropLast, s.finalizeMarker ≠ 0) := by
  obtain ⟨state, hstate⟩ : ∃ state, SettlementState.fromConfig .default = .ok state := ⟨_, rfl⟩
  have hengine := settlementEngineWithConfig_eq_ok.mpr
    ⟨(rfl : SettlementSimulationConfig.default.validate = .ok ()), state, hstate,
      (rfl : settlementEngineFrom 7 .default state = _)⟩
  obtain ⟨last, states, hrun, hiff⟩ := rejections_explained .default 7 _ twoHolds hengine
    (twoHolds_fitting _)
  exact ⟨_, last, states, hengine, hrun, hiff⟩

/- Two ticks without a command, the inventories always within the limit: the second is
rejected. -/
theorem zero_marker_rejected : ∃ (engine : SettlementEngine) (last : SettlementState)
    (states : List SettlementState), settlementEngineWithConfig unmarkedSeed .default = .ok engine ∧
      Fitting SettlementSimulationConfig.default.population 0 twoHolds ∧
      engine.phasesMachine.run engine.state twoHolds = .ok (last, states) ∧
      (∀ s ∈ states, s.WithinLimit SettlementSimulationConfig.default.maxInventory) ∧
      ¬ ∃ engine', tickAll twoHolds engine = .ok () engine' := by
  obtain ⟨state, hstate⟩ : ∃ state, SettlementState.fromConfig .default = .ok state := ⟨_, rfl⟩
  have hengine := settlementEngineWithConfig_eq_ok.mpr
    ⟨(rfl : SettlementSimulationConfig.default.validate = .ok ()), state, hstate,
      (rfl : settlementEngineFrom unmarkedSeed .default state = _)⟩
  have hphases : ((settlementEngineFrom unmarkedSeed .default state).phasesMachine.run state
      twoHolds).toOption.map (fun r => r.2.map fun s => ResourceKind.ORDER.map fun k =>
        (s.inventory k).toInt) = some [[15, 10], [18, 12]] := by
    cases hstate
    decide +kernel
  have htick : (okState (tickAll twoHolds (settlementEngineFrom unmarkedSeed .default
      state))).isSome = false := by
    cases hstate
    decide +kernel
  obtain ⟨⟨last, states⟩, hrun, hstocks⟩ := Option.map_eq_some_iff.mp hphases
  refine ⟨_, last, states, hengine, twoHolds_fitting _, toOption_eq_some.mp hrun, ?_, ?_⟩
  · intro s hs
    have hstock : ResourceKind.ORDER.map (fun k => (s.inventory k).toInt) ∈
        ([[15, 10], [18, 12]] : List (List ℤ)) := by
      rw [← hstocks]
      exact List.mem_map_of_mem hs
    simp only [ResourceKind.ORDER, List.map_cons, List.map_nil, List.mem_cons, List.cons.injEq,
      and_true, List.not_mem_nil, or_false] at hstock
    have hmax : SettlementSimulationConfig.default.maxInventory.toInt = 1000 := rfl
    refine forall_resource.mpr ⟨?_, ?_⟩
    · rw [hmax]
      omega
    · rw [hmax]
      omega
  · rintro ⟨engine', h⟩
    rw [okState_eq_some.mpr ⟨(), h⟩] at htick
    cases htick

/-! ### Allocations -/

/-- No worker is assigned twice, now or after the next command. -/
def Staffed (s : SettlementState) : Prop :=
  Fits s.population s.currentAllocation ∧ Fits s.population s.pendingAllocation

/-- Where the saturated sum of the check is the sum, or too large for the population. -/
def Exact (population : UInt32) (allocation : WorkerAllocation) : Prop :=
  population.toNat < 2 ^ 32 - 1 ∨ allocation.farmers.toNat + allocation.loggers.toNat < 2 ^ 32

theorem fits_iff_exact {population : UInt32} {allocation : WorkerAllocation}
    (h : allocation.validateAgainst population = .ok ()) :
    Fits population allocation ↔ Exact population allocation := by
  have hpop := population.toNat_lt
  have hmin := validateAgainst_eq_ok.mp h
  unfold Fits Exact
  omega

/-- The allocations that a call brings into an engine, where it gets as far as that. -/
def ExactCall (e : SettlementEngine) : EngineCall SettlementCommand SettlementSnapshot → Prop
  | .tick frame => e.Admits frame → ∀ allocation,
      frame.command = .setWorkerAllocation allocation → Exact e.state.population allocation
  | .restoreSnapshot snapshot => Exact snapshot.population snapshot.currentAllocation ∧
      Exact snapshot.population snapshot.pendingAllocation

theorem staffed_congr {s t : SettlementState} (hpop : t.population = s.population)
    (hcurrent : t.currentAllocation = s.currentAllocation)
    (hpending : t.pendingAllocation = s.pendingAllocation) :
    t.population = s.population ∧ (Staffed s → Staffed t) := by
  refine ⟨hpop, ?_⟩
  unfold Staffed
  rw [hpop, hcurrent, hpending]
  exact id

theorem staffed_apply (s : SettlementState) :
    s.applyPendingAllocation.population = s.population ∧
      (Staffed s → Staffed s.applyPendingAllocation) := by
  unfold applyPendingAllocation
  split
  · exact ⟨rfl, fun h => ⟨h.2, Nat.zero_le _⟩⟩
  · exact ⟨rfl, id⟩

theorem staffed_finalize (s : SettlementState) (marker : UInt64) :
    (s.finalize marker).population = s.population ∧ (Staffed s → Staffed (s.finalize marker)) :=
  staffed_congr rfl rfl rfl

/- The command phase checks what it stages, so no phase takes more workers than there are. -/
theorem staffed_run {phase : SettlementPhase} {ctx : TickContext SettlementCommand}
    {s s' : SettlementState} (hexact : ∀ allocation,
      ctx.frame.command = .setWorkerAllocation allocation → Exact s.population allocation)
    (h : phase.run ctx s = .ok () s') :
    s'.population = s.population ∧ (Staffed s → Staffed s') := by
  cases phase with
  | resetSettlementFinalizeMarkerPhase =>
    rw [estate_modify_ok.mp h]
    exact staffed_congr rfl rfl rfl
  | stageSettlementCommandPhase =>
    cases hcmd : ctx.frame.command with
    | hold =>
      simp only [SettlementPhase.run, hcmd] at h
      obtain ⟨-, rfl⟩ := estate_pure_ok.mp h
      exact ⟨rfl, id⟩
    | setWorkerAllocation allocation =>
      simp only [SettlementPhase.run, hcmd] at h
      split at h
      · rename_i s1 hstage
        obtain ⟨-, rfl⟩ := EStateM.Result.ok.inj h
        simp only [stageAllocation, bind_eq_ok, mapError_eq_ok, pure_eq_ok] at hstage
        obtain ⟨_, hvalid, rfl⟩ := hstage
        exact ⟨rfl, fun hs => ⟨hs.1, (fits_iff_exact hvalid).mpr (hexact allocation hcmd)⟩⟩
      · cases h
  | applySettlementAllocationPhase =>
    rw [estate_modify_ok.mp h]
    exact staffed_apply s
  | settlementProductionPhase config =>
    rw [estate_modify_ok.mp h]
    exact staffed_congr rfl rfl rfl
  | settlementConsumptionPhase config =>
    rw [estate_modify_ok.mp h]
    exact staffed_congr rfl rfl rfl
  | resolveSettlementStatusPhase =>
    rw [estate_modify_ok.mp h]
    exact staffed_congr rfl rfl rfl
  | finalizeSettlementPhase =>
    rw [estate_modify_ok.mp h]
    exact staffed_finalize s _

theorem staffed_phases {population : UInt32} {frame : InputFrame SettlementCommand}
    (hexact : ∀ allocation, frame.command = .setWorkerAllocation allocation →
      Exact population allocation) :
    KeptByPhases SettlementPhase frame
      (fun s : SettlementState => s.population = population ∧ Staffed s) := by
  refine keptByPhases_of_ok (fun _ _ _ _ _ => settlement_run_error) ?_
  rintro phase ctx s s' rfl ⟨rfl, hs⟩ hact
  obtain ⟨hpop, hkeeps⟩ := staffed_run hexact hact
  exact ⟨hpop, hkeeps hs⟩

theorem staffed_restored {snapshot : SettlementSnapshot} (hvalid : snapshot.validate = .ok ())
    (hcurrent : Exact snapshot.population snapshot.currentAllocation)
    (hpending : Exact snapshot.population snapshot.pendingAllocation) :
    Staffed (SettlementState.ofSnapshot snapshot) := by
  simp only [SettlementSnapshot.validate, check_bind_eq_ok] at hvalid
  obtain ⟨hfits, hfits', -⟩ := hvalid
  exact ⟨(fits_iff_exact hfits).mpr hcurrent, (fits_iff_exact hfits').mpr hpending⟩

theorem staffed_perform {config : SettlementSimulationConfig} {e e' : SettlementEngine}
    (hsched : e.scheduler = defaultSettlementScheduler config) (h : Staffed e.state)
    {call : EngineCall SettlementCommand SettlementSnapshot} (hexact : ExactCall e call)
    {result : CallResult SettlementSnapshot} (hcall : e.perform call = .ok (e', result)) :
    Staffed e'.state := by
  cases call with
  | tick frame =>
    by_cases hadmits : e.Admits frame
    · have hord : e.scheduler.Ordered := hsched ▸ defaultSettlementScheduler_ordered config
      have hkept := tick_keeps hord (staffed_phases (hexact hadmits)) (fun _ _ h => h) ⟨rfl, h⟩
        hcall
      exact hkept.2
    · obtain ⟨err, e1, ht, hstate⟩ := tick_of_not_admits hadmits
      simp only [perform, ht, Except.ok.injEq, Prod.mk.injEq] at hcall
      obtain ⟨rfl, -⟩ := hcall
      rwa [hstate]
  | restoreSnapshot snapshot =>
    simp only [perform, bind_eq_ok, pure_eq_ok, Prod.mk.injEq] at hcall
    obtain ⟨e1, hrestore, rfl, -⟩ := hcall
    obtain ⟨s, hs, rfl⟩ := restoreSnapshot_ok hrestore
    have hs : SettlementState.restoreSnapshot e.state snapshot = .ok s := hs
    unfold SettlementState.restoreSnapshot at hs
    split at hs
    · rename_i hvalid
      obtain rfl := Except.ok.inj hs
      exact staffed_restored hvalid hexact.1 hexact.2
    · cases hs

/- An accepted allocation fits the population exactly when it is `Exact`; in a run of
ticks, failing ones too, and restores where all that get in are, no state ever takes more
workers than there are. -/
theorem workers_assigned_once (config : SettlementSimulationConfig) (seed : Seed)
    (engine : SettlementEngine) (calls : List (EngineCall SettlementCommand SettlementSnapshot)) :
    (∀ (population : UInt32) (allocation : WorkerAllocation),
      allocation.validateAgainst population = .ok () →
        (Fits population allocation ↔ Exact population allocation)) ∧
    (settlementEngineWithConfig seed config = .ok engine →
      Exact config.population config.initialAllocation →
      (∀ before call after e results, calls = before ++ call :: after →
        callMachine.run engine before = .ok (e, results) → ExactCall e call) →
      ∀ before after e results, calls = before ++ after →
        callMachine.run engine before = .ok (e, results) → Staffed e.state) := by
  refine ⟨fun _ _ h => fits_iff_exact h, ?_⟩
  intro hengine hconfig hcalls before after e results hcut hrun
  obtain ⟨hvalid, state, hstate, rfl⟩ := settlementEngineWithConfig_eq_ok.mp hengine
  have hinitial : Staffed state := by
    obtain ⟨hready, -, -⟩ := fromConfig_ready hstate
    simp only [SettlementState.fromConfig, bind_eq_ok, pure_eq_ok] at hstate
    obtain ⟨_, -, rfl⟩ := hstate
    exact ⟨(fits_iff_exact hready.sane.current).mpr hconfig, Nat.zero_le _⟩
  have hkept : e.scheduler = defaultSettlementScheduler config ∧ Staffed e.state := by
    refine run_keeps (I := fun e : SettlementEngine =>
      e.scheduler = defaultSettlementScheduler config ∧ Staffed e.state) ⟨rfl, hinitial⟩ ?_ hcut hrun
    rintro is call rest mid os e1 result hcut' hrun' ⟨hsched, hstaffed⟩ hperform
    have hord : mid.scheduler.Ordered := hsched ▸ defaultSettlementScheduler_ordered config
    have hwiring := (perform_effect hord rfl hperform).1
    exact ⟨(congrArg (·.2.1) hwiring).trans hsched,
      staffed_perform hsched hstaffed (hcalls is call rest mid os hcut' hrun') hperform⟩
  exact hkept.2

theorem workers_assigned_once_hold : ∃ engine e : SettlementEngine, ∃ results,
    settlementEngineWithConfig 7 .default = .ok engine ∧
      callMachine.run engine [.tick ⟨1, .setWorkerAllocation ⟨4, 2⟩⟩] = .ok (e, results) ∧
      Staffed e.state := by
  obtain ⟨state, hstate⟩ : ∃ state, SettlementState.fromConfig .default = .ok state := ⟨_, rfl⟩
  have hengine := settlementEngineWithConfig_eq_ok.mpr
    ⟨(rfl : SettlementSimulationConfig.default.validate = .ok ()), state, hstate,
      (rfl : settlementEngineFrom 7 .default state = _)⟩
  obtain ⟨e, results, hrun⟩ : ∃ e results, callMachine.run (settlementEngineFrom 7 .default state)
      [.tick ⟨1, .setWorkerAllocation ⟨4, 2⟩⟩] = .ok (e, results) := by
    simp only [Machine.run, callMachine, perform]
    split <;> exact ⟨_, _, rfl⟩
  refine ⟨_, e, results, hengine, hrun, (workers_assigned_once .default 7 _ _).2 hengine
    (Or.inl (by decide)) ?_ _ [] e results (List.append_nil _).symm hrun⟩
  intro before call after e1 results1 hcut _
  have hcall : call ∈ [(EngineCall.tick ⟨1, .setWorkerAllocation ⟨4, 2⟩⟩ :
      EngineCall SettlementCommand SettlementSnapshot)] := by
    rw [hcut]
    exact List.mem_append_right _ (List.mem_cons_self ..)
  obtain rfl := List.mem_singleton.mp hcall
  intro _ allocation hcommand
  obtain rfl := SettlementCommand.setWorkerAllocation.inj hcommand
  exact Or.inr (by decide)

/-- A population no check can exceed. -/
def crowdedConfig : SettlementSimulationConfig :=
  { SettlementSimulationConfig.default with
    population := UInt32.ofNat (2 ^ 32 - 1)
    initialAllocation := ⟨UInt32.ofNat (2 ^ 32 - 1), 1⟩ }

theorem worker_assigned_twice : ∃ engine : SettlementEngine,
    settlementEngineWithConfig 7 crowdedConfig = .ok engine ∧
      ¬ (engine.state.currentAllocation.farmers.toNat +
        engine.state.currentAllocation.loggers.toNat ≤ engine.state.population.toNat) := by
  obtain ⟨state, hstate⟩ : ∃ state, SettlementState.fromConfig crowdedConfig = .ok state := ⟨_, rfl⟩
  refine ⟨_, settlementEngineWithConfig_eq_ok.mpr ⟨rfl, state, hstate, rfl⟩, ?_⟩
  cases hstate
  decide

end XenorEngine.Rust
