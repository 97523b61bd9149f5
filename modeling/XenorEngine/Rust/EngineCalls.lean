import XenorEngine.Rust.EngineRun

/-!
# Calls on an engine

A host ticks an engine and restores snapshots into it, in any order, and may go on
after a call has failed. `FailedTick` lists the ways a tick fails with what each
leaves behind: once a record is begun, a failure never closes it.
-/

namespace XenorEngine.Rust
open XenorEngine.Lib.Fallible XenorEngine.Lib.Runs

inductive EngineCall (C Snapshot : Type)
  | tick (frame : InputFrame C)
  | restoreSnapshot (snapshot : Snapshot)
  deriving DecidableEq

inductive CallResult (Snapshot : Type)
  | ticked (result : Except EngineError (TickResult Snapshot))
  | restored

/-- A record is open, on top of `records`. -/
structure InMemoryReplayLog.Open {C Snapshot : Type} (records : List (ReplayTickRecord C Snapshot))
    (log : InMemoryReplayLog C Snapshot) : Prop where
  records_eq : log.records = records
  pending : log.pending ≠ none

section Open
variable {C Snapshot : Type} {records : List (ReplayTickRecord C Snapshot)}
  {log log' : InMemoryReplayLog C Snapshot}

theorem recordPhase_open {marker : PhaseMarker} (ho : log.Open records)
    (h : log.recordPhase marker = .ok log') : log'.Open records := by
  obtain ⟨recs, pending⟩ := log
  cases pending with
  | none => exact absurd rfl ho.pending
  | some pending =>
    obtain rfl := Except.ok.inj h
    exact ⟨ho.records_eq, Option.some_ne_none _⟩

theorem recordValidation_open {summary : ValidationSummary} (ho : log.Open records)
    (h : log.recordValidation summary = .ok log') : log'.Open records := by
  obtain ⟨recs, pending⟩ := log
  cases pending with
  | none => exact absurd rfl ho.pending
  | some pending =>
    obtain rfl := Except.ok.inj h
    exact ⟨ho.records_eq, Option.some_ne_none _⟩

theorem completeTick_open (ho : log.Open records) (checksum : UInt64)
    (snapshot : Option (SnapshotRecord Snapshot)) :
    ∃ log', log.completeTick checksum snapshot = .ok log' := by
  obtain ⟨pending, hpending⟩ := Option.ne_none_iff_exists'.mp ho.pending
  exact ⟨_, by rw [InMemoryReplayLog.completeTick, hpending]⟩

end Open

section Calls
variable {S C P V Snapshot : Type} [SimulationState S Snapshot] [StateValidator V S]
  [Phase P S C Snapshot]

omit [Phase P S C Snapshot] in
/- What a summary added to the log keeps, a validation keeps: it only looks at the state. -/
theorem validateAndRecord_rule {validator : V} {I : S × InMemoryReplayLog C Snapshot → Prop}
    (hsummary : ∀ s log log' summary, I (s, log) →
      log.recordValidation summary = .ok log' → I (s, log')) (context : ValidationContext) :
    Preserves I (validateAndRecord validator context) := by
  rintro ⟨s, log⟩ hI
  simp only [validateAndRecord]
  cases StateValidator.validate validator context s with
  | error e => exact hI
  | ok u =>
    simp only
    cases hr : log.recordValidation ⟨context.checkpoint, SimulationState.tick s,
        SimulationState.checksum s⟩ with
    | error e => exact hI
    | ok log' => exact hsummary s log log' _ hI hr

omit [Phase P S C Snapshot] in
theorem validateAndRecord_preserves (validator : V) (context : ValidationContext)
    (records : List (ReplayTickRecord C Snapshot)) (J : S → Prop) :
    Preserves (fun r : S × InMemoryReplayLog C Snapshot => J r.1 ∧ r.2.Open records)
      (validateAndRecord validator context) := by
  apply validateAndRecord_rule
  intro s log log' summary hI hr
  exact ⟨hI.1, recordValidation_open hI.2 hr⟩

/- A turn of the visiting loop, also one that fails: a marker, a phase and perhaps a check. -/
theorem phaseVisitor_rule {validator : V} {ctx : TickContext C}
    {I : P × S × InMemoryReplayLog C Snapshot → Prop}
    (hmarker : ∀ p s log log' marker, I (p, s, log) →
      log.recordPhase marker = .ok log' → I (p, s, log')) (hrun : Preserves I (Phase.run ctx))
    (hcheck : ∀ p context, Preserves (fun r => I (p, r)) (validateAndRecord validator context))
    (plan : List PhaseDescriptor) (policy : ValidationPolicy) (d : PhaseDescriptor) :
    Preserves (fun r : P × S × InMemoryReplayLog C Snapshot × ℕ => I (r.1, r.2.1, r.2.2.1))
      (DeterministicEngine.phaseVisitor plan policy validator ctx d) := by
  rintro ⟨p, s, log, index⟩ hI
  simp only at hI
  simp only [DeterministicEngine.phaseVisitor]
  cases hmark : log.recordPhase (PhaseMarker.fromDescriptor d) with
  | error e => exact hI
  | ok marked =>
    have hmarked := hmarker p s log marked _ hI hmark
    simp only
    cases hr : Phase.run ctx (p, s, marked) with
    | error e r => exact preserves_error hrun hmarked hr
    | ok u r =>
      obtain ⟨p1, s1, ran⟩ := r
      have hran : I (p1, s1, ran) := preserves_ok hrun hmarked hr
      simp only
      cases (checkpointAfter d.group (plan[index + 1]?.map (·.group))).filter
          policy.shouldValidate with
      | none => exact hran
      | some checkpoint =>
        have hchecked := hcheck p1 ⟨checkpoint, ctx.tick, ctx.tickSeed⟩
        simp only
        cases hv : validateAndRecord validator ⟨checkpoint, ctx.tick, ctx.tickSeed⟩
            (s1, ran) with
        | error e r =>
          have hkept := preserves_error hchecked hran hv
          exact hkept
        | ok u r =>
          have hkept := preserves_ok hchecked hran hv
          exact hkept

variable [PurePhase P S C Snapshot]

/-- What every phase keeps while it works on `frame`, also when it fails. -/
def KeptByPhases (P : Type) {S C Snapshot : Type} [Phase P S C Snapshot]
    [PurePhase P S C Snapshot] (frame : InputFrame C) (J : S → Prop) : Prop :=
  ∀ (p : P) (ctx : TickContext C), ctx.frame = frame → Preserves J (PurePhase.act p ctx)

omit [SimulationState S Snapshot] [StateValidator V S] in
/- Phases that leave the state alone when they fail. -/
theorem keptByPhases_of_ok {frame : InputFrame C} {J : S → Prop}
    (hfail : ∀ (p : P) (ctx : TickContext C) (s s' : S) (err : EngineError),
      PurePhase.act p ctx s = .error err s' → s' = s)
    (hok : ∀ (p : P) (ctx : TickContext C) (s s' : S), ctx.frame = frame → J s →
      PurePhase.act p ctx s = .ok () s' → J s') : KeptByPhases P frame J := by
  intro p ctx hctx s hs
  cases hact : PurePhase.act p ctx s with
  | ok u s' => exact hok p ctx s s' hctx hs hact
  | error err s' =>
    rw [hfail p ctx s s' err hact]
    exact hs

theorem phaseVisitor_preserves (plan : List PhaseDescriptor)
    (policy : ValidationPolicy) (validator : V) (ctx : TickContext C)
    (records : List (ReplayTickRecord C Snapshot)) {J : S → Prop}
    (hJ : KeptByPhases P ctx.frame J) (d : PhaseDescriptor) (p : P) :
    Preserves (fun r : P × S × InMemoryReplayLog C Snapshot × ℕ =>
      r.1 = p ∧ J r.2.1 ∧ r.2.2.1.Open records)
      (DeterministicEngine.phaseVisitor plan policy validator ctx d) := by
  have hmarker : ∀ (p' : P) (s : S) (log log' : InMemoryReplayLog C Snapshot)
      (marker : PhaseMarker), p' = p ∧ J s ∧ log.Open records →
      log.recordPhase marker = .ok log' → p' = p ∧ J s ∧ log'.Open records := by
    intro p' s log log' marker hI hmark
    exact ⟨hI.1, hI.2.1, recordPhase_open hI.2.2 hmark⟩
  have hrun : Preserves
      (fun r : P × S × InMemoryReplayLog C Snapshot => r.1 = p ∧ J r.2.1 ∧ r.2.2.Open records)
      (Phase.run ctx) := by
    rintro ⟨p', s, log⟩ ⟨hp, hs, ho⟩
    simp only at hp hs ho
    subst hp
    have hact := hJ p' ctx rfl s hs
    rw [PurePhase.run_eq]
    cases hr : PurePhase.act p' ctx s with
    | error e s1 =>
      rw [hr] at hact
      exact ⟨rfl, hact, ho⟩
    | ok u s1 =>
      rw [hr] at hact
      exact ⟨rfl, hact, ho⟩
  apply phaseVisitor_rule hmarker hrun
  intro p' context r hr
  exact ⟨hr.1, validateAndRecord_preserves validator context records J r hr.2⟩

namespace DeterministicEngine

/-- All that no call changes. -/
def wiring (e : DeterministicEngine S C P V Snapshot) :
    Seed × FixedScheduler P × SnapshotPolicy × ValidationPolicy × V :=
  (e.seed, e.scheduler, e.snapshotPolicy, e.validationPolicy, e.validator)

/-- The engine `e` somewhere in its tick on `frame`, its record open. -/
structure Midway (e : DeterministicEngine S C P V Snapshot) (frame : InputFrame C)
    (e' : DeterministicEngine S C P V Snapshot) : Prop where
  wiring : e'.wiring = e.wiring
  log : e'.replayLog.Open e.replayLog.records
  state : ∀ J : S → Prop, KeptByPhases P frame J → J e.state → J e'.state

theorem runValidationCheckpoint_preserves (e : DeterministicEngine S C P V Snapshot)
    (frame : InputFrame C) (checkpoint : ValidationCheckpoint) (tick : Tick) (seed : Seed) :
    Preserves (Midway e frame) (runValidationCheckpoint checkpoint tick seed) := by
  intro e1 h1
  simp only [runValidationCheckpoint]
  cases e1.validationPolicy.shouldValidate checkpoint with
  | false => exact h1
  | true =>
    simp only [Bool.not_true, Bool.false_eq_true, if_false]
    have hv := validateAndRecord_preserves e1.validator ⟨checkpoint, tick, seed⟩
      e.replayLog.records (fun s => ∀ J : S → Prop, KeptByPhases P frame J → J e.state → J s)
      (e1.state, e1.replayLog) ⟨h1.state, h1.log⟩
    cases hr : validateAndRecord e1.validator ⟨checkpoint, tick, seed⟩
        (e1.state, e1.replayLog) with
    | error err r =>
      rw [hr] at hv
      exact ⟨h1.wiring, hv.2, hv.1⟩
    | ok u r =>
      rw [hr] at hv
      exact ⟨h1.wiring, hv.2, hv.1⟩

theorem runSchedulerPhases_preserves (e : DeterministicEngine S C P V Snapshot)
    (frame : InputFrame C) (tick : Tick) (seed : Seed) :
    Preserves (Midway e frame) (runSchedulerPhases frame tick seed) := by
  intro e1 h1
  simp only [runSchedulerPhases]
  have hkept : KeptByPhases P frame
      (fun s => ∀ J : S → Prop, KeptByPhases P frame J → J e.state → J s) :=
    fun p ctx hctx s hs J hJ he => hJ p ctx hctx s (hs J hJ he)
  have hv := FixedScheduler.visitPhases_preserves
    (I := fun r : S × InMemoryReplayLog C Snapshot × ℕ =>
      (∀ J : S → Prop, KeptByPhases P frame J → J e.state → J r.1) ∧
        r.2.1.Open e.replayLog.records)
    (phaseVisitor_preserves e1.scheduler.phasePlan e1.validationPolicy e1.validator
      (⟨e1.seed, seed, tick, frame⟩ : TickContext C) e.replayLog.records hkept)
    e1.scheduler (e1.scheduler, e1.state, e1.replayLog, 0) ⟨rfl, h1.state, h1.log⟩
  cases hr : FixedScheduler.visitPhases (phaseVisitor e1.scheduler.phasePlan e1.validationPolicy
      e1.validator (⟨e1.seed, seed, tick, frame⟩ : TickContext C))
      (e1.scheduler, e1.state, e1.replayLog, 0) with
  | error err r =>
    simp only [hr, endState_error] at hv
    obtain ⟨hsched, hstate, ho⟩ := hv
    refine ⟨?_, ho, hstate⟩
    rw [← h1.wiring]
    simp only [endState_error, wiring, hsched]
  | ok u r =>
    simp only [hr, endState_ok] at hv
    obtain ⟨hsched, hstate, ho⟩ := hv
    refine ⟨?_, ho, hstate⟩
    rw [← h1.wiring]
    simp only [endState_ok, wiring, hsched]

/-! ### Failed ticks -/

/-- How a tick fails, and the engine it leaves behind. -/
inductive FailedTick (e : DeterministicEngine S C P V Snapshot) (frame : InputFrame C) :
    EngineError → DeterministicEngine S C P V Snapshot → Prop
  | unexpected (h : frame.tick ≠ saturatingAddU64 (SimulationState.tick e.state) 1) :
    FailedTick e frame (.unexpectedInputTick (saturatingAddU64 (SimulationState.tick e.state) 1)
      frame.tick) e
  | busy (hexp : frame.tick = saturatingAddU64 (SimulationState.tick e.state) 1)
      (hp : e.replayLog.pending ≠ none) :
    FailedTick e frame
      (.replayLifecycle "attempted to begin a tick while another tick is pending") e
  | midway {err : EngineError} {e' : DeterministicEngine S C P V Snapshot}
      (hexp : frame.tick = saturatingAddU64 (SimulationState.tick e.state) 1)
      (hidle : e.replayLog.pending = none) (h : e.Midway frame e') : FailedTick e frame err e'

omit [PurePhase P S C Snapshot] in
theorem tick_of_unexpected {e : DeterministicEngine S C P V Snapshot} {frame : InputFrame C}
    (h : frame.tick ≠ saturatingAddU64 (SimulationState.tick e.state) 1) :
    e.tick frame = .error (.unexpectedInputTick
      (saturatingAddU64 (SimulationState.tick e.state) 1) frame.tick) e := by
  unfold DeterministicEngine.tick
  refine estate_bind_error.mpr (.inl ?_)
  simp only [validateOrderedInput, if_pos h]

omit [PurePhase P S C Snapshot] in
theorem tick_of_busy {e : DeterministicEngine S C P V Snapshot} {frame : InputFrame C}
    (h : frame.tick = saturatingAddU64 (SimulationState.tick e.state) 1)
    (hp : e.replayLog.pending ≠ none) :
    e.tick frame = .error
      (.replayLifecycle "attempted to begin a tick while another tick is pending") e := by
  obtain ⟨pending, hpending⟩ := Option.ne_none_iff_exists'.mp hp
  unfold DeterministicEngine.tick
  refine estate_bind_error.mpr (.inr ⟨_, e, validateOrderedInput_expected h, ?_⟩)
  refine estate_bind_error.mpr (.inr ⟨e, e, rfl, ?_⟩)
  refine estate_bind_error.mpr (.inl ?_)
  simp only [recordReplayInputBegin, onLog, InMemoryReplayLog.beginTick, hpending]

/- Once the record is begun, only completing the tick closes it. -/
theorem tick_fails {e e' : DeterministicEngine S C P V Snapshot} {frame : InputFrame C}
    {err : EngineError} (h : e.tick frame = .error err e') : FailedTick e frame err e' := by
  by_cases hexp : frame.tick = saturatingAddU64 (SimulationState.tick e.state) 1
  swap
  · rw [tick_of_unexpected hexp] at h
    obtain ⟨rfl, rfl⟩ := EStateM.Result.error.inj h
    exact .unexpected hexp
  by_cases hidle : e.replayLog.pending = none
  swap
  · rw [tick_of_busy hexp hidle] at h
    obtain ⟨rfl, rfl⟩ := EStateM.Result.error.inj h
    exact .busy hexp hidle
  refine .midway hexp hidle ?_
  unfold DeterministicEngine.tick at h
  rcases estate_bind_error.mp h with h1 | ⟨t, e1, h1, hafter1⟩
  · rw [validateOrderedInput_expected hexp] at h1
    cases h1
  obtain ⟨-, rfl, rfl⟩ := validateOrderedInput_ok h1
  rcases estate_bind_error.mp hafter1 with h2 | ⟨e2, e2', h2, hafter2⟩
  · cases h2
  obtain ⟨rfl, rfl⟩ := estate_get_ok.mp h2
  rcases estate_bind_error.mp hafter2 with h3 | ⟨u, e3, h3, hafter3⟩
  · simp [recordReplayInputBegin, onLog, InMemoryReplayLog.beginTick, hidle] at h3
  obtain ⟨log, hbegin, rfl⟩ := onLog_ok h3
  obtain ⟨-, rfl⟩ := beginTick_ok hbegin
  have hbegun : e2'.Midway frame { e2' with replayLog := ⟨e2'.replayLog.records,
      some ⟨frame.tick, frame, tickSeed e2'.seed frame.tick, [], []⟩⟩ } :=
    ⟨rfl, ⟨rfl, Option.some_ne_none _⟩, fun _ _ hJ => hJ⟩
  refine failKeeps_bind (runValidationCheckpoint_preserves e2' frame _ _ _) (fun _ => ?_) _ err e'
    hbegun hafter3
  refine failKeeps_bind (runSchedulerPhases_preserves e2' frame _ _) fun _ => ?_
  -- completing an open record cannot fail
  intro e4 err' e5 h4 h5
  obtain ⟨pending, hpending⟩ := Option.ne_none_iff_exists'.mp h4.log.pending
  rcases estate_bind_error.mp h5 with h5 | ⟨_, e6, h6, h5⟩
  · cases h5
  obtain rfl := estate_modify_ok.mp h6
  rcases estate_bind_error.mp h5 with h5 | ⟨e7, e7', h7, h5⟩
  · cases h5
  obtain ⟨rfl, rfl⟩ := estate_get_ok.mp h7
  rcases estate_bind_error.mp h5 with h5 | ⟨_, _, _, h5⟩
  · simp [finalizeReplayRecord, onLog, InMemoryReplayLog.completeTick, hpending] at h5
  · cases h5

/-! ### Runs of calls -/

def perform (e : DeterministicEngine S C P V Snapshot) :
    EngineCall C Snapshot →
      Outcome (DeterministicEngine S C P V Snapshot × CallResult Snapshot)
  | .tick frame =>
    match e.tick frame with
    | .ok result e' => .ok (e', .ticked (.ok result))
    | .error err e' => .ok (e', .ticked (.error err))
  | .restoreSnapshot snapshot => do
    let e' ← e.restoreSnapshot snapshot
    pure (e', .restored)

/-- A run of calls stops only where a restore panics. -/
def callMachine : Machine (DeterministicEngine S C P V Snapshot) (EngineCall C Snapshot)
    (CallResult Snapshot) Failure := ⟨perform⟩

omit [StateValidator V S] [Phase P S C Snapshot] [PurePhase P S C Snapshot] in
theorem restoreSnapshot_ok {e e' : DeterministicEngine S C P V Snapshot} {snapshot : Snapshot}
    (h : e.restoreSnapshot snapshot = .ok e') :
    ∃ s, SimulationState.restoreSnapshot e.state snapshot = .ok s ∧ e' = { e with state := s } := by
  simp only [restoreSnapshot, bind_eq_ok, mapError_eq_ok, pure_eq_ok] at h
  obtain ⟨s, hs, rfl⟩ := h
  exact ⟨s, hs, rfl⟩

/-- The begin of a tick, as `tick` makes it. -/
def beginTick (frame : InputFrame C) : Call S C P V Snapshot Unit := do
  let tick ← validateOrderedInput frame
  let e ← get
  recordReplayInputBegin frame (tickSeed e.seed tick)

/-- The tick failed although its record was begun. -/
def FailsAfterBegin (e : DeterministicEngine S C P V Snapshot) (frame : InputFrame C) : Prop :=
  (∃ e', beginTick frame e = .ok () e') ∧ ∃ err e', e.tick frame = .error err e'

/-- The record of a completed tick, against the engine `e` as it was built, the tick's
result and the state after it. -/
structure RecordOf (e : DeterministicEngine S C P V Snapshot) (s : S) (frame : InputFrame C)
    (result : TickResult Snapshot) (record : ReplayTickRecord C Snapshot) : Prop where
  tick : record.tick = frame.tick ∧ result.tick = frame.tick ∧ SimulationState.tick s = frame.tick
  input : record.input = frame
  tick_seed : record.tickSeed = tickSeed e.seed frame.tick
  markers : record.phaseMarkers = e.scheduler.phasePlan.map PhaseMarker.fromDescriptor
  checksum : record.checksum = SimulationState.checksum s ∧ result.checksum = record.checksum
  captured : record.snapshot.isSome = (e.snapshotPolicy.shouldCapture frame.tick).isSome
  snapshot : ∀ snapshot ∈ record.snapshot,
    e.snapshotPolicy.shouldCapture frame.tick = some snapshot.reason ∧
    snapshot.metadata =
      ⟨SimulationState.snapshotSchemaVersion S, frame.tick, SimulationState.checksum s⟩ ∧
    snapshot.payload = SimulationState.snapshot s
  result_snapshot : result.snapshot = record.snapshot.map (·.payload)

/-- What one call does to the records. -/
def LogEffect (e e1 e2 : DeterministicEngine S C P V Snapshot) :
    EngineCall C Snapshot → CallResult Snapshot → Prop
  | .tick frame, .ticked (.ok result) =>
    ∃ record, e2.replayRecords = e1.replayRecords ++ [record] ∧
      e.RecordOf e2.state frame result record
  | _, _ => e2.replayRecords = e1.replayRecords

theorem tick_wiring {e e' : DeterministicEngine S C P V Snapshot} {frame : InputFrame C}
    {err : EngineError} (h : e.tick frame = .error err e') : e'.wiring = e.wiring := by
  cases tick_fails h with
  | unexpected => rfl
  | busy => rfl
  | midway _ _ hmid => exact hmid.wiring

theorem tick_failed_records {e e' : DeterministicEngine S C P V Snapshot} {frame : InputFrame C}
    {err : EngineError} (h : e.tick frame = .error err e') :
    e'.replayRecords = e.replayRecords := by
  cases tick_fails h with
  | unexpected => rfl
  | busy => rfl
  | midway _ _ hmid => exact hmid.log.records_eq

section Effect
variable [QuietPhase P S C Snapshot] [LawfulSimulationState S Snapshot]

theorem tick_recordOf {e e1 e2 : DeterministicEngine S C P V Snapshot}
    (hs : e1.scheduler.Ordered) (hw : e1.wiring = e.wiring) {frame : InputFrame C}
    {result : TickResult Snapshot} (h : e1.tick frame = .ok result e2) :
    e2.wiring = e1.wiring ∧ ∃ record, e2.replayRecords = e1.replayRecords ++ [record] ∧
      e.RecordOf e2.state frame result record := by
  obtain ⟨record, hspec, hadv, hres⟩ := tick_advances hs h
  simp only [wiring, Prod.mk.injEq] at hw
  obtain ⟨hseed, hsched, hsnap, -, -⟩ := hw
  obtain ⟨s, -, -, hset, -⟩ := hspec.phases
  have hwiring : e2.wiring = e1.wiring := by rw [hadv]; rfl
  have hsnapshot := hspec.snapshot
  rw [hsnap] at hsnapshot
  refine ⟨hwiring, record, congrArg InMemoryReplayLog.records hspec.log, ?_⟩
  exact {
    tick := ⟨hspec.record_tick, by rw [hspec.result_eq],
      by rw [hset, LawfulSimulationState.tick_setTick]⟩
    input := hspec.record_input
    tick_seed := by rw [hspec.record_seed, hseed]
    markers := by rw [hspec.markers, hsched]
    checksum := ⟨hspec.checksum, by rw [hspec.result_eq]⟩
    captured := by rw [hsnapshot, Option.isSome_map]
    snapshot := by
      intro snapshot hmem
      rw [hsnapshot] at hmem
      obtain ⟨reason, hreason, rfl⟩ := Option.map_eq_some_iff.mp hmem
      exact ⟨hreason, by rw [hspec.checksum], rfl⟩
    result_snapshot := by rw [hspec.result_eq] }

theorem perform_effect {e e1 e2 : DeterministicEngine S C P V Snapshot}
    (hs : e1.scheduler.Ordered) (hw : e1.wiring = e.wiring) {call : EngineCall C Snapshot}
    {result : CallResult Snapshot} (h : e1.perform call = .ok (e2, result)) :
    e2.wiring = e1.wiring ∧ e.LogEffect e1 e2 call result := by
  cases call with
  | tick frame =>
    simp only [perform] at h
    split at h
    · rename_i res e' ht
      simp only [Except.ok.injEq, Prod.mk.injEq] at h
      obtain ⟨rfl, rfl⟩ := h
      exact tick_recordOf hs hw ht
    · rename_i err e' ht
      simp only [Except.ok.injEq, Prod.mk.injEq] at h
      obtain ⟨rfl, rfl⟩ := h
      exact ⟨tick_wiring ht, tick_failed_records ht⟩
  | restoreSnapshot snapshot =>
    simp only [perform, bind_eq_ok, pure_eq_ok, Prod.mk.injEq] at h
    obtain ⟨e', hrestore, rfl, rfl⟩ := h
    obtain ⟨s, -, rfl⟩ := restoreSnapshot_ok hrestore
    exact ⟨rfl, rfl⟩

omit [StateValidator V S] [PurePhase P S C Snapshot] [QuietPhase P S C Snapshot]
  [LawfulSimulationState S Snapshot] in
theorem logEffect_grows {e e1 e2 : DeterministicEngine S C P V Snapshot}
    {call : EngineCall C Snapshot} {result : CallResult Snapshot}
    (h : e.LogEffect e1 e2 call result) : e1.replayRecords <+: e2.replayRecords := by
  have hsame : e2.replayRecords = e1.replayRecords → e1.replayRecords <+: e2.replayRecords :=
    fun heq => heq ▸ List.prefix_rfl
  cases call with
  | tick frame =>
    cases result with
    | ticked r =>
      cases r with
      | ok result =>
        obtain ⟨record, hrecs, -⟩ := h
        exact ⟨[record], hrecs.symm⟩
      | error err => exact hsame h
    | restored => exact hsame h
  | restoreSnapshot snapshot => exact hsame h

/- The records of a whole run: the induction carries that the wiring is still the
one the engine was built with. -/
theorem calls_grow {e e1 e2 : DeterministicEngine S C P V Snapshot}
    (hs : e.scheduler.Ordered) (hw : e1.wiring = e.wiring) {calls : List (EngineCall C Snapshot)}
    {results : List (CallResult Snapshot)}
    (h : callMachine.run e1 calls = .ok (e2, results)) :
    e2.wiring = e.wiring ∧ e1.replayRecords <+: e2.replayRecords := by
  refine run_holds (fun e' _ _ => e'.wiring = e.wiring ∧ e1.replayRecords <+: e'.replayRecords)
    ?_ ⟨hw, List.prefix_rfl⟩ h
  rintro e3 _ _ call e4 result ⟨hw3, hpre⟩ hstep
  have hs3 : e3.scheduler.Ordered := by
    rw [show e3.scheduler = e.scheduler from congrArg (·.2.1) hw3]
    exact hs
  obtain ⟨hw4, heff⟩ := perform_effect hs3 hw3 hstep
  exact ⟨hw4.trans hw3, hpre.trans (logEffect_grows heff)⟩

end Effect

/-! ### After a failure -/

omit [PurePhase P S C Snapshot] in
/- An open record stops every tick and hides from a restore. -/
theorem perform_open {e e' : DeterministicEngine S C P V Snapshot}
    {records : List (ReplayTickRecord C Snapshot)} (ho : e.replayLog.Open records)
    {call : EngineCall C Snapshot} {result : CallResult Snapshot}
    (h : e.perform call = .ok (e', result)) : e'.replayLog.Open records := by
  cases call with
  | tick frame =>
    by_cases hexp : frame.tick = saturatingAddU64 (SimulationState.tick e.state) 1
    · simp only [perform, tick_of_busy hexp ho.pending, Except.ok.injEq, Prod.mk.injEq] at h
      rwa [← h.1]
    · simp only [perform, tick_of_unexpected hexp, Except.ok.injEq, Prod.mk.injEq] at h
      rwa [← h.1]
  | restoreSnapshot snapshot =>
    simp only [perform, bind_eq_ok, pure_eq_ok, Prod.mk.injEq] at h
    obtain ⟨e1, hrestore, rfl, -⟩ := h
    obtain ⟨s, -, rfl⟩ := restoreSnapshot_ok hrestore
    exact ho

omit [PurePhase P S C Snapshot] in
theorem calls_open {e e' : DeterministicEngine S C P V Snapshot}
    {records : List (ReplayTickRecord C Snapshot)} (ho : e.replayLog.Open records)
    {calls : List (EngineCall C Snapshot)} {results : List (CallResult Snapshot)}
    (h : callMachine.run e calls = .ok (e', results)) : e'.replayLog.Open records :=
  run_holds (fun e _ _ => e.replayLog.Open records)
    (fun _ _ _ _ _ _ ho hstep => perform_open ho hstep) ho h

omit [StateValidator V S] [Phase P S C Snapshot] [PurePhase P S C Snapshot] in
theorem beginTick_idle {e e' : DeterministicEngine S C P V Snapshot} {frame : InputFrame C}
    (h : beginTick frame e = .ok () e') :
    frame.tick = saturatingAddU64 (SimulationState.tick e.state) 1 ∧
      e.replayLog.pending = none := by
  obtain ⟨t, e1, h1, h2⟩ := estate_bind_ok.mp h
  obtain ⟨hexp, -, rfl⟩ := validateOrderedInput_ok h1
  obtain ⟨e2, e3, h3, h4⟩ := estate_bind_ok.mp h2
  obtain ⟨rfl, rfl⟩ := estate_get_ok.mp h3
  obtain ⟨log, hlog, -⟩ := onLog_ok h4
  exact ⟨hexp, (beginTick_ok hlog).1⟩

theorem failsAfterBegin_open {e e' : DeterministicEngine S C P V Snapshot} {frame : InputFrame C}
    {result : CallResult Snapshot} (hf : e.FailsAfterBegin frame)
    (h : e.perform (.tick frame) = .ok (e', result)) :
    e'.replayLog.Open e.replayLog.records := by
  obtain ⟨⟨e0, hbegin⟩, err, e1, ht⟩ := hf
  obtain ⟨hexp, hidle⟩ := beginTick_idle hbegin
  simp only [perform, ht, Except.ok.injEq, Prod.mk.injEq] at h
  obtain ⟨rfl, -⟩ := h
  cases tick_fails ht with
  | unexpected hne => exact absurd hexp hne
  | busy _ hp => exact absurd hidle hp
  | midway _ _ hmid => exact hmid.log

/-- A run of calls cut at one of them: `e1` and `e2` are the engine before and after
that call, `e3` is the engine at the end. -/
def CutAt (e : DeterministicEngine S C P V Snapshot) (calls : List (EngineCall C Snapshot))
    (call : EngineCall C Snapshot) (result : CallResult Snapshot)
    (e1 e2 e3 : DeterministicEngine S C P V Snapshot) : Prop :=
  ∃ before after r1 r3, calls = before ++ call :: after ∧
    callMachine.run e before = .ok (e1, r1) ∧ e1.perform call = .ok (e2, result) ∧
    callMachine.run e2 after = .ok (e3, r3)

/-- The log of an engine under any calls. -/
structure AppendOnly (e : DeterministicEngine S C P V Snapshot)
    (calls : List (EngineCall C Snapshot)) : Prop where
  runs : ∃ e' results, callMachine.run e calls = .ok (e', results)
  effect : ∀ call result e1 e2 e3, e.CutAt calls call result e1 e2 e3 →
    e.LogEffect e1 e2 call result
  grows : ∀ call result e1 e2 e3, e.CutAt calls call result e1 e2 e3 →
    e1.replayRecords <+: e2.replayRecords ∧ e2.replayRecords <+: e3.replayRecords
  closed : ∀ frame result e1 e2 e3, e.CutAt calls (.tick frame) result e1 e2 e3 →
    e1.FailsAfterBegin frame → e3.replayRecords = e1.replayRecords

theorem appendOnly [QuietPhase P S C Snapshot] [LawfulSimulationState S Snapshot]
    {e : DeterministicEngine S C P V Snapshot} (hs : e.scheduler.Ordered)
    {calls : List (EngineCall C Snapshot)}
    (hrestore : ∀ s snapshot, .restoreSnapshot snapshot ∈ calls →
      ∃ s' : S, SimulationState.restoreSnapshot s snapshot = .ok s') : e.AppendOnly calls := by
  have hcut : ∀ {call result e1 e2 e3}, e.CutAt calls call result e1 e2 e3 →
      e1.wiring = e.wiring ∧ e2.wiring = e.wiring ∧ e.LogEffect e1 e2 call result := by
    rintro call result e1 e2 e3 ⟨before, after, r1, r3, -, hbefore, hcall, -⟩
    obtain ⟨hw, -⟩ := calls_grow hs rfl hbefore
    have hs1 : e1.scheduler.Ordered := by
      rw [show e1.scheduler = e.scheduler from congrArg (·.2.1) hw]
      exact hs
    obtain ⟨hw2, heff⟩ := perform_effect hs1 hw hcall
    exact ⟨hw, hw2.trans hw, heff⟩
  refine ⟨?_, fun call result e1 e2 e3 h => (hcut h).2.2, ?_, ?_⟩
  · clear hcut hs
    induction calls generalizing e with
    | nil => exact ⟨e, [], rfl⟩
    | cons call calls ih =>
      obtain ⟨e1, r1, h1⟩ : ∃ e1 r1, e.perform call = .ok (e1, r1) := by
        cases call with
        | tick frame =>
          simp only [perform]
          cases e.tick frame with
          | ok result e1 => exact ⟨_, _, rfl⟩
          | error err e1 => exact ⟨_, _, rfl⟩
        | restoreSnapshot snapshot =>
          obtain ⟨s, hs⟩ := hrestore e.state snapshot (List.mem_cons_self ..)
          refine ⟨{ e with state := s }, .restored, ?_⟩
          simp only [perform, restoreSnapshot, hs, Except.mapError]
          rfl
      obtain ⟨e2, r2, h2⟩ := ih (e := e1) fun s snapshot hmem =>
        hrestore s snapshot (List.mem_cons_of_mem _ hmem)
      exact ⟨e2, r1 :: r2, run_cons_ok.mpr ⟨e1, r1, r2, h1, h2, rfl⟩⟩
  · intro call result e1 e2 e3 h
    obtain ⟨-, hw2, heff⟩ := hcut h
    obtain ⟨_, _, _, _, -, -, -, hafter⟩ := h
    exact ⟨logEffect_grows heff, (calls_grow hs hw2 hafter).2⟩
  · rintro frame result e1 e2 e3 ⟨_, _, _, _, -, -, hcall, hafter⟩ hfail
    exact (calls_open (failsAfterBegin_open hfail hcall) hafter).records_eq

omit [PurePhase P S C Snapshot] in
theorem tick_of_open {e : DeterministicEngine S C P V Snapshot}
    (hp : e.replayLog.pending ≠ none) (frame : InputFrame C) :
    ∃ err, e.tick frame = .error err e := by
  by_cases hexp : frame.tick = saturatingAddU64 (SimulationState.tick e.state) 1
  · exact ⟨_, tick_of_busy hexp hp⟩
  · exact ⟨_, tick_of_unexpected hexp⟩

/-! ### Completed ticks -/

/-- The states after the ticks that succeed; the host goes on after a failure. -/
def completed : DeterministicEngine S C P V Snapshot → List (InputFrame C) → List S
  | _, [] => []
  | e, frame :: frames =>
    match e.tick frame with
    | .ok _ e' => e'.state :: completed e' frames
    | .error _ e' => completed e' frames

omit [PurePhase P S C Snapshot] in
theorem completed_of_open {e : DeterministicEngine S C P V Snapshot}
    (hp : e.replayLog.pending ≠ none) (frames : List (InputFrame C)) : e.completed frames = [] := by
  induction frames with
  | nil => rfl
  | cons frame frames ih =>
    obtain ⟨err, h⟩ := tick_of_open hp frame
    rw [completed, h]
    exact ih

/- What one step keeps holds after every completed tick, also when ticks fail in between:
a failure changes nothing or is the last thing to happen. `done` lists the states so far. -/
theorem completed_holds [QuietPhase P S C Snapshot] [LawfulSimulationState S Snapshot]
    {I : List S → S → Prop} {e : DeterministicEngine S C P V Snapshot}
    (hs : e.scheduler.Ordered) (hidle : e.replayLog.pending = none)
    (hstep : ∀ done s frame s' record, I done s → e.tickStep s frame = .ok (s', record) →
      I (done ++ [s']) s')
    {done : List S} (h0 : I done e.state) {frames : List (InputFrame C)} {before after : List S}
    {s : S} (h : e.completed frames = before ++ s :: after) : I (done ++ before ++ [s]) s := by
  induction frames generalizing e done before with
  | nil => cases before <;> cases h
  | cons frame frames ih =>
    rw [completed] at h
    cases ht : e.tick frame with
    | ok result e1 =>
      rw [ht] at h
      obtain ⟨s1, record, hfirst, rfl, -⟩ := (tick_refines hs hidle).mp ht
      have h1 : I (done ++ [s1]) s1 := hstep done e.state frame s1 record h0 hfirst
      cases before with
      | nil =>
        obtain ⟨rfl, -⟩ := List.cons.inj h
        rwa [List.append_nil]
      | cons b before =>
        obtain ⟨rfl, hrest⟩ := List.cons.inj h
        have hlast := ih (e := e.advance s1 [record]) hs rfl hstep h1 hrest
        rwa [List.append_assoc done] at hlast
    | error err e1 =>
      simp only [ht] at h
      cases tick_fails ht with
      | unexpected => exact ih hs hidle hstep h0 h
      | busy _ hp => exact absurd hidle hp
      | midway _ _ hmid =>
        rw [completed_of_open hmid.log.pending] at h
        cases before <;> cases h

end DeterministicEngine

end Calls

end XenorEngine.Rust
