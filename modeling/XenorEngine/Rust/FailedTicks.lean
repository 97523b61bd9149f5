import XenorEngine.Rust.TickOutcome

/-!
# Where a failed tick stops

A tick of the expected number that fails was stopped by the check before it, by one of
its phases or by a check after one. Nothing is undone: the state stays as the phases left
it and the record stays open, with the markers and summaries it has got so far.
-/

namespace XenorEngine.Rust
open XenorEngine.Lib.Fallible XenorEngine.Lib.Runs

variable {S C P V Snapshot : Type} [SimulationState S Snapshot] [StateValidator V S]
  [Phase P S C Snapshot] [PurePhase P S C Snapshot]

namespace DeterministicEngine

/-- Where a tick on `frame` stops: the phases begun, the checks passed, the error and the
state at that point. -/
inductive Stopped (e : DeterministicEngine S C P V Snapshot) (frame : InputFrame C) :
    ℕ → List ValidationCheckpoint → EngineError → S → Prop
  | before {err : EngineError} (hcheck : StateValidator.validate e.validator
      ⟨.beforeTickBegin, frame.tick, tickSeed e.seed frame.tick⟩ e.state = .error err) :
    Stopped e frame 0 [] err e.state
  | phase {k : ℕ} {entry : PhaseEntry P} {s t : S} {cause : EngineError}
      (hentry : e.scheduler.planOrder[k]? = some entry)
      (hacts : (actAll ((e.scheduler.planOrder.take k).map (·.phase)) (e.contextOf frame) :
        EStateM EngineError S Unit) e.state = .ok () s)
      (hact : PurePhase.act entry.phase (e.contextOf frame) s = .error cause t) :
    Stopped e frame (k + 1) (checkpointsUpTo e.validationPolicy e.scheduler.phasePlan k)
      (.phaseFailed frame.tick entry.group.asStr (PhaseName.name entry.phase) cause.display) t
  | check {k : ℕ} {checkpoint : ValidationCheckpoint} {s : S} {err : EngineError}
      (hacts : (actAll ((e.scheduler.planOrder.take (k + 1)).map (·.phase)) (e.contextOf frame) :
        EStateM EngineError S Unit) e.state = .ok () s)
      (hat : checkpointAt e.validationPolicy e.scheduler.phasePlan k = some checkpoint)
      (hcheck : StateValidator.validate e.validator
        ⟨checkpoint, frame.tick, tickSeed e.seed frame.tick⟩ s = .error err) :
    Stopped e frame (k + 1) (checkpointsUpTo e.validationPolicy e.scheduler.phasePlan k) err s

/-- The log of a tick on `frame` that was stopped after `started` phases had begun and
`checks` had been passed. -/
def LeftOpen (e : DeterministicEngine S C P V Snapshot) (frame : InputFrame C) (started : ℕ)
    (checks : List ValidationCheckpoint) (log : InMemoryReplayLog C Snapshot) : Prop :=
  ∃ summaries, log = ⟨e.replayLog.records, some ⟨frame.tick, frame, tickSeed e.seed frame.tick,
      (e.scheduler.phasePlan.take started).map PhaseMarker.fromDescriptor, summaries⟩⟩ ∧
    summaries.map (·.checkpoint) = checks ∧
    ∀ v ∈ summaries, v.stateTick = SimulationState.tick e.state

omit [PurePhase P S C Snapshot] in
theorem tick_of_visit_error {e : DeterministicEngine S C P V Snapshot} {frame : InputFrame C}
    (hexp : frame.tick = saturatingAddU64 (SimulationState.tick e.state) 1)
    (hidle : e.replayLog.pending = none)
    (hbefore : StateValidator.validate e.validator
      ⟨.beforeTickBegin, frame.tick, tickSeed e.seed frame.tick⟩ e.state = .ok ())
    {err : EngineError} {r : FixedScheduler P × S × InMemoryReplayLog C Snapshot × ℕ}
    (h : FixedScheduler.visitPhases (e.visitor frame)
      (e.scheduler, e.state, e.openLog frame, 0) = .error err r) :
    e.tick frame = .error err { e with
      scheduler := r.1
      state := r.2.1
      replayLog := r.2.2.1 } := by
  unfold DeterministicEngine.tick
  refine estate_bind_error.mpr (.inr ⟨_, e, validateOrderedInput_expected hexp, ?_⟩)
  refine estate_bind_error.mpr (.inr ⟨e, e, rfl, ?_⟩)
  refine estate_bind_error.mpr (.inr ⟨(), { e with replayLog := ⟨e.replayLog.records,
    some ⟨frame.tick, frame, tickSeed e.seed frame.tick, [], []⟩⟩ }, ?_, ?_⟩)
  · simp only [recordReplayInputBegin, onLog, InMemoryReplayLog.beginTick, hidle]
  refine estate_bind_error.mpr (.inr ⟨(), _, runValidationCheckpoint_before hbefore, ?_⟩)
  refine estate_bind_error.mpr (.inl ?_)
  simp only [visitor, contextOf] at h
  simp only [runSchedulerPhases, h]

/- The turn of the loop that fails: the marker is written, the phase or its check is not
passed, and no summary is added. -/
theorem phaseVisitor_error {plan : List PhaseDescriptor} {policy : ValidationPolicy}
    {validator : V} {ctx : TickContext C} {d : PhaseDescriptor} {k : ℕ} (hd : plan[k]? = some d)
    {p p' : P} {s s' : S} {records : List (ReplayTickRecord C Snapshot)}
    {pending : PendingReplayTickRecord C} {log' : InMemoryReplayLog C Snapshot} {index : ℕ}
    {err : EngineError}
    (h : phaseVisitor plan policy validator ctx d (p, s, ⟨records, some pending⟩, k) =
      .error err (p', s', log', index)) :
    log' = ⟨records, some { pending with
        phaseMarkers := pending.phaseMarkers ++ [PhaseMarker.fromDescriptor d] }⟩ ∧
      ((∃ cause, PurePhase.act p ctx s = .error cause s' ∧
          err = .phaseFailed ctx.tick d.group.asStr d.name cause.display) ∨
        ∃ checkpoint, PurePhase.act p ctx s = .ok () s' ∧
          checkpointAt policy plan k = some checkpoint ∧
          StateValidator.validate validator ⟨checkpoint, ctx.tick, ctx.tickSeed⟩ s' =
            .error err) := by
  have hat : checkpointAt policy plan k =
      (checkpointAfter d.group (plan[k + 1]?.map (·.group))).filter policy.shouldValidate := by
    simp only [checkpointAt, hd, Option.bind_some]
  simp only [phaseVisitor, InMemoryReplayLog.recordPhase, PurePhase.run_eq, ← hat] at h
  cases hact : PurePhase.act p ctx s with
  | error cause t =>
    simp only [hact, EStateM.Result.error.injEq, Prod.mk.injEq] at h
    obtain ⟨rfl, -, rfl, rfl, -⟩ := h
    exact ⟨rfl, .inl ⟨cause, rfl, rfl⟩⟩
  | ok u t =>
    simp only [hact] at h
    cases hc : checkpointAt policy plan k with
    | none => simp only [hc, reduceCtorEq] at h
    | some checkpoint =>
      simp only [hc, validateAndRecord, InMemoryReplayLog.recordValidation] at h
      cases hv : StateValidator.validate validator ⟨checkpoint, ctx.tick, ctx.tickSeed⟩ t with
      | ok v => simp only [hv, reduceCtorEq] at h
      | error e1 =>
        simp only [hv, EStateM.Result.error.injEq, Prod.mk.injEq] at h
        obtain ⟨rfl, -, rfl, rfl, -⟩ := h
        exact ⟨rfl, .inr ⟨checkpoint, rfl, rfl, hv⟩⟩

variable [QuietPhase P S C Snapshot]

/- Up to the failing turn, the phases have acted and the record has been kept. -/
theorem visit_stops {e : DeterministicEngine S C P V Snapshot} (hs : e.scheduler.Ordered)
    {frame : InputFrame C} {err : EngineError}
    {r : FixedScheduler P × S × InMemoryReplayLog C Snapshot × ℕ}
    (h : FixedScheduler.visitPhases (e.visitor frame)
      (e.scheduler, e.state, e.openLog frame, 0) = .error err r) :
    ∃ started checks, e.Stopped frame started checks err r.2.1 ∧
      e.LeftOpen frame started checks r.2.2.1 := by
  have hstep : ∀ k entry, e.scheduler.planOrder[k]? = some entry → ∀ r phase r',
      ((actAll ((e.scheduler.planOrder.take k).map (·.phase)) (e.contextOf frame) :
          EStateM EngineError S Unit) e.state = .ok () r.1 ∧
        Visiting e.validationPolicy e.validator e.scheduler.phasePlan (e.contextOf frame)
          e.replayLog.records (SimulationState.tick e.state) k r) →
      e.visitor frame (FixedScheduler.descriptor k entry) (entry.phase, r) =
        .ok () (phase, r') →
      (actAll ((e.scheduler.planOrder.take (k + 1)).map (·.phase)) (e.contextOf frame) :
          EStateM EngineError S Unit) e.state = .ok () r'.1 ∧
        Visiting e.validationPolicy e.validator e.scheduler.phasePlan (e.contextOf frame)
          e.replayLog.records (SimulationState.tick e.state) (k + 1) r' := by
    intro k entry hentry r phase r' hI hr
    obtain rfl : phase = entry.phase := phaseVisitor_keeps_phase hr
    exact ⟨actAll_take_succ hentry hI.1 (phaseVisitor_act hr), visitor_step hentry hI.2 hr⟩
  obtain ⟨k, entry, ⟨s, ⟨records, pending⟩, index⟩, phase, hentry, ⟨hacts, hvisiting⟩, hv⟩ :=
    FixedScheduler.visitPhases_error_rule _ hs hstep ⟨rfl, visiting_start⟩ h
  obtain ⟨hindex, -, hrecs, ⟨summaries, hpend, hchecks, hticks⟩, -⟩ := hvisiting
  simp only at hindex hrecs hpend hacts
  subst hindex hrecs hpend
  have hd : e.scheduler.phasePlan[index]? = some (FixedScheduler.descriptor index entry) := by
    simp only [FixedScheduler.phasePlan, List.getElem?_mapIdx, hentry, Option.map_some]
  have hmarkers : (e.scheduler.phasePlan.take index).map PhaseMarker.fromDescriptor ++
        [PhaseMarker.fromDescriptor (FixedScheduler.descriptor index entry)] =
      (e.scheduler.phasePlan.take (index + 1)).map PhaseMarker.fromDescriptor := by
    rw [List.take_add_one, hd, List.map_append]
    rfl
  obtain ⟨hlog, hcause⟩ := phaseVisitor_error hd hv
  have hopen : e.LeftOpen frame (index + 1)
      (checkpointsUpTo e.validationPolicy e.scheduler.phasePlan index) r.2.2.1 := by
    refine ⟨summaries, ?_, hchecks, hticks⟩
    rw [hlog, hmarkers]
    rfl
  rcases hcause with ⟨cause, hact, rfl⟩ | ⟨checkpoint, hact, hat, hcheck⟩
  · exact ⟨_, _, .phase hentry hacts hact, hopen⟩
  · exact ⟨_, _, .check (actAll_take_succ hentry hacts hact) hat hcheck, hopen⟩

omit [PurePhase P S C Snapshot] in
/- A record that is open can be completed, so a visit that ends well makes the tick succeed. -/
theorem tick_of_visit_ok {e : DeterministicEngine S C P V Snapshot} (hs : e.scheduler.Ordered)
    {frame : InputFrame C} (hexp : frame.tick = saturatingAddU64 (SimulationState.tick e.state) 1)
    (hidle : e.replayLog.pending = none)
    (hbefore : StateValidator.validate e.validator
      ⟨.beforeTickBegin, frame.tick, tickSeed e.seed frame.tick⟩ e.state = .ok ())
    {r : FixedScheduler P × S × InMemoryReplayLog C Snapshot × ℕ}
    (h : FixedScheduler.visitPhases (e.visitor frame)
      (e.scheduler, e.state, e.openLog frame, 0) = .ok () r) :
    ∃ result e', e.tick frame = .ok result e' := by
  obtain ⟨summaries, hpend, -⟩ := (visiting_done hs h).pending
  have hopen : r.2.2.1.Open r.2.2.1.records := ⟨rfl, by rw [hpend]; exact Option.some_ne_none _⟩
  obtain ⟨log, hlog⟩ := completeTick_open hopen
    (SimulationState.checksum (e.visited frame r).state)
    ((e.visited frame r).applySnapshotPolicy frame.tick
      (SimulationState.checksum (e.visited frame r).state))
  exact ⟨_, _, tick_eq_ok.mpr ⟨hexp, hidle, hbefore, r, h, log, ⟨rfl, hlog⟩, rfl⟩⟩

theorem tick_stops {e e' : DeterministicEngine S C P V Snapshot} (hs : e.scheduler.Ordered)
    (hidle : e.replayLog.pending = none) {frame : InputFrame C} {err : EngineError}
    (hexp : frame.tick = saturatingAddU64 (SimulationState.tick e.state) 1)
    (h : e.tick frame = .error err e') :
    ∃ started checks, e.Stopped frame started checks err e'.state ∧
      e.LeftOpen frame started checks e'.replayLog := by
  cases hv : StateValidator.validate e.validator
      ⟨.beforeTickBegin, frame.tick, tickSeed e.seed frame.tick⟩ e.state with
  | error early =>
    rw [tick_of_before_error hexp hidle hv] at h
    obtain ⟨rfl, rfl⟩ := EStateM.Result.error.inj h
    exact ⟨0, [], .before hv, [], rfl, rfl, fun _ hmem => absurd hmem List.not_mem_nil⟩
  | ok u =>
    cases hvisit : FixedScheduler.visitPhases (e.visitor frame)
        (e.scheduler, e.state, e.openLog frame, 0) with
    | ok v r =>
      obtain ⟨result, e1, hok⟩ := tick_of_visit_ok hs hexp hidle hv hvisit
      rw [hok] at h
      cases h
    | error late r =>
      rw [tick_of_visit_error hexp hidle hv hvisit] at h
      obtain ⟨rfl, rfl⟩ := EStateM.Result.error.inj h
      exact visit_stops hs hvisit

/-- The engine `e'` after a tick of `e` has failed with `err`. -/
structure AfterFailure (e' e : DeterministicEngine S C P V Snapshot) (frame : InputFrame C)
    (err : EngineError) : Prop where
  records : e'.replayRecords = e.replayRecords
  tick : SimulationState.tick e'.state = SimulationState.tick e.state
  unexpected : frame.tick ≠ saturatingAddU64 (SimulationState.tick e.state) 1 → e' = e
  kept : frame.tick = saturatingAddU64 (SimulationState.tick e.state) 1 →
    e'.wiring = e.wiring ∧ ∃ started checks, e.Stopped frame started checks err e'.state ∧
      e.LeftOpen frame started checks e'.replayLog
  stuck : frame.tick = saturatingAddU64 (SimulationState.tick e.state) 1 →
    ∀ other : InputFrame C, ∃ err', e'.tick other = .error err' e'

theorem afterFailure {e e' : DeterministicEngine S C P V Snapshot} (hs : e.scheduler.Ordered)
    (hidle : e.replayLog.pending = none) {frame : InputFrame C} {err : EngineError}
    (hkept : ∀ t, KeptByPhases P frame fun s : S => SimulationState.tick s = t)
    (h : e.tick frame = .error err e') : e'.AfterFailure e frame err where
  records := tick_failed_records h
  tick := by
    cases tick_fails h with
    | unexpected => rfl
    | busy => rfl
    | midway _ _ hmid => exact hmid.state _ (hkept _) rfl
  unexpected hne := by
    cases tick_fails h with
    | unexpected => rfl
    | busy hexp => exact absurd hexp hne
    | midway hexp => exact absurd hexp hne
  kept hexp := ⟨tick_wiring h, tick_stops hs hidle hexp h⟩
  stuck hexp := by
    cases tick_fails h with
    | unexpected hne => exact absurd hexp hne
    | busy _ hp => exact tick_of_open hp
    | midway _ _ hmid => exact tick_of_open hmid.log.pending

end DeterministicEngine

end XenorEngine.Rust
