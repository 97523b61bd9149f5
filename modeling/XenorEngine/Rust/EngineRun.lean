import XenorEngine.Lib.Runs
import XenorEngine.Rust.Engine

/-!
# What a tick does

`tick_eq_ok` takes a successful tick apart and `tick_spec` says everything it does
to state and log. Phases that only touch the simulation state (`PurePhase`) make the
engine a deterministic machine over that state: the log is written and never read.
-/

namespace XenorEngine.Rust
open XenorEngine.Lib.Fallible XenorEngine.Lib.Runs

/-- Phases that leave the log and the state's tick alone. -/
class QuietPhase (P : Type) (S C Snapshot : outParam Type) [SimulationState S Snapshot]
    [Phase P S C Snapshot] : Prop where
  keeps_log : ∀ (ctx : TickContext C) (p : P) (s : S) (log : InMemoryReplayLog C Snapshot)
    (r : P × S × InMemoryReplayLog C Snapshot), Phase.run ctx (p, s, log) = .ok () r → r.2.2 = log
  keeps_tick : ∀ (ctx : TickContext C) (p : P) (s : S) (log : InMemoryReplayLog C Snapshot)
    (r : P × S × InMemoryReplayLog C Snapshot), Phase.run ctx (p, s, log) = .ok () r →
    SimulationState.tick r.2.1 = SimulationState.tick s

/-- Phases without private state that only touch the simulation state. -/
class PurePhase (P : Type) (S C Snapshot : outParam Type) [Phase P S C Snapshot] where
  act : P → TickContext C → EStateM EngineError S Unit
  run_eq : ∀ (ctx : TickContext C) (p : P) (s : S) (log : InMemoryReplayLog C Snapshot),
    Phase.run ctx (p, s, log) =
      match act p ctx s with
      | .ok () s' => .ok () (p, s', log)
      | .error e s' => .error e (p, s', log)

theorem phaseRun_ok {P S C Snapshot : Type} [Phase P S C Snapshot] [PurePhase P S C Snapshot]
    {ctx : TickContext C} {p : P} {s : S} {log : InMemoryReplayLog C Snapshot}
    {r : P × S × InMemoryReplayLog C Snapshot} (h : Phase.run ctx (p, s, log) = .ok () r) :
    PurePhase.act p ctx s = .ok () r.2.1 ∧ r.1 = p ∧ r.2.2 = log := by
  rw [PurePhase.run_eq] at h
  split at h
  · rename_i s' hact
    simp only [EStateM.Result.ok.injEq, true_and] at h
    subst h
    exact ⟨hact, rfl, rfl⟩
  · cases h

theorem quietPhase_of_act {P S C Snapshot : Type} [SimulationState S Snapshot]
    [Phase P S C Snapshot] [PurePhase P S C Snapshot]
    (h : ∀ (p : P) (ctx : TickContext C) (s s' : S), PurePhase.act p ctx s = .ok () s' →
      SimulationState.tick s' = SimulationState.tick s) : QuietPhase P S C Snapshot := by
  constructor
  · intro ctx p s log r hr
    exact (phaseRun_ok hr).2.2
  · intro ctx p s log r hr
    exact h p ctx s r.2.1 (phaseRun_ok hr).1

class LawfulSimulationState (S : Type) (Snapshot : outParam Type) [SimulationState S Snapshot] :
    Prop where
  tick_setTick : ∀ (s : S) (t : Tick), SimulationState.tick (SimulationState.setTick s t) = t
  snapshotTick_snapshot : ∀ s : S,
    SimulationState.snapshotTick S (SimulationState.snapshot s) = SimulationState.tick s
  snapshotChecksum_snapshot : ∀ s : S,
    SimulationState.snapshotChecksum S (SimulationState.snapshot s) = SimulationState.checksum s

/-! ### Checkpoints of a plan -/

def checkpointAt (policy : ValidationPolicy) (plan : List PhaseDescriptor) (k : ℕ) :
    Option ValidationCheckpoint :=
  (plan[k]?.bind fun d => checkpointAfter d.group (plan[k + 1]?.map (·.group))).filter
    policy.shouldValidate

def checkpointsUpTo (policy : ValidationPolicy) (plan : List PhaseDescriptor) (k : ℕ) :
    List ValidationCheckpoint :=
  .beforeTickBegin :: (List.range k).filterMap (checkpointAt policy plan)

theorem checkpointsUpTo_succ (policy : ValidationPolicy) (plan : List PhaseDescriptor) (k : ℕ) :
    checkpointsUpTo policy plan (k + 1) =
      checkpointsUpTo policy plan k ++ (checkpointAt policy plan k).toList := by
  rw [checkpointsUpTo, List.range_succ, List.filterMap_append, checkpointsUpTo, List.cons_append]
  cases hc : checkpointAt policy plan k <;> simp [hc]

/- Every policy validates before a tick begins. -/
theorem shouldValidate_before (policy : ValidationPolicy) :
    policy.shouldValidate .beforeTickBegin = true := by
  cases policy <;> rfl

section Log
variable {C Snapshot : Type}

theorem beginTick_ok {log log' : InMemoryReplayLog C Snapshot} {frame : InputFrame C}
    {seed : Seed} (h : log.beginTick frame seed = .ok log') :
    log.pending = none ∧ log' = ⟨log.records, some ⟨frame.tick, frame, seed, [], []⟩⟩ := by
  unfold InMemoryReplayLog.beginTick at h
  cases hp : log.pending with
  | some p => simp [hp] at h
  | none =>
    simp only [hp, Except.ok.injEq] at h
    exact ⟨rfl, h.symm⟩

end Log

/-! ### The visiting closure -/

section Visit
variable {S C P V Snapshot : Type} [SimulationState S Snapshot] [StateValidator V S]

theorem validateAndRecord_ok {validator : V} {context : ValidationContext} {s : S}
    {records : List (ReplayTickRecord C Snapshot)} {pending : PendingReplayTickRecord C}
    {r : S × InMemoryReplayLog C Snapshot}
    (h : validateAndRecord validator context (s, ⟨records, some pending⟩) = .ok () r) :
    StateValidator.validate validator context s = .ok () ∧
      r = (s, ⟨records, some { pending with
        validationSummaries := pending.validationSummaries ++
          [⟨context.checkpoint, SimulationState.tick s, SimulationState.checksum s⟩] }⟩) := by
  unfold validateAndRecord at h
  cases hv : StateValidator.validate validator context s with
  | error e => simp [hv] at h
  | ok u =>
    simp only [hv, InMemoryReplayLog.recordValidation, EStateM.Result.ok.injEq, true_and] at h
    exact ⟨rfl, h.symm⟩

theorem validateAndRecord_state {validator : V} {context : ValidationContext} {s s' : S}
    {log log' : InMemoryReplayLog C Snapshot}
    (h : validateAndRecord validator context (s, log) = .ok () (s', log')) : s' = s := by
  simp only [validateAndRecord] at h
  split at h
  · cases h
  · split at h
    · cases h
    · exact (congrArg Prod.fst (EStateM.Result.ok.inj h).2).symm

theorem validateAndRecord_valid {validator : V} {context : ValidationContext} {s : S}
    {log : InMemoryReplayLog C Snapshot} {r : S × InMemoryReplayLog C Snapshot}
    (h : validateAndRecord validator context (s, log) = .ok () r) :
    StateValidator.validate validator context s = .ok () := by
  simp only [validateAndRecord] at h
  split at h
  · cases h
  · assumption

variable [Phase P S C Snapshot]

/- All that a turn of the loop does when it succeeds: mark the phase, run it, and where the
plan puts a checkpoint after it, check the state the phase left. -/
theorem phaseVisitor_ok {plan : List PhaseDescriptor} {policy : ValidationPolicy} {validator : V}
    {ctx : TickContext C} {d : PhaseDescriptor} {p : P} {s : S}
    {log : InMemoryReplayLog C Snapshot} {k : ℕ} {r : P × S × InMemoryReplayLog C Snapshot × ℕ}
    (h : DeterministicEngine.phaseVisitor plan policy validator ctx d (p, s, log, k) = .ok () r) :
    ∃ (p' : P) (s' : S) (marked ran done : InMemoryReplayLog C Snapshot),
      r = (p', s', done, k + 1) ∧
      log.recordPhase (PhaseMarker.fromDescriptor d) = .ok marked ∧
      Phase.run ctx (p, s, marked) = .ok () (p', s', ran) ∧
      ((checkpointAfter d.group (plan[k + 1]?.map (·.group))).filter policy.shouldValidate = none →
        done = ran) ∧
      ∀ checkpoint, (checkpointAfter d.group (plan[k + 1]?.map (·.group))).filter
          policy.shouldValidate = some checkpoint →
        validateAndRecord validator ⟨checkpoint, ctx.tick, ctx.tickSeed⟩ (s', ran) =
          .ok () (s', done) := by
  simp only [DeterministicEngine.phaseVisitor] at h
  split at h
  · cases h
  · rename_i marked hmark
    split at h
    · cases h
    · rename_i p' s' ran hrun
      cases hc : (checkpointAfter d.group (plan[k + 1]?.map (·.group))).filter
          policy.shouldValidate with
      | none =>
        simp only [hc, EStateM.Result.ok.injEq, true_and] at h
        refine ⟨p', s', marked, ran, ran, h.symm, hmark, hrun, fun _ => rfl, ?_⟩
        intro checkpoint hcheckpoint
        cases hcheckpoint
      | some checkpoint =>
        simp only [hc] at h
        split at h
        · cases h
        · rename_i s2 done hval
          obtain rfl : s2 = s' := validateAndRecord_state hval
          simp only [EStateM.Result.ok.injEq, true_and] at h
          refine ⟨p', s2, marked, ran, done, h.symm, hmark, hrun, ?_, ?_⟩
          · intro hnone
            cases hnone
          · intro c hsome
            cases hsome
            exact hval

variable [QuietPhase P S C Snapshot]

/-- The pending record while phase `k` of the plan is about to run. -/
structure Visiting (policy : ValidationPolicy) (validator : V) (plan : List PhaseDescriptor)
    (ctx : TickContext C) (records : List (ReplayTickRecord C Snapshot)) (startTick : Tick)
    (k : ℕ) (r : S × InMemoryReplayLog C Snapshot × ℕ) : Prop where
  index : r.2.2 = k
  tick : SimulationState.tick r.1 = startTick
  records_eq : r.2.1.records = records
  pending : ∃ summaries, r.2.1.pending = some ⟨ctx.frame.tick, ctx.frame, ctx.tickSeed,
      (plan.take k).map PhaseMarker.fromDescriptor, summaries⟩ ∧
    summaries.map (·.checkpoint) = checkpointsUpTo policy plan k ∧
    ∀ v ∈ summaries, v.stateTick = startTick
  validated : ∀ j checkpoint, k = j + 1 → checkpointAt policy plan j = some checkpoint →
    StateValidator.validate validator ⟨checkpoint, ctx.tick, ctx.tickSeed⟩ r.1 = .ok ()

theorem phaseVisitor_step {policy : ValidationPolicy} {validator : V}
    {plan : List PhaseDescriptor} {ctx : TickContext C}
    {records : List (ReplayTickRecord C Snapshot)} {startTick : Tick} {k : ℕ}
    {d : PhaseDescriptor} (hd : plan[k]? = some d) {phase phase' : P}
    {r r' : S × InMemoryReplayLog C Snapshot × ℕ}
    (hI : Visiting policy validator plan ctx records startTick k r)
    (h : DeterministicEngine.phaseVisitor plan policy validator ctx d (phase, r) =
      .ok () (phase', r')) :
    Visiting policy validator plan ctx records startTick (k + 1) r' := by
  obtain ⟨s, ⟨recs, pend⟩, index⟩ := r
  obtain ⟨hindex, htick, hrecs, ⟨sums, hpend, hchk, hst⟩, -⟩ := hI
  simp only at hindex htick hrecs hpend
  subst hindex hrecs hpend
  have hlt : index < plan.length := (List.getElem?_eq_some_iff.mp hd).1
  have htake : plan.take (index + 1) = plan.take index ++ [d] := by
    rw [List.take_add_one, hd]
    rfl
  have hat : checkpointAt policy plan index =
      (checkpointAfter d.group (plan[index + 1]?.map (·.group))).filter policy.shouldValidate := by
    simp only [checkpointAt, hd, Option.bind_some]
  obtain ⟨p1, s1, marked, ran, done, hr, hmark, hrun, hskipped, hchecked⟩ := phaseVisitor_ok h
  obtain ⟨-, rfl⟩ := Prod.mk.inj hr
  obtain rfl := Except.ok.inj hmark
  have hlog := QuietPhase.keeps_log _ _ _ _ _ hrun
  have hkeep := QuietPhase.keeps_tick _ _ _ _ _ hrun
  simp only at hlog hkeep
  subst hlog
  rw [← hat] at hskipped hchecked
  cases hc : checkpointAt policy plan index with
  | none =>
    obtain rfl := hskipped hc
    refine ⟨rfl, hkeep.trans htick, rfl, ⟨sums, ?_, ?_, hst⟩, ?_⟩
    · simp only [htake, List.map_append, List.map_cons, List.map_nil]
    · rw [checkpointsUpTo_succ, hc, hchk]
      simp
    · intro j c hj hcj
      obtain rfl : index = j := by omega
      rw [hc] at hcj
      cases hcj
  | some checkpoint =>
    obtain ⟨hok, hr⟩ := validateAndRecord_ok (hchecked checkpoint hc)
    obtain rfl := (Prod.mk.inj hr).2
    refine ⟨rfl, hkeep.trans htick, rfl, ⟨sums ++ [⟨checkpoint, SimulationState.tick s1,
      SimulationState.checksum s1⟩], ?_, ?_, ?_⟩, ?_⟩
    · simp only [htake, List.map_append, List.map_cons, List.map_nil]
    · rw [checkpointsUpTo_succ, hc, List.map_append, hchk]
      rfl
    · intro v hv
      rcases List.mem_append.mp hv with hv | hv
      · exact hst v hv
      · rw [List.mem_singleton.mp hv]
        exact hkeep.trans htick
    · intro j c hj hcj
      obtain rfl : index = j := by omega
      rw [hc] at hcj
      cases hcj
      exact hok

end Visit

/-! ### One tick -/

section Tick
variable {S C P V Snapshot : Type} [SimulationState S Snapshot] [StateValidator V S]
  [Phase P S C Snapshot]

/-- `s` is the state in which the phases of a tick left `e`'s. -/
def Visited (e : DeterministicEngine S C P V Snapshot) (frame : InputFrame C) (s : S) : Prop :=
  ∃ e1 e2 : DeterministicEngine S C P V Snapshot, DeterministicEngine.runSchedulerPhases frame
      frame.tick (tickSeed e.seed frame.tick) e1 = .ok () e2 ∧
    e1.state = e.state ∧ e1.scheduler = e.scheduler ∧ e1.seed = e.seed ∧ e2.state = s

/-- Everything a successful tick of a quiet schedule does. -/
structure TickSpec (e e' : DeterministicEngine S C P V Snapshot) (frame : InputFrame C)
    (result : TickResult Snapshot) (record : ReplayTickRecord C Snapshot) : Prop where
  expected : frame.tick = saturatingAddU64 (SimulationState.tick e.state) 1
  idle : e.replayLog.pending = none
  before : StateValidator.validate e.validator
    ⟨.beforeTickBegin, frame.tick, tickSeed e.seed frame.tick⟩ e.state = .ok ()
  log : e'.replayLog = ⟨e.replayLog.records ++ [record], none⟩
  config : e'.seed = e.seed ∧ e'.snapshotPolicy = e.snapshotPolicy ∧
    e'.validationPolicy = e.validationPolicy ∧ e'.validator = e.validator
  record_tick : record.tick = frame.tick
  record_input : record.input = frame
  record_seed : record.tickSeed = tickSeed e.seed frame.tick
  markers : record.phaseMarkers = e.scheduler.phasePlan.map PhaseMarker.fromDescriptor
  checkpoints : record.validationSummaries.map (·.checkpoint) =
    checkpointsUpTo e.validationPolicy e.scheduler.phasePlan e.scheduler.phasePlan.length
  state_ticks : ∀ v ∈ record.validationSummaries, v.stateTick = SimulationState.tick e.state
  checksum : record.checksum = SimulationState.checksum e'.state
  snapshot : record.snapshot = (e.snapshotPolicy.shouldCapture frame.tick).map fun reason =>
    ⟨⟨SimulationState.snapshotSchemaVersion S, frame.tick, record.checksum⟩, reason,
      SimulationState.snapshot e'.state⟩
  result_eq : result = ⟨frame.tick, record.checksum, record.snapshot.map (·.payload)⟩
  /- The state the phases leave behind: only its tick is still to be set. -/
  phases : ∃ s, Visited e frame s ∧ SimulationState.tick s = SimulationState.tick e.state ∧
    e'.state = SimulationState.setTick s frame.tick ∧
    ∀ j checkpoint, e.scheduler.phasePlan.length = j + 1 →
      checkpointAt e.validationPolicy e.scheduler.phasePlan j = some checkpoint →
      StateValidator.validate e.validator
        ⟨checkpoint, frame.tick, tickSeed e.seed frame.tick⟩ s = .ok ()

namespace DeterministicEngine

def contextOf (e : DeterministicEngine S C P V Snapshot) (frame : InputFrame C) :
    TickContext C := ⟨e.seed, tickSeed e.seed frame.tick, frame.tick, frame⟩

/-- The log when the first phase runs. -/
def openLog (e : DeterministicEngine S C P V Snapshot) (frame : InputFrame C) :
    InMemoryReplayLog C Snapshot :=
  ⟨e.replayLog.records, some ⟨frame.tick, frame, tickSeed e.seed frame.tick, [],
    [⟨.beforeTickBegin, SimulationState.tick e.state, SimulationState.checksum e.state⟩]⟩⟩

def visitor (e : DeterministicEngine S C P V Snapshot) (frame : InputFrame C) :
    PhaseDescriptor → EStateM EngineError (P × S × InMemoryReplayLog C Snapshot × ℕ) Unit :=
  phaseVisitor e.scheduler.phasePlan e.validationPolicy e.validator (e.contextOf frame)

/-- The engine when the phases of a tick are done, its tick set. -/
def visited (e : DeterministicEngine S C P V Snapshot) (frame : InputFrame C)
    (r : FixedScheduler P × S × InMemoryReplayLog C Snapshot × ℕ) :
    DeterministicEngine S C P V Snapshot :=
  { e with
    scheduler := r.1
    state := SimulationState.setTick r.2.1 frame.tick
    replayLog := r.2.2.1 }

omit [StateValidator V S] [Phase P S C Snapshot] in
theorem validateOrderedInput_ok {frame : InputFrame C}
    {e e' : DeterministicEngine S C P V Snapshot} {t : Tick}
    (h : validateOrderedInput frame e = .ok t e') :
    frame.tick = saturatingAddU64 (SimulationState.tick e.state) 1 ∧ t = frame.tick ∧ e' = e := by
  unfold validateOrderedInput at h
  simp only at h
  split at h
  · cases h
  · rename_i ht
    simp only [EStateM.Result.ok.injEq] at h
    exact ⟨not_not.mp ht, h.1.symm, h.2.symm⟩

omit [StateValidator V S] [Phase P S C Snapshot] in
theorem validateOrderedInput_expected {e : DeterministicEngine S C P V Snapshot}
    {frame : InputFrame C} (h : frame.tick = saturatingAddU64 (SimulationState.tick e.state) 1) :
    validateOrderedInput frame e = .ok frame.tick e := by
  simp only [validateOrderedInput, ne_eq, h, not_true, if_false]

omit [SimulationState S Snapshot] [StateValidator V S] [Phase P S C Snapshot] in
theorem onLog_ok {f : InMemoryReplayLog C Snapshot → Except EngineError (InMemoryReplayLog C Snapshot)}
    {e e' : DeterministicEngine S C P V Snapshot} {u : Unit} (h : onLog f e = .ok u e') :
    ∃ log, f e.replayLog = .ok log ∧ e' = { e with replayLog := log } := by
  unfold onLog at h
  cases hf : f e.replayLog with
  | error err => simp [hf] at h
  | ok log =>
    simp only [hf, EStateM.Result.ok.injEq, true_and] at h
    exact ⟨log, rfl, h.symm⟩

omit [Phase P S C Snapshot] in
theorem runValidationCheckpoint_before_ok {tick : Tick} {seed : Seed}
    {e e' : DeterministicEngine S C P V Snapshot}
    {records : List (ReplayTickRecord C Snapshot)} {pending : PendingReplayTickRecord C}
    (hlog : e.replayLog = ⟨records, some pending⟩) {u : Unit}
    (h : runValidationCheckpoint .beforeTickBegin tick seed e = .ok u e') :
    StateValidator.validate e.validator ⟨.beforeTickBegin, tick, seed⟩ e.state = .ok () ∧
      e' = { e with replayLog := ⟨records, some { pending with
        validationSummaries := pending.validationSummaries ++
          [⟨.beforeTickBegin, SimulationState.tick e.state,
            SimulationState.checksum e.state⟩] }⟩ } := by
  simp only [runValidationCheckpoint, shouldValidate_before, Bool.not_true, Bool.false_eq_true,
    if_false, hlog] at h
  split at h
  · rename_i s log hv
    obtain ⟨hok, hr⟩ := validateAndRecord_ok hv
    simp only [Prod.mk.injEq] at hr
    obtain ⟨rfl, rfl⟩ := hr
    simp only [EStateM.Result.ok.injEq, true_and] at h
    exact ⟨hok, h.symm⟩
  · cases h

omit [Phase P S C Snapshot] in
theorem runValidationCheckpoint_before {e : DeterministicEngine S C P V Snapshot}
    {frame : InputFrame C} (h : StateValidator.validate e.validator
      ⟨.beforeTickBegin, frame.tick, tickSeed e.seed frame.tick⟩ e.state = .ok ()) :
    runValidationCheckpoint .beforeTickBegin frame.tick (tickSeed e.seed frame.tick)
      { e with replayLog := ⟨e.replayLog.records,
        some ⟨frame.tick, frame, tickSeed e.seed frame.tick, [], []⟩⟩ } =
      .ok () { e with replayLog := e.openLog frame } := by
  simp only [runValidationCheckpoint, shouldValidate_before, Bool.not_true, Bool.false_eq_true,
    if_false, validateAndRecord, h, InMemoryReplayLog.recordValidation, openLog, List.nil_append]

theorem runSchedulerPhases_ok {e e' : DeterministicEngine S C P V Snapshot} {frame : InputFrame C}
    (h : runSchedulerPhases frame frame.tick (tickSeed e.seed frame.tick) e = .ok () e') :
    ∃ r, FixedScheduler.visitPhases (e.visitor frame) (e.scheduler, e.state, e.replayLog, 0) =
        .ok () r ∧
      e' = { e with
        scheduler := r.1
        state := r.2.1
        replayLog := r.2.2.1 } := by
  simp only [runSchedulerPhases] at h
  split at h
  · rename_i sched s log index hv
    exact ⟨(sched, s, log, index), hv, (EStateM.Result.ok.inj h).2.symm⟩
  · cases h

theorem runSchedulerPhases_visit {e : DeterministicEngine S C P V Snapshot}
    {frame : InputFrame C} {r : FixedScheduler P × S × InMemoryReplayLog C Snapshot × ℕ}
    (h : FixedScheduler.visitPhases (e.visitor frame)
      (e.scheduler, e.state, e.openLog frame, 0) = .ok () r) :
    runSchedulerPhases frame frame.tick (tickSeed e.seed frame.tick)
        { e with replayLog := e.openLog frame } =
      .ok () { e with
        scheduler := r.1
        state := r.2.1
        replayLog := r.2.2.1 } := by
  simp only [visitor, contextOf] at h
  simp only [runSchedulerPhases, h]

/- All that decides whether a tick succeeds, and what it makes of the engine. -/
theorem tick_eq_ok {e e' : DeterministicEngine S C P V Snapshot} {frame : InputFrame C}
    {result : TickResult Snapshot} :
    e.tick frame = .ok result e' ↔
      frame.tick = saturatingAddU64 (SimulationState.tick e.state) 1 ∧
      e.replayLog.pending = none ∧
      StateValidator.validate e.validator
        ⟨.beforeTickBegin, frame.tick, tickSeed e.seed frame.tick⟩ e.state = .ok () ∧
      ∃ r, FixedScheduler.visitPhases (e.visitor frame)
          (e.scheduler, e.state, e.openLog frame, 0) = .ok () r ∧
        ∃ log, (let done := e.visited frame r
            let checksum := SimulationState.checksum done.state
            let snapshot := done.applySnapshotPolicy frame.tick checksum
            result = ⟨frame.tick, checksum, snapshot.map (·.payload)⟩ ∧
              r.2.2.1.completeTick checksum snapshot = .ok log) ∧
          e' = { e.visited frame r with replayLog := log } := by
  constructor
  · intro h
    unfold DeterministicEngine.tick at h
    obtain ⟨t, e1, horder, h1⟩ := estate_bind_ok.mp h
    obtain ⟨hexp, rfl, rfl⟩ := validateOrderedInput_ok horder
    obtain ⟨e2, e2', hget, h2⟩ := estate_bind_ok.mp h1
    obtain ⟨rfl, rfl⟩ := estate_get_ok.mp hget
    obtain ⟨_, e3, hbegin, h3⟩ := estate_bind_ok.mp h2
    obtain ⟨log3, hlog3, rfl⟩ := onLog_ok hbegin
    obtain ⟨hidle, rfl⟩ := beginTick_ok hlog3
    obtain ⟨_, e4, hcheck, h4⟩ := estate_bind_ok.mp h3
    obtain ⟨hbefore, rfl⟩ := runValidationCheckpoint_before_ok rfl hcheck
    obtain ⟨_, e5, hphases, h5⟩ := estate_bind_ok.mp h4
    obtain ⟨_, e6, hmod, h6⟩ := estate_bind_ok.mp h5
    obtain rfl := estate_modify_ok.mp hmod
    obtain ⟨e7, e7', hget7, h7⟩ := estate_bind_ok.mp h6
    obtain ⟨rfl, rfl⟩ := estate_get_ok.mp hget7
    obtain ⟨_, e8, hfin, h8⟩ := estate_bind_ok.mp h7
    obtain ⟨log8, hlog8, rfl⟩ := onLog_ok hfin
    obtain ⟨rfl, rfl⟩ := estate_pure_ok.mp h8
    obtain ⟨r, hvisit, rfl⟩ := runSchedulerPhases_ok hphases
    exact ⟨hexp, hidle, hbefore, r, hvisit, log8, ⟨rfl, hlog8⟩, rfl⟩
  · rintro ⟨hexp, hidle, hbefore, r, hvisit, log, ⟨rfl, hlog⟩, rfl⟩
    unfold DeterministicEngine.tick
    refine estate_bind_ok.mpr ⟨_, _, validateOrderedInput_expected hexp, ?_⟩
    refine estate_bind_ok.mpr ⟨_, _, rfl, ?_⟩
    refine estate_bind_ok.mpr ⟨(), { e with replayLog := ⟨e.replayLog.records,
      some ⟨frame.tick, frame, tickSeed e.seed frame.tick, [], []⟩⟩ }, ?_, ?_⟩
    · simp only [recordReplayInputBegin, onLog, InMemoryReplayLog.beginTick, hidle]
    refine estate_bind_ok.mpr ⟨(), _, runValidationCheckpoint_before hbefore, ?_⟩
    refine estate_bind_ok.mpr ⟨(), _, runSchedulerPhases_visit hvisit, ?_⟩
    refine estate_bind_ok.mpr ⟨_, e.visited frame r, rfl, ?_⟩
    refine estate_bind_ok.mpr ⟨_, _, rfl, ?_⟩
    refine estate_bind_ok.mpr ⟨(), { e.visited frame r with replayLog := log }, ?_, rfl⟩
    have hdone : (e.visited frame r).replayLog = r.2.2.1 := rfl
    simp only [finalizeReplayRecord, onLog, hdone, hlog]

theorem visiting_start {e : DeterministicEngine S C P V Snapshot} {frame : InputFrame C} :
    Visiting e.validationPolicy e.validator e.scheduler.phasePlan (e.contextOf frame)
      e.replayLog.records (SimulationState.tick e.state) 0 (e.state, e.openLog frame, 0) := by
  refine ⟨rfl, rfl, rfl, ⟨_, rfl, ?_, ?_⟩, ?_⟩
  · simp [checkpointsUpTo]
  · intro v hv
    rw [List.mem_singleton.mp hv]
  · intro j c hj
    omega

/- What the phases find in the pending record, one after the other. -/
theorem visitor_step [QuietPhase P S C Snapshot] {e : DeterministicEngine S C P V Snapshot}
    {frame : InputFrame C} {k : ℕ} {entry : PhaseEntry P}
    (hentry : e.scheduler.planOrder[k]? = some entry)
    {r r' : S × InMemoryReplayLog C Snapshot × ℕ} {phase : P}
    (hI : Visiting e.validationPolicy e.validator e.scheduler.phasePlan (e.contextOf frame)
      e.replayLog.records (SimulationState.tick e.state) k r)
    (h : e.visitor frame (FixedScheduler.descriptor k entry) (entry.phase, r) =
      .ok () (phase, r')) :
    Visiting e.validationPolicy e.validator e.scheduler.phasePlan (e.contextOf frame)
      e.replayLog.records (SimulationState.tick e.state) (k + 1) r' := by
  refine phaseVisitor_step ?_ hI h
  simp only [FixedScheduler.phasePlan, List.getElem?_mapIdx, hentry, Option.map_some]

theorem visiting_done [QuietPhase P S C Snapshot] {e : DeterministicEngine S C P V Snapshot}
    (hs : e.scheduler.Ordered) {frame : InputFrame C}
    {r : FixedScheduler P × S × InMemoryReplayLog C Snapshot × ℕ}
    (h : FixedScheduler.visitPhases (e.visitor frame)
      (e.scheduler, e.state, e.openLog frame, 0) = .ok () r) :
    Visiting e.validationPolicy e.validator e.scheduler.phasePlan (e.contextOf frame)
      e.replayLog.records (SimulationState.tick e.state) e.scheduler.phasePlan.length r.2 := by
  have hlen : e.scheduler.phasePlan.length = e.scheduler.planOrder.length := by
    simp [FixedScheduler.phasePlan]
  rw [hlen]
  exact FixedScheduler.visitPhases_rule _ hs
    (fun _ _ hentry _ _ _ hI hr => visitor_step hentry hI hr) visiting_start h

theorem tick_spec [QuietPhase P S C Snapshot]
    {e e' : DeterministicEngine S C P V Snapshot} (hs : e.scheduler.Ordered)
    {frame : InputFrame C} {result : TickResult Snapshot}
    (h : e.tick frame = .ok result e') : ∃ record, TickSpec e e' frame result record := by
  obtain ⟨hexp, hidle, hbefore, r, hphases, log, ⟨rfl, hlog⟩, rfl⟩ := tick_eq_ok.mp h
  have hvisit := visiting_done hs hphases
  obtain ⟨sums, hpend, hchk, hst⟩ := hvisit.pending
  have hrecs : r.2.2.1.records = e.replayLog.records := hvisit.records_eq
  rw [List.take_length] at hpend
  simp only [InMemoryReplayLog.completeTick, hpend, Except.ok.injEq, hrecs] at hlog
  subst hlog
  exact ⟨_, {
    expected := hexp
    idle := hidle
    before := hbefore
    log := rfl
    config := ⟨rfl, rfl, rfl, rfl⟩
    record_tick := rfl
    record_input := rfl
    record_seed := rfl
    markers := rfl
    checkpoints := hchk
    state_ticks := hst
    checksum := rfl
    snapshot := rfl
    result_eq := rfl
    phases := ⟨r.2.1, ⟨_, _, runSchedulerPhases_visit hphases, rfl, rfl, rfl, rfl⟩, hvisit.tick,
      rfl, fun j c hj => hvisit.validated j c hj⟩ }⟩

end DeterministicEngine

end Tick

/-! ### The log is only written -/

section Pure
variable {S C P V Snapshot : Type} [SimulationState S Snapshot] [StateValidator V S]
  [Phase P S C Snapshot] [PurePhase P S C Snapshot]

def InMemoryReplayLog.prepend (records : List (ReplayTickRecord C Snapshot))
    (log : InMemoryReplayLog C Snapshot) : InMemoryReplayLog C Snapshot :=
  ⟨records ++ log.records, log.pending⟩

section LogOps
variable {C Snapshot : Type} (log : InMemoryReplayLog C Snapshot)
  (records : List (ReplayTickRecord C Snapshot))

theorem beginTick_prepend (frame : InputFrame C) (seed : Seed) :
    (log.prepend records).beginTick frame seed =
      (log.beginTick frame seed).map (InMemoryReplayLog.prepend records) := by
  rcases log with ⟨recs, _ | pending⟩ <;> rfl

theorem recordPhase_prepend (marker : PhaseMarker) :
    (log.prepend records).recordPhase marker =
      (log.recordPhase marker).map (InMemoryReplayLog.prepend records) := by
  rcases log with ⟨recs, _ | pending⟩ <;> rfl

theorem recordValidation_prepend (summary : ValidationSummary) :
    (log.prepend records).recordValidation summary =
      (log.recordValidation summary).map (InMemoryReplayLog.prepend records) := by
  rcases log with ⟨recs, _ | pending⟩ <;> rfl

theorem completeTick_prepend (checksum : UInt64) (snapshot : Option (SnapshotRecord Snapshot)) :
    (log.prepend records).completeTick checksum snapshot =
      (log.completeTick checksum snapshot).map (InMemoryReplayLog.prepend records) := by
  rcases log with ⟨recs, _ | pending⟩
  · rfl
  · simp [InMemoryReplayLog.completeTick, InMemoryReplayLog.prepend, Except.map,
      List.append_assoc]

end LogOps

omit [SimulationState S Snapshot] in
theorem phaseRun_prepend (ctx : TickContext C) (p : P) (s : S)
    (log : InMemoryReplayLog C Snapshot) (records : List (ReplayTickRecord C Snapshot)) :
    Phase.run ctx (p, s, log.prepend records) =
      mapState (Prod.map id (Prod.map id (InMemoryReplayLog.prepend records)))
        (Phase.run ctx (p, s, log)) := by
  rw [PurePhase.run_eq, PurePhase.run_eq]
  cases PurePhase.act p ctx s <;> rfl

omit [Phase P S C Snapshot] [PurePhase P S C Snapshot] in
theorem validateAndRecord_prepend (validator : V) (context : ValidationContext) (s : S)
    (log : InMemoryReplayLog C Snapshot) (records : List (ReplayTickRecord C Snapshot)) :
    validateAndRecord validator context (s, log.prepend records) =
      mapState (Prod.map id (InMemoryReplayLog.prepend records))
        (validateAndRecord validator context (s, log)) := by
  simp only [validateAndRecord, recordValidation_prepend]
  cases StateValidator.validate validator context s with
  | error e => rfl
  | ok u =>
    simp only
    cases log.recordValidation ⟨context.checkpoint, SimulationState.tick s,
      SimulationState.checksum s⟩ <;> rfl

theorem phaseVisitor_prepend (plan : List PhaseDescriptor) (policy : ValidationPolicy)
    (validator : V) (ctx : TickContext C) (records : List (ReplayTickRecord C Snapshot))
    (d : PhaseDescriptor) :
    Commutes (Prod.map id (Prod.map id (Prod.map (InMemoryReplayLog.prepend records) id)))
      (DeterministicEngine.phaseVisitor (P := P) plan policy validator ctx d) := by
  rintro ⟨p, s, log, index⟩
  simp only [DeterministicEngine.phaseVisitor, Prod.map_apply, id_eq, recordPhase_prepend]
  cases log.recordPhase (PhaseMarker.fromDescriptor d) with
  | error e => rfl
  | ok log1 =>
    simp only [Except.map, phaseRun_prepend]
    cases Phase.run ctx (p, s, log1) with
    | error e r => rfl
    | ok u r =>
      obtain ⟨p2, s2, log2⟩ := r
      simp only [mapState, Prod.map_apply, id_eq]
      cases (checkpointAfter d.group (plan[index + 1]?.map (·.group))).filter
          policy.shouldValidate with
      | none => rfl
      | some checkpoint =>
        simp only [validateAndRecord_prepend]
        cases validateAndRecord validator ⟨checkpoint, ctx.tick, ctx.tickSeed⟩ (s2, log2) <;> rfl

/-! ### The engine as a machine -/

namespace DeterministicEngine

def prepend (records : List (ReplayTickRecord C Snapshot))
    (e : DeterministicEngine S C P V Snapshot) : DeterministicEngine S C P V Snapshot :=
  { e with replayLog := e.replayLog.prepend records }

omit [SimulationState S Snapshot] [StateValidator V S] [Phase P S C Snapshot]
  [PurePhase P S C Snapshot] in
theorem onLog_prepend {f : InMemoryReplayLog C Snapshot →
      Except EngineError (InMemoryReplayLog C Snapshot)}
    {records : List (ReplayTickRecord C Snapshot)}
    (hf : ∀ log, f (log.prepend records) = (f log).map (InMemoryReplayLog.prepend records)) :
    Commutes (prepend (S := S) (P := P) (V := V) records) (onLog f) := by
  intro e
  simp only [onLog, prepend, hf]
  cases f e.replayLog <;> rfl

theorem tick_prepend (frame : InputFrame C) (records : List (ReplayTickRecord C Snapshot)) :
    Commutes (prepend (S := S) (P := P) (V := V) records) (tick frame) := by
  refine commutes_bind ?_ (fun t => commutes_get_bind (fun e => rfl) (fun e0 => ?_))
  · intro e
    by_cases ht : frame.tick = saturatingAddU64 (SimulationState.tick e.state) 1
    · simp [validateOrderedInput, prepend, mapState, ht]
    · simp [validateOrderedInput, prepend, mapState, ht]
  refine commutes_bind (onLog_prepend fun log => beginTick_prepend log records frame _) ?_
  intro _
  refine commutes_bind ?_ (fun _ => commutes_bind ?_ (fun _ => commutes_bind ?_ (fun _ =>
    commutes_get_bind (fun e => rfl) (fun e1 => commutes_bind ?_ (fun _ => ?_)))))
  · intro e
    simp only [runValidationCheckpoint, prepend, validateAndRecord_prepend]
    split
    · rfl
    · cases validateAndRecord e.validator _ (e.state, e.replayLog) <;> rfl
  · intro e
    have hv := FixedScheduler.visitPhases_commutes
      (phaseVisitor_prepend (P := P) e.scheduler.phasePlan e.validationPolicy e.validator
        (⟨e.seed, tickSeed e0.seed t, t, frame⟩ : TickContext C) records)
      (e.scheduler, e.state, e.replayLog, 0)
    simp only [Prod.map_apply, id_eq] at hv
    simp only [runSchedulerPhases, prepend, hv]
    cases FixedScheduler.visitPhases _ (e.scheduler, e.state, e.replayLog, 0) <;> rfl
  · exact fun _ => rfl
  · exact onLog_prepend fun log => completeTick_prepend log records _ _
  · exact commutes_pure _ _

/-- The engine with another state and nothing recorded. -/
def fresh (e : DeterministicEngine S C P V Snapshot) (s : S) :
    DeterministicEngine S C P V Snapshot :=
  { e with state := s, replayLog := InMemoryReplayLog.default }

def tickStep (e : DeterministicEngine S C P V Snapshot) (s : S) (frame : InputFrame C) :
    Except EngineError (S × ReplayTickRecord C Snapshot) :=
  match (e.fresh s).tick frame with
  | .error err _ => .error err
  | .ok _ e' =>
    match e'.replayLog.records with
    | record :: _ => .ok (e'.state, record)
    | [] => .error (.replayLifecycle "a completed tick leaves a record")

/-- The abstract engine: states of the simulation, frames in, records out. -/
def machine (e : DeterministicEngine S C P V Snapshot) :
    Machine S (InputFrame C) (ReplayTickRecord C Snapshot) EngineError := ⟨e.tickStep⟩

def advance (e : DeterministicEngine S C P V Snapshot) (s : S)
    (records : List (ReplayTickRecord C Snapshot)) : DeterministicEngine S C P V Snapshot :=
  { e with state := s, replayLog := ⟨e.replayLog.records ++ records, none⟩ }

def resultOf (record : ReplayTickRecord C Snapshot) : TickResult Snapshot :=
  ⟨record.tick, record.checksum, record.snapshot.map (·.payload)⟩

theorem phaseVisitor_keeps_phase {plan : List PhaseDescriptor} {policy : ValidationPolicy}
    {validator : V} {ctx : TickContext C} {d : PhaseDescriptor} {p : P}
    {t : S × InMemoryReplayLog C Snapshot × ℕ} {r : P × S × InMemoryReplayLog C Snapshot × ℕ}
    (h : phaseVisitor plan policy validator ctx d (p, t) = .ok () r) : r.1 = p := by
  obtain ⟨s, log, index⟩ := t
  obtain ⟨p', s', marked, ran, done, rfl, -, hrun, -⟩ := phaseVisitor_ok h
  obtain ⟨-, hphase, -⟩ := phaseRun_ok hrun
  exact hphase

theorem phaseVisitor_act {plan : List PhaseDescriptor} {policy : ValidationPolicy}
    {validator : V} {ctx : TickContext C} {d : PhaseDescriptor} {p p' : P}
    {r r' : S × InMemoryReplayLog C Snapshot × ℕ}
    (h : phaseVisitor plan policy validator ctx d (p, r) = .ok () (p', r')) :
    PurePhase.act p ctx r.1 = .ok () r'.1 := by
  obtain ⟨s, log, index⟩ := r
  obtain ⟨p1, s1, marked, ran, done, hr, -, hrun, -⟩ := phaseVisitor_ok h
  obtain ⟨-, rfl⟩ := Prod.mk.inj hr
  exact (phaseRun_ok hrun).1

theorem tick_keeps_scheduler (frame : InputFrame C) :
    Keeps (fun e : DeterministicEngine S C P V Snapshot => e.scheduler) (tick frame) := by
  intro e result e' h
  obtain ⟨-, -, -, r, hvisit, log, -, rfl⟩ := tick_eq_ok.mp h
  have hphase : ∀ d p t r, e.visitor frame d (p, t) = .ok () r → r.1 = p :=
    fun d p t r hr => phaseVisitor_keeps_phase hr
  exact FixedScheduler.visitFrom_scheduler hphase hvisit

variable [QuietPhase P S C Snapshot]

theorem tick_advances {e e' : DeterministicEngine S C P V Snapshot} (hs : e.scheduler.Ordered)
    {frame : InputFrame C} {result : TickResult Snapshot} (h : e.tick frame = .ok result e') :
    ∃ record, TickSpec e e' frame result record ∧ e' = e.advance e'.state [record] ∧
      result = resultOf record := by
  obtain ⟨record, hspec⟩ := tick_spec hs h
  obtain ⟨hseed, hsnap, hpol, hval⟩ := hspec.config
  have hsched := tick_keeps_scheduler frame e result e' h
  refine ⟨record, hspec, ?_, ?_⟩
  · have hlog := hspec.log
    obtain ⟨seed', state', log', sched', snap', pol', val'⟩ := e'
    simp only at hseed hsnap hpol hval hsched hlog
    simp only [advance, hseed, hsnap, hpol, hval, hsched, hlog]
  · rw [hspec.result_eq, resultOf, hspec.record_tick]

theorem tickStep_iff {e : DeterministicEngine S C P V Snapshot} (hs : e.scheduler.Ordered)
    {s s' : S} {frame : InputFrame C} {record : ReplayTickRecord C Snapshot} :
    e.tickStep s frame = .ok (s', record) ↔
      (e.fresh s).tick frame = .ok (resultOf record) ((e.fresh s).advance s' [record]) := by
  constructor
  · intro h
    unfold tickStep at h
    cases ht : (e.fresh s).tick frame with
    | error err e1 => simp [ht] at h
    | ok result e1 =>
      obtain ⟨r, hspec, hadv, hres⟩ := tick_advances (e := e.fresh s) hs ht
      have hrecs : e1.replayLog.records = [r] := by rw [hspec.log]; rfl
      simp only [ht, hrecs, Except.ok.injEq, Prod.mk.injEq] at h
      obtain ⟨rfl, rfl⟩ := h
      rw [hres, ← hadv]
  · intro h
    simp only [tickStep, h]
    rfl

/-- The phases' part of a tick, in plan order. -/
def actAll : List P → TickContext C → EStateM EngineError S Unit
  | [], _ => pure ()
  | p :: ps, ctx => do
    PurePhase.act p ctx
    actAll ps ctx

omit [SimulationState S Snapshot] [StateValidator V S] [QuietPhase P S C Snapshot] in
theorem actAll_append_ok {ps qs : List P} {ctx : TickContext C} {s t : S} {u : Unit} :
    (actAll (ps ++ qs) ctx : EStateM EngineError S Unit) s = .ok u t ↔
      ∃ r, (actAll ps ctx : EStateM EngineError S Unit) s = .ok () r ∧
        (actAll qs ctx : EStateM EngineError S Unit) r = .ok u t := by
  induction ps generalizing s with
  | nil => simp [actAll, estate_pure_ok]
  | cons p ps ih =>
    simp only [List.cons_append, actAll, estate_bind_ok, ih]
    constructor
    · rintro ⟨v, r, h1, r', h2, h3⟩
      exact ⟨r', ⟨v, r, h1, h2⟩, h3⟩
    · rintro ⟨r', ⟨v, r, h1, h2⟩, h3⟩
      exact ⟨v, r, h1, r', h2, h3⟩

omit [SimulationState S Snapshot] [StateValidator V S] [QuietPhase P S C Snapshot] in
/- One more phase of a plan. -/
theorem actAll_take_succ {entries : List (PhaseEntry P)} {k : ℕ} {entry : PhaseEntry P}
    (hentry : entries[k]? = some entry) {ctx : TickContext C} {s0 s t : S}
    (hacts : (actAll ((entries.take k).map (·.phase)) ctx : EStateM EngineError S Unit) s0 =
      .ok () s) (hact : PurePhase.act entry.phase ctx s = .ok () t) :
    (actAll ((entries.take (k + 1)).map (·.phase)) ctx : EStateM EngineError S Unit) s0 =
      .ok () t := by
  have htake : entries.take (k + 1) = entries.take k ++ [entry] := by
    rw [List.take_add_one, hentry]
    rfl
  rw [htake, List.map_append, actAll_append_ok]
  refine ⟨s, hacts, ?_⟩
  simp only [List.map_cons, List.map_nil, actAll, estate_bind_ok, estate_pure_ok]
  exact ⟨(), t, hact, trivial, rfl⟩

omit [QuietPhase P S C Snapshot] in
theorem visited_acts {e : DeterministicEngine S C P V Snapshot} (hs : e.scheduler.Ordered)
    {frame : InputFrame C} {s : S} (h : Visited e frame s) :
    actAll (e.scheduler.planOrder.map (·.phase))
      (⟨e.seed, tickSeed e.seed frame.tick, frame.tick, frame⟩ : TickContext C) e.state =
        .ok () s := by
  obtain ⟨e1, e2, hrun, hstate, hsched, hseed, rfl⟩ := h
  rw [← hstate, ← hsched, ← hseed]
  rw [← hsched] at hs
  rw [← hseed] at hrun
  obtain ⟨last, hvisit, hlast⟩ := runSchedulerPhases_ok hrun
  subst hlast
  have hrule := FixedScheduler.visitPhases_rule
    (fun k (r : S × InMemoryReplayLog C Snapshot × ℕ) =>
      actAll ((e1.scheduler.planOrder.take k).map (·.phase))
        (⟨e1.seed, tickSeed e1.seed frame.tick, frame.tick, frame⟩ : TickContext C) e1.state =
          .ok () r.1) hs ?_ rfl hvisit
  · rwa [List.take_length] at hrule
  · intro k entry hentry r phase r' hI hr
    exact actAll_take_succ hentry hI (phaseVisitor_act hr)

theorem tickStep_spec {e : DeterministicEngine S C P V Snapshot} (hs : e.scheduler.Ordered)
    {s s' : S} {frame : InputFrame C} {record : ReplayTickRecord C Snapshot}
    (h : e.tickStep s frame = .ok (s', record)) :
    TickSpec (e.fresh s) ((e.fresh s).advance s' [record]) frame (resultOf record) record := by
  have ht := (tickStep_iff hs).mp h
  obtain ⟨r, hspec, hadv, -⟩ := tick_advances (e := e.fresh s) hs ht
  have hr : r = record := by
    have hl := congrArg (fun e => e.replayLog.records) hadv
    simpa [advance, fresh, InMemoryReplayLog.default] using hl.symm
  rw [hr] at hspec
  exact hspec

theorem tickStep_acts {e : DeterministicEngine S C P V Snapshot} (hs : e.scheduler.Ordered)
    {s s' : S} {frame : InputFrame C} {record : ReplayTickRecord C Snapshot}
    (h : e.tickStep s frame = .ok (s', record)) :
    ∃ t, actAll (e.scheduler.planOrder.map (·.phase))
        (⟨e.seed, tickSeed e.seed frame.tick, frame.tick, frame⟩ : TickContext C) s = .ok () t ∧
      s' = SimulationState.setTick t frame.tick ∧
      ∀ j checkpoint, e.scheduler.phasePlan.length = j + 1 →
        checkpointAt e.validationPolicy e.scheduler.phasePlan j = some checkpoint →
        StateValidator.validate e.validator
          ⟨checkpoint, frame.tick, tickSeed e.seed frame.tick⟩ t = .ok () := by
  obtain ⟨t, hvisit, -, hset, hval⟩ := (tickStep_spec hs h).phases
  exact ⟨t, visited_acts (e := e.fresh s) hs hvisit, hset, hval⟩

omit [SimulationState S Snapshot] [StateValidator V S] [QuietPhase P S C Snapshot] in
/- What every phase keeps, the phases keep together. -/
theorem actAll_keeps {R : S → S → Prop} (hrefl : ∀ s, R s s)
    (htrans : ∀ s t r, R s t → R t r → R s r)
    (hact : ∀ (p : P) (ctx : TickContext C) (s t : S), PurePhase.act p ctx s = .ok () t → R s t)
    {ps : List P} {ctx : TickContext C} {s t : S}
    (h : (actAll ps ctx : EStateM EngineError S Unit) s = .ok () t) : R s t := by
  induction ps generalizing s with
  | nil =>
    obtain ⟨-, rfl⟩ := estate_pure_ok.mp h
    exact hrefl s
  | cons p ps ih =>
    obtain ⟨u, r, h1, h2⟩ := estate_bind_ok.mp h
    exact htrans s r t (hact p ctx s r h1) (ih h2)

omit [SimulationState S Snapshot] [StateValidator V S] [Phase P S C Snapshot]
  [PurePhase P S C Snapshot] [QuietPhase P S C Snapshot] in
theorem prepend_fresh {e : DeterministicEngine S C P V Snapshot}
    (hidle : e.replayLog.pending = none) :
    prepend e.replayLog.records (e.fresh e.state) = e := by
  obtain ⟨seed, state, ⟨records, pending⟩, sched, snap, pol, val⟩ := e
  simp only at hidle
  subst hidle
  simp [prepend, fresh, InMemoryReplayLog.prepend, InMemoryReplayLog.default]

/- The engine refines its machine: the log only grows by what the step emits. -/
theorem tick_refines {e e' : DeterministicEngine S C P V Snapshot} (hs : e.scheduler.Ordered)
    (hidle : e.replayLog.pending = none) {frame : InputFrame C} {result : TickResult Snapshot} :
    e.tick frame = .ok result e' ↔
      ∃ s' record, e.tickStep e.state frame = .ok (s', record) ∧ e' = e.advance s' [record] ∧
        result = resultOf record := by
  have hcomm := tick_prepend frame e.replayLog.records (e.fresh e.state)
  rw [prepend_fresh hidle] at hcomm
  rw [hcomm, mapState_ok]
  constructor
  · rintro ⟨e1, ht, rfl⟩
    obtain ⟨record, hspec, hadv, hres⟩ := tick_advances (e := e.fresh e.state) hs ht
    refine ⟨e1.state, record, ?_, ?_, hres⟩
    · rw [tickStep_iff hs, ← hadv, ht, hres]
    · rw [hadv]
      simp [prepend, advance, fresh, InMemoryReplayLog.prepend, InMemoryReplayLog.default]
  · rintro ⟨s', record, hstep, rfl, rfl⟩
    refine ⟨_, (tickStep_iff hs).mp hstep, ?_⟩
    simp [prepend, advance, fresh, InMemoryReplayLog.prepend, InMemoryReplayLog.default]

/-- `for frame in frames { engine.tick(frame)?; }`. -/
def tickAll : List (InputFrame C) → Call S C P V Snapshot Unit
  | [] => pure ()
  | frame :: frames => do
    let _ ← tick frame
    tickAll frames

theorem tickAll_refines {e e' : DeterministicEngine S C P V Snapshot} (hs : e.scheduler.Ordered)
    (hidle : e.replayLog.pending = none) {frames : List (InputFrame C)} {u : Unit} :
    tickAll frames e = .ok u e' ↔
      ∃ s' records, e.machine.run e.state frames = .ok (s', records) ∧
        e' = e.advance s' records := by
  induction frames generalizing e with
  | nil =>
    have hself : e.advance e.state [] = e := by
      obtain ⟨seed, state, ⟨records, pending⟩, sched, snap, pol, val⟩ := e
      simp only at hidle
      subst hidle
      simp [advance]
    simp only [tickAll, estate_pure_ok, run_nil_ok, true_and]
    constructor
    · rintro rfl
      exact ⟨e.state, [], ⟨rfl, rfl⟩, hself.symm⟩
    · rintro ⟨s', records, ⟨rfl, rfl⟩, rfl⟩
      exact hself.symm
  | cons frame frames ih =>
    simp only [tickAll, estate_bind_ok, run_cons_ok]
    constructor
    · rintro ⟨result, e1, h1, h2⟩
      obtain ⟨s1, record, hstep, rfl, -⟩ := (tick_refines hs hidle).mp h1
      obtain ⟨s', records, hrun, rfl⟩ := (ih (e := e.advance s1 [record]) hs rfl).mp h2
      refine ⟨s', record :: records, ⟨s1, record, records, hstep, hrun, rfl⟩, ?_⟩
      simp [advance]
    · rintro ⟨s', records, ⟨s1, record, records', hstep, hrun, rfl⟩, rfl⟩
      refine ⟨resultOf record, e.advance s1 [record], (tick_refines hs hidle).mpr
        ⟨s1, record, hstep, rfl, rfl⟩,
        (ih (e := e.advance s1 [record]) hs rfl).mpr ⟨s', records', hrun, ?_⟩⟩
      simp [advance]

end DeterministicEngine

end Pure

end XenorEngine.Rust
