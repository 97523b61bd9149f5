import XenorEngine.Rust.EngineCalls
import XenorEngine.Rust.EngineTrace

/-!
# When a tick succeeds

`tick_spec` says what a successful tick has done; here is when there is one. For
phases that only touch the state, a tick is its phases in plan order with the
enabled checks between them, and nothing else can stop it.
-/

namespace XenorEngine.Rust
open XenorEngine.Lib.Fallible XenorEngine.Lib.Runs

/-! ### Checks that both validators make -/

/-- The marker an engine may start a tick with. -/
def MarkerFor (tick : Tick) (marker : UInt64) : Prop :=
  if tick = 0 then marker = 0 else marker ≠ 0

section Checks
variable {context : ValidationContext} {tick : Tick} {marker : UInt64}

theorem expectTickAlignment_eq_ok : expectTickAlignment context tick = .ok () ↔
    tick = saturatingSubU64 context.tick 1 := by
  simp only [expectTickAlignment, rejectIf_eq_ok, ne_eq, not_not]

theorem expectMarkerZero_eq_ok : expectMarkerZero context marker = .ok () ↔ marker = 0 := by
  simp only [expectMarkerZero, rejectIf_eq_ok, ne_eq, not_not]

theorem expectPreviousMarker_eq_ok :
    expectPreviousMarker context tick marker = .ok () ↔ MarkerFor tick marker := by
  unfold expectPreviousMarker MarkerFor
  split
  · exact expectMarkerZero_eq_ok
  · exact rejectIf_eq_ok

theorem expectCurrentMarker_eq_ok {expected : UInt64} :
    expectCurrentMarker context expected marker = .ok () ↔ marker = expected := by
  simp only [expectCurrentMarker, rejectIf_eq_ok, ne_eq, not_not]

theorem shouldValidate_afterFinalize (policy : ValidationPolicy) :
    policy.shouldValidate .afterFinalize = true := by
  cases policy <;> rfl

theorem expected_tick_iff {tick next : Tick} :
    next = saturatingAddU64 tick 1 ∧ tick = saturatingSubU64 next 1 ↔
      next.toNat = tick.toNat + 1 := by
  constructor
  · rintro ⟨rfl, htick⟩
    have hlt := saturating_next htick
    rw [hlt.2, UInt64.toNat_add, UInt64.toNat_one]
    exact Nat.mod_eq_of_lt hlt.1
  · intro hnext
    have hlt := next.toNat_lt
    have hadd : next = tick + 1 := by
      rw [← UInt64.toNat_inj, UInt64.toNat_add, UInt64.toNat_one, hnext, Nat.mod_eq_of_lt (by omega)]
    rw [hadd, saturating_pred (by omega), saturatingAddU64, UInt64.toNat_one, if_pos (by omega)]
    exact ⟨rfl, rfl⟩

end Checks

/-- A record without its validation summaries. -/
def unvalidated {C Snapshot : Type} (record : ReplayTickRecord C Snapshot) :
    ReplayTickRecord C Snapshot := { record with validationSummaries := [] }

section Outcome
variable {S C P V Snapshot : Type} [SimulationState S Snapshot] [StateValidator V S]
  [Phase P S C Snapshot]

/-! ### Checked phases -/

section Checked
variable [PurePhase P S C Snapshot]

/-- The check after phase `k` of the plan, if there is one. -/
def PassesAt (policy : ValidationPolicy) (validator : V) (plan : List PhaseDescriptor)
    (ctx : TickContext C) (k : ℕ) (s : S) : Prop :=
  ∀ checkpoint ∈ checkpointAt policy plan k,
    StateValidator.validate validator ⟨checkpoint, ctx.tick, ctx.tickSeed⟩ s = .ok ()

omit [SimulationState S Snapshot] [Phase P S C Snapshot] [PurePhase P S C Snapshot] in
theorem passesAt_none {policy : ValidationPolicy} {validator : V} {plan : List PhaseDescriptor}
    {ctx : TickContext C} {k : ℕ} {s : S} (h : checkpointAt policy plan k = none) :
    PassesAt policy validator plan ctx k s ↔ True := by
  simp only [PassesAt, h, Option.not_mem_none, IsEmpty.forall_iff, implies_true]

omit [SimulationState S Snapshot] [Phase P S C Snapshot] [PurePhase P S C Snapshot] in
theorem passesAt_some {policy : ValidationPolicy} {validator : V} {plan : List PhaseDescriptor}
    {ctx : TickContext C} {k : ℕ} {s : S} {checkpoint : ValidationCheckpoint}
    (h : checkpointAt policy plan k =
      if policy.shouldValidate checkpoint then some checkpoint else none) :
    PassesAt policy validator plan ctx k s ↔ (policy.shouldValidate checkpoint = true →
      StateValidator.validate validator ⟨checkpoint, ctx.tick, ctx.tickSeed⟩ s = .ok ()) := by
  simp only [PassesAt, h, Option.mem_ite_none_right, Option.mem_some_iff]
  constructor
  · exact fun hpass hon => hpass checkpoint ⟨hon, rfl⟩
  · rintro hpass c ⟨hon, rfl⟩
    exact hpass hon

/-- The phases from position `k` of the plan on take `s` to `t` past all checks. -/
def Passes (policy : ValidationPolicy) (validator : V) (plan : List PhaseDescriptor)
    (ctx : TickContext C) : ℕ → List P → S → S → Prop
  | _, [], s, t => s = t
  | k, p :: ps, s, t => ∃ r, PurePhase.act p ctx s = .ok () r ∧
      PassesAt policy validator plan ctx k r ∧ Passes policy validator plan ctx (k + 1) ps r t

omit [SimulationState S Snapshot] in
theorem passes_acts {policy : ValidationPolicy} {validator : V} {plan : List PhaseDescriptor}
    {ctx : TickContext C} {ps : List P} {k : ℕ} {s t : S}
    (h : Passes policy validator plan ctx k ps s t) :
    (DeterministicEngine.actAll ps ctx : EStateM EngineError S Unit) s = .ok () t := by
  induction ps generalizing k s with
  | nil => exact estate_pure_ok.mpr ⟨rfl, h⟩
  | cons p ps ih =>
    obtain ⟨r, hact, -, hrest⟩ := h
    exact estate_bind_ok.mpr ⟨(), r, hact, ih hrest⟩

/- What a successful turn of the visiting loop did, whatever the log. -/
theorem phaseVisitor_passes {plan : List PhaseDescriptor} {policy : ValidationPolicy}
    {validator : V} {ctx : TickContext C} {d : PhaseDescriptor} {k : ℕ}
    (hd : plan[k]? = some d) {p : P} {s : S} {log : InMemoryReplayLog C Snapshot}
    {r : P × S × InMemoryReplayLog C Snapshot × ℕ}
    (h : DeterministicEngine.phaseVisitor plan policy validator ctx d (p, s, log, k) =
      .ok () r) :
    PurePhase.act p ctx s = .ok () r.2.1 ∧ PassesAt policy validator plan ctx k r.2.1 ∧
      r.1 = p ∧ r.2.2.2 = k + 1 := by
  have hat : checkpointAt policy plan k =
      (checkpointAfter d.group (plan[k + 1]?.map (·.group))).filter policy.shouldValidate := by
    simp only [checkpointAt, hd, Option.bind_some]
  obtain ⟨p1, s1, marked, ran, done, rfl, -, hrun, -, hchecked⟩ := phaseVisitor_ok h
  obtain ⟨hact, hphase, -⟩ := phaseRun_ok hrun
  rw [← hat] at hchecked
  refine ⟨hact, ?_, hphase, rfl⟩
  intro checkpoint hmem
  exact validateAndRecord_valid (hchecked checkpoint hmem)

/- The other way round: with a record open, acting and passing is all a turn needs. -/
theorem phaseVisitor_of_passes {plan : List PhaseDescriptor} {policy : ValidationPolicy}
    {validator : V} {ctx : TickContext C} {d : PhaseDescriptor} {k : ℕ}
    (hd : plan[k]? = some d) {p : P} {s s1 : S} {log : InMemoryReplayLog C Snapshot}
    {records : List (ReplayTickRecord C Snapshot)} (ho : log.Open records)
    (hact : PurePhase.act p ctx s = .ok () s1) (hpass : PassesAt policy validator plan ctx k s1) :
    ∃ log1 : InMemoryReplayLog C Snapshot, log1.Open records ∧
      DeterministicEngine.phaseVisitor plan policy validator ctx d (p, s, log, k) =
        .ok () (p, s1, log1, k + 1) := by
  have hat : checkpointAt policy plan k =
      (checkpointAfter d.group (plan[k + 1]?.map (·.group))).filter policy.shouldValidate := by
    simp only [checkpointAt, hd, Option.bind_some]
  obtain ⟨recs, pending⟩ := log
  cases pending with
  | none => exact absurd rfl ho.pending
  | some pending =>
    simp only [DeterministicEngine.phaseVisitor, InMemoryReplayLog.recordPhase,
      PurePhase.run_eq, hact, ← hat]
    cases hc : checkpointAt policy plan k with
    | none =>
      refine ⟨_, ?_, rfl⟩
      exact ⟨ho.records_eq, Option.some_ne_none _⟩
    | some checkpoint =>
      have hv := hpass checkpoint hc
      simp only [validateAndRecord, hv, InMemoryReplayLog.recordValidation]
      refine ⟨_, ?_, rfl⟩
      exact ⟨ho.records_eq, Option.some_ne_none _⟩

/- The loop over the entries still to visit, both ways; the induction is on these entries. -/
theorem visitFrom_passes {plan : List PhaseDescriptor} {policy : ValidationPolicy}
    {validator : V} {ctx : TickContext C} {rest : List (PhaseEntry P × ℕ)} {k : ℕ}
    {s : FixedScheduler P} {t : S} {log : InMemoryReplayLog C Snapshot}
    {u : FixedScheduler P × S × InMemoryReplayLog C Snapshot × ℕ}
    (hrest : ∀ p ∈ rest, s.phases[p.2]? = some p.1)
    (hplan : ∀ j p, rest[j]? = some p →
      plan[k + j]? = some (FixedScheduler.descriptor (k + j) p.1))
    (h : FixedScheduler.visitFrom (DeterministicEngine.phaseVisitor plan policy validator ctx)
      k rest (s, t, log, k) = .ok () u) :
    Passes policy validator plan ctx k (rest.map (·.1.phase)) t u.2.1 := by
  induction rest generalizing k t log with
  | nil => rw [← (estate_pure_ok.mp h).2]; rfl
  | cons p rest ih =>
    obtain ⟨_, ⟨s1, t1, log1, k1⟩, hvisit, hmore⟩ := estate_bind_ok.mp h
    have hp := hrest p (List.mem_cons_self ..)
    obtain ⟨phase, hv, rfl⟩ := FixedScheduler.visitEntry_ok hp hvisit
    obtain ⟨hact, hpass, hphase, hk⟩ := phaseVisitor_passes (hplan 0 p rfl) hv
    simp only at hphase hk hact hpass
    subst hphase hk
    rw [FixedScheduler.setPhase_self hp] at hmore
    refine ⟨t1, hact, hpass, ih (fun q hq => hrest q (List.mem_cons_of_mem _ hq)) ?_ hmore⟩
    intro j q hq
    have hj : k + 1 + j = k + (j + 1) := by omega
    rw [hj]
    exact hplan (j + 1) q hq

theorem visitFrom_of_passes {plan : List PhaseDescriptor} {policy : ValidationPolicy}
    {validator : V} {ctx : TickContext C} {rest : List (PhaseEntry P × ℕ)} {k : ℕ}
    {s : FixedScheduler P} {t t' : S} {log : InMemoryReplayLog C Snapshot}
    {records : List (ReplayTickRecord C Snapshot)}
    (hrest : ∀ p ∈ rest, s.phases[p.2]? = some p.1)
    (hplan : ∀ j p, rest[j]? = some p →
      plan[k + j]? = some (FixedScheduler.descriptor (k + j) p.1))
    (ho : log.Open records)
    (h : Passes policy validator plan ctx k (rest.map (·.1.phase)) t t') :
    ∃ log' index, log'.Open records ∧
      FixedScheduler.visitFrom (DeterministicEngine.phaseVisitor plan policy validator ctx)
        k rest (s, t, log, k) = .ok () (s, t', log', index) := by
  induction rest generalizing k t log with
  | nil =>
    obtain rfl : t = t' := h
    exact ⟨log, k, ho, rfl⟩
  | cons p rest ih =>
    obtain ⟨t1, hact, hpass, hmore⟩ := h
    have hp := hrest p (List.mem_cons_self ..)
    obtain ⟨log1, ho1, hv⟩ := phaseVisitor_of_passes (hplan 0 p rfl) ho hact hpass
    have hplan1 : ∀ j q, rest[j]? = some q →
        plan[k + 1 + j]? = some (FixedScheduler.descriptor (k + 1 + j) q.1) := by
      intro j q hq
      have hj : k + 1 + j = k + (j + 1) := by omega
      rw [hj]
      exact hplan (j + 1) q hq
    obtain ⟨log', index, ho', hrun⟩ :=
      ih (fun q hq => hrest q (List.mem_cons_of_mem _ hq)) hplan1 ho1 hmore
    refine ⟨log', index, ho', estate_bind_ok.mpr ⟨(), (s, t1, log1, k + 1), ?_, hrun⟩⟩
    simp only [Nat.add_zero] at hv
    simp only [FixedScheduler.visitEntry, hp, hv, FixedScheduler.setPhase_self hp]

namespace DeterministicEngine

/-- The phases of a tick alone, with no checks and nothing recorded. -/
def phasesStep (e : DeterministicEngine S C P V Snapshot) (s : S) (frame : InputFrame C) :
    Except EngineError (S × S) :=
  match (actAll (e.scheduler.planOrder.map (·.phase)) (e.contextOf frame) :
      EStateM EngineError S Unit) s with
  | .ok _ t => .ok (SimulationState.setTick t frame.tick, SimulationState.setTick t frame.tick)
  | .error err _ => .error err

omit [StateValidator V S] in
theorem phasesStep_eq_ok {e : DeterministicEngine S C P V Snapshot} {s s' out : S}
    {frame : InputFrame C} : e.phasesStep s frame = .ok (s', out) ↔ out = s' ∧
      ∃ t, (actAll (e.scheduler.planOrder.map (·.phase)) (e.contextOf frame) :
          EStateM EngineError S Unit) s = .ok () t ∧ s' = SimulationState.setTick t frame.tick := by
  unfold phasesStep
  split
  · rename_i u t hacts
    simp only [Except.ok.injEq, Prod.mk.injEq, hacts, EStateM.Result.ok.injEq, true_and]
    constructor
    · rintro ⟨rfl, rfl⟩
      exact ⟨rfl, t, rfl, rfl⟩
    · rintro ⟨rfl, r, rfl, rfl⟩
      exact ⟨rfl, rfl⟩
  · rename_i err t hacts
    simp [hacts]

/-- Its outputs are the states at the ends of the ticks. -/
def phasesMachine (e : DeterministicEngine S C P V Snapshot) :
    Machine S (InputFrame C) S EngineError := ⟨e.phasesStep⟩

/- When a tick succeeds, and the state it leaves. -/
theorem tick_ok_iff {e : DeterministicEngine S C P V Snapshot} (hs : e.scheduler.Ordered)
    {frame : InputFrame C} {s' : S} :
    (∃ result e', e.tick frame = .ok result e' ∧ e'.state = s') ↔
      frame.tick = saturatingAddU64 (SimulationState.tick e.state) 1 ∧
      e.replayLog.pending = none ∧
      StateValidator.validate e.validator
        ⟨.beforeTickBegin, frame.tick, tickSeed e.seed frame.tick⟩ e.state = .ok () ∧
      ∃ t, Passes e.validationPolicy e.validator e.scheduler.phasePlan (e.contextOf frame) 0
          (e.scheduler.planOrder.map (·.phase)) e.state t ∧
        s' = SimulationState.setTick t frame.tick := by
  have hfst := FixedScheduler.visitOrder_fst hs
  have hphases : e.scheduler.visitOrder.map (·.1.phase) = e.scheduler.planOrder.map (·.phase) := by
    rw [← hfst, List.map_map]
    rfl
  have hplan : ∀ j p, e.scheduler.visitOrder[j]? = some p →
      e.scheduler.phasePlan[0 + j]? = some (FixedScheduler.descriptor (0 + j) p.1) := by
    intro j p hp
    have hentry : e.scheduler.planOrder[j]? = some p.1 := by
      rw [← hfst, List.getElem?_map, hp]
      rfl
    simp only [Nat.zero_add, FixedScheduler.phasePlan, List.getElem?_mapIdx, hentry,
      Option.map_some]
  rw [← hphases]
  constructor
  · rintro ⟨result, e', h, rfl⟩
    obtain ⟨hexp, hidle, hbefore, r, hvisit, log, -, rfl⟩ := tick_eq_ok.mp h
    exact ⟨hexp, hidle, hbefore, r.2.1,
      visitFrom_passes (fun p hp => FixedScheduler.mem_visitOrder hp) hplan hvisit, rfl⟩
  · rintro ⟨hexp, hidle, hbefore, t, hpasses, rfl⟩
    have hopen : (e.openLog frame).Open e.replayLog.records := by
      refine ⟨rfl, ?_⟩
      exact Option.some_ne_none _
    obtain ⟨log, index, ho, hvisit⟩ := visitFrom_of_passes
      (fun p hp => FixedScheduler.mem_visitOrder hp) hplan hopen hpasses
    obtain ⟨done, hdone⟩ := completeTick_open ho
      (SimulationState.checksum (SimulationState.setTick t frame.tick))
      ((e.visited frame (e.scheduler, t, log, index)).applySnapshotPolicy frame.tick
        (SimulationState.checksum (SimulationState.setTick t frame.tick)))
    exact ⟨_, _, tick_eq_ok.mpr ⟨hexp, hidle, hbefore, _, hvisit, done, ⟨rfl, hdone⟩, rfl⟩, rfl⟩

/-- The tick gets as far as its phases. -/
def Admits (e : DeterministicEngine S C P V Snapshot) (frame : InputFrame C) : Prop :=
  frame.tick = saturatingAddU64 (SimulationState.tick e.state) 1 ∧
    e.replayLog.pending = none ∧
    StateValidator.validate e.validator
      ⟨.beforeTickBegin, frame.tick, tickSeed e.seed frame.tick⟩ e.state = .ok ()

omit [PurePhase P S C Snapshot] in
theorem tick_of_before_error {e : DeterministicEngine S C P V Snapshot} {frame : InputFrame C}
    (hexp : frame.tick = saturatingAddU64 (SimulationState.tick e.state) 1)
    (hidle : e.replayLog.pending = none) {err : EngineError}
    (hv : StateValidator.validate e.validator
      ⟨.beforeTickBegin, frame.tick, tickSeed e.seed frame.tick⟩ e.state = .error err) :
    e.tick frame = .error err { e with replayLog := ⟨e.replayLog.records,
      some ⟨frame.tick, frame, tickSeed e.seed frame.tick, [], []⟩⟩ } := by
  have hbegin : recordReplayInputBegin frame (tickSeed e.seed frame.tick) e =
      .ok () { e with replayLog := ⟨e.replayLog.records,
        some ⟨frame.tick, frame, tickSeed e.seed frame.tick, [], []⟩⟩ } := by
    simp only [recordReplayInputBegin, onLog, InMemoryReplayLog.beginTick, hidle]
  unfold DeterministicEngine.tick
  refine estate_bind_error.mpr (.inr ⟨_, e, validateOrderedInput_expected hexp, ?_⟩)
  refine estate_bind_error.mpr (.inr ⟨e, e, rfl, ?_⟩)
  refine estate_bind_error.mpr (.inr ⟨(), _, hbegin, ?_⟩)
  refine estate_bind_error.mpr (.inl ?_)
  simp only [runValidationCheckpoint, shouldValidate_before, Bool.not_true, Bool.false_eq_true,
    if_false, validateAndRecord, hv]

omit [PurePhase P S C Snapshot] in
theorem tick_of_not_admits {e : DeterministicEngine S C P V Snapshot} {frame : InputFrame C}
    (h : ¬ e.Admits frame) : ∃ err e', e.tick frame = .error err e' ∧ e'.state = e.state := by
  by_cases hexp : frame.tick = saturatingAddU64 (SimulationState.tick e.state) 1
  swap
  · exact ⟨_, e, tick_of_unexpected hexp, rfl⟩
  by_cases hidle : e.replayLog.pending = none
  swap
  · exact ⟨_, e, tick_of_busy hexp hidle, rfl⟩
  cases hv : StateValidator.validate e.validator
      ⟨.beforeTickBegin, frame.tick, tickSeed e.seed frame.tick⟩ e.state with
  | ok u => exact absurd ⟨hexp, hidle, hv⟩ h
  | error err => exact ⟨err, _, tick_of_before_error hexp hidle hv, rfl⟩

/- What the phases keep of a state, a tick keeps, completed or not. -/
theorem tick_keeps {e e' : DeterministicEngine S C P V Snapshot} (hs : e.scheduler.Ordered)
    {frame : InputFrame C} {J : S → Prop} (hJ : KeptByPhases P frame J)
    (hset : ∀ s tick, J s → J (SimulationState.setTick s tick)) (h0 : J e.state)
    {result : CallResult Snapshot} (h : e.perform (.tick frame) = .ok (e', result)) :
    J e'.state := by
  have hacts : ∀ (ps : List P) (s t : S), J s → (actAll ps (e.contextOf frame) :
      EStateM EngineError S Unit) s = .ok () t → J t := by
    intro ps
    induction ps with
    | nil =>
      intro s t hjs hact
      obtain ⟨-, rfl⟩ := estate_pure_ok.mp hact
      exact hjs
    | cons p ps ih =>
      intro s t hjs hact
      obtain ⟨_, r, hp, hrest⟩ := estate_bind_ok.mp hact
      have hr := hJ p (e.contextOf frame) rfl s hjs
      rw [hp] at hr
      exact ih r t hr hrest
  simp only [perform] at h
  split at h
  · rename_i res e1 ht
    obtain ⟨rfl, -⟩ := Prod.mk.inj (Except.ok.inj h)
    obtain ⟨-, -, -, t, hpasses, hstate⟩ := (tick_ok_iff hs).mp ⟨res, e1, ht, rfl⟩
    rw [hstate]
    exact hset _ _ (hacts _ _ _ h0 (passes_acts hpasses))
  · rename_i err e1 ht
    obtain ⟨rfl, -⟩ := Prod.mk.inj (Except.ok.inj h)
    cases tick_fails ht with
    | unexpected => exact h0
    | busy => exact h0
    | midway _ _ hmid => exact hmid.state J hJ h0

variable [QuietPhase P S C Snapshot]

theorem tickStep_ok_iff {e : DeterministicEngine S C P V Snapshot} (hs : e.scheduler.Ordered)
    {s s' : S} {frame : InputFrame C} :
    (∃ record, e.tickStep s frame = .ok (s', record)) ↔
      frame.tick = saturatingAddU64 (SimulationState.tick s) 1 ∧
      StateValidator.validate e.validator
        ⟨.beforeTickBegin, frame.tick, tickSeed e.seed frame.tick⟩ s = .ok () ∧
      ∃ t, Passes e.validationPolicy e.validator e.scheduler.phasePlan (e.contextOf frame) 0
          (e.scheduler.planOrder.map (·.phase)) s t ∧
        s' = SimulationState.setTick t frame.tick := by
  have hfresh : (e.fresh s).scheduler.Ordered := hs
  have hiff := @tick_ok_iff _ _ _ _ _ _ _ _ _ _ hfresh frame s'
  constructor
  · rintro ⟨record, h⟩
    obtain ⟨hexp, -, hrest⟩ := hiff.mp ⟨_, _, (tickStep_iff hs).mp h, rfl⟩
    exact ⟨hexp, hrest⟩
  · rintro ⟨hexp, hrest⟩
    obtain ⟨result, e', h, rfl⟩ := hiff.mpr ⟨hexp, rfl, hrest⟩
    obtain ⟨record, -, hadv, hres⟩ := tick_advances (e := e.fresh s) hs h
    refine ⟨record, (tickStep_iff hs).mpr ?_⟩
    rw [h, hres, ← hadv]

omit [PurePhase P S C Snapshot] [QuietPhase P S C Snapshot] in
/- An engine steps as any other of the same wiring does. -/
theorem tickStep_congr {e e0 : DeterministicEngine S C P V Snapshot}
    (h : e.wiring = e0.wiring) : e.tickStep = e0.tickStep := by
  have hfresh : ∀ s, e.fresh s = e0.fresh s := by
    intro s
    obtain ⟨seed, state, log, sched, snap, policy, validator⟩ := e
    obtain ⟨seed0, state0, log0, sched0, snap0, policy0, validator0⟩ := e0
    simp only [wiring, Prod.mk.injEq] at h
    obtain ⟨rfl, rfl, rfl, rfl, rfl⟩ := h
    rfl
  funext s frame
  rw [tickStep, tickStep, hfresh]

theorem tick_tickStep {e e' : DeterministicEngine S C P V Snapshot} (hs : e.scheduler.Ordered)
    {frame : InputFrame C} {result : TickResult Snapshot} (h : e.tick frame = .ok result e') :
    ∃ record, e.tickStep e.state frame = .ok (e'.state, record) := by
  obtain ⟨hexp, -, hrest⟩ := (tick_ok_iff hs).mp ⟨result, e', h, rfl⟩
  exact (tickStep_ok_iff hs).mpr ⟨hexp, hrest⟩

/-- The record of a tick, but for its validation summaries, in terms of where it led. -/
def recordTo (e : DeterministicEngine S C P V Snapshot) (frame : InputFrame C) (s' : S) :
    ReplayTickRecord C Snapshot where
  tick := frame.tick
  input := frame
  tickSeed := tickSeed e.seed frame.tick
  phaseMarkers := e.scheduler.phasePlan.map PhaseMarker.fromDescriptor
  validationSummaries := []
  checksum := SimulationState.checksum s'
  snapshot := (e.snapshotPolicy.shouldCapture frame.tick).map fun reason =>
    ⟨⟨SimulationState.snapshotSchemaVersion S, frame.tick, SimulationState.checksum s'⟩, reason,
      SimulationState.snapshot s'⟩

theorem tickStep_record {e : DeterministicEngine S C P V Snapshot} (hs : e.scheduler.Ordered)
    {s s' : S} {frame : InputFrame C} {record : ReplayTickRecord C Snapshot}
    (h : e.tickStep s frame = .ok (s', record)) :
    unvalidated record = e.recordTo frame s' := by
  have hspec := tickStep_spec hs h
  have htick : record.tick = frame.tick := hspec.record_tick
  have hinput : record.input = frame := hspec.record_input
  have hseed : record.tickSeed = tickSeed e.seed frame.tick := hspec.record_seed
  have hmarkers : record.phaseMarkers =
    e.scheduler.phasePlan.map PhaseMarker.fromDescriptor := hspec.markers
  have hchecksum : record.checksum = SimulationState.checksum s' := hspec.checksum
  have hsnapshot := hspec.snapshot
  rw [hchecksum] at hsnapshot
  simp only [unvalidated, recordTo, htick, hinput, hseed, hmarkers, hchecksum, hsnapshot]
  rfl

end DeterministicEngine

end Checked

end Outcome

end XenorEngine.Rust
