import XenorEngine.Rust.EngineCalls
import XenorEngine.Rust.EngineTrace

/-!
# Checkpoints of any schedule

Where the tick loop looks at the next entry of the plan to see whether a group ends.
The plan runs through the groups in order, so what it finds is fixed by the number of
phases in each group: one checkpoint at the end of the inputs, one at the end of the
simulation, and one after every finalize phase.
-/

namespace XenorEngine.Rust
open XenorEngine.Lib.Fallible

/-- The group whose end a checkpoint marks. -/
def ValidationCheckpoint.group : ValidationCheckpoint → Option PhaseGroup
  | .beforeTickBegin => none
  | .afterInputApplied => some .input
  | .afterSimulationGroup => some .simulation
  | .afterFinalize => some .finalize

theorem checkpointAfter_group {group : PhaseGroup} {next : Option PhaseGroup}
    {checkpoint : ValidationCheckpoint} (h : checkpointAfter group next = some checkpoint) :
    checkpoint.group = some group ∧ (next = some group → group = .finalize) := by
  unfold checkpointAfter at h
  split at h
  · split at h
    · rename_i hne
      cases h
      exact ⟨rfl, fun he => absurd (Option.some.inj he) hne⟩
    · cases h
  · cases h
    exact ⟨rfl, fun he => by cases he⟩
  · split at h
    · rename_i hne
      cases h
      exact ⟨rfl, fun he => absurd (Option.some.inj he) hne⟩
    · cases h
  · cases h
    exact ⟨rfl, fun he => by cases he⟩
  · cases h
    exact ⟨rfl, fun _ => rfl⟩
  · cases h

/-! ### The groups of a plan -/

def PhaseGroup.rank : PhaseGroup → ℕ
  | .preInput => 0
  | .input => 1
  | .simulation => 2
  | .postSimulation => 3
  | .finalize => 4

theorem PhaseGroup.rank_injective {a b : PhaseGroup} (h : a.rank = b.rank) : a = b := by
  cases a <;> cases b <;> first | rfl | cases h

section Plan
variable {P : Type} [PhaseName P]

theorem phasePlan_groups {s : FixedScheduler P} (hs : s.Ordered) :
    s.phasePlan.map (·.group) =
      PhaseGroup.ALL.flatMap fun group => List.replicate (s.groupCount group) group := by
  have hmap : s.phasePlan.map (·.group) = s.planOrder.map (·.group) := by
    apply List.ext_getElem?
    intro i
    simp only [FixedScheduler.phasePlan, List.getElem?_map, List.getElem?_mapIdx, Option.map_map]
    rfl
  rw [hmap, FixedScheduler.planOrder_eq hs, List.map_flatMap]
  congr 1
  funext group
  rw [FixedScheduler.groupCount, List.countP_eq_length_filter, List.eq_replicate_iff]
  refine ⟨List.length_map .., ?_⟩
  intro g hg
  obtain ⟨entry, hentry, rfl⟩ := List.mem_map.mp hg
  simpa using (List.mem_filter.mp hentry).2

theorem phasePlan_sorted {s : FixedScheduler P} (hs : s.Ordered) :
    (s.phasePlan.map (·.group)).Pairwise fun a b => a.rank ≤ b.rank := by
  rw [phasePlan_groups hs, List.pairwise_flatMap]
  constructor
  · intro group _
    exact List.pairwise_replicate.mpr (.inr le_rfl)
  · have hall : PhaseGroup.ALL.Pairwise fun a b => a.rank ≤ b.rank := by decide
    refine hall.imp ?_
    intro a b hab x hx y hy
    rw [List.eq_of_mem_replicate hx, List.eq_of_mem_replicate hy]
    exact hab

theorem count_finalize {s : FixedScheduler P} (hs : s.Ordered) :
    (s.phasePlan.map (·.group)).count .finalize = s.groupCount .finalize := by
  rw [phasePlan_groups hs]
  simp [PhaseGroup.ALL, List.count_replicate]

end Plan

/-! ### The checkpoints of a plan -/

/-- Every checkpoint the tick loop finds along these groups, under any policy. -/
def boundaries : List PhaseGroup → List ValidationCheckpoint
  | [] => []
  | group :: rest => (checkpointAfter group rest.head?).toList ++ boundaries rest

theorem boundaries_eq (groups : List PhaseGroup) :
    (List.range groups.length).filterMap
      (fun k => groups[k]?.bind fun group => checkpointAfter group groups[k + 1]?) =
        boundaries groups := by
  induction groups with
  | nil => rfl
  | cons group rest ih =>
    rw [List.length_cons, List.range_succ_eq_map, List.filterMap_cons, List.filterMap_map,
      boundaries, List.head?_eq_getElem?]
    simp only [List.getElem?_cons_zero, Option.bind_some, Nat.zero_add,
      List.getElem?_cons_succ, Function.comp_def, Nat.succ_eq_add_one]
    cases checkpointAfter group rest[0]? with
    | none => exact ih
    | some checkpoint => exact congrArg (checkpoint :: ·) ih

theorem checkpointsUpTo_boundaries (policy : ValidationPolicy) (plan : List PhaseDescriptor) :
    checkpointsUpTo policy plan plan.length =
      .beforeTickBegin :: (boundaries (plan.map (·.group))).filter policy.shouldValidate := by
  rw [checkpointsUpTo, ← boundaries_eq, List.filter_filterMap, List.length_map]
  congr 2
  funext k
  simp only [checkpointAt, List.getElem?_map]
  cases plan[k]? <;> rfl

/- A group whose checkpoint depends on what comes next. -/
theorem boundaries_replicate {group : PhaseGroup} (hf : group ≠ .finalize) (n : ℕ)
    {rest : List PhaseGroup} (hrest : rest.head? ≠ some group) :
    boundaries (List.replicate n group ++ rest) =
      (if n = 0 then [] else (checkpointAfter group none).toList) ++ boundaries rest := by
  have hinner : checkpointAfter group (some group) = none := by
    cases group <;> first | rfl | exact absurd rfl hf
  have hlast : checkpointAfter group rest.head? = checkpointAfter group none := by
    cases hr : rest.head? with
    | none => rfl
    | some next =>
      rw [hr] at hrest
      have hne : next ≠ group := fun he => hrest (congrArg some he)
      cases group <;> simp [checkpointAfter, hne]
  induction n with
  | zero => rfl
  | succ n ih =>
    rw [List.replicate_succ, List.cons_append, boundaries, ih]
    cases n with
    | zero => simp [hlast]
    | succ n => simp [List.replicate_succ, hinner]

theorem boundaries_finalize (n : ℕ) :
    boundaries (List.replicate n .finalize) = List.replicate n .afterFinalize := by
  induction n with
  | zero => rfl
  | succ n ih =>
    rw [List.replicate_succ, boundaries, ih, List.replicate_succ]
    rfl

section Plan
variable {P : Type} [PhaseName P]

/-- One checkpoint for each group that has phases, but one for each finalize phase. -/
def groupCheckpoints (inputs simulations finalizes : ℕ) : List ValidationCheckpoint :=
  (if inputs = 0 then [] else [.afterInputApplied]) ++
    ((if simulations = 0 then [] else [.afterSimulationGroup]) ++
      List.replicate finalizes .afterFinalize)

theorem tickCheckpoints {s : FixedScheduler P} (hs : s.Ordered) (policy : ValidationPolicy) :
    checkpointsUpTo policy s.phasePlan s.phasePlan.length = .beforeTickBegin ::
      (groupCheckpoints (s.groupCount .input) (s.groupCount .simulation)
        (s.groupCount .finalize)).filter policy.shouldValidate := by
  have hhead : ∀ (n : ℕ) (a : PhaseGroup) (l : List PhaseGroup) (g : PhaseGroup), a ≠ g →
      l.head? ≠ some g → (List.replicate n a ++ l).head? ≠ some g := by
    intro n a l g ha hl
    cases n with
    | zero => exact hl
    | succ n => simpa [List.replicate_succ] using ha
  have hnil : ∀ (n : ℕ) (a g : PhaseGroup), a ≠ g →
      (List.replicate n a).head? ≠ some g := by
    intro n a g ha
    simpa using hhead n a [] g ha (by simp)
  rw [checkpointsUpTo_boundaries, phasePlan_groups hs]
  congr 2
  simp only [PhaseGroup.ALL, List.flatMap_cons, List.flatMap_nil, List.append_nil]
  rw [boundaries_replicate (by decide) _ (hhead _ _ _ _ (by decide) (hhead _ _ _ _ (by decide)
      (hhead _ _ _ _ (by decide) (hnil _ _ _ (by decide))))),
    boundaries_replicate (by decide) _ (hhead _ _ _ _ (by decide) (hhead _ _ _ _ (by decide)
      (hnil _ _ _ (by decide)))),
    boundaries_replicate (by decide) _ (hhead _ _ _ _ (by decide) (hnil _ _ _ (by decide))),
    boundaries_replicate (by decide) _ (hnil _ _ _ (by decide)), boundaries_finalize]
  simp only [checkpointAfter, Option.toList_none, Option.toList_some, ite_self, List.nil_append,
    groupCheckpoints]

theorem tickCheckpoints_ordered_iff {s : FixedScheduler P} (hs : s.Ordered)
    (policy : ValidationPolicy) :
    ((checkpointsUpTo policy s.phasePlan s.phasePlan.length).map checkpointOrder).Pairwise
      (· < ·) ↔ s.groupCount .finalize ≤ 1 := by
  have hfinal : policy.shouldValidate .afterFinalize = true := by cases policy <;> rfl
  rw [tickCheckpoints hs]
  generalize s.groupCount .finalize = n
  constructor
  · intro h
    rw [groupCheckpoints, ← List.append_assoc, List.map_cons, List.filter_append,
      List.map_append] at h
    have htail := (List.pairwise_append.mp (List.pairwise_cons.mp h).2).2.1
    rw [List.filter_replicate_of_pos hfinal, List.map_replicate, List.pairwise_replicate] at htail
    exact htail.resolve_right (lt_irrefl _)
  · intro hn
    unfold groupCheckpoints
    rcases Nat.le_one_iff_eq_zero_or_eq_one.mp hn with rfl | rfl <;> cases policy <;>
      split <;> split <;> decide

theorem two_finalize_of_adjacent {s : FixedScheduler P} (hs : s.Ordered) {j : ℕ}
    (h0 : s.phasePlan[j]?.map (·.group) = some .finalize)
    (h1 : s.phasePlan[j + 1]?.map (·.group) = some .finalize) :
    2 ≤ s.groupCount .finalize := by
  obtain ⟨d0, hd0, hg0⟩ := Option.map_eq_some_iff.mp h0
  obtain ⟨d1, hd1, hg1⟩ := Option.map_eq_some_iff.mp h1
  have hdrop : s.phasePlan.drop j = d0 :: d1 :: s.phasePlan.drop (j + 2) := by
    rw [List.drop_eq_getElem_cons (List.getElem?_eq_some_iff.mp hd0).1,
      List.drop_eq_getElem_cons (List.getElem?_eq_some_iff.mp hd1).1,
      (List.getElem?_eq_some_iff.mp hd0).2, (List.getElem?_eq_some_iff.mp hd1).2]
  have htail := (List.drop_sublist j s.phasePlan).map (·.group)
  rw [hdrop, List.map_cons, List.map_cons, hg0, hg1] at htail
  have hcount := htail.count_le PhaseGroup.finalize
  rw [count_finalize hs, List.count_cons_self, List.count_cons_self] at hcount
  omega

/- No phase of its group is left when a checkpoint is reached. -/
theorem checkpointAt_last {s : FixedScheduler P} (hs : s.Ordered)
    (hn : s.groupCount .finalize ≤ 1) {policy : ValidationPolicy} {i j : ℕ}
    {checkpoint : ValidationCheckpoint} {d : PhaseDescriptor}
    (hc : checkpointAt policy s.phasePlan j = some checkpoint) (hd : s.phasePlan[i]? = some d)
    (hgroup : checkpoint.group = some d.group) : i ≤ j := by
  by_contra hlt
  have hc' := (Option.filter_eq_some_iff.mp hc).1
  obtain ⟨dj, hget, hafter⟩ := Option.bind_eq_some_iff.mp hc'
  have hdj : s.phasePlan[j]?.map (·.group) = some dj.group := by rw [hget, Option.map_some]
  obtain ⟨hg, hnext⟩ := checkpointAfter_group hafter
  have hsame : dj.group = d.group := Option.some.inj (hg.symm.trans hgroup)
  have hsorted := List.pairwise_iff_getElem.mp (phasePlan_sorted hs)
  have hi := (List.getElem?_eq_some_iff.mp hd).1
  have hat : ∀ k (hk : k < (s.phasePlan.map (·.group)).length),
      s.phasePlan[k]?.map (·.group) = some ((s.phasePlan.map (·.group))[k]) := by
    intro k hk
    rw [← List.getElem?_map, List.getElem?_eq_getElem hk]
  have hlen : (s.phasePlan.map (·.group)).length = s.phasePlan.length := List.length_map ..
  -- the entry after `j` stands between two entries of one group
  have hmid : s.phasePlan[j + 1]?.map (·.group) = some dj.group := by
    have hj := hat j (by omega)
    have hj1 := hat (j + 1) (by omega)
    have hii := hat i (by omega)
    rw [hdj, Option.some.injEq] at hj
    rw [hd, Option.map_some, Option.some.injEq] at hii
    rw [hj1, Option.some.injEq]
    apply PhaseGroup.rank_injective
    have h1 := hsorted j (j + 1) (by omega) (by omega) (by omega)
    rw [← hj] at h1
    rcases Nat.lt_or_ge (j + 1) i with hlt' | hge
    · have h2 := hsorted (j + 1) i (by omega) (by omega) hlt'
      rw [← hii, ← hsame] at h2
      omega
    · obtain rfl : i = j + 1 := by omega
      rw [← hii, hsame]
  have hfin := hnext hmid
  rw [hfin] at hdj hmid
  have htwo := two_finalize_of_adjacent hs hdj hmid
  omega

end Plan

/-! ### A tick of any schedule -/

section Tick
variable {S C P V Snapshot : Type} [SimulationState S Snapshot] [StateValidator V S]
  [Phase P S C Snapshot]

namespace DeterministicEngine

/-- The pending record of a tick on `frame` once `k` of its phases have run. -/
def PendingAfter (e : DeterministicEngine S C P V Snapshot) (frame : InputFrame C) (k : ℕ)
    (pending : PendingReplayTickRecord C) : Prop :=
  ∃ e1 r, (do
      beginTick frame
      runValidationCheckpoint .beforeTickBegin frame.tick (tickSeed e.seed frame.tick)) e =
        .ok () e1 ∧
    FixedScheduler.visitFirst (phaseVisitor e1.scheduler.phasePlan e1.validationPolicy
        e1.validator (⟨e1.seed, tickSeed e.seed frame.tick, frame.tick, frame⟩ : TickContext C)) k
      (e1.scheduler, e1.state, e1.replayLog, 0) = .ok () r ∧
    r.2.2.1.pending = some pending

/-- The checkpoints of a tick come once and in order, and each comes when all phases of
its group have been recorded. -/
structure OncePerBoundary (e : DeterministicEngine S C P V Snapshot) (frame : InputFrame C)
    (record : ReplayTickRecord C Snapshot) : Prop where
  ordered : (record.validationSummaries.map (checkpointOrder ·.checkpoint)).Pairwise (· < ·)
  placed : ∀ k pending, e.PendingAfter frame k pending →
    ∀ summary ∈ pending.validationSummaries, ∀ d ∈ e.scheduler.phasePlan,
      summary.checkpoint.group = some d.group →
        PhaseMarker.fromDescriptor d ∈ pending.phaseMarkers

omit [Phase P S C Snapshot] in
theorem begun_ok {e e1 : DeterministicEngine S C P V Snapshot} {frame : InputFrame C}
    (h : (do
      beginTick frame
      runValidationCheckpoint .beforeTickBegin frame.tick (tickSeed e.seed frame.tick)) e =
        .ok () e1) :
    e1 = { e with replayLog := e.openLog frame } := by
  obtain ⟨_, e2, h1, h2⟩ := estate_bind_ok.mp h
  obtain ⟨t, e3, h3, h4⟩ := estate_bind_ok.mp h1
  obtain ⟨-, rfl, rfl⟩ := validateOrderedInput_ok h3
  obtain ⟨e4, e5, h5, h6⟩ := estate_bind_ok.mp h4
  obtain ⟨rfl, rfl⟩ := estate_get_ok.mp h5
  obtain ⟨log, hlog, rfl⟩ := onLog_ok h6
  obtain ⟨-, rfl⟩ := beginTick_ok hlog
  obtain ⟨-, rfl⟩ := runValidationCheckpoint_before_ok rfl h2
  rfl

omit [Phase P S C Snapshot] in
/- A tick that may start does. -/
theorem begun_of {e : DeterministicEngine S C P V Snapshot} {frame : InputFrame C}
    (hexp : frame.tick = saturatingAddU64 (SimulationState.tick e.state) 1)
    (hidle : e.replayLog.pending = none) (hbefore : StateValidator.validate e.validator
      ⟨.beforeTickBegin, frame.tick, tickSeed e.seed frame.tick⟩ e.state = .ok ()) :
    (do
      beginTick frame
      runValidationCheckpoint .beforeTickBegin frame.tick (tickSeed e.seed frame.tick)) e =
        .ok () { e with replayLog := e.openLog frame } := by
  refine estate_bind_ok.mpr ⟨(), { e with replayLog := ⟨e.replayLog.records,
    some ⟨frame.tick, frame, tickSeed e.seed frame.tick, [], []⟩⟩ }, ?_,
    runValidationCheckpoint_before hbefore⟩
  refine estate_bind_ok.mpr ⟨_, _, validateOrderedInput_expected hexp, ?_⟩
  refine estate_bind_ok.mpr ⟨_, _, rfl, ?_⟩
  simp only [recordReplayInputBegin, onLog, InMemoryReplayLog.beginTick, hidle]

variable [QuietPhase P S C Snapshot]

theorem visiting_after {e : DeterministicEngine S C P V Snapshot} (hs : e.scheduler.Ordered)
    {frame : InputFrame C} {k : ℕ}
    {r : FixedScheduler P × S × InMemoryReplayLog C Snapshot × ℕ}
    (h : FixedScheduler.visitFirst (e.visitor frame) k
      (e.scheduler, e.state, e.openLog frame, 0) = .ok () r) :
    Visiting e.validationPolicy e.validator e.scheduler.phasePlan (e.contextOf frame)
      e.replayLog.records (SimulationState.tick e.state)
      (min k e.scheduler.planOrder.length) r.2 :=
  FixedScheduler.visitFirst_rule _ hs
    (fun _ _ hentry _ _ _ hI hr => visitor_step hentry hI hr) visiting_start h

theorem pendingAfter_spec {e : DeterministicEngine S C P V Snapshot} (hs : e.scheduler.Ordered)
    {frame : InputFrame C} {k : ℕ} {pending : PendingReplayTickRecord C}
    (h : e.PendingAfter frame k pending) :
    pending.phaseMarkers = (e.scheduler.phasePlan.take k).map PhaseMarker.fromDescriptor ∧
      pending.validationSummaries.map (·.checkpoint) =
        checkpointsUpTo e.validationPolicy e.scheduler.phasePlan
          (min k e.scheduler.phasePlan.length) := by
  obtain ⟨e1, r, hbegun, hvisit, hpending⟩ := h
  obtain rfl := begun_ok hbegun
  have hlen : e.scheduler.phasePlan.length = e.scheduler.planOrder.length := by
    simp [FixedScheduler.phasePlan]
  obtain ⟨sums, hpend, hchk, -⟩ := (visiting_after hs hvisit).pending
  rw [hpending, Option.some.injEq] at hpend
  subst hpend
  rw [← hlen] at hchk ⊢
  refine ⟨?_, hchk⟩
  simp only [List.take_eq_take_min (i := k)]

/- A successful tick goes through every stage. -/
theorem exists_pendingAfter {e e' : DeterministicEngine S C P V Snapshot}
    (hs : e.scheduler.Ordered) {frame : InputFrame C} {result : TickResult Snapshot}
    (h : e.tick frame = .ok result e') (k : ℕ) : ∃ pending, e.PendingAfter frame k pending := by
  obtain ⟨hexp, hidle, hbefore, _, hphases, -⟩ := tick_eq_ok.mp h
  obtain ⟨r, hr⟩ := FixedScheduler.exists_visitFirst hphases k
  obtain ⟨sums, hpend, -⟩ := (visiting_after hs hr).pending
  exact ⟨_, _, r, begun_of hexp hidle hbefore, hr, hpend⟩

theorem oncePerBoundary_iff {e e' : DeterministicEngine S C P V Snapshot}
    (hs : e.scheduler.Ordered) {frame : InputFrame C} {result : TickResult Snapshot}
    {record : ReplayTickRecord C Snapshot} (h : TickSpec e e' frame result record) :
    e.OncePerBoundary frame record ↔ e.scheduler.groupCount .finalize ≤ 1 := by
  have hordered : (record.validationSummaries.map (checkpointOrder ·.checkpoint)).Pairwise
      (· < ·) ↔ e.scheduler.groupCount .finalize ≤ 1 := by
    rw [← tickCheckpoints_ordered_iff hs e.validationPolicy, ← h.checkpoints, List.map_map]
    rfl
  refine ⟨fun ho => hordered.mp ho.ordered, fun hn => ⟨hordered.mpr hn, ?_⟩⟩
  intro k pending hpending summary hsummary d hd hgroup
  obtain ⟨hmarkers, hchecks⟩ := pendingAfter_spec hs hpending
  have hmem : summary.checkpoint ∈ pending.validationSummaries.map (·.checkpoint) :=
    List.mem_map_of_mem hsummary
  rw [hchecks, checkpointsUpTo, List.mem_cons] at hmem
  rcases hmem with hbefore | hmem
  · rw [hbefore] at hgroup
    cases hgroup
  · obtain ⟨j, hj, hat⟩ := List.mem_filterMap.mp hmem
    obtain ⟨i, hi⟩ := List.mem_iff_getElem?.mp hd
    have hij := checkpointAt_last hs hn hat hi hgroup
    have hjk := List.mem_range.mp hj
    rw [hmarkers]
    refine List.mem_map_of_mem (List.mem_iff_getElem?.mpr ⟨i, ?_⟩)
    rw [List.getElem?_take_of_lt (by omega)]
    exact hi

/-! ### Runs of any schedule -/

omit [QuietPhase P S C Snapshot] in
theorem tick_slots (frame : InputFrame C) (slots : List (PhaseGroup × ℕ) × ℕ) :
    Preserves (fun e : DeterministicEngine S C P V Snapshot => e.scheduler.slots = slots)
      (tick frame) := by
  have hlog : ∀ f : InMemoryReplayLog C Snapshot →
      Except EngineError (InMemoryReplayLog C Snapshot),
      Preserves (fun e : DeterministicEngine S C P V Snapshot => e.scheduler.slots = slots)
        (onLog f) := by
    intro f e he
    unfold onLog
    cases f e.replayLog <;> exact he
  refine preserves_bind ?_ (fun t => preserves_bind preserves_get (fun e0 =>
    preserves_bind (hlog _) (fun _ => preserves_bind ?_ (fun _ => preserves_bind ?_ (fun _ =>
      preserves_bind (fun _ he => he) (fun _ => preserves_bind preserves_get (fun e1 =>
        preserves_bind (hlog _) (fun _ => preserves_pure _))))))))
  · intro e he
    simp only [validateOrderedInput]
    split <;> exact he
  · intro e he
    simp only [runValidationCheckpoint]
    split
    · exact he
    · cases validateAndRecord e.validator _ (e.state, e.replayLog) <;> exact he
  · intro e he
    simp only [runSchedulerPhases]
    have hv := FixedScheduler.visitPhases_slots (phaseVisitor (P := P) e.scheduler.phasePlan
      e.validationPolicy e.validator (⟨e.seed, tickSeed e0.seed t, t, frame⟩ : TickContext C))
      slots (e.scheduler, e.state, e.replayLog, 0) he
    cases hr : FixedScheduler.visitPhases (phaseVisitor (P := P) e.scheduler.phasePlan
        e.validationPolicy e.validator (⟨e.seed, tickSeed e0.seed t, t, frame⟩ : TickContext C))
        (e.scheduler, e.state, e.replayLog, 0) with
    | ok u r =>
      rw [hr] at hv
      exact hv
    | error err r =>
      rw [hr] at hv
      exact hv

variable [LawfulSimulationState S Snapshot]

/- The trace of a whole run is legal exactly when the finalize group has one phase at
most. The induction is on the frames; phases may change their private state from one
tick to the next, but not their slots. -/
theorem run_legal_iff {e e' : DeterministicEngine S C P V Snapshot} (hs : e.scheduler.Ordered)
    {frames : List (InputFrame C)}
    (hlen : (SimulationState.tick e.state).toNat + frames.length < 2 ^ 64)
    (h : tickAll frames e = .ok () e') :
    ∃ records, e'.replayRecords = e.replayRecords ++ records ∧
      (LegalFrom e.seed e.snapshotPolicy (SimulationState.snapshotSchemaVersion S)
        (SimulationState.tick e.state + 1) records ↔
          frames = [] ∨ e.scheduler.groupCount .finalize ≤ 1) := by
  induction frames generalizing e with
  | nil =>
    obtain ⟨-, rfl⟩ := estate_pure_ok.mp h
    exact ⟨[], (List.append_nil _).symm, by simp [LegalFrom]⟩
  | cons frame frames ih =>
    obtain ⟨result, e1, h1, h2⟩ := estate_bind_ok.mp h
    obtain ⟨record, hspec⟩ := tick_spec hs h1
    rw [List.length_cons] at hlen
    have hwrap : (SimulationState.tick e.state).toNat + 1 < 2 ^ 64 := by omega
    have hslots : e1.scheduler.slots = e.scheduler.slots :=
      preserves_ok (I := fun e1 => e1.scheduler.slots = e.scheduler.slots)
        (tick_slots frame e.scheduler.slots) rfl h1
    obtain ⟨hseed, hsnap, -, -⟩ := hspec.config
    have hnext : saturatingAddU64 (SimulationState.tick e.state) 1 =
        SimulationState.tick e.state + 1 := if_pos hwrap
    have htick : SimulationState.tick e1.state = SimulationState.tick e.state + 1 := by
      obtain ⟨s, -, -, hset, -⟩ := hspec.phases
      rw [hset, LawfulSimulationState.tick_setTick, hspec.expected, hnext]
    have hnat : (SimulationState.tick e1.state).toNat =
        (SimulationState.tick e.state).toNat + 1 := by
      rw [htick, UInt64.toNat_add, UInt64.toNat_one, Nat.mod_eq_of_lt hwrap]
    obtain ⟨records, hrecs, hlegal⟩ :=
      ih (FixedScheduler.ordered_of_slots hslots hs) (by omega) h2
    rw [hseed, hsnap, htick, FixedScheduler.groupCount_of_slots hslots] at hlegal
    refine ⟨record :: records, ?_, ?_⟩
    · rw [hrecs]
      change e1.replayLog.records ++ records = _
      rw [hspec.log]
      simp [replayRecords]
    · have hfirst := (legalRecord_iff hspec hwrap).trans
        ((tickCheckpoints_ordered_iff hs e.validationPolicy).symm.trans (by
          rw [← hspec.checkpoints, List.map_map]
          rfl)).symm
      simp only [LegalFrom, hfirst, hlegal, reduceCtorEq, false_or]
      exact ⟨fun hl => hl.1, fun hn => ⟨hn, .inr hn⟩⟩

end DeterministicEngine

end Tick

end XenorEngine.Rust
