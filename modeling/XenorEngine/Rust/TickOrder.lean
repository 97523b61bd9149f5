import XenorEngine.Rust.EngineGuarantees
import XenorEngine.Rust.TickOutcome

/-!
# The order of ticks

The next tick is computed with a saturating addition. Below the last tick number
this is the successor; at the last number the engine asks for that number again.
-/

namespace XenorEngine.Rust
open XenorEngine.Lib.Fallible XenorEngine.Lib.Runs

def U64_MAX : UInt64 := UInt64.ofNat (2 ^ 64 - 1)

theorem toNat_u64_max : U64_MAX.toNat = 2 ^ 64 - 1 := rfl

theorem eq_u64_max {t : UInt64} : t = U64_MAX ↔ t.toNat = 2 ^ 64 - 1 := by
  rw [← UInt64.toNat_inj, toNat_u64_max]

theorem saturating_succ {t next : Tick} (h : next = saturatingAddU64 t 1) :
    next.toNat = t.toNat + 1 ↔ t ≠ U64_MAX := by
  have hlt := t.toNat_lt
  rw [h, toNat_saturatingAddU64, UInt64.toNat_one, Ne, eq_u64_max]
  omega

theorem le_saturating_succ (t : Tick) : t ≤ saturatingAddU64 t 1 := by
  have hlt := t.toNat_lt
  rw [UInt64.le_iff_toNat_le, toNat_saturatingAddU64, UInt64.toNat_one]
  omega

/-- Phases that leave the state's tick alone, also when they fail. They may have private
state and write to the log. -/
def KeepsTick (P : Type) {S C Snapshot : Type} [SimulationState S Snapshot]
    [Phase P S C Snapshot] : Prop :=
  ∀ (ctx : TickContext C) (t : Tick),
    Preserves (fun r : P × S × InMemoryReplayLog C Snapshot => SimulationState.tick r.2.1 = t)
      (Phase.run ctx)

/-- The tick a call completed. -/
def CallResult.completed {Snapshot : Type} : CallResult Snapshot → Option Tick
  | .ticked (.ok result) => some result.tick
  | .ticked (.error _) => none
  | .restored => none

namespace FixedScheduler
variable {P σ ε : Type} [PhaseName P]

theorem visitPhases_keeps {visitor : PhaseDescriptor → EStateM ε (P × σ) Unit} {I : σ → Prop}
    (hv : ∀ d, Preserves (fun r : P × σ => I r.2) (visitor d)) :
    Preserves (fun r : FixedScheduler P × σ => I r.2) (visitPhases visitor) := by
  refine visitPhases_of_entry fun ordinal index => ?_
  rintro ⟨s, t⟩ ht
  cases hentry : s.phases[index]? with
  | none =>
    simp only [visitEntry, hentry]
    exact ht
  | some entry =>
    have h := hv (descriptor ordinal entry) (entry.phase, t) ht
    cases hr : visitor (descriptor ordinal entry) (entry.phase, t) with
    | ok u r =>
      rw [hr] at h
      simp only [visitEntry, hentry, hr]
      exact h
    | error e r =>
      rw [hr] at h
      simp only [visitEntry, hentry, hr]
      exact h

end FixedScheduler

section Order
variable {S C P V Snapshot : Type} [SimulationState S Snapshot] [StateValidator V S]
  [Phase P S C Snapshot]

omit [Phase P S C Snapshot] in
theorem validateAndRecord_keeps (validator : V) (context : ValidationContext) (J : S → Prop) :
    Preserves (fun r : S × InMemoryReplayLog C Snapshot => J r.1)
      (validateAndRecord validator context) := by
  apply validateAndRecord_rule
  intro s log log' summary hs _
  exact hs

theorem phaseVisitor_keeps_tick (hphases : KeepsTick P) (plan : List PhaseDescriptor)
    (policy : ValidationPolicy) (validator : V) (ctx : TickContext C) (t : Tick)
    (d : PhaseDescriptor) :
    Preserves (fun r : P × S × InMemoryReplayLog C Snapshot × ℕ =>
      SimulationState.tick r.2.1 = t)
      (DeterministicEngine.phaseVisitor plan policy validator ctx d) := by
  refine phaseVisitor_rule ?_ (hphases ctx t) ?_ plan policy d
  · intro p s log log' marker hs _
    exact hs
  · intro p context
    exact validateAndRecord_keeps validator context (SimulationState.tick · = t)

namespace DeterministicEngine

/-- The tick of an engine is that of its state. -/
def HasTick (t : Tick) (e : DeterministicEngine S C P V Snapshot) : Prop :=
  SimulationState.tick e.state = t

omit [StateValidator V S] [Phase P S C Snapshot] in
theorem onLog_keeps {f : InMemoryReplayLog C Snapshot →
    Except EngineError (InMemoryReplayLog C Snapshot)} (t : Tick) :
    Preserves (HasTick t : DeterministicEngine S C P V Snapshot → Prop) (onLog f) := by
  intro e he
  simp only [onLog]
  cases f e.replayLog with
  | error err => exact he
  | ok log => exact he

omit [StateValidator V S] [Phase P S C Snapshot] in
theorem validateOrderedInput_keeps (frame : InputFrame C) (t : Tick) :
    Preserves (HasTick t : DeterministicEngine S C P V Snapshot → Prop)
      (validateOrderedInput frame) := by
  intro e he
  simp only [validateOrderedInput]
  split
  · exact he
  · exact he

omit [Phase P S C Snapshot] in
theorem runValidationCheckpoint_keeps (checkpoint : ValidationCheckpoint) (tick seed : UInt64)
    (t : Tick) : Preserves (HasTick t : DeterministicEngine S C P V Snapshot → Prop)
      (runValidationCheckpoint checkpoint tick seed) := by
  intro e he
  simp only [runValidationCheckpoint]
  split
  · exact he
  · have hcheck := validateAndRecord_keeps (C := C) e.validator ⟨checkpoint, tick, seed⟩
      (SimulationState.tick · = t) (e.state, e.replayLog) he
    cases hv : validateAndRecord e.validator ⟨checkpoint, tick, seed⟩ (e.state, e.replayLog) with
    | error err r => rw [hv] at hcheck; exact hcheck
    | ok u r => rw [hv] at hcheck; exact hcheck

theorem runSchedulerPhases_keeps (hphases : KeepsTick P) (frame : InputFrame C)
    (tick seed : UInt64) (t : Tick) :
    Preserves (HasTick t : DeterministicEngine S C P V Snapshot → Prop)
      (runSchedulerPhases frame tick seed) := by
  intro e he
  have hvisit := FixedScheduler.visitPhases_keeps
    (I := fun r : S × InMemoryReplayLog C Snapshot × ℕ => SimulationState.tick r.1 = t)
    (phaseVisitor_keeps_tick hphases e.scheduler.phasePlan e.validationPolicy e.validator
      ⟨e.seed, seed, tick, frame⟩ t) (e.scheduler, e.state, e.replayLog, 0) he
  simp only [runSchedulerPhases]
  cases hr : FixedScheduler.visitPhases (phaseVisitor e.scheduler.phasePlan e.validationPolicy
      e.validator (⟨e.seed, seed, tick, frame⟩ : TickContext C))
      (e.scheduler, e.state, e.replayLog, 0) with
  | error err r => rw [hr] at hvisit; exact hvisit
  | ok u r => rw [hr] at hvisit; exact hvisit

/- A failed tick never takes the tick back: it is still the old one, or it is the
frame's and only the record could not be completed. -/
theorem tick_error_le (hset : ∀ (s : S) (t : Tick),
      SimulationState.tick (SimulationState.setTick s t) = t) (hphases : KeepsTick P)
    {e e' : DeterministicEngine S C P V Snapshot} {frame : InputFrame C} {err : EngineError}
    (h : e.tick frame = .error err e') :
    SimulationState.tick e.state ≤ SimulationState.tick e'.state := by
  have hsame : ∀ {e1 : DeterministicEngine S C P V Snapshot},
      HasTick (SimulationState.tick e.state) e1 →
        SimulationState.tick e.state ≤ SimulationState.tick e1.state := by
    intro e1 he1
    exact UInt64.le_of_eq he1.symm
  unfold DeterministicEngine.tick at h
  rcases estate_bind_error.mp h with h1 | ⟨t, e1, h1, ha⟩
  · exact hsame (preserves_error (validateOrderedInput_keeps frame _) rfl h1)
  obtain ⟨hexp, rfl, rfl⟩ := validateOrderedInput_ok h1
  rcases estate_bind_error.mp ha with h2 | ⟨e2, e2', h2, hb⟩
  · cases h2
  obtain ⟨rfl, rfl⟩ := estate_get_ok.mp h2
  rcases estate_bind_error.mp hb with h3 | ⟨_, e3, h3, hc⟩
  · exact hsame (preserves_error (onLog_keeps _) rfl h3)
  have he3 := preserves_ok (onLog_keeps (SimulationState.tick e2'.state)) rfl h3
  rcases estate_bind_error.mp hc with h4 | ⟨_, e4, h4, hd⟩
  · exact hsame (preserves_error (runValidationCheckpoint_keeps _ _ _ _) he3 h4)
  have he4 := preserves_ok (runValidationCheckpoint_keeps _ _ _ _) he3 h4
  rcases estate_bind_error.mp hd with h5 | ⟨_, e5, h5, hf⟩
  · exact hsame (preserves_error (runSchedulerPhases_keeps hphases _ _ _ _) he4 h5)
  -- from here on the tick is the frame's
  rcases estate_bind_error.mp hf with h6 | ⟨_, e6, h6, hg⟩
  · cases h6
  obtain rfl := estate_modify_ok.mp h6
  rcases estate_bind_error.mp hg with h7 | ⟨e7, e7', h7, hi⟩
  · cases h7
  obtain ⟨rfl, rfl⟩ := estate_get_ok.mp h7
  rcases estate_bind_error.mp hi with h8 | ⟨_, _, _, h8⟩
  · have hset5 : HasTick frame.tick
        { e5 with state := SimulationState.setTick e5.state frame.tick } := hset _ _
    have hend := preserves_error (onLog_keeps frame.tick) hset5 h8
    rw [show SimulationState.tick e'.state = frame.tick from hend, hexp]
    exact le_saturating_succ _
  · cases h8

theorem tick_ok_tick (hset : ∀ (s : S) (t : Tick),
      SimulationState.tick (SimulationState.setTick s t) = t)
    {e e' : DeterministicEngine S C P V Snapshot} {frame : InputFrame C}
    {result : TickResult Snapshot} (h : e.tick frame = .ok result e') :
    frame.tick = saturatingAddU64 (SimulationState.tick e.state) 1 ∧
      result.tick = frame.tick ∧ SimulationState.tick e'.state = frame.tick := by
  obtain ⟨hexp, -, -, r, -, log, ⟨rfl, -⟩, rfl⟩ := tick_eq_ok.mp h
  exact ⟨hexp, rfl, hset _ _⟩

/-! ### Runs of calls -/

/-- `exact`: a completed tick has the next number and makes it the state's.
`once`: calls with no restore among them complete ticks of increasing numbers. -/
structure TicksAdvance (e : DeterministicEngine S C P V Snapshot)
    (calls : List (EngineCall C Snapshot)) : Prop where
  exact : ∀ frame result e1 e2 e3, e.CutAt calls (.tick frame) (.ticked (.ok result)) e1 e2 e3 →
    frame.tick.toNat = (SimulationState.tick e1.state).toNat + 1 ∧
      SimulationState.tick e2.state = frame.tick
  once : ∀ before (frames : List (InputFrame C)) after e1 r1 e2 r2,
    calls = before ++ frames.map .tick ++ after → callMachine.run e before = .ok (e1, r1) →
      callMachine.run e1 (frames.map .tick) = .ok (e2, r2) →
        (r2.filterMap CallResult.completed).Pairwise (· < ·)

/- Ticks in a row, every completed one made below the last number. -/
theorem completed_increase (hset : ∀ (s : S) (t : Tick),
      SimulationState.tick (SimulationState.setTick s t) = t) (hphases : KeepsTick P)
    {frames : List (InputFrame C)} {e e' : DeterministicEngine S C P V Snapshot}
    {results : List (CallResult Snapshot)}
    (hbelow : ∀ frame result e1 e2 e3,
      e.CutAt (frames.map EngineCall.tick) (.tick frame) (.ticked (.ok result)) e1 e2 e3 →
        SimulationState.tick e1.state ≠ U64_MAX)
    (h : callMachine.run e (frames.map .tick) = .ok (e', results)) :
    (results.filterMap CallResult.completed).Pairwise (· < ·) ∧
      ∀ t ∈ results.filterMap CallResult.completed, SimulationState.tick e.state < t := by
  induction frames generalizing e results with
  | nil =>
    obtain ⟨-, rfl⟩ := run_nil_ok.mp h
    exact ⟨List.Pairwise.nil, fun _ hmem => absurd hmem List.not_mem_nil⟩
  | cons frame frames ih =>
    obtain ⟨e1, first, rest, hfirst, hrest, rfl⟩ := run_cons_ok.mp h
    have hlater : ∀ frame' result e2 e3 e4,
        e1.CutAt (frames.map .tick) (.tick frame') (.ticked (.ok result)) e2 e3 e4 →
          SimulationState.tick e2.state ≠ U64_MAX := by
      rintro frame' result e2 e3 e4 ⟨before, after, r1, r3, hcalls, hbefore, hcall, hafter⟩
      refine hbelow frame' result e2 e3 e4 ⟨.tick frame :: before, after, first :: r1, r3, ?_,
        run_cons_ok.mpr ⟨e1, first, r1, hfirst, hbefore, rfl⟩, hcall, hafter⟩
      rw [List.map_cons, hcalls, List.cons_append]
    obtain ⟨hpairs, habove⟩ := ih hlater hrest
    simp only [callMachine, perform] at hfirst
    cases htick : e.tick frame with
    | error err e2 =>
      rw [htick] at hfirst
      obtain ⟨rfl, rfl⟩ := Prod.mk.inj (Except.ok.inj hfirst)
      have hle := tick_error_le hset hphases htick
      exact ⟨hpairs, fun t hmem => UInt64.lt_of_le_of_lt hle (habove t hmem)⟩
    | ok result e2 =>
      rw [htick] at hfirst
      obtain ⟨rfl, rfl⟩ := Prod.mk.inj (Except.ok.inj hfirst)
      obtain ⟨hexp, hresult, hnew⟩ := tick_ok_tick hset htick
      have hnext := (saturating_succ hexp).mpr (hbelow frame result e e2 e'
        ⟨[], frames.map .tick, [], rest, rfl, rfl, by simp only [perform, htick], hrest⟩)
      have hlt : SimulationState.tick e.state < frame.tick := by
        rw [UInt64.lt_iff_toNat_lt, hnext]
        exact Nat.lt_succ_self _
      rw [hnew] at habove
      have hcompleted : (CallResult.ticked (.ok result)).completed = some frame.tick :=
        congrArg some hresult
      rw [List.filterMap_cons_some hcompleted]
      refine ⟨List.pairwise_cons.mpr ⟨habove, hpairs⟩, fun t hmem => ?_⟩
      rcases List.mem_cons.mp hmem with rfl | hmem
      · exact hlt
      · exact UInt64.lt_trans hlt (habove t hmem)

/- A call inside a stretch of a run is a call of the run. -/
theorem cutAt_of_stretch
    {e e1 e2 final f1 f2 f3 : DeterministicEngine S C P V Snapshot}
    {before stretch after : List (EngineCall C Snapshot)} {call : EngineCall C Snapshot}
    {r1 r2 results : List (CallResult Snapshot)} {result : CallResult Snapshot}
    (hrun : callMachine.run e (before ++ stretch ++ after) = .ok (final, results))
    (hbefore : callMachine.run e before = .ok (e1, r1))
    (hstretch : callMachine.run e1 stretch = .ok (e2, r2))
    (hcut : e1.CutAt stretch call result f1 f2 f3) :
    e.CutAt (before ++ stretch ++ after) call result f1 f2 final := by
  obtain ⟨mid, os1, os2, hmid, hafter, -⟩ := run_append_ok.mp hrun
  rw [run_append_ok.mpr ⟨e1, r1, r2, hbefore, hstretch, rfl⟩] at hmid
  obtain ⟨rfl, -⟩ := Prod.mk.inj (Except.ok.inj hmid)
  obtain ⟨xs, ys, s1, s3, rfl, hxs, hcall, hys⟩ := hcut
  have hsame : callMachine.run e1 (xs ++ call :: ys) = .ok (f3, s1 ++ result :: s3) :=
    run_append_ok.mpr ⟨f1, s1, result :: s3, hxs,
      run_cons_ok.mpr ⟨f2, result, s3, hcall, hys, rfl⟩, rfl⟩
  rw [hstretch] at hsame
  obtain ⟨rfl, -⟩ := Prod.mk.inj (Except.ok.inj hsame)
  refine ⟨before ++ xs, ys ++ after, r1 ++ s1, s3 ++ os2, ?_,
    run_append_ok.mpr ⟨e1, r1, s1, hbefore, hxs, rfl⟩, hcall,
    run_append_ok.mpr ⟨e2, s3, os2, hys, hafter, rfl⟩⟩
  simp only [List.append_assoc, List.cons_append]

end DeterministicEngine

/- Ticks advance in a run exactly when no tick of it completes from the last number. -/
theorem ticks_advance_iff (hset : ∀ (s : S) (t : Tick),
      SimulationState.tick (SimulationState.setTick s t) = t) (hphases : KeepsTick P)
    (engine final : DeterministicEngine S C P V Snapshot) (calls : List (EngineCall C Snapshot))
    (results : List (CallResult Snapshot))
    (hrun : DeterministicEngine.callMachine.run engine calls = .ok (final, results)) :
    engine.TicksAdvance calls ↔ ∀ frame result e1 e2 e3,
      engine.CutAt calls (.tick frame) (.ticked (.ok result)) e1 e2 e3 →
        SimulationState.tick e1.state ≠ U64_MAX := by
  have hperform : ∀ {e1 e2 : DeterministicEngine S C P V Snapshot} {frame : InputFrame C}
      {result : TickResult Snapshot}, e1.perform (.tick frame) = .ok (e2, .ticked (.ok result)) →
        frame.tick = saturatingAddU64 (SimulationState.tick e1.state) 1 ∧
          SimulationState.tick e2.state = frame.tick := by
    intro e1 e2 frame result hcall
    simp only [DeterministicEngine.perform] at hcall
    split at hcall
    · rename_i result' e' htick
      obtain ⟨rfl, -⟩ := Prod.mk.inj (Except.ok.inj hcall)
      obtain ⟨hexp, -, hnew⟩ := DeterministicEngine.tick_ok_tick hset htick
      exact ⟨hexp, hnew⟩
    · cases hcall
  constructor
  · intro hadvance frame result e1 e2 e3 hcut
    obtain ⟨hnext, -⟩ := hadvance.exact frame result e1 e2 e3 hcut
    obtain ⟨_, _, _, _, -, -, hcall, -⟩ := hcut
    exact (saturating_succ (hperform hcall).1).mp hnext
  · intro hbelow
    constructor
    · intro frame result e1 e2 e3 hcut
      have hne := hbelow frame result e1 e2 e3 hcut
      obtain ⟨_, _, _, _, -, -, hcall, -⟩ := hcut
      obtain ⟨hexp, hnew⟩ := hperform hcall
      exact ⟨(saturating_succ hexp).mpr hne, hnew⟩
    · rintro before frames after e1 r1 e2 r2 rfl hbefore hstretch
      refine (DeterministicEngine.completed_increase hset hphases ?_ hstretch).1
      intro frame result f1 f2 f3 hcut
      exact hbelow frame result f1 f2 final
        (DeterministicEngine.cutAt_of_stretch hrun hbefore hstretch hcut)

end Order

theorem keepsTick_of_act {P S C Snapshot : Type} [SimulationState S Snapshot]
    [Phase P S C Snapshot] [PurePhase P S C Snapshot]
    (hfail : ∀ (p : P) (ctx : TickContext C) (s s' : S) (err : EngineError),
      PurePhase.act p ctx s = .error err s' → s' = s)
    (hok : ∀ (p : P) (ctx : TickContext C) (s s' : S), PurePhase.act p ctx s = .ok () s' →
      SimulationState.tick s' = SimulationState.tick s) : KeepsTick P := by
  rintro ctx t ⟨p, s, log⟩ hs
  rw [PurePhase.run_eq]
  cases hact : PurePhase.act p ctx s with
  | ok u s' => exact (hok p ctx s s' hact).trans hs
  | error err s' =>
    obtain rfl := hfail p ctx s s' err hact
    exact hs

theorem counter_keepsTick : KeepsTick CounterPhase :=
  keepsTick_of_act (fun _ _ _ _ _ => counter_run_error) fun _ _ _ _ h => (counter_run_ok h).1

/-- A snapshot of the last tick number, one that `validate` accepts. -/
def lastTickSnapshot : CounterSnapshot :=
  { (CounterState.withInitialEntities 0 0 []).snapshot with tick := U64_MAX }

def lastTickCalls : List (EngineCall CounterCommand CounterSnapshot) :=
  [.restoreSnapshot lastTickSnapshot, .tick ⟨U64_MAX, ⟨5, true⟩⟩, .tick ⟨U64_MAX, ⟨5, true⟩⟩]

/-- The ticks a run completed. -/
def completedTicks {σ Snapshot : Type} (x : Outcome (σ × List (CallResult Snapshot))) :
    Option (List Tick) := x.toOption.map fun r => r.2.filterMap CallResult.completed

theorem completedTicks_eq_some {σ Snapshot : Type} {x : Outcome (σ × List (CallResult Snapshot))}
    {ticks : List Tick} : completedTicks x = some ticks ↔
      ∃ s results, x = .ok (s, results) ∧ results.filterMap CallResult.completed = ticks := by
  cases x with
  | error e => simp [completedTicks, Except.toOption]
  | ok r =>
    obtain ⟨s, results⟩ := r
    simp [completedTicks, Except.toOption]

theorem ticks_advance_iff_restored : ∃ final results,
    DeterministicEngine.callMachine.run (plainCounterEngine [])
        [.tick ⟨1, ⟨5, true⟩⟩, .restoreSnapshot lastTickSnapshot] = .ok (final, results) ∧
      (plainCounterEngine []).TicksAdvance
        [.tick ⟨1, ⟨5, true⟩⟩, .restoreSnapshot lastTickSnapshot] := by
  have hrun : completedTicks (DeterministicEngine.callMachine.run (plainCounterEngine [])
      [.tick ⟨1, ⟨5, true⟩⟩, .restoreSnapshot lastTickSnapshot]) = some [1] := by
    decide +kernel
  obtain ⟨final, results, h, -⟩ := completedTicks_eq_some.mp hrun
  refine ⟨final, results, h, (ticks_advance_iff (fun _ _ => rfl) counter_keepsTick _ final _
    results h).mpr ?_⟩
  rintro frame result e1 e2 e3 ⟨before, after, r1, r3, hcalls, hbefore, -, -⟩
  -- the one tick comes first
  cases before with
  | nil =>
    obtain ⟨rfl, -⟩ := run_nil_ok.mp hbefore
    decide +kernel
  | cons call before =>
    obtain ⟨-, hcalls⟩ := List.cons.inj hcalls
    cases before with
    | nil => cases hcalls
    | cons _ before => simp at hcalls

/- From the last tick number the engine completes that number again and again. -/
theorem last_tick_repeats :
    (∃ final results, DeterministicEngine.callMachine.run (plainCounterEngine [])
        lastTickCalls = .ok (final, results) ∧
      results.filterMap CallResult.completed = [U64_MAX, U64_MAX]) ∧
    ¬ (plainCounterEngine []).TicksAdvance lastTickCalls := by
  have hrun : completedTicks (DeterministicEngine.callMachine.run (plainCounterEngine [])
      lastTickCalls) = some [U64_MAX, U64_MAX] := by decide +kernel
  obtain ⟨final, results, h, hcompleted⟩ := completedTicks_eq_some.mp hrun
  refine ⟨⟨final, results, h, hcompleted⟩, fun hadvance => ?_⟩
  obtain ⟨e1, first, rest, hfirst, hrest, rfl⟩ := run_cons_ok.mp h
  have hnone : first.completed = none := by
    simp only [DeterministicEngine.callMachine, DeterministicEngine.perform, bind_eq_ok,
      pure_eq_ok] at hfirst
    obtain ⟨_, -, hpair⟩ := hfirst
    rw [← (Prod.mk.inj hpair).2]
    rfl
  rw [List.filterMap_cons_none hnone] at hcompleted
  have honce := hadvance.once [.restoreSnapshot lastTickSnapshot]
    [⟨U64_MAX, ⟨5, true⟩⟩, ⟨U64_MAX, ⟨5, true⟩⟩] [] e1 [first] final rest rfl
    (run_cons_ok.mpr ⟨e1, first, [], hfirst, rfl, rfl⟩) hrest
  rw [hcompleted] at honce
  exact UInt64.lt_irrefl _ ((List.pairwise_cons.mp honce).1 U64_MAX (List.mem_singleton_self _))

end XenorEngine.Rust
