import XenorEngine.Rust.Checksums
import XenorEngine.Rust.SettlementForecast

/-!
# Settlements side by side

What another seed makes of a run, and what more of a resource does to it: all that the
seed reaches is the finalize marker, and nobody is worse off for having more.
-/

namespace XenorEngine.Rust
open XenorEngine.Lib.Fallible XenorEngine.Lib.Runs
open DeterministicEngine SettlementState

/-! ### Other seeds -/

namespace SettlementState

/-- The marker aside, two states are one. -/
def SameButMarker (s s' : SettlementState) : Prop := s.resetFinalizeMarker = s'.resetFinalizeMarker

section Seeds
variable {config : SettlementSimulationConfig} {s s' s1 : SettlementState}

theorem SameButMarker.staged (h : SameButMarker s s') (command : SettlementCommand) :
    s.staged command = s'.staged command := by
  cases command with
  | hold => exact congrArg Except.ok h
  | setWorkerAllocation allocation =>
    exact congrArg (fun t : SettlementState => t.stageAllocation allocation) h

theorem settled_sameButMarker (s1 : SettlementState) (config : SettlementSimulationConfig)
    (seed seed' : Seed) (frame : InputFrame SettlementCommand) :
    SameButMarker (s1.settled config seed frame) (s1.settled config seed' frame) := by
  have hstamped : ∀ (t : SettlementState) (marker marker' : UInt64) (tick : Tick),
      SameButMarker (SimulationState.setTick (t.finalize marker) tick)
        (SimulationState.setTick (t.finalize marker') tick) := fun _ _ _ _ => rfl
  exact hstamped _ _ _ _

/- The checks before a tick look at the marker only to see that it is there. -/
theorem SameButMarker.checks (h : SameButMarker s s') :
    s.tick = s'.tick ∧ (s.Sane ↔ s'.Sane) ∧ (s.Cleared ↔ s'.Cleared) ∧
      ∀ maxInventory, s.WithinLimit maxInventory ↔ s'.WithinLimit maxInventory := by
  have hreset : ∀ t : SettlementState, t.Sane ↔ t.resetFinalizeMarker.Sane := by
    intro t
    change t.Sane ↔ (t.finalize 0).Sane
    exact sane_finalize.symm
  refine ⟨?_, ?_, ?_, fun maxInventory => ?_⟩
  · change s.resetFinalizeMarker.tick = s'.resetFinalizeMarker.tick
    rw [h]
  · rw [hreset s, hreset s', h]
  · change s.resetFinalizeMarker.Cleared ↔ s'.resetFinalizeMarker.Cleared
    rw [h]
  · change s.resetFinalizeMarker.WithinLimit _ ↔ s'.resetFinalizeMarker.WithinLimit _
    rw [h]

/- A marker is as good as the seed it was made with. -/
theorem settled_marker_inj {seed seed' : Seed} {frame : InputFrame SettlementCommand}
    (h : (s1.settled config seed frame).finalizeMarker =
      (s1.settled config seed' frame).finalizeMarker) : seed = seed' := by
  have hmixed : mix64 (tickSeed seed frame.tick ^^^ SimulationState.checksum (s1.simulated config)
      ^^^ frame.tick) = mix64 (tickSeed seed' frame.tick ^^^
        SimulationState.checksum (s1.simulated config) ^^^ frame.tick) := h
  exact mixXor_injective _ ((UInt64.xor_left_inj _).mp (mixXor_injective _ hmixed))

theorem SameButMarker.snapshot (h : SameButMarker s s') :
    s'.snapshot = { s.snapshot with finalizeMarker := s'.finalizeMarker } := by
  have hsame : s' = { s with finalizeMarker := s'.finalizeMarker } := by
    calc s' = s'.resetFinalizeMarker.finalize s'.finalizeMarker := rfl
      _ = s.resetFinalizeMarker.finalize s'.finalizeMarker := by rw [h]
  rw [hsame]
  rfl

/- Snapshots that differ in the marker have different checksums. -/
theorem SameButMarker.checksum_eq_iff (h : SameButMarker s s') :
    SimulationState.checksum s = SimulationState.checksum s' ↔
      s.finalizeMarker = s'.finalizeMarker := by
  change snapshotChecksum s.snapshot = snapshotChecksum s'.snapshot ↔ _
  rw [h.snapshot]
  constructor
  · intro hchecksum
    by_contra hne
    refine SettlementScalar.checksum_changed ?_ hchecksum
    refine ⟨.finalizeMarker, hne, fun f hf => ?_⟩
    cases f <;> first | rfl | exact absurd rfl hf
  · intro hmarker
    rw [← hmarker]
    rfl

end Seeds

end SettlementState

/-- What is left of a run under another seed: the same states up to markers. -/
structure Reseeded (seed seed' : Seed) (frames : List (InputFrame SettlementCommand))
    (s s' : SettlementState) : Prop where
  same : SameButMarker s s'
  marker : s.finalizeMarker = s'.finalizeMarker ↔ frames = [] ∨ seed = seed'
  ticked : frames ≠ [] → s'.tick ≠ 0

section Reseeding
variable {config : SettlementSimulationConfig} {seed seed' : Seed}
  {state state' s s' t t' : SettlementState} {frames : List (InputFrame SettlementCommand)}
  {frame : InputFrame SettlementCommand}
  {record : ReplayTickRecord SettlementCommand SettlementSnapshot}

/- A tick under another seed goes through unless it starts from a zero marker. -/
theorem reseeded_tickStep (state' : SettlementState) (hamounts : SettlementAmounts config)
    (h : Reseeded seed seed' frames s s')
    (hstep : (settlementEngineFrom seed config state).tickStep s frame = .ok (t, record)) :
    (∃ t' record', (settlementEngineFrom seed' config state').tickStep s' frame =
        .ok (t', record') ∧ Reseeded seed seed' (frames ++ [frame]) t t') ∨
      frames ≠ [] ∧ s'.finalizeMarker = 0 := by
  obtain ⟨htick, hsane, hlimit, hcleared, hmarked, s1, hstage, hlimit1, rfl⟩ :=
    (settlement_tickStep_iff hamounts).mp ⟨record, hstep⟩
  obtain ⟨hsameTick, hsameSane, hsameCleared, hsameLimit⟩ := h.same.checks
  by_cases hzero : frames ≠ [] ∧ s'.finalizeMarker = 0
  · exact .inr hzero
  · refine .inl ?_
    have hmarked' : s'.Marked := by
      by_cases hempty : frames = []
      · have hmarker := h.marker.mpr (.inl hempty)
        rw [SettlementState.Marked, ← hsameTick, ← hmarker]
        exact hmarked
      · rw [SettlementState.Marked, MarkerFor, if_neg (h.ticked hempty)]
        exact fun hmarker => hzero ⟨hempty, hmarker⟩
    have hagain : ∃ record', (settlementEngineFrom seed' config state').tickStep s' frame =
        .ok (s1.settled config seed' frame, record') :=
      (settlement_tickStep_iff hamounts).mpr ⟨hsameTick ▸ htick, hsameSane.mp hsane,
        (hsameLimit _).mp hlimit, hsameCleared.mp hcleared, hmarked', s1,
        h.same.staged _ ▸ hstage, hlimit1, rfl⟩
    obtain ⟨record', hstep'⟩ := hagain
    refine ⟨_, record', hstep', settled_sameButMarker s1 config seed seed' frame, ?_, ?_⟩
    · constructor
      · exact fun hmarker => .inr (settled_marker_inj hmarker)
      · rintro (hempty | rfl)
        · exact absurd hempty (by simp)
        · rfl
    · intro _ hticked
      have hnumber : frame.tick = 0 := hticked
      rw [hnumber, UInt64.toNat_zero] at htick
      omega

/- A run under another seed ends early only after a zero marker. -/
theorem reseeded_run (state' : SettlementState) (hamounts : SettlementAmounts config)
    (h0 : Reseeded seed seed' [] s s')
    {records : List (ReplayTickRecord SettlementCommand SettlementSnapshot)}
    (hrun : (settlementEngineFrom seed config state).machine.run s frames = .ok (t, records)) :
    (∃ t' records', (settlementEngineFrom seed' config state').machine.run s' frames =
        .ok (t', records') ∧ Reseeded seed seed' frames t t') ∨
      ∃ n < frames.length, ∃ mid records', 0 < n ∧
        (settlementEngineFrom seed' config state').machine.run s' (frames.take n) =
          .ok (mid, records') ∧ mid.finalizeMarker = 0 := by
  induction frames using List.reverseRecOn generalizing t records with
  | nil =>
    obtain ⟨rfl, -⟩ := run_nil_ok.mp hrun
    exact .inl ⟨s', [], rfl, h0⟩
  | append_singleton frames frame ih =>
    obtain ⟨mid, records1, records2, hfront, hback, -⟩ := run_append_ok.mp hrun
    obtain ⟨_, record, _, hstep, hend, -⟩ := run_cons_ok.mp hback
    obtain ⟨rfl, -⟩ := run_nil_ok.mp hend
    have hlength : (frames ++ [frame]).length = frames.length + 1 := by simp
    rcases ih hfront with
      ⟨mid', records', hrun', hsame⟩ | ⟨n, hn, mid', records', hpos, hrun', hzero⟩
    · rcases reseeded_tickStep state' hamounts hsame hstep with
        ⟨t', record', hstep', hreseeded⟩ | ⟨hnonempty, hzero⟩
      · refine .inl ⟨t', records' ++ [record'], run_append_ok.mpr ⟨mid', records', [record'], hrun',
          run_cons_ok.mpr ⟨t', record', [], hstep', rfl, rfl⟩, rfl⟩, hreseeded⟩
      · refine .inr ⟨frames.length, by omega, mid', records', List.length_pos_iff.mpr hnonempty,
          ?_, hzero⟩
        rw [List.take_left]
        exact hrun'
    · refine .inr ⟨n, by omega, mid', records', hpos, ?_, hzero⟩
      rw [List.take_append_of_le_length (by omega)]
      exact hrun'

end Reseeding

/- All that the seed reaches is the marker. Another seed ends a run early only where the
marker comes out as zero; where it does not, every figure is as before, and the checksums
agree for equal seeds only. -/
theorem seed_reaches_only_markers (config : SettlementSimulationConfig) (seed seed' : Seed)
    (engine engine' e : SettlementEngine) (frames : List (InputFrame SettlementCommand))
    (hengine : settlementEngineWithConfig seed config = .ok engine)
    (hengine' : settlementEngineWithConfig seed' config = .ok engine')
    (hrun : tickAll frames engine = .ok () e) :
    (∃ e', tickAll frames engine' = .ok () e' ∧
        e'.state.snapshot =
          { e.state.snapshot with finalizeMarker := e'.state.finalizeMarker } ∧
        (frames ≠ [] → (SimulationState.checksum e.state = SimulationState.checksum e'.state ↔
          seed = seed'))) ∨
      ∃ n < frames.length, ∃ e', 0 < n ∧ tickAll (frames.take n) engine' = .ok () e' ∧
        e'.state.finalizeMarker = 0 := by
  obtain ⟨hvalid, state, hstate, rfl⟩ := settlementEngineWithConfig_eq_ok.mp hengine
  obtain ⟨-, state', hstate', rfl⟩ := settlementEngineWithConfig_eq_ok.mp hengine'
  obtain rfl : state = state' := Except.ok.inj (hstate.symm.trans hstate')
  have hordered := defaultSettlementScheduler_ordered config
  obtain ⟨t, records, hmachine, rfl⟩ := (tickAll_refines hordered rfl).mp hrun
  have h0 : Reseeded seed seed' [] state state :=
    ⟨rfl, ⟨fun _ => .inl rfl, fun _ => rfl⟩, fun h => absurd rfl h⟩
  rcases reseeded_run state (settlement_amounts hvalid) h0 hmachine with
    ⟨t', records', hrun', hreseeded⟩ | ⟨n, hn, mid, records', hpos, hrun', hzero⟩
  · refine .inl ⟨_, (tickAll_refines hordered rfl).mpr ⟨t', records', hrun', rfl⟩,
      hreseeded.same.snapshot, fun hne => ?_⟩
    refine hreseeded.same.checksum_eq_iff.trans (hreseeded.marker.trans ?_)
    exact or_iff_right hne
  · exact .inr ⟨n, hn, _, hpos, (tickAll_refines hordered rfl).mpr ⟨mid, records', hrun', rfl⟩,
      hzero⟩

theorem seed_reaches_only_markers_one_tick : ∃ engine engine' e e' : SettlementEngine,
    tickAll [⟨1, .hold⟩] engine = .ok () e ∧ tickAll [⟨1, .hold⟩] engine' = .ok () e' ∧
      e'.state.snapshot = { e.state.snapshot with finalizeMarker := e'.state.finalizeMarker } ∧
      SimulationState.checksum e.state ≠ SimulationState.checksum e'.state := by
  obtain ⟨state, hstate⟩ : ∃ state, SettlementState.fromConfig .default = .ok state := ⟨_, rfl⟩
  have hrun : (okState (tickAll [⟨1, .hold⟩]
      (settlementEngineFrom 7 .default state))).isSome = true := by
    cases hstate
    decide +kernel
  obtain ⟨_, e, hok⟩ := okState_isSome.mp hrun
  have hengine : ∀ seed, settlementEngineWithConfig seed .default =
      .ok (settlementEngineFrom seed .default state) := fun seed =>
    settlementEngineWithConfig_eq_ok.mpr ⟨rfl, state, hstate, rfl⟩
  rcases seed_reaches_only_markers .default 7 8 _ _ e [⟨1, .hold⟩] (hengine 7) (hengine 8) hok with
    ⟨e', hok', hsnapshot, hchecksum⟩ | ⟨n, hn, -, hpos, -⟩
  · exact ⟨_, _, e, e', hok, hok', hsnapshot, fun heq =>
      absurd ((hchecksum (by simp)).mp heq) (by decide)⟩
  · rw [List.length_singleton] at hn
    omega

/-! ### More of a resource -/

/-- Figures that are no worse than others, but for what was consumed. -/
structure ResourceFigures.NoWorse (f f' : ResourceFigures) : Prop where
  inventory : f.inventory.toInt ≤ f'.inventory.toInt
  lastProduction : f.lastProduction.toInt ≤ f'.lastProduction.toInt
  lastShortage : f'.lastShortage.toInt ≤ f.lastShortage.toInt
  cumulativeProduction : f.cumulativeProduction.toInt ≤ f'.cumulativeProduction.toInt
  cumulativeShortage : f'.cumulativeShortage.toInt ≤ f.cumulativeShortage.toInt

namespace ResourceFigures
variable {f f' : ResourceFigures}

/- Capped or not, sums keep the order of their parts. -/
theorem saturatingAddI64_mono {a b a' b' : Int64} (ha : a.toInt ≤ a'.toInt)
    (hb : b.toInt ≤ b'.toInt) : (saturatingAddI64 a b).toInt ≤ (saturatingAddI64 a' b').toInt := by
  rw [saturatingAddI64, saturatingAddI64, toInt_saturateI64, toInt_saturateI64]
  omega

theorem NoWorse.fill (h : NoWorse f f') {amount amount' : Int64}
    (hamount : amount.toInt ≤ amount'.toInt) : NoWorse (f.fill amount) (f'.fill amount') where
  inventory := saturatingAddI64_mono h.inventory hamount
  lastProduction := hamount
  lastShortage := h.lastShortage
  cumulativeProduction := saturatingAddI64_mono h.cumulativeProduction hamount
  cumulativeShortage := h.cumulativeShortage

theorem toInt_draw (f : ResourceFigures) {required : Int64} (hstock : 0 ≤ f.inventory.toInt)
    (hrequired : 0 ≤ required.toInt) :
    (f.draw required).inventory.toInt = max (f.inventory.toInt - required.toInt) 0 ∧
      (f.draw required).lastShortage.toInt = max (required.toInt - f.inventory.toInt) 0 := by
  have hlt := Int64.toInt_lt f.inventory
  have hlt' := Int64.toInt_lt required
  simp only [draw, saturatingSubI64, toInt_saturateI64]
  split
  · rename_i hle
    rw [Int64.le_iff_toInt_le] at hle
    omega
  · rename_i hle
    rw [Int64.le_iff_toInt_le] at hle
    omega

theorem NoWorse.draw (h : NoWorse f f') {required required' : Int64}
    (hstock : 0 ≤ f.inventory.toInt) (hrequired' : 0 ≤ required'.toInt)
    (hrequired : required'.toInt ≤ required.toInt) :
    NoWorse (f.draw required) (f'.draw required') := by
  have hmore := h.inventory
  obtain ⟨hleft, hmissing⟩ := f.toInt_draw hstock (hrequired'.trans hrequired)
  obtain ⟨hleft', hmissing'⟩ := f'.toInt_draw (hstock.trans hmore) hrequired'
  have hshort : (f'.draw required').lastShortage.toInt ≤ (f.draw required).lastShortage.toInt := by
    rw [hmissing, hmissing']
    omega
  refine ⟨?_, h.lastProduction, hshort, h.cumulativeProduction, ?_⟩
  · rw [hleft, hleft']
    omega
  · exact saturatingAddI64_mono h.cumulativeShortage hshort

end ResourceFigures

/-- A configuration that treats a resource no worse than another does. -/
structure Favours (r : ResourceKind) (config config' : SettlementSimulationConfig) : Prop where
  initial : (initialOf config r).toInt ≤ (initialOf config' r).toInt
  workers : workersOf r config.initialAllocation ≤ workersOf r config'.initialAllocation
  rate : (rateOf config r).toInt ≤ (rateOf config' r).toInt
  demand : (required config'.population config' r).toInt ≤
    (required config.population config r).toInt

/-- Commands of which the second gives the resource no fewer workers. -/
inductive CommandsFavour (r : ResourceKind) : SettlementCommand → SettlementCommand → Prop
  | hold : CommandsFavour r .hold .hold
  | setWorkerAllocation {allocation allocation' : WorkerAllocation}
      (h : workersOf r allocation ≤ workersOf r allocation') :
      CommandsFavour r (.setWorkerAllocation allocation) (.setWorkerAllocation allocation')

/-- The invariant of two runs of which the second is favoured. -/
structure Ahead (r : ResourceKind) (config config' : SettlementSimulationConfig)
    (s s' : SettlementState) : Prop where
  figures : (s.figures r).NoWorse (s'.figures r)
  population : s.population = config.population
  population' : s'.population = config'.population
  workers : workersOf r s.currentAllocation ≤ workersOf r s'.currentAllocation
  present : s.pendingAllocationPresent = s'.pendingAllocationPresent
  pending : workersOf r s.pendingAllocation ≤ workersOf r s'.pendingAllocation

section Favoured
variable {r : ResourceKind} {config config' : SettlementSimulationConfig}
  {s s' : SettlementState}

theorem outputOf_mono (hfavours : Favours r config config') (hamounts : SettlementAmounts config)
    {a a' : WorkerAllocation} (h : workersOf r a ≤ workersOf r a') :
    outputOf config r a ≤ outputOf config' r a' := by
  have hrate : 0 ≤ (rateOf config r).toInt := by
    cases r with
    | food => exact hamounts.food
    | wood => exact hamounts.wood
  have hworkers : ((workersOf r a).toNat : ℤ) ≤ (workersOf r a').toNat :=
    Int.ofNat_le.mpr (UInt32.le_iff_toNat_le.mp h)
  exact min_le_min_right _ (Int.mul_le_mul hworkers hfavours.rate hrate (Int.natCast_nonneg _))

theorem Ahead.staged {s1 s1' : SettlementState} {command command' : SettlementCommand}
    (h : Ahead r config config' s s') (hcommands : CommandsFavour r command command')
    (hs : s.staged command = .ok s1) (hs' : s'.staged command' = .ok s1') :
    Ahead r config config' s1 s1' := by
  cases hcommands with
  | hold =>
    obtain rfl := Except.ok.inj hs
    obtain rfl := Except.ok.inj hs'
    exact ⟨h.figures, h.population, h.population', h.workers, h.present, h.pending⟩
  | setWorkerAllocation hworkers =>
    obtain rfl := stageAllocation_ok hs
    obtain rfl := stageAllocation_ok hs'
    exact ⟨h.figures, h.population, h.population', h.workers, rfl, hworkers⟩

theorem Ahead.applyPendingAllocation (h : Ahead r config config' s s') :
    Ahead r config config' s.applyPendingAllocation s'.applyPendingAllocation := by
  unfold SettlementState.applyPendingAllocation
  rw [← h.present]
  split
  · exact ⟨h.figures, h.population, h.population', h.pending, rfl, UInt32.le_refl _⟩
  · exact h

theorem Ahead.produce (h : Ahead r config config' s s') (hfavours : Favours r config config')
    (hamounts : SettlementAmounts config) (hamounts' : SettlementAmounts config') :
    Ahead r config config' (s.produce config) (s'.produce config') := by
  refine ⟨?_, h.population, h.population', h.workers, h.present, h.pending⟩
  rw [figures_produce, figures_produce]
  refine h.figures.fill ?_
  rw [toInt_produced hamounts, toInt_produced hamounts']
  exact outputOf_mono hfavours hamounts h.workers

theorem Ahead.consume (h : Ahead r config config' s s') (hfavours : Favours r config config')
    (hamounts' : SettlementAmounts config') (hstocked : s.Stocked) :
    Ahead r config config' (s.consume config) (s'.consume config') := by
  refine ⟨?_, h.population, h.population', h.workers, h.present, h.pending⟩
  rw [figures_consume, figures_consume, h.population, h.population']
  exact h.figures.draw (hstocked.stock r) (required_nonneg hamounts' _ r) hfavours.demand

theorem Ahead.settled (h : Ahead r config config' s s') (hfavours : Favours r config config')
    (hamounts : SettlementAmounts config) (hamounts' : SettlementAmounts config')
    (hstocked : s.Stocked) (seed seed' : Seed) (frame frame' : InputFrame SettlementCommand) :
    Ahead r config config' (s.settled config seed frame) (s'.settled config' seed' frame') := by
  have hproduced := h.applyPendingAllocation.produce hfavours hamounts hamounts'
  have hconsumed := hproduced.consume hfavours hamounts'
    (stocked_produce hamounts (applyPendingAllocation_stocked hstocked))
  exact ⟨hconsumed.figures, hconsumed.population, hconsumed.population', hconsumed.workers,
    hconsumed.present, hconsumed.pending⟩

theorem tickStep_ahead {seed seed' : Seed} {state state' t t' : SettlementState}
    {frame frame' : InputFrame SettlementCommand}
    {record record' : ReplayTickRecord SettlementCommand SettlementSnapshot}
    (hfavours : Favours r config config') (hamounts : SettlementAmounts config)
    (hamounts' : SettlementAmounts config') (h : Ahead r config config' s s')
    (hcommands : CommandsFavour r frame.command frame'.command)
    (hstep : (settlementEngineFrom seed config state).tickStep s frame = .ok (t, record))
    (hstep' : (settlementEngineFrom seed' config' state').tickStep s' frame' =
      .ok (t', record')) : Ahead r config config' t t' := by
  obtain ⟨-, hsane, -, -, -, s1, hstage, -, rfl⟩ :=
    (settlement_tickStep_iff hamounts).mp ⟨record, hstep⟩
  obtain ⟨-, -, -, -, -, s1', hstage', -, rfl⟩ :=
    (settlement_tickStep_iff hamounts').mp ⟨record', hstep'⟩
  exact (h.staged hcommands hstage hstage').settled hfavours hamounts hamounts'
    (staged_sane hsane hstage).1.stocked seed seed' frame frame'

theorem fromConfig_ahead (hfavours : Favours r config config')
    (hs : SettlementState.fromConfig config = .ok s)
    (hs' : SettlementState.fromConfig config' = .ok s') : Ahead r config config' s s' := by
  obtain ⟨-, rfl⟩ := check_pure_eq_ok.mp hs
  obtain ⟨-, rfl⟩ := check_pure_eq_ok.mp hs'
  have hworkers := hfavours.workers
  have hinitial := hfavours.initial
  refine ⟨?_, rfl, rfl, hworkers, rfl, UInt32.le_refl _⟩
  cases r with
  | food => exact ⟨hinitial, le_rfl, le_rfl, le_rfl, le_rfl⟩
  | wood => exact ⟨hinitial, le_rfl, le_rfl, le_rfl, le_rfl⟩

theorem run_ahead {seed seed' : Seed} {state state' t t' : SettlementState}
    {frames frames' : List (InputFrame SettlementCommand)}
    {records records' : List (ReplayTickRecord SettlementCommand SettlementSnapshot)}
    (hfavours : Favours r config config') (hamounts : SettlementAmounts config)
    (hamounts' : SettlementAmounts config') (h : Ahead r config config' s s')
    (hframes : List.Forall₂ (fun f f' => CommandsFavour r f.command f'.command) frames frames')
    (hrun : (settlementEngineFrom seed config state).machine.run s frames = .ok (t, records))
    (hrun' : (settlementEngineFrom seed' config' state').machine.run s' frames' =
      .ok (t', records')) : Ahead r config config' t t' := by
  refine run_related ?_ hframes h hrun hrun'
  intro s s' frame frame' t record t' record' hs hcommands hstep hstep'
  exact tickStep_ahead hfavours hamounts hamounts' hs hcommands hstep hstep'

end Favoured

/- Nobody is worse off for starting with more, having more workers at a better rate or
needing less, whatever happens to the other resource and whatever is capped. -/
theorem favoured_is_no_worse (r : ResourceKind) (config config' : SettlementSimulationConfig)
    (seed seed' : Seed) (engine engine' : SettlementEngine)
    (frames frames' : List (InputFrame SettlementCommand)) (hfavours : Favours r config config')
    (hengine : settlementEngineWithConfig seed config = .ok engine)
    (hengine' : settlementEngineWithConfig seed' config' = .ok engine')
    (hframes : List.Forall₂ (fun f f' => CommandsFavour r f.command f'.command) frames frames')
    (n : ℕ) (e e' : SettlementEngine) (hrun : tickAll (frames.take n) engine = .ok () e)
    (hrun' : tickAll (frames'.take n) engine' = .ok () e') :
    (e.state.figures r).NoWorse (e'.state.figures r) := by
  obtain ⟨hvalid, state, hstate, rfl⟩ := settlementEngineWithConfig_eq_ok.mp hengine
  obtain ⟨hvalid', state', hstate', rfl⟩ := settlementEngineWithConfig_eq_ok.mp hengine'
  obtain ⟨t, records, hmachine, rfl⟩ :=
    (tickAll_refines (defaultSettlementScheduler_ordered config) rfl).mp hrun
  obtain ⟨t', records', hmachine', rfl⟩ :=
    (tickAll_refines (defaultSettlementScheduler_ordered config') rfl).mp hrun'
  have hamounts := settlement_amounts hvalid
  have hamounts' := settlement_amounts hvalid'
  have hahead := run_ahead hfavours hamounts hamounts' (fromConfig_ahead hfavours hstate hstate')
    (List.forall₂_take n hframes) hmachine hmachine'
  exact hahead.figures

/-- A settlement with more wood and hungrier workers. -/
def woodedConfig : SettlementSimulationConfig :=
  { SettlementSimulationConfig.default with
    initialWood := 20
    woodPerLogger := 3
    foodConsumptionPerWorker := 9 }

theorem favoured_is_no_worse_wooded : ∃ engine engine' e e' : SettlementEngine,
    tickAll [⟨1, .setWorkerAllocation ⟨2, 1⟩⟩] engine = .ok () e ∧
      tickAll [⟨1, .setWorkerAllocation ⟨2, 4⟩⟩] engine' = .ok () e' ∧
      (e.state.figures .wood).NoWorse (e'.state.figures .wood) := by
  obtain ⟨state, hstate⟩ : ∃ state, SettlementState.fromConfig .default = .ok state := ⟨_, rfl⟩
  obtain ⟨state', hstate'⟩ : ∃ state, SettlementState.fromConfig woodedConfig = .ok state :=
    ⟨_, rfl⟩
  have hrun : (okState (tickAll [⟨1, .setWorkerAllocation ⟨2, 1⟩⟩]
      (settlementEngineFrom 7 .default state))).isSome = true := by
    cases hstate
    decide +kernel
  have hrun' : (okState (tickAll [⟨1, .setWorkerAllocation ⟨2, 4⟩⟩]
      (settlementEngineFrom 7 woodedConfig state'))).isSome = true := by
    cases hstate'
    decide +kernel
  obtain ⟨_, e, hok⟩ := okState_isSome.mp hrun
  obtain ⟨_, e', hok'⟩ := okState_isSome.mp hrun'
  refine ⟨_, _, e, e', hok, hok', favoured_is_no_worse .wood .default woodedConfig 7 7 _ _
    [⟨1, .setWorkerAllocation ⟨2, 1⟩⟩] [⟨1, .setWorkerAllocation ⟨2, 4⟩⟩] ?_
    (settlementEngineWithConfig_eq_ok.mpr ⟨rfl, state, hstate, rfl⟩)
    (settlementEngineWithConfig_eq_ok.mpr ⟨rfl, state', hstate', rfl⟩)
    (.cons (.setWorkerAllocation (by decide)) .nil) 1 e e' hok hok'⟩
  exact ⟨by decide, by decide, by decide, by decide⟩

end XenorEngine.Rust
