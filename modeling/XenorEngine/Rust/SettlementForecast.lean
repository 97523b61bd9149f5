import XenorEngine.Lib.Reflection
import XenorEngine.Rust.SettlementNoninterference

/-!
# What the inputs foretell of the stocks

A tick moves a stock by the difference of what is produced and what is asked for, and
cuts it at zero. The commands tell what each tick produces, so they tell every stock and
every total without a run.
-/

namespace XenorEngine.Rust
open XenorEngine.Lib.Fallible XenorEngine.Lib.Runs XenorEngine.Lib.Ledger
open XenorEngine.Lib.Reflection
open SettlementState

/-- The allocation that a tick works under when it finds `current` in force. -/
def SettlementCommand.allocationFrom (current : WorkerAllocation) :
    SettlementCommand → WorkerAllocation
  | .hold => current
  | .setWorkerAllocation allocation => allocation

section Foretelling
variable (config : SettlementSimulationConfig) (r : ResourceKind)

def allocationAfter (frames : List (InputFrame SettlementCommand)) : WorkerAllocation :=
  frames.foldl (fun current frame => frame.command.allocationFrom current)
    config.initialAllocation

def rateOf : ResourceKind → Int64
  | .food => config.foodPerFarmer
  | .wood => config.woodPerLogger

def outputOf (allocation : WorkerAllocation) : ℤ :=
  min ((workersOf r allocation).toNat * (rateOf config r).toInt) CAP

/-- What each of the ticks produces. -/
def outputsOf (frames : List (InputFrame SettlementCommand)) : List ℤ :=
  (List.range frames.length).map fun k =>
    outputOf config r (allocationAfter config (frames.take (k + 1)))

/-- By how much each of the ticks moves the stock, were it not cut at zero. -/
def netsOf (frames : List (InputFrame SettlementCommand)) : List ℤ :=
  (outputsOf config r frames).map (· - demandOf config r)

end Foretelling

section Step
variable {config : SettlementSimulationConfig} {frames : List (InputFrame SettlementCommand)}

theorem length_outputsOf (config : SettlementSimulationConfig) (r : ResourceKind)
    (frames : List (InputFrame SettlementCommand)) :
    (outputsOf config r frames).length = frames.length := by
  rw [outputsOf, List.length_map, List.length_range]

theorem allocationAfter_snoc (frame : InputFrame SettlementCommand) :
    allocationAfter config (frames ++ [frame]) =
      frame.command.allocationFrom (allocationAfter config frames) := by
  rw [allocationAfter, List.foldl_append, List.foldl_cons, List.foldl_nil]
  rfl

theorem outputsOf_snoc (r : ResourceKind) (frame : InputFrame SettlementCommand) :
    outputsOf config r (frames ++ [frame]) = outputsOf config r frames ++
      [outputOf config r (frame.command.allocationFrom (allocationAfter config frames))] := by
  have hearlier : ∀ k ∈ List.range frames.length,
      outputOf config r (allocationAfter config ((frames ++ [frame]).take (k + 1))) =
        outputOf config r (allocationAfter config (frames.take (k + 1))) := by
    intro k hk
    rw [List.take_append_of_le_length (List.mem_range.mp hk)]
  have hlast : (frames ++ [frame]).take (frames.length + 1) = frames ++ [frame] :=
    List.take_of_length_le (by simp)
  rw [outputsOf, List.length_append, List.length_singleton, List.range_succ, List.map_append,
    List.map_singleton, List.map_congr_left hearlier, hlast, allocationAfter_snoc]
  rfl

theorem toInt_produced (hamounts : SettlementAmounts config) (s : SettlementState)
    (r : ResourceKind) : (s.produced config r).toInt = outputOf config r s.currentAllocation := by
  cases r with
  | food => exact toInt_saturatingMul_u32 _ hamounts.food
  | wood => exact toInt_saturatingMul_u32 _ hamounts.wood

/- Producing and consuming is one round of the ledger. -/
theorem account_round (hamounts : SettlementAmounts config) {s : SettlementState}
    (h : s.Stocked) (r : ResourceKind) : ((s.produce config).consume config).account r =
      ((s.account r).fill CAP (outputOf config r s.currentAllocation)).draw CAP
        (required s.population config r).toInt := by
  have hproduced := account_produce config (h.stock r) (h.metrics _ (by simp [metrics]) r)
    (produced_nonneg hamounts s r)
  have hnext := stocked_produce hamounts h
  have hconsumed := account_consume config (hnext.stock r) (hnext.metrics _ (by simp [metrics]) r)
    (hnext.metrics _ (by simp [metrics]) r) (required_nonneg hamounts _ r)
  rw [hconsumed, hproduced, toInt_produced hamounts]
  rfl

/- What production finds: the command is in force, the books are as before. -/
theorem applied_of_staged {s s1 : SettlementState} {command : SettlementCommand}
    (hcleared : s.Cleared) (hstage : s.staged command = .ok s1) :
    s1.applyPendingAllocation.currentAllocation = command.allocationFrom s.currentAllocation ∧
      s1.applyPendingAllocation.population = s.population ∧
      ∀ r, s1.applyPendingAllocation.account r = s.account r := by
  obtain ⟨hpop, haccount⟩ := applyPendingAllocation_account s1
  rw [hpop]
  cases command with
  | hold =>
    obtain rfl := Except.ok.inj hstage
    refine ⟨?_, rfl, fun r => (haccount r).trans rfl⟩
    rw [applyPendingAllocation, if_neg]
    · rfl
    · exact Bool.eq_false_iff.mp hcleared.1
  | setWorkerAllocation allocation =>
    obtain rfl := stageAllocation_ok hstage
    exact ⟨rfl, rfl, fun r => (haccount r).trans rfl⟩

/-- The invariant of a run over `frames`. -/
structure Foretold (config : SettlementSimulationConfig)
    (frames : List (InputFrame SettlementCommand)) (s : SettlementState) : Prop where
  booked : s.Booked config frames.length
  allocation : s.currentAllocation = allocationAfter config frames
  foreseen : ∀ r, Foreseen CAP (initialOf config r).toInt (demandOf config r)
    (outputsOf config r frames) (s.account r)

theorem foretold_tickStep {seed : Seed} {state s s' : SettlementState}
    (hamounts : SettlementAmounts config) (h : Foretold config frames s)
    {frame : InputFrame SettlementCommand}
    {record : ReplayTickRecord SettlementCommand SettlementSnapshot}
    (hstep : (settlementEngineFrom seed config state).tickStep s frame = .ok (s', record)) :
    Foretold config (frames ++ [frame]) s' := by
  have hbooked := settlement_tick_booked rfl hamounts h.booked hstep
  obtain ⟨-, hsane, -, hcleared, -, s1, hstage, -, rfl⟩ :=
    (settlement_tickStep_iff hamounts).mp ⟨record, hstep⟩
  obtain ⟨hallocation, hpop, haccount⟩ := applied_of_staged hcleared hstage
  rw [h.allocation] at hallocation
  have hstocked := applyPendingAllocation_stocked (staged_sane hsane hstage).1.stocked
  refine ⟨?_, ?_, fun r => ?_⟩
  · rw [List.length_append]
    exact hbooked
  · rw [allocationAfter_snoc, ← hallocation]
    rfl
  · have hround := account_round hamounts hstocked r
    rw [hallocation, hpop, haccount, h.booked.population,
      required_eq_demandOf hamounts] at hround
    have hoth : (s1.settled config seed frame).account r =
        ((s1.applyPendingAllocation.produce config).consume config).account r := rfl
    have hbalanced := h.booked.balanced r
    rw [required_eq_demandOf hamounts] at hbalanced
    have hdemand := hamounts.demand r
    rw [required_eq_demandOf hamounts] at hdemand
    have houtput : 0 ≤ outputOf config r (frame.command.allocationFrom
        (allocationAfter config frames)) := by
      rw [← hallocation, ← toInt_produced hamounts]
      exact produced_nonneg hamounts _ r
    rw [hoth, hround, outputsOf_snoc]
    exact foreseen_round (hamounts.initial r) hdemand houtput hbalanced (h.foreseen r)

theorem fromConfig_foretold {s : SettlementState} (hamounts : SettlementAmounts config)
    (h : SettlementState.fromConfig config = .ok s) : Foretold config [] s := by
  have hbooked := fromConfig_booked hamounts h
  obtain ⟨-, rfl⟩ := check_pure_eq_ok.mp h
  refine ⟨hbooked, rfl, fun r => ?_⟩
  have hopened := foreseen_opened (demandOf config r) (by decide : 0 ≤ CAP) (hamounts.initial r)
  cases r with
  | food => exact hopened
  | wood => exact hopened

end Step

/- Every total of an accepted run from its inputs alone. The shortage is the deepest deficit
that supply ever runs into; the stock is what supply and shortage leave of the demand. -/
theorem settlement_stocks_foretold (config : SettlementSimulationConfig) (seed : Seed)
    (engine engine' : SettlementEngine) (frames : List (InputFrame SettlementCommand))
    (hengine : settlementEngineWithConfig seed config = .ok engine)
    (hrun : DeterministicEngine.tickAll frames engine = .ok () engine') (r : ResourceKind)
    (hsupply : (initialOf config r).toInt + (outputsOf config r frames).sum < 2 ^ 63 - 1)
    (hdemand : frames.length * demandOf config r < 2 ^ 63 - 1) :
    engine'.state.currentAllocation = allocationAfter config frames ∧
      (engine'.state.cumulativeProduction r).toInt = (outputsOf config r frames).sum ∧
      (engine'.state.inventory r).toInt = (initialOf config r).toInt +
        (netsOf config r frames).sum + (engine'.state.cumulativeShortage r).toInt ∧
      IsGreatest (deficits (initialOf config r).toInt (netsOf config r frames))
        (engine'.state.cumulativeShortage r).toInt ∧
      ((engine'.state.cumulativeShortage r).toInt = 0 ↔ ∀ k ≤ frames.length,
        0 ≤ (initialOf config r).toInt + ((netsOf config r frames).take k).sum) := by
  obtain ⟨hvalid, state, hstate, rfl⟩ := settlementEngineWithConfig_eq_ok.mp hengine
  have hamounts := settlement_amounts hvalid
  obtain ⟨s', records, hmachine, rfl⟩ := (DeterministicEngine.tickAll_refines
    (defaultSettlementScheduler_ordered config) rfl).mp hrun
  have hforetold : Foretold config frames s' :=
    run_holds (fun s inputs _ => Foretold config inputs s)
      (fun _ _ _ _ _ _ h hstep => foretold_tickStep hamounts h hstep)
      (fromConfig_foretold hamounts hstate) hmachine
  have hforeseen := hforetold.foreseen r
  have hinitial := hamounts.initial r
  have hreflected := hforeseen.reflected hsupply (by rwa [length_outputsOf])
  have hcovered := hreflected.owed_eq_zero_iff
  rw [List.length_map, length_outputsOf] at hcovered
  refine ⟨hforetold.allocation, ?_, hreflected.stock_eq, hreflected.owed, hcovered⟩
  have hbelow : (outputsOf config r frames).sum ≤ CAP := by
    rw [CAP]
    omega
  exact hforeseen.produced_eq.trans (min_eq_left hbelow)

/-- Nobody farms: the stock of 12 lasts for two ticks and the third is short. -/
def unfarmedFrames : List (InputFrame SettlementCommand) :=
  [⟨1, .setWorkerAllocation ⟨0, 6⟩⟩, ⟨2, .hold⟩, ⟨3, .hold⟩]

theorem settlement_stocks_foretold_unfarmed : ∃ engine engine' : SettlementEngine,
    DeterministicEngine.tickAll unfarmedFrames engine = .ok () engine' ∧
      IsGreatest (deficits 12 [-6, -6, -6])
        (engine'.state.cumulativeShortage .food).toInt := by
  obtain ⟨state, hstate⟩ : ∃ state, SettlementState.fromConfig .default = .ok state := ⟨_, rfl⟩
  have hrun : (okState (DeterministicEngine.tickAll unfarmedFrames
      (settlementEngineFrom 7 .default state))).isSome = true := by
    cases hstate
    decide +kernel
  obtain ⟨_, engine', hok⟩ := okState_isSome.mp hrun
  exact ⟨_, engine', hok, (settlement_stocks_foretold .default 7 _ engine' unfarmedFrames
    (settlementEngineWithConfig_eq_ok.mpr ⟨rfl, state, hstate, rfl⟩) hok .food
    (by decide +kernel) (by decide +kernel)).2.2.2.1⟩

end XenorEngine.Rust
