import XenorEngine.Lib.Ledger
import XenorEngine.Rust.Settlement

/-!
# The books of a settlement

Each resource is an account of the ledger library: `produce` fills it, `consume`
draws from it, and no other phase touches it. A run is a sequence of rounds.
-/

namespace XenorEngine.Rust
open XenorEngine.Lib.Fallible XenorEngine.Lib.Runs

namespace SettlementState
open XenorEngine.Lib.Ledger

def CAP : ℤ := 2 ^ 63 - 1

def account (r : ResourceKind) (s : SettlementState) : Account :=
  ⟨(s.inventory r).toInt, (s.cumulativeProduction r).toInt, (s.cumulativeConsumption r).toInt,
    (s.cumulativeShortage r).toInt⟩

def produced (s : SettlementState) (config : SettlementSimulationConfig) : ResourceKind → Int64
  | .food => saturatingMulI64 (i64OfU32 s.currentAllocation.farmers) config.foodPerFarmer
  | .wood => saturatingMulI64 (i64OfU32 s.currentAllocation.loggers) config.woodPerLogger

def required (population : UInt32) (config : SettlementSimulationConfig) : ResourceKind → Int64
  | .food => saturatingMulI64 (i64OfU32 population) config.foodConsumptionPerWorker
  | .wood => config.woodConsumptionPerTick

def initialOf (config : SettlementSimulationConfig) : ResourceKind → Int64
  | .food => config.initialFood
  | .wood => config.initialWood

theorem toInt_saturateI64_of_ge {n : ℤ} (h : -2 ^ 63 ≤ n) : (saturateI64 n).toInt = min n CAP := by
  rw [toInt_saturateI64, CAP]
  omega

theorem toInt_i64OfU32 (n : UInt32) : (i64OfU32 n).toInt = n.toNat := by
  have hn := n.toNat_lt
  rw [i64OfU32, Int64.toInt_ofNat_of_lt (by omega)]

theorem toInt_saturatingMul_u32 (n : UInt32) {x : Int64} (hx : 0 ≤ x.toInt) :
    (saturatingMulI64 (i64OfU32 n) x).toInt = min (n.toNat * x.toInt) CAP := by
  have hmul : 0 ≤ (n.toNat : ℤ) * x.toInt := Int.mul_nonneg (Int.natCast_nonneg _) hx
  rw [saturatingMulI64, toInt_i64OfU32, toInt_saturateI64_of_ge (by omega)]

theorem saturatingMulI64_u32_nonneg (n : UInt32) {x : Int64} (hx : 0 ≤ x.toInt) :
    0 ≤ (saturatingMulI64 (i64OfU32 n) x).toInt := by
  have hmul : 0 ≤ (n.toNat : ℤ) * x.toInt := Int.mul_nonneg (Int.natCast_nonneg _) hx
  rw [toInt_saturatingMul_u32 n hx, CAP]
  omega

theorem account_produce {s : SettlementState} (config : SettlementSimulationConfig)
    {r : ResourceKind} (hstock : 0 ≤ (s.account r).stock) (hprod : 0 ≤ (s.account r).produced)
    (hp : 0 ≤ (s.produced config r).toInt) :
    (s.produce config).account r = (s.account r).fill CAP (s.produced config r).toInt := by
  have hadd : ∀ x : Int64, 0 ≤ x.toInt →
      (saturatingAddI64 x (s.produced config r)).toInt =
        min (x.toInt + (s.produced config r).toInt) CAP := by
    intro x hx
    rw [saturatingAddI64, toInt_saturateI64_of_ge (by omega)]
  have hmaps : (s.produce config).inventory r = saturatingAddI64 (s.inventory r)
        (s.produced config r) ∧
      (s.produce config).cumulativeProduction r = saturatingAddI64 (s.cumulativeProduction r)
        (s.produced config r) := by
    cases r <;> exact ⟨rfl, rfl⟩
  ext
  · exact (congrArg Int64.toInt hmaps.1).trans (hadd _ hstock)
  · exact (congrArg Int64.toInt hmaps.2).trans (hadd _ hprod)
  · rfl
  · rfl

theorem account_consume {s : SettlementState} (config : SettlementSimulationConfig)
    {r : ResourceKind} (hstock : 0 ≤ (s.account r).stock) (hcons : 0 ≤ (s.account r).consumed)
    (hshort : 0 ≤ (s.account r).shortage) (hd : 0 ≤ (required s.population config r).toInt) :
    (s.consume config).account r =
      (s.account r).draw CAP (required s.population config r).toInt := by
  generalize hreq : required s.population config r = req at hd
  generalize hused : (if s.inventory r ≤ req then s.inventory r else req) = used
  have huse : used.toInt = min (s.inventory r).toInt req.toInt := by
    rw [← hused]
    split
    · rename_i hle
      rw [Int64.le_iff_toInt_le] at hle
      omega
    · rename_i hle
      rw [Int64.le_iff_toInt_le] at hle
      omega
  have hmaps : (s.consume config).inventory r = saturatingSubI64 (s.inventory r) used ∧
      (s.consume config).cumulativeConsumption r =
        saturatingAddI64 (s.cumulativeConsumption r) used ∧
      (s.consume config).cumulativeShortage r =
        saturatingAddI64 (s.cumulativeShortage r) (saturatingSubI64 req used) := by
    rw [← hused, ← hreq]
    cases r <;> exact ⟨rfl, rfl, rfl⟩
  have hreqLe : req.toInt < 2 ^ 63 := Int64.toInt_lt req
  have hstockLe : (s.inventory r).toInt < 2 ^ 63 := Int64.toInt_lt _
  simp only [account] at hstock hcons hshort
  have hsub : (saturatingSubI64 req used).toInt = req.toInt - used.toInt := by
    rw [saturatingSubI64, toInt_saturateI64_of_ge (by omega), CAP]
    omega
  ext
  · refine (congrArg Int64.toInt hmaps.1).trans ?_
    rw [saturatingSubI64, toInt_saturateI64_of_ge (by omega), huse, CAP]
    simp only [Account.draw, account]
    omega
  · rfl
  · refine (congrArg Int64.toInt hmaps.2.1).trans ?_
    rw [saturatingAddI64, toInt_saturateI64_of_ge (by omega), huse]
    rfl
  · refine (congrArg Int64.toInt hmaps.2.2).trans ?_
    rw [saturatingAddI64, hsub, toInt_saturateI64_of_ge (by omega), huse]
    rfl

/- Phases outside `produce` and `consume` leave the accounts and the population alone. -/
theorem account_other {s t : SettlementState} (hpop : t.population = s.population)
    (hinv : t.inventory = s.inventory) (hprod : t.cumulativeProduction = s.cumulativeProduction)
    (hcons : t.cumulativeConsumption = s.cumulativeConsumption)
    (hshort : t.cumulativeShortage = s.cumulativeShortage) :
    t.population = s.population ∧ ∀ r, t.account r = s.account r := by
  refine ⟨hpop, fun r => ?_⟩
  rw [account, hinv, hprod, hcons, hshort]
  rfl

theorem applyPendingAllocation_account (s : SettlementState) :
    s.applyPendingAllocation.population = s.population ∧
      ∀ r, s.applyPendingAllocation.account r = s.account r := by
  unfold applyPendingAllocation
  split
  · exact account_other rfl rfl rfl rfl rfl
  · exact ⟨rfl, fun _ => rfl⟩

theorem finalize_account (s : SettlementState) (marker : UInt64) :
    (s.finalize marker).population = s.population ∧
      ∀ r, (s.finalize marker).account r = s.account r :=
  account_other rfl rfl rfl rfl rfl

/-- The invariant of a run of `n` ticks. -/
structure Booked (config : SettlementSimulationConfig) (n : ℕ) (s : SettlementState) : Prop where
  population : s.population = config.population
  balanced : ∀ r, Account.Balanced CAP (initialOf config r).toInt
    (required config.population config r).toInt n (s.account r)

end SettlementState

open SettlementState XenorEngine.Lib.Ledger

/-- What a valid configuration promises about the amounts. -/
structure SettlementAmounts (config : SettlementSimulationConfig) : Prop where
  initial : ∀ r, 0 ≤ (initialOf config r).toInt
  food : 0 ≤ config.foodPerFarmer.toInt
  wood : 0 ≤ config.woodPerLogger.toInt
  consumption : 0 ≤ config.foodConsumptionPerWorker.toInt
  demand : ∀ r, 0 ≤ (required config.population config r).toInt

theorem settlement_amounts {config : SettlementSimulationConfig}
    (h : config.validate = .ok ()) : SettlementAmounts config := by
  simp only [SettlementSimulationConfig.validate, bind_eq_ok, rejectNegative_eq_ok,
    rejectIf_eq_ok, exists_const] at h
  obtain ⟨-, u, -, hneg, -⟩ := h
  have hnat : ∀ f ∈ [("initial_food", config.initialFood), ("initial_wood", config.initialWood),
      ("food_per_farmer", config.foodPerFarmer), ("wood_per_logger", config.woodPerLogger),
      ("food_consumption_per_worker", config.foodConsumptionPerWorker),
      ("wood_consumption_per_tick", config.woodConsumptionPerTick),
      ("max_inventory", config.maxInventory)], 0 ≤ f.2.toInt := by
    intro f hf
    have hlt := hneg f hf
    rw [Int64.lt_iff_toInt_lt] at hlt
    exact not_lt.mp hlt
  simp only [List.forall_mem_cons] at hnat
  obtain ⟨hfood, hwood, hperFarmer, hperLogger, hperWorker, hperTick, -⟩ := hnat
  refine ⟨?_, hperFarmer, hperLogger, hperWorker, ?_⟩
  · intro r
    cases r with
    | food => exact hfood
    | wood => exact hwood
  · intro r
    cases r with
    | food => exact saturatingMulI64_u32_nonneg _ hperWorker
    | wood => exact hperTick

theorem produced_nonneg {config : SettlementSimulationConfig} (h : SettlementAmounts config)
    (s : SettlementState) (r : ResourceKind) : 0 ≤ (s.produced config r).toInt := by
  cases r with
  | food => exact saturatingMulI64_u32_nonneg _ h.food
  | wood => exact saturatingMulI64_u32_nonneg _ h.wood

theorem booked_congr {config : SettlementSimulationConfig} {n : ℕ} {s t : SettlementState}
    (h : s.Booked config n) (hk : t.population = s.population ∧ ∀ r, t.account r = s.account r) :
    t.Booked config n :=
  ⟨hk.1.trans h.population, fun r => (hk.2 r).symm ▸ h.balanced r⟩

theorem booked_round {config : SettlementSimulationConfig} (hamounts : SettlementAmounts config)
    {n : ℕ} {s : SettlementState} (h : s.Booked config n) :
    ((s.produce config).consume config).Booked config (n + 1) := by
  refine ⟨h.population, fun r => ?_⟩
  have hb := h.balanced r
  have hamount := produced_nonneg hamounts s r
  have hpop : (s.produce config).population = config.population := h.population
  have hprod := account_produce config hb.stock_nonneg hb.produced_nonneg hamount
  have hdemand := hamounts.demand r
  have hround := Account.round_balanced (hamounts.initial r) hdemand hamount hb
  have hstock : 0 ≤ ((s.produce config).account r).stock := by
    have hs := hb.stock_nonneg
    rw [hprod, CAP]
    simp only [Account.fill]
    omega
  have hcons : 0 ≤ ((s.produce config).account r).consumed := by
    rw [hprod]
    exact hb.consumed_nonneg
  have hshort : 0 ≤ ((s.produce config).account r).shortage := by
    rw [hprod]
    exact hb.shortage_nonneg
  rw [account_consume config hstock hcons hshort (hpop ▸ hdemand), hprod, hpop]
  exact hround

/- One tick is one round of every account. -/
theorem settlement_tick_booked {e : SettlementEngine} {config : SettlementSimulationConfig}
    (he : e.scheduler = defaultSettlementScheduler config) (hamounts : SettlementAmounts config)
    {n : ℕ} {s s' : SettlementState} {frame : InputFrame SettlementCommand}
    {record : ReplayTickRecord SettlementCommand SettlementSnapshot} (hs : s.Booked config n)
    (h : e.tickStep s frame = .ok (s', record)) : s'.Booked config (n + 1) := by
  have hord : e.scheduler.Ordered := he ▸ defaultSettlementScheduler_ordered config
  obtain ⟨t, hacts, rfl, -⟩ := DeterministicEngine.tickStep_acts hord h
  rw [he, defaultSettlementScheduler_phases] at hacts
  simp only [DeterministicEngine.actAll, estate_bind_ok, estate_pure_ok] at hacts
  obtain ⟨_, s1, h1, _, s2, h2, _, s3, h3, _, s4, h4, _, s5, h5, _, s6, h6, _, s7, h7, -, rfl⟩ :=
    hacts
  have hb1 : s1.Booked config n := by
    rw [estate_modify_ok.mp h1]
    exact booked_congr hs (account_other rfl rfl rfl rfl rfl)
  have hb2 : s2.Booked config n := by
    obtain ⟨allocation, present, rfl⟩ := stageSettlementCommand_ok h2
    exact booked_congr hb1 (account_other rfl rfl rfl rfl rfl)
  have hb3 : s3.Booked config n := by
    rw [estate_modify_ok.mp h3]
    exact booked_congr hb2 (applyPendingAllocation_account s2)
  have hb5 : s5.Booked config (n + 1) := by
    rw [estate_modify_ok.mp h5, estate_modify_ok.mp h4]
    exact booked_round hamounts hb3
  have hb6 : s6.Booked config (n + 1) := by
    rw [estate_modify_ok.mp h6]
    exact booked_congr hb5 (account_other rfl rfl rfl rfl rfl)
  have hb7 : s7.Booked config (n + 1) := by
    rw [estate_modify_ok.mp h7]
    exact booked_congr hb6 (finalize_account s6 _)
  exact booked_congr hb7 (account_other rfl rfl rfl rfl rfl)

theorem settlement_run_booked {e : SettlementEngine} {config : SettlementSimulationConfig}
    (he : e.scheduler = defaultSettlementScheduler config) (hamounts : SettlementAmounts config)
    {s s' : SettlementState} {frames : List (InputFrame SettlementCommand)}
    {records : List (ReplayTickRecord SettlementCommand SettlementSnapshot)}
    (hs : s.Booked config 0) (h : e.machine.run s frames = .ok (s', records)) :
    s'.Booked config frames.length := by
  refine run_holds (fun s inputs _ => s.Booked config inputs.length) ?_ hs h
  intro s inputs outputs frame s' record hI hstep
  rw [List.length_append]
  exact settlement_tick_booked he hamounts hI hstep

theorem fromConfig_booked {config : SettlementSimulationConfig} {s : SettlementState}
    (hamounts : SettlementAmounts config) (h : SettlementState.fromConfig config = .ok s) :
    s.Booked config 0 := by
  simp only [SettlementState.fromConfig, bind_eq_ok, pure_eq_ok] at h
  obtain ⟨-, -, rfl⟩ := h
  refine ⟨rfl, fun r => ?_⟩
  have hinit := hamounts.initial r
  have hle : (initialOf config r).toInt ≤ CAP := by
    have hlt := Int64.toInt_lt (initialOf config r)
    rw [CAP]
    omega
  cases r with
  | food => exact Account.opened_balanced _ hinit hle
  | wood => exact Account.opened_balanced _ hinit hle

def demandOf (config : SettlementSimulationConfig) : ResourceKind → ℤ
  | .food => min (config.population.toNat * config.foodConsumptionPerWorker.toInt) CAP
  | .wood => config.woodConsumptionPerTick.toInt

theorem required_eq_demandOf {config : SettlementSimulationConfig} (h : SettlementAmounts config)
    (r : ResourceKind) : (required config.population config r).toInt = demandOf config r := by
  cases r with
  | food => exact toInt_saturatingMul_u32 _ h.consumption
  | wood => rfl

theorem settlementEngineWithConfig_eq_ok {seed : Seed} {config : SettlementSimulationConfig}
    {engine : SettlementEngine} : settlementEngineWithConfig seed config = .ok engine ↔
      config.validate = .ok () ∧ ∃ state, SettlementState.fromConfig config = .ok state ∧
        engine = settlementEngineFrom seed config state := by
  simp only [settlementEngineWithConfig, buildSettlementEngineInternal, orFail, bind_eq_ok,
    mapError_eq_ok, pure_eq_ok]
  constructor
  · rintro ⟨u, hv, state, hs, rfl⟩
    exact ⟨hv, state, hs, rfl⟩
  · rintro ⟨hv, state, hs, rfl⟩
    exact ⟨(), hv, state, hs, rfl⟩

theorem settlement_ledger_balances (config : SettlementSimulationConfig) (seed : Seed)
    (engine engine' : SettlementEngine) (frames : List (InputFrame SettlementCommand)) (n : ℕ)
    (hengine : settlementEngineWithConfig seed config = .ok engine) (hn : n ≤ frames.length)
    (hrun : DeterministicEngine.tickAll (frames.take n) engine = .ok () engine')
    (r : ResourceKind)
    (hproduced : (initialOf config r).toInt + (engine'.state.cumulativeProduction r).toInt <
      2 ^ 63 - 1)
    (hshortage : (engine'.state.cumulativeShortage r).toInt < 2 ^ 63 - 1) :
    (initialOf config r).toInt + (engine'.state.cumulativeProduction r).toInt =
        (engine'.state.inventory r).toInt + (engine'.state.cumulativeConsumption r).toInt ∧
      n * demandOf config r = (engine'.state.cumulativeConsumption r).toInt +
        (engine'.state.cumulativeShortage r).toInt := by
  obtain ⟨hvalid, state, hstate, rfl⟩ := settlementEngineWithConfig_eq_ok.mp hengine
  have hamounts := settlement_amounts hvalid
  obtain ⟨s', records, hmachine, rfl⟩ := (DeterministicEngine.tickAll_refines
    (defaultSettlementScheduler_ordered config) rfl).mp hrun
  have hbooked := settlement_run_booked rfl hamounts (fromConfig_booked hamounts hstate) hmachine
  rw [List.length_take, Nat.min_eq_left hn] at hbooked
  have hb := hbooked.balanced r
  rw [required_eq_demandOf hamounts] at hb
  exact ⟨hb.stock_eq hproduced, hb.demand_eq hproduced hshortage⟩

theorem settlement_ledger_balances_one_tick : ∃ engine engine' : SettlementEngine,
    DeterministicEngine.tickAll [⟨1, .hold⟩] engine = .ok () engine' ∧
      12 + (engine'.state.cumulativeProduction .food).toInt =
        (engine'.state.inventory .food).toInt +
          (engine'.state.cumulativeConsumption .food).toInt := by
  obtain ⟨state, hstate⟩ : ∃ state, SettlementState.fromConfig .default = .ok state := ⟨_, rfl⟩
  have hrun : (okState (DeterministicEngine.tickAll [⟨1, .hold⟩]
      (settlementEngineFrom 7 .default state))).map (fun e =>
        ((e.state.cumulativeProduction .food).toInt, (e.state.cumulativeShortage .food).toInt)) =
      some (9, 0) := by
    cases hstate
    decide +kernel
  obtain ⟨_, engine', hok, htotals⟩ := okState_map_eq_some.mp hrun
  obtain ⟨hproduced, hshortage⟩ := Prod.mk.inj htotals
  refine ⟨_, engine', hok, (settlement_ledger_balances .default 7 _ engine' [⟨1, .hold⟩] 1
    (settlementEngineWithConfig_eq_ok.mpr ⟨rfl, state, hstate, rfl⟩) le_rfl hok .food ?_ ?_).1⟩
  · rw [hproduced]
    decide
  · rw [hshortage]
    decide

end XenorEngine.Rust
