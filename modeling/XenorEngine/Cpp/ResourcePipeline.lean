import XenorEngine.Cpp.Traces

/-!
# The resource pipeline (examples/resource_pipeline_example.cpp)

Ore comes in, two units of it are smelted into an ingot, and ingots are dispatched
against a target; what cannot be dispatched is added to a backlog. The example checks
at the end that its runs were deterministic.
-/

namespace XenorEngine.Cpp
open XenorEngine.Lib.Fallible

structure ResourceTickInput where
  inboundOre : UInt64 := 0
  outboundTarget : UInt64 := 0
  deriving DecidableEq, Repr

structure ResourcePipelineState where
  ore : UInt64 := 0
  ingots : UInt64 := 0
  finishedUnits : UInt64 := 0
  backlog : UInt64 := 0
  randomChecksum : UInt64 := 0
  deriving DecidableEq, Repr

structure ResourcePipelinePayload where
  ore : UInt64 := 0
  ingots : UInt64 := 0
  finishedUnits : UInt64 := 0
  backlog : UInt64 := 0
  randomChecksum : UInt64 := 0
  deriving DecidableEq, Repr

abbrev PipelineEngine := SimulationEngine ResourcePipelineState ResourceTickInput

namespace ResourcePipelineSnapshotAdapter

def currentPayloadVersion : UInt32 := 2

def capture (state : SimulationState ResourcePipelineState) : ResourcePipelinePayload where
  ore := state.data.ore
  ingots := state.data.ingots
  finishedUnits := state.data.finishedUnits
  backlog := state.data.backlog
  randomChecksum := state.data.randomChecksum

/-- The restored state has not completed any tick yet. -/
def restore (payload : ResourcePipelinePayload) (payloadVersion : UInt32) :
    Except Exception (SimulationState ResourcePipelineState) :=
  let state : ResourcePipelineState :=
    { ore := payload.ore
      ingots := payload.ingots
      finishedUnits := payload.finishedUnits
      randomChecksum := payload.randomChecksum }
  if payloadVersion = 1 then .ok ⟨0, { state with backlog := 0 }⟩
  else if payloadVersion = currentPayloadVersion then
    .ok ⟨0, { state with backlog := payload.backlog }⟩
  else .error (.invalidArgument "unsupported resource pipeline payload version")

end ResourcePipelineSnapshotAdapter

open ResourcePipelineSnapshotAdapter in
/-- The adapter has no state of its own. -/
def resourcePipelineSnapshotAdapter :
    SnapshotStateAdapter Unit ResourcePipelinePayload ResourcePipelineState where
  payloadVersion := pure currentPayloadVersion
  supportsPayloadVersion payloadVersion :=
    pure (payloadVersion == 1 || payloadVersion == currentPayloadVersion)
  capture state := pure (capture state)
  restore payload payloadVersion := liftExcept (restore payload payloadVersion)

/-! ### The systems -/

namespace ResourcePipeline

abbrev System := SystemCallback ResourcePipelineState ResourceTickInput

def intake : System := fun context => do
  let input ← liftExcept context.inputOf
  modify fun (state, rng) =>
    ({ state with data := { state.data with ore := state.data.ore + input.inboundOre } }, rng)

def yieldAdjustment : System := fun context =>
  modify fun (state, rng) =>
    let (randomValue, rng) := rng.nextU64
    ({ state with data := { state.data with
      randomChecksum := state.data.randomChecksum ^^^ (randomValue + context.stepSeed)
      ore := state.data.ore + randomValue % 2 } }, rng)

def smelting : System := fun _ =>
  modify fun (state, rng) =>
    let ingotBatches := state.data.ore / 2
    ({ state with data := { state.data with
      ore := state.data.ore - ingotBatches * 2
      ingots := state.data.ingots + ingotBatches } }, rng)

def dispatch : System := fun context => do
  let input ← liftExcept context.inputOf
  modify fun (state, rng) =>
    let finishedBatches := min state.data.ingots input.outboundTarget
    ({ state with data := { state.data with
      ingots := state.data.ingots - finishedBatches
      finishedUnits := state.data.finishedUnits + finishedBatches
      backlog := state.data.backlog + (input.outboundTarget - finishedBatches) } }, rng)

def config (seed : UInt64) : SimulationConfig := ⟨50000000, seed, by decide⟩

def addSystems : SimulationEngine.Call ResourcePipelineState ResourceTickInput Unit := do
  discard (SimulationEngine.addSystem .preUpdate "intake" (some intake))
  discard (SimulationEngine.addSystem .preUpdate "yield_adjustment" (some yieldAdjustment))
  discard (SimulationEngine.addSystem .update "smelting" (some smelting))
  discard (SimulationEngine.addSystem .postUpdate "dispatch" (some dispatch))

def makeEngine (seed : UInt64) : PipelineEngine :=
  endState (addSystems (SimulationEngine.new (config seed) ⟨0, {}⟩))

def systems : List (RegisteredSystem ResourcePipelineState ResourceTickInput) :=
  [⟨.preUpdate, "intake", intake⟩, ⟨.preUpdate, "yield_adjustment", yieldAdjustment⟩,
    ⟨.update, "smelting", smelting⟩, ⟨.postUpdate, "dispatch", dispatch⟩]

theorem makeEngine_systems (seed : UInt64) : (makeEngine seed).systems = systems := rfl

theorem executionOrder_systems : executionOrder systems = systems := rfl

/-! ### A tick -/

/-- What a tick makes of the data. -/
@[irreducible]
def tick (stepSeed : UInt64) (input : ResourceTickInput) (data : ResourcePipelineState) :
    ResourcePipelineState :=
  let randomValue := (DeterministicRng.nextU64 ⟨stepSeed⟩).1
  let ore := data.ore + input.inboundOre + randomValue % 2
  let ingots := data.ingots + ore / 2
  let finishedBatches := min ingots input.outboundTarget
  { ore := ore - ore / 2 * 2
    ingots := ingots - finishedBatches
    finishedUnits := data.finishedUnits + finishedBatches
    backlog := data.backlog + (input.outboundTarget - finishedBatches)
    randomChecksum := data.randomChecksum ^^^ (randomValue + stepSeed) }

section Callbacks
variable {context : StepContext ResourceTickInput} {input : ResourceTickInput}
  (t ore ingots finished backlog checksum : UInt64) (rng : DeterministicRng)

theorem intake_ok (hinput : context.input = some input) :
    intake context (⟨t, ore, ingots, finished, backlog, checksum⟩, rng) =
      .ok () (⟨t, ore + input.inboundOre, ingots, finished, backlog, checksum⟩, rng) := by
  unfold intake StepContext.inputOf
  rw [hinput]
  rfl

theorem yieldAdjustment_ok :
    yieldAdjustment context (⟨t, ore, ingots, finished, backlog, checksum⟩, rng) =
      .ok () (⟨t, ore + rng.nextU64.1 % 2, ingots, finished, backlog,
        checksum ^^^ (rng.nextU64.1 + context.stepSeed)⟩, rng.nextU64.2) := rfl

theorem smelting_ok :
    smelting context (⟨t, ore, ingots, finished, backlog, checksum⟩, rng) =
      .ok () (⟨t, ore - ore / 2 * 2, ingots + ore / 2, finished, backlog, checksum⟩, rng) := rfl

theorem dispatch_ok (hinput : context.input = some input) :
    dispatch context (⟨t, ore, ingots, finished, backlog, checksum⟩, rng) =
      .ok () (⟨t, ore, ingots - min ingots input.outboundTarget,
        finished + min ingots input.outboundTarget,
        backlog + (input.outboundTarget - min ingots input.outboundTarget), checksum⟩, rng) := by
  unfold dispatch StepContext.inputOf
  rw [hinput]
  rfl

theorem callAll_systems_eq (context : StepContext ResourceTickInput) :
    SimulationEngine.callAll context systems = (do
      intake context
      yieldAdjustment context
      smelting context
      dispatch context
      pure ()) := by
  unfold SimulationEngine.callAll systems
  simp only [List.forM_eq_forM, List.forM_cons, List.forM_nil]

/- The four systems of a tick with an input. -/
theorem callAll_systems (hinput : context.input = some input)
    (state : SimulationState ResourcePipelineState) :
    SimulationEngine.callAll context systems (state, ⟨context.stepSeed⟩) =
      .ok () (⟨state.lastCompletedTick, tick context.stepSeed input state.data⟩,
        (DeterministicRng.nextU64 ⟨context.stepSeed⟩).2) := by
  obtain ⟨t, ore, ingots, finished, backlog, checksum⟩ := state
  rw [callAll_systems_eq]
  refine estate_bind_ok.mpr ⟨(), _, intake_ok _ _ _ _ _ _ _ hinput, ?_⟩
  refine estate_bind_ok.mpr ⟨(), _, yieldAdjustment_ok _ _ _ _ _ _ _, ?_⟩
  refine estate_bind_ok.mpr ⟨(), _, smelting_ok _ _ _ _ _ _ _, ?_⟩
  refine estate_bind_ok.mpr ⟨(), _, dispatch_ok _ _ _ _ _ _ _ hinput, ?_⟩
  refine estate_pure_ok.mpr ⟨rfl, ?_⟩
  unfold tick
  dsimp only

end Callbacks

theorem systems_return : ∀ system ∈ systems, system.ReturnsOnInput := by
  intro system hmem context hsome
  obtain ⟨input, hinput⟩ := Option.ne_none_iff_exists'.mp hsome
  simp only [systems, List.mem_cons, List.not_mem_nil, or_false] at hmem
  rcases hmem with rfl | rfl | rfl | rfl
  · rintro ⟨⟨t, ore, ingots, finished, backlog, checksum⟩, rng⟩
    exact ⟨(), _, intake_ok t ore ingots finished backlog checksum rng hinput⟩
  · exact total_modify _
  · exact total_modify _
  · rintro ⟨⟨t, ore, ingots, finished, backlog, checksum⟩, rng⟩
    exact ⟨(), _, dispatch_ok t ore ingots finished backlog checksum rng hinput⟩

theorem makeEngine_built (seed : UInt64) : (makeEngine seed).Built (config seed) ⟨0, {}⟩ := by
  have h0 : SimulationEngine.Built (config seed) ⟨0, {}⟩
      (SimulationEngine.new (config seed) ⟨0, {}⟩ : PipelineEngine) := .new
  have h1 := h0.addSystem (rfl : SimulationEngine.addSystem .preUpdate "intake" (some intake) _ =
    .ok 0 _)
  have h2 := h1.addSystem (rfl : SimulationEngine.addSystem .preUpdate "yield_adjustment"
    (some yieldAdjustment) _ = .ok 1 _)
  have h3 := h2.addSystem (rfl : SimulationEngine.addSystem .update "smelting" (some smelting) _ =
    .ok 2 _)
  exact h3.addSystem (rfl : SimulationEngine.addSystem .postUpdate "dispatch" (some dispatch) _ =
    .ok 3 _)

/-! ### Runs -/

/-- The tick after the one in the first component. -/
def advance (seed : UInt64) (reached : UInt64 × ResourcePipelineState)
    (input : ResourceTickInput) : UInt64 × ResourcePipelineState :=
  (reached.1 + 1, tick (deriveStepSeed seed (reached.1 + 1)) input reached.2)

theorem stepImpl_data {engine next : PipelineEngine} (hsystems : engine.systems = systems)
    {input : ResourceTickInput}
    (h : SimulationEngine.stepImpl (some input) engine = .ok () next) :
    next.state.data = tick (deriveStepSeed engine.config.seed (engine.clock.currentTick + 1)) input
      engine.state.data := by
  obtain ⟨-, state, rng, hcalls, hnext⟩ := SimulationEngine.stepImpl_eq_ok h
  have hinput : (engine.stepContext (some input)).input = some input := rfl
  rw [hsystems, executionOrder_systems, callAll_systems hinput] at hcalls
  injection hcalls with _ hstate
  rw [hnext]
  change (SimulationEngine.recordReplayEvents _ (engine.withState state)).state.data = _
  rw [SimulationEngine.state_recordReplayEvents]
  exact congrArg (fun s => s.1.data) hstate.symm

theorem runForSequence_data {engine last : PipelineEngine} (hsystems : engine.systems = systems)
    {inputs : List ResourceTickInput}
    (h : SimulationEngine.runForSequence inputs engine = .ok () last) :
    (last.clock.currentTick, last.state.data) = inputs.foldl (advance engine.config.seed)
      (engine.clock.currentTick, engine.state.data) := by
  induction inputs generalizing engine with
  | nil =>
    obtain ⟨-, rfl⟩ := estate_pure_ok.mp h
    rfl
  | cons input inputs ih =>
    obtain ⟨_, next, hstep, hrest⟩ := estate_bind_ok.mp h
    obtain ⟨⟨hconfig, hsame⟩, htick, -⟩ := SimulationEngine.stepImpl_trace hstep
    rw [ih (hsame.trans hsystems) hrest, List.foldl_cons, advance, htick,
      stepImpl_data hsystems hstep, hconfig]

/-- The data of an engine that has run `history`. -/
def dataAfter (seed : UInt64) (history : List ResourceTickInput) : ResourcePipelineState :=
  (history.foldl (advance seed) (0, {})).2

theorem reached_tick (seed : UInt64) (history : List ResourceTickInput) :
    (history.foldl (advance seed) (0, {})).1 = UInt64.ofNat history.length := by
  induction history using List.reverseRecOn with
  | nil => rfl
  | append_singleton history input ih =>
    rw [List.foldl_append, List.foldl_cons, List.foldl_nil, advance, ih, List.length_append,
      UInt64.ofNat_add]
    rfl

theorem dataAfter_append (seed : UInt64) (history : List ResourceTickInput)
    (input : ResourceTickInput) : dataAfter seed (history ++ [input]) =
      tick (deriveStepSeed seed (UInt64.ofNat (history.length + 1))) input
        (dataAfter seed history) := by
  have hnext : UInt64.ofNat history.length + 1 = UInt64.ofNat (history.length + 1) := by
    rw [UInt64.ofNat_add]
    rfl
  rw [dataAfter, List.foldl_append, List.foldl_cons, List.foldl_nil, advance, reached_tick, hnext]
  rfl

/-! ### What a tick conserves -/

/-- The quantities of the data as natural numbers. -/
structure Stock where
  ore : ℕ
  ingots : ℕ
  finishedUnits : ℕ
  backlog : ℕ

def Stock.tick (inboundOre bonus outboundTarget : ℕ) (stock : Stock) : Stock :=
  let ore := (stock.ore + inboundOre + bonus) % 2 ^ 64
  let ingots := (stock.ingots + ore / 2) % 2 ^ 64
  let finishedBatches := min ingots outboundTarget
  { ore := ore % 2
    ingots := ingots - finishedBatches
    finishedUnits := (stock.finishedUnits + finishedBatches) % 2 ^ 64
    backlog := (stock.backlog + (outboundTarget - finishedBatches)) % 2 ^ 64 }

/-- Units of ore put in and units asked for, against what the stock holds. -/
structure Stock.Conserves (stock : Stock) (ore demand : ℕ) : Prop where
  material : (stock.ore + 2 * (stock.ingots + stock.finishedUnits)) % 2 ^ 64 = ore % 2 ^ 64
  material_exact : ore < 2 ^ 64 → stock.ore + 2 * (stock.ingots + stock.finishedUnits) = ore
  outgoing : (stock.backlog + stock.finishedUnits) % 2 ^ 64 = demand % 2 ^ 64
  outgoing_exact : demand < 2 ^ 64 → stock.backlog + stock.finishedUnits = demand
  smelted : stock.ore ≤ 1

theorem Stock.tick_conserves {stock : Stock} {ore demand : ℕ} (h : stock.Conserves ore demand)
    (inboundOre outboundTarget : ℕ) {bonus : ℕ} (hbonus : bonus ≤ 1) :
    (stock.tick inboundOre bonus outboundTarget).Conserves (ore + (inboundOre + bonus))
      (demand + outboundTarget) := by
  obtain ⟨o, i, f, b⟩ := stock
  obtain ⟨hmaterial, hmaterial', hout, hout', hsmelted⟩ := h
  dsimp only at hmaterial hmaterial' hout hout' hsmelted
  constructor <;> simp only [Stock.tick]
  case material => omega
  case material_exact =>
    intro hfits
    have hexact := hmaterial' (by omega)
    omega
  case outgoing => omega
  case outgoing_exact =>
    intro hfits
    have hexact := hout' (by omega)
    omega
  case smelted => omega

/- Ingots are kept back only when the target of the tick has been met. -/
theorem Stock.tick_greedy {stock : Stock} (hbacklog : stock.backlog < 2 ^ 64)
    (inboundOre bonus outboundTarget : ℕ) :
    (stock.tick inboundOre bonus outboundTarget).backlog = stock.backlog ∨
      (stock.tick inboundOre bonus outboundTarget).ingots = 0 := by
  simp only [Stock.tick]
  omega

/-- The unit of ore that the random source may add. -/
def bonus (stepSeed : UInt64) : UInt64 := (DeterministicRng.nextU64 ⟨stepSeed⟩).1 % 2

theorem mod_two_le (x : UInt64) : (x % 2).toNat ≤ 1 := by
  have htwo : (2 : UInt64).toNat = 2 := rfl
  rw [UInt64.toNat_mod, htwo]
  omega

theorem bonus_le (stepSeed : UInt64) : (bonus stepSeed).toNat ≤ 1 := by
  unfold bonus
  exact mod_two_le _

def stockOf (data : ResourcePipelineState) : Stock :=
  ⟨data.ore.toNat, data.ingots.toNat, data.finishedUnits.toNat, data.backlog.toNat⟩

theorem toNat_min (x y : UInt64) : (min x y).toNat = min x.toNat y.toNat := by
  change (if x ≤ y then x else y).toNat = _
  by_cases hle : x ≤ y
  · rw [if_pos hle, min_eq_left (UInt64.le_iff_toNat_le.mp hle)]
  · rw [if_neg hle]
    rw [UInt64.le_iff_toNat_le] at hle
    omega

theorem sub_min_toNat (x y : UInt64) : (x - min x y).toNat = x.toNat - min x.toNat y.toNat ∧
    (y - min x y).toNat = y.toNat - min x.toNat y.toNat := by
  have hmin := toNat_min x y
  have hx : min x y ≤ x := by
    rw [UInt64.le_iff_toNat_le]
    omega
  have hy : min x y ≤ y := by
    rw [UInt64.le_iff_toNat_le]
    omega
  rw [UInt64.toNat_sub_of_le _ _ hx, UInt64.toNat_sub_of_le _ _ hy, hmin]
  exact ⟨rfl, rfl⟩

theorem remainder_toNat (x : UInt64) : (x - x / 2 * 2).toNat = x.toNat % 2 := by
  have hlt := x.toNat_lt
  have htwice : (x / 2 * 2).toNat = x.toNat / 2 * 2 := by
    rw [UInt64.toNat_mul, UInt64.toNat_div]
    exact Nat.mod_eq_of_lt (by change x.toNat / 2 * 2 < 2 ^ 64; omega)
  have hle : x / 2 * 2 ≤ x := by
    rw [UInt64.le_iff_toNat_le, htwice]
    omega
  rw [UInt64.toNat_sub_of_le _ _ hle, htwice]
  omega

/- The words of the data follow the stock: what is added may wrap around, what is taken
off does not. -/
theorem stockOf_tick (stepSeed : UInt64) (input : ResourceTickInput)
    (data : ResourcePipelineState) :
    stockOf (tick stepSeed input data) = (stockOf data).tick input.inboundOre.toNat
      (bonus stepSeed).toNat input.outboundTarget.toNat := by
  have hore : (data.ore + input.inboundOre + bonus stepSeed).toNat =
      (data.ore.toNat + input.inboundOre.toNat + (bonus stepSeed).toNat) % 2 ^ 64 := by
    rw [UInt64.toNat_add, UInt64.toNat_add, Nat.mod_add_mod]
  generalize hsum : data.ore + input.inboundOre + bonus stepSeed = sum at hore
  have hingots : (data.ingots + sum / 2).toNat =
      (data.ingots.toNat + sum.toNat / 2) % 2 ^ 64 := by
    rw [UInt64.toNat_add, UInt64.toNat_div]
    rfl
  obtain ⟨hleft, hunmet⟩ := sub_min_toNat (data.ingots + sum / 2) input.outboundTarget
  have hfinished := toNat_min (data.ingots + sum / 2) input.outboundTarget
  have htick : tick stepSeed input data =
      { ore := sum - sum / 2 * 2
        ingots := data.ingots + sum / 2 - min (data.ingots + sum / 2) input.outboundTarget
        finishedUnits := data.finishedUnits + min (data.ingots + sum / 2) input.outboundTarget
        backlog := data.backlog +
          (input.outboundTarget - min (data.ingots + sum / 2) input.outboundTarget)
        randomChecksum := data.randomChecksum ^^^
          ((DeterministicRng.nextU64 ⟨stepSeed⟩).1 + stepSeed) } := by
    rw [← hsum]
    unfold tick bonus
    rfl
  rw [htick]
  simp only [stockOf, Stock.tick, remainder_toNat, hleft, UInt64.toNat_add, hfinished, hunmet,
    hingots, hore]

/-! ### What a history conserves -/

def inbound (history : List ResourceTickInput) : ℕ := (history.map (·.inboundOre.toNat)).sum

def outbound (history : List ResourceTickInput) : ℕ := (history.map (·.outboundTarget.toNat)).sum

/-- The bonuses of the first `n` ticks. -/
def bonuses (seed : UInt64) (n : ℕ) : ℕ :=
  ((List.range n).map fun k => (bonus (deriveStepSeed seed (UInt64.ofNat (k + 1)))).toNat).sum

theorem bonuses_succ (seed : UInt64) (n : ℕ) : bonuses seed (n + 1) =
    bonuses seed n + (bonus (deriveStepSeed seed (UInt64.ofNat (n + 1)))).toNat := by
  rw [bonuses, List.range_succ, List.map_append, List.sum_append, List.map_singleton,
    List.sum_singleton]
  rfl

theorem bonuses_le (seed : UInt64) (n : ℕ) : bonuses seed n ≤ n := by
  induction n with
  | zero => exact le_rfl
  | succ n ih =>
    have hbonus := bonus_le (deriveStepSeed seed (UInt64.ofNat (n + 1)))
    rw [bonuses_succ]
    omega

theorem dataAfter_conserves (seed : UInt64) (history : List ResourceTickInput) :
    (stockOf (dataAfter seed history)).Conserves
      (inbound history + bonuses seed history.length) (outbound history) := by
  induction history using List.reverseRecOn with
  | nil => exact ⟨rfl, fun _ => rfl, rfl, fun _ => rfl, Nat.zero_le 1⟩
  | append_singleton history input ih =>
    have hstep := Stock.tick_conserves ih input.inboundOre.toNat input.outboundTarget.toNat
      (bonus_le (deriveStepSeed seed (UInt64.ofNat (history.length + 1))))
    have hore : inbound (history ++ [input]) = inbound history + input.inboundOre.toNat := by
      rw [inbound, List.map_append, List.sum_append, List.map_singleton, List.sum_singleton]
      rfl
    have hdemand : outbound (history ++ [input]) =
        outbound history + input.outboundTarget.toNat := by
      rw [outbound, List.map_append, List.sum_append, List.map_singleton, List.sum_singleton]
      rfl
    rw [hore, hdemand, dataAfter_append, stockOf_tick, List.length_append, List.length_singleton,
      bonuses_succ, Nat.add_add_add_comm]
    exact hstep

theorem adapter_faithful : resourcePipelineSnapshotAdapter.Faithful := by
  intro object
  refine ⟨2, object, rfl, fun b => ⟨b, rfl⟩, fun state b => ⟨_, b, rfl, fun c => ?_⟩⟩
  exact ⟨⟨0, state.data⟩, c, rfl, rfl⟩

theorem makeEngine_fresh (seed : UInt64) : (makeEngine seed).Fresh :=
  Session.fresh_of_built (makeEngine_built seed) systems_return

theorem data_of_reaches {seed : UInt64} {engine : PipelineEngine}
    {history : List ResourceTickInput} (h : (makeEngine seed).Reaches engine history) :
    engine.state.data = dataAfter seed history := by
  obtain ⟨last, hrun, hsame⟩ := h.run
  have hdata := congrArg Prod.snd (runForSequence_data (makeEngine_systems seed) hrun)
  have hstate : engine.state = last.state := congrArg (·.state) hsame
  rw [hstate]
  exact hdata

section Session
variable {Replica : Type} [DecidableEq Replica]

/- On every engine of a host, whatever it runs, saves and restores, no material is lost:
each two units of ore become an ingot, and each ingot is kept or dispatched. -/
theorem pipeline_conserves (seed : UInt64)
    (calls : List (SessionCall Replica ResourceTickInput)) (replica : Replica) :
    let session := (Session.new (makeEngine seed) ()).afterAll resourcePipelineSnapshotAdapter calls
    let history := (Histories.new.afterAll (config seed) calls).current replica
    let stock := stockOf (session.engines replica).state.data
    bonuses seed history.length ≤ history.length ∧
      stock.Conserves (inbound history + bonuses seed history.length) (outbound history) ∧
      ∀ input next, SimulationEngine.stepImpl (some input) (session.engines replica) =
        .ok () next → next.state.data.backlog = (session.engines replica).state.data.backlog ∨
          next.state.data.ingots = 0 := by
  intro session history stock
  have hfollows : session.Follows resourcePipelineSnapshotAdapter (makeEngine seed) _ :=
    (Session.Follows.new (makeEngine_fresh seed) ()).afterAll (makeEngine_fresh seed)
      adapter_faithful calls
  have hreaches := hfollows.engines replica
  have hdata : (session.engines replica).state.data = dataAfter seed history :=
    data_of_reaches hreaches
  refine ⟨bonuses_le seed history.length, ?_, fun input next hstep => ?_⟩
  · have hstock : stock = stockOf (dataAfter seed history) := congrArg stockOf hdata
    rw [hstock]
    exact dataAfter_conserves seed history
  · have hsystems : (session.engines replica).systems = systems :=
      ((makeEngine_fresh seed).source hreaches).2.2
    have hnext := congrArg stockOf (stepImpl_data hsystems hstep)
    rw [stockOf_tick] at hnext
    have hbacklog : (stockOf (session.engines replica).state.data).backlog < 2 ^ 64 :=
      UInt64.toNat_lt _
    have hgreedy := Stock.tick_greedy hbacklog input.inboundOre.toNat
      (bonus (deriveStepSeed (session.engines replica).config.seed
        ((session.engines replica).clock.currentTick + 1))).toNat input.outboundTarget.toNat
    rw [← hnext] at hgreedy
    exact hgreedy.imp UInt64.toNat_inj.mp UInt64.toNat_inj.mp

end Session

end ResourcePipeline

end XenorEngine.Cpp
