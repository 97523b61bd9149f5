import XenorEngine.Lib.Fallible

/-!
# Time, randomness, states, snapshots (simulation_config, simulation_clock,
deterministic_rng, simulation_state, simulation_snapshot)

The C++ engine. A call that can throw ends with an `Exception`; a duration is its
count of nanoseconds.
-/

namespace XenorEngine.Cpp
open XenorEngine.Lib.Fallible

inductive SnapshotBoundaryErrorCode
  | incompatibleEngineVersion
  | invalidStateMetadata
  | incompatibleElapsedDuration
  | incompatibleSeed
  | unsupportedPayloadVersion
  | adapterContractViolation
  | adapterRestoreFailure
  deriving DecidableEq, Repr

/-- What can be thrown; `standard` is any other class derived from `std::exception`. -/
inductive Exception
  | snapshotBoundaryError (code : SnapshotBoundaryErrorCode) (what : String)
  | overflowError (what : String)
  | invalidArgument (what : String)
  | outOfRange (what : String)
  | standard (what : String)
  | nonStandard
  deriving DecidableEq, Repr

def Exception.what? : Exception → Option String
  | snapshotBoundaryError _ what => some what
  | overflowError what => some what
  | invalidArgument what => some what
  | outOfRange what => some what
  | standard what => some what
  | nonStandard => none

/-! ### Configuration and clock -/

structure SimulationConfig where
  tickDuration : Int64
  seed : UInt64
  positive : 0 < tickDuration.toInt

def SimulationConfig.new (tickDuration : Int64) (seed : UInt64) :
    Except Exception SimulationConfig :=
  if h : tickDuration ≤ 0 then .error (.invalidArgument "tick duration must be greater than zero")
  else .ok ⟨tickDuration, seed, by
    rw [Int64.le_iff_toInt_le] at h
    exact not_le.mp h⟩

def checkedDurationProduct (tickDuration : Int64) (tick : UInt64) : Except Exception Int64 :=
  if tick = 0 then .ok 0
  else
    let maxTick := (Int64.maxValue / tickDuration).toUInt64
    if tick > maxTick then .error (.overflowError "simulated duration overflow")
    else .ok (tickDuration * tick.toInt64)

/-- The clock of an engine takes its tick duration from the configuration and never
changes it. -/
structure SimulationClock (config : SimulationConfig) where
  currentTick : UInt64

def maxTick : UInt64 := UInt64.ofNat (2 ^ 64 - 1)

namespace SimulationClock
variable {config : SimulationConfig}

def new (config : SimulationConfig) : SimulationClock config := ⟨0⟩

def tickDuration (_ : SimulationClock config) : Int64 := config.tickDuration

def elapsedDurationAt (clock : SimulationClock config) (tick : UInt64) : Except Exception Int64 :=
  checkedDurationProduct clock.tickDuration tick

def elapsedDuration (clock : SimulationClock config) : Except Exception Int64 :=
  clock.elapsedDurationAt clock.currentTick

def advanceBy (clock : SimulationClock config) (steps : UInt64) :
    Except Exception (SimulationClock config) :=
  if steps > maxTick - clock.currentTick then .error (.overflowError "simulation tick overflow")
  else .ok ⟨clock.currentTick + steps⟩

def advance (clock : SimulationClock config) : Except Exception (SimulationClock config) :=
  clock.advanceBy 1

def restore (clock : SimulationClock config) (tick : UInt64) :
    Except Exception (SimulationClock config) := do
  let _ ← clock.elapsedDurationAt tick
  pure ⟨tick⟩

end SimulationClock

/-! ### Randomness -/

structure DeterministicRng where
  state : UInt64
  deriving DecidableEq, Repr

namespace DeterministicRng

@[irreducible]
def mix (value : UInt64) : UInt64 :=
  let value := value ^^^ (value >>> 30)
  let value := value * 0xbf58476d1ce4e5b9
  let value := value ^^^ (value >>> 27)
  let value := value * 0x94d049bb133111eb
  value ^^^ (value >>> 31)

def nextU64 (rng : DeterministicRng) : UInt64 × DeterministicRng :=
  let state := rng.state + 0x9e3779b97f4a7c15
  (mix state, ⟨state⟩)

end DeterministicRng

/-! ### States and snapshots -/

/-- A state derived from `SimulationState`; `data` is what the derived class adds. -/
structure SimulationState (Data : Type) where
  lastCompletedTick : UInt64
  data : Data
  deriving DecidableEq, Repr

def SimulationState.setLastCompletedTick {Data : Type} (state : SimulationState Data)
    (tick : UInt64) : SimulationState Data := { state with lastCompletedTick := tick }

structure SimulationSnapshot (Data : Type) where
  tick : UInt64
  elapsed : Int64
  seed : UInt64
  state : SimulationState Data
  deriving DecidableEq, Repr

/-! ### The elapsed duration -/

/-- The elapsed duration of a tick is an `int64`. -/
def SimulationConfig.Representable (config : SimulationConfig) (tick : ℕ) : Prop :=
  tick * config.tickDuration.toInt < 2 ^ 63

instance {config : SimulationConfig} {tick : ℕ} : Decidable (config.Representable tick) :=
  inferInstanceAs (Decidable (_ < _))

theorem representable_mono {config : SimulationConfig} {m n : ℕ} (hmn : m ≤ n)
    (hn : config.Representable n) : config.Representable m := by
  have hle : (m : ℤ) * config.tickDuration.toInt ≤ n * config.tickDuration.toInt :=
    mul_le_mul_of_nonneg_right (by exact_mod_cast hmn) config.positive.le
  exact hle.trans_lt hn

/- A duration is at least one nanosecond. -/
theorem representable_lt {config : SimulationConfig} {n : ℕ} (hn : config.Representable n) :
    n < 2 ^ 63 := by
  have hle : (n : ℤ) ≤ n * config.tickDuration.toInt :=
    le_mul_of_one_le_right (by omega) config.positive
  unfold SimulationConfig.Representable at hn
  omega

theorem toInt64_toInt {n : UInt64} (hn : n.toNat < 2 ^ 63) : n.toInt64.toInt = n.toNat := by
  change n.toBitVec.toInt = n.toNat
  rw [BitVec.toInt_eq_toNat_of_lt (by rw [UInt64.toNat_toBitVec]; omega)]
  rfl

theorem maxValue_div_toNat {d : Int64} (hd : 0 < d.toInt) :
    ((Int64.maxValue / d).toUInt64.toNat : ℤ) = (2 ^ 63 - 1) / d.toInt := by
  have hne : Int64.maxValue ≠ Int64.minValue := by decide
  have hdiv : (Int64.maxValue / d).toInt = (2 ^ 63 - 1) / d.toInt := by
    rw [Int64.toInt_div_of_ne_left _ _ hne, Int64.toInt_maxValue,
      Int.tdiv_eq_ediv_of_nonneg (by decide)]
  have hnonneg : (0 : ℤ) ≤ (2 ^ 63 - 1) / d.toInt := Int.ediv_nonneg (by decide) hd.le
  have hle : 0 ≤ Int64.maxValue / d := by
    rw [Int64.le_iff_toInt_le, hdiv]
    exact hnonneg
  rw [Int64.toNat_toUInt64_of_le hle]
  change ((Int64.maxValue / d).toInt.toNat : ℤ) = _
  rw [hdiv]
  exact Int.toNat_of_nonneg hnonneg

/- The guard by division is the bound on the product. -/
theorem maxTick_lt_iff {config : SimulationConfig} {tick : UInt64} :
    (Int64.maxValue / config.tickDuration).toUInt64 < tick ↔ ¬config.Representable tick.toNat := by
  rw [UInt64.lt_iff_toNat_lt, ← Nat.cast_lt (α := ℤ), maxValue_div_toNat config.positive,
    Int.ediv_lt_iff_lt_mul config.positive]
  unfold SimulationConfig.Representable
  omega

theorem duration_mul_toInt {config : SimulationConfig} {tick : UInt64}
    (htick : config.Representable tick.toNat) :
    (config.tickDuration * tick.toInt64).toInt = tick.toNat * config.tickDuration.toInt := by
  have hnonneg : (0 : ℤ) ≤ tick.toNat * config.tickDuration.toInt :=
    mul_nonneg (by omega) config.positive.le
  rw [Int64.toInt_mul, toInt64_toInt (representable_lt htick), mul_comm]
  unfold SimulationConfig.Representable at htick
  exact Int.bmod_eq_of_le (by omega) (by omega)

theorem checkedDurationProduct_of {config : SimulationConfig} {tick : UInt64}
    (htick : config.Representable tick.toNat) :
    checkedDurationProduct config.tickDuration tick =
      .ok (config.tickDuration * tick.toInt64) := by
  unfold checkedDurationProduct
  by_cases hzero : tick = 0
  · subst hzero
    rw [if_pos rfl]
    exact congrArg Except.ok (Int64.mul_zero (a := config.tickDuration)).symm
  · rw [if_neg hzero, if_neg (fun hlt => maxTick_lt_iff.mp hlt htick)]

theorem checkedDurationProduct_of_not {config : SimulationConfig} {tick : UInt64}
    (htick : ¬config.Representable tick.toNat) :
    checkedDurationProduct config.tickDuration tick =
      .error (.overflowError "simulated duration overflow") := by
  have hzero : tick ≠ 0 := by
    rintro rfl
    exact htick (by simp [SimulationConfig.Representable])
  unfold checkedDurationProduct
  rw [if_neg hzero, if_pos (maxTick_lt_iff.mpr htick)]

/- The product is exact where it is representable, and only there. -/
theorem checkedDurationProduct_eq_ok {config : SimulationConfig} {tick : UInt64} {e : Int64} :
    checkedDurationProduct config.tickDuration tick = .ok e ↔
      config.Representable tick.toNat ∧ e.toInt = tick.toNat * config.tickDuration.toInt := by
  by_cases htick : config.Representable tick.toNat
  · rw [checkedDurationProduct_of htick, ← duration_mul_toInt htick, Except.ok.injEq,
      Int64.toInt_inj]
    constructor
    · rintro rfl
      exact ⟨htick, rfl⟩
    · rintro ⟨-, rfl⟩
      rfl
  · rw [checkedDurationProduct_of_not htick]
    constructor
    · intro h
      cases h
    · rintro ⟨h, -⟩
      exact absurd h htick

end XenorEngine.Cpp
