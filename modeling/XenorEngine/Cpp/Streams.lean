import XenorEngine.Rust.Mixing
import XenorEngine.Cpp.Engine

/-!
# simulation_engine.hpp, deterministic_rng.hpp: streams of a run

The step seeds and the draws of the C++ engine, beside those of the Rust core.
The two mixers differ in one step only: here the stride is added outside `mix`.
-/

namespace XenorEngine.Cpp
open XenorEngine.Lib.Mixing

namespace DeterministicRng

theorem mix_injective : Function.Injective mix := by
  intro x y hxy
  rw [mix.eq_1, mix.eq_1] at hxy
  have hlast := word_xor_shiftRight_injective (by decide) (by decide) hxy
  have hsecond := word_round_injective (by decide) (by decide) (by decide) hlast
  exact word_round_injective (by decide) (by decide) (by decide) hsecond

theorem nextU64_state (rng : DeterministicRng) :
    (nextU64 rng).2.state = rng.state + 0x9e3779b97f4a7c15 := rfl

theorem nextU64_draw (rng : DeterministicRng) :
    (nextU64 rng).1 = mix (rng.state + 0x9e3779b97f4a7c15) := rfl

theorem draws_distinct (rng : DeterministicRng) {i j : Nat} (hi : i < 2 ^ 64) (hj : j < 2 ^ 64)
    (h : drawAt nextU64 rng i = drawAt nextU64 rng j) : i = j :=
  drawAt_injective nextU64_state nextU64_draw mix_injective (by decide) rng hi hj h

theorem draws_period (rng : DeterministicRng) (n : Nat) :
    drawAt nextU64 rng (n + 2 ^ 64) = drawAt nextU64 rng n :=
  drawAt_period nextU64_state nextU64_draw rng n

end DeterministicRng

theorem deriveStepSeed_injective (seed : UInt64) : Function.Injective (deriveStepSeed seed) := by
  intro x y hxy
  have hsum : seed + 0x9e3779b97f4a7c15 * x = seed + 0x9e3779b97f4a7c15 * y :=
    DeterministicRng.mix_injective hxy
  have hproduct := (UInt64.add_right_inj seed).mp hsum
  rw [UInt64.mul_comm, UInt64.mul_comm _ y] at hproduct
  exact word_mul_odd_injective (by decide) hproduct

/- Neither the ticks of a run nor the draws inside a tick reuse a word. -/
theorem streams_never_repeat :
    (∀ (seed : Rust.Seed) (t t' : Rust.Tick),
      t ≠ t' → Rust.tickSeed seed t ≠ Rust.tickSeed seed t') ∧
    (∀ seed t t' : UInt64, t ≠ t' → deriveStepSeed seed t ≠ deriveStepSeed seed t') ∧
    (∀ seed : Rust.Seed,
      (∀ i j, i < 2 ^ 64 → j < 2 ^ 64 → i ≠ j →
        drawAt Rust.SplitMix64.nextU64 (.fromSeed seed) i ≠
          drawAt Rust.SplitMix64.nextU64 (.fromSeed seed) j) ∧
      ∀ n, drawAt Rust.SplitMix64.nextU64 (.fromSeed seed) (n + 2 ^ 64) =
        drawAt Rust.SplitMix64.nextU64 (.fromSeed seed) n) ∧
    ∀ seed : UInt64,
      (∀ i j, i < 2 ^ 64 → j < 2 ^ 64 → i ≠ j →
        drawAt DeterministicRng.nextU64 ⟨seed⟩ i ≠ drawAt DeterministicRng.nextU64 ⟨seed⟩ j) ∧
      ∀ n, drawAt DeterministicRng.nextU64 ⟨seed⟩ (n + 2 ^ 64) =
        drawAt DeterministicRng.nextU64 ⟨seed⟩ n := by
  refine ⟨?_, ?_, ?_, ?_⟩
  · intro seed t t' hdistinct h
    exact hdistinct (Rust.tickSeed_injective seed h)
  · intro seed t t' hdistinct h
    exact hdistinct (deriveStepSeed_injective seed h)
  · intro seed
    constructor
    · intro i j hi hj hdistinct h
      exact hdistinct (Rust.SplitMix64.draws_distinct _ hi hj h)
    · intro n
      exact Rust.SplitMix64.draws_period _ n
  · intro seed
    constructor
    · intro i j hi hj hdistinct h
      exact hdistinct (DeterministicRng.draws_distinct _ hi hj h)
    · intro n
      exact DeterministicRng.draws_period _ n

end XenorEngine.Cpp
