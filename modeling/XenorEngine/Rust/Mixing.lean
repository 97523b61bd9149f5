import XenorEngine.Lib.Mixing
import XenorEngine.Rust.Core

/-!
# core, rng: the mixer is a bijection

`mix64` loses nothing, so a checksum of words keeps every difference made in one
word, and the seeds and draws that are taken from it never repeat early.
-/

namespace XenorEngine.Rust
open XenorEngine.Lib.Mixing

theorem mix64_injective : Function.Injective mix64 := by
  intro x y hxy
  rw [mix64.eq_1, mix64.eq_1] at hxy
  have hlast := word_xor_shiftRight_injective (by decide) (by decide) hxy
  have hsecond := word_round_injective (by decide) (by decide) (by decide) hlast
  have hadded := word_round_injective (by decide) (by decide) (by decide) hsecond
  exact word_add_injective _ hadded

theorem mixXor_injective (word : UInt64) :
    Function.Injective (fun checksum => mix64 (checksum ^^^ word)) := by
  intro x y hxy
  exact (UInt64.xor_left_inj word).mp (mix64_injective hxy)

theorem mixWord_injective (checksum : UInt64) :
    Function.Injective (fun word => mix64 (checksum ^^^ word)) := by
  intro x y hxy
  exact word_xor_injective checksum (mix64_injective hxy)

theorem checksumWords_fields_changed {γ : Type} {fields : List γ} (hnodup : fields.Nodup) {f : γ}
    (hf : f ∈ fields) {u v : γ → UInt64} (hchanged : u f ≠ v f)
    (hsame : ∀ g, g ≠ f → u g = v g) :
    checksumWords (fields.map u) ≠ checksumWords (fields.map v) :=
  foldl_fields_changed mixXor_injective mixWord_injective hnodup hf hchanged hsame checksumInit

theorem tickSeed_injective (seed : Seed) : Function.Injective (tickSeed seed) :=
  mixWord_injective seed

namespace SplitMix64

theorem nextU64_state (rng : SplitMix64) :
    (nextU64 rng).2.state = rng.state + 0x9e3779b97f4a7c15 := rfl

theorem nextU64_draw (rng : SplitMix64) :
    (nextU64 rng).1 = mix64 (rng.state + 0x9e3779b97f4a7c15) := rfl

theorem draws_distinct (rng : SplitMix64) {i j : Nat} (hi : i < 2 ^ 64) (hj : j < 2 ^ 64)
    (h : drawAt nextU64 rng i = drawAt nextU64 rng j) : i = j :=
  drawAt_injective nextU64_state nextU64_draw mix64_injective (by decide) rng hi hj h

theorem draws_period (rng : SplitMix64) (n : Nat) :
    drawAt nextU64 rng (n + 2 ^ 64) = drawAt nextU64 rng n :=
  drawAt_period nextU64_state nextU64_draw rng n

end SplitMix64

end XenorEngine.Rust
