import Mathlib.Data.Nat.Prime.Basic
import Mathlib.Data.Nat.ModEq

/-!
# Mixing words of 64 bits

The steps that mixing functions are made of are injective: a constant added, a
word multiplied by an odd constant, a word xored with its own right shift. A
fold whose step is injective in both arguments never loses a difference that was
made once, and a counter that moves by an odd stride visits every word before
the first one again.
-/

namespace XenorEngine.Lib.Mixing

/-! ### The steps -/

section steps
variable {w : Nat}

theorem xor_ushiftRight_injective {k : Nat} (hk : 0 < k) :
    Function.Injective (fun x : BitVec w => x ^^^ (x >>> k)) := by
  intro x y hxy
  have hbits : ∀ a b c d : Bool, (a ^^ b) = (c ^^ d) → (a ^^ c) = (b ^^ d) := by decide
  have hfixed : x ^^^ y = (x ^^^ y) >>> k := by
    rw [BitVec.ushiftRight_xor_distrib]
    apply BitVec.eq_of_getLsbD_eq
    intro i _
    have hbit := congrArg (fun word : BitVec w => word.getLsbD i) hxy
    simp only [BitVec.getLsbD_xor] at hbit ⊢
    exact hbits _ _ _ _ hbit
  have hsize : (x ^^^ y).toNat = (x ^^^ y).toNat / 2 ^ k := by
    have hnat := congrArg BitVec.toNat hfixed
    rwa [BitVec.toNat_ushiftRight, Nat.shiftRight_eq_div_pow] at hnat
  have hzero : (x ^^^ y).toNat = 0 := by
    by_contra hpos
    have hless := Nat.div_lt_self (Nat.pos_of_ne_zero hpos) (Nat.one_lt_two_pow hk.ne')
    omega
  have hxor : x ^^^ y = 0#w := BitVec.eq_of_toNat_eq (by rw [hzero, BitVec.toNat_zero])
  exact BitVec.xor_eq_zero_iff.mp hxor

theorem mul_odd_injective {c : BitVec w} (hc : c.toNat % 2 = 1) :
    Function.Injective (fun x : BitVec w => x * c) := by
  intro x y hxy
  have hcoprime : Nat.Coprime (2 ^ w) c.toNat :=
    Nat.Coprime.pow_left w (Nat.coprime_two_left.mpr (Nat.odd_iff.mpr hc))
  have hmod : x.toNat * c.toNat ≡ y.toNat * c.toNat [MOD 2 ^ w] := by
    have hnat := congrArg BitVec.toNat hxy
    rwa [BitVec.toNat_mul, BitVec.toNat_mul] at hnat
  have hcancel : x.toNat ≡ y.toNat [MOD 2 ^ w] :=
    Nat.ModEq.cancel_right_of_coprime hcoprime hmod
  exact BitVec.eq_of_toNat_eq (hcancel.eq_of_lt_of_lt x.isLt y.isLt)

end steps

/-! ### The same on machine words -/

section words

theorem word_xor_shiftRight_injective {k : UInt64} (hk : 0 < k) (hwidth : k < 64) :
    Function.Injective (fun x : UInt64 => x ^^^ (x >>> k)) := by
  intro x y hxy
  have hshift : 0 < k.toNat := UInt64.lt_iff_toNat_lt.mp hk
  have hmod : k.toBitVec % 64 = k.toBitVec := by
    have hlt := UInt64.lt_iff_toNat_lt.mp hwidth
    apply BitVec.eq_of_toNat_eq
    rw [BitVec.toNat_umod]
    exact Nat.mod_eq_of_lt hlt
  have hbits := congrArg UInt64.toBitVec hxy
  simp only [UInt64.toBitVec_xor, UInt64.toBitVec_shiftRight, hmod,
    BitVec.ushiftRight_eq'] at hbits
  exact UInt64.toBitVec_inj.mp (xor_ushiftRight_injective hshift hbits)

theorem word_mul_odd_injective {c : UInt64} (hc : c.toNat % 2 = 1) :
    Function.Injective (fun x : UInt64 => x * c) := by
  intro x y hxy
  have hbits := congrArg UInt64.toBitVec hxy
  simp only [UInt64.toBitVec_mul] at hbits
  exact UInt64.toBitVec_inj.mp (mul_odd_injective hc hbits)

/-- One round of a mixer: the high bits go down, then the product carries them up again. -/
theorem word_round_injective {k c : UInt64} (hk : 0 < k) (hwidth : k < 64)
    (hc : c.toNat % 2 = 1) : Function.Injective (fun x : UInt64 => (x ^^^ (x >>> k)) * c) := by
  intro x y hxy
  have hproduct := word_mul_odd_injective hc hxy
  exact word_xor_shiftRight_injective hk hwidth hproduct

theorem word_add_injective (c : UInt64) : Function.Injective (fun x : UInt64 => x + c) := by
  intro x y hxy
  exact (UInt64.add_left_inj c).mp hxy

theorem word_xor_injective (c : UInt64) : Function.Injective (fun x : UInt64 => c ^^^ x) := by
  intro x y hxy
  exact (UInt64.xor_right_inj c).mp hxy

end words

/-! ### Folds -/

section folds
variable {α β γ : Type} {op : α → β → α}

theorem foldl_injective (hseed : ∀ b, Function.Injective (fun a => op a b)) (bs : List β) :
    Function.Injective (fun a => bs.foldl op a) := by
  induction bs with
  | nil =>
    intro x y hxy
    exact hxy
  | cons b bs ih =>
    intro x y hxy
    exact hseed b (ih hxy)

theorem foldl_changed (hseed : ∀ b, Function.Injective (fun a => op a b))
    (hword : ∀ a, Function.Injective (op a)) {b c : β} (hbc : b ≠ c) (before after : List β)
    (a : α) : (before ++ b :: after).foldl op a ≠ (before ++ c :: after).foldl op a := by
  simp only [List.foldl_append, List.foldl_cons]
  intro h
  exact hbc (hword _ (foldl_injective hseed after h))

/- Words read from named fields: a change in one field, read once, shows in the fold. -/
theorem foldl_fields_changed (hseed : ∀ b, Function.Injective (fun a => op a b))
    (hword : ∀ a, Function.Injective (op a)) {fields : List γ} (hnodup : fields.Nodup) {f : γ}
    (hf : f ∈ fields) {u v : γ → β} (hchanged : u f ≠ v f) (hsame : ∀ g, g ≠ f → u g = v g)
    (a : α) : (fields.map u).foldl op a ≠ (fields.map v).foldl op a := by
  obtain ⟨before, after, rfl⟩ := List.append_of_mem hf
  have hrest : f ∉ before ∧ f ∉ after := by
    have hparts := List.nodup_append.mp hnodup
    have htail := List.nodup_cons.mp hparts.2.1
    exact ⟨fun hmem => hparts.2.2 f hmem f (List.mem_cons_self) rfl, htail.1⟩
  have hbefore : before.map u = before.map v :=
    List.map_congr_left fun g hg => hsame g fun h => hrest.1 (h ▸ hg)
  have hafter : after.map u = after.map v :=
    List.map_congr_left fun g hg => hsame g fun h => hrest.2 (h ▸ hg)
  simp only [List.map_append, List.map_cons, hbefore, hafter]
  exact foldl_changed hseed hword hchanged (before.map v) (after.map v) a

end folds

/-! ### Counters with an odd stride -/

section strides
variable {σ α : Type}

def walk (stride start : UInt64) (n : Nat) : UInt64 := start + UInt64.ofNat n * stride

theorem walk_succ (stride start : UInt64) (n : Nat) :
    walk stride (start + stride) n = walk stride start (n + 1) := by
  unfold walk
  rw [UInt64.ofNat_add, UInt64.add_mul]
  simp only [UInt64.add_assoc, UInt64.add_comm stride]
  simp

theorem walk_injective {stride : UInt64} (hodd : stride.toNat % 2 = 1) (start : UInt64) {i j : Nat}
    (hi : i < 2 ^ 64) (hj : j < 2 ^ 64) (h : walk stride start i = walk stride start j) :
    i = j := by
  have hproduct : UInt64.ofNat i * stride = UInt64.ofNat j * stride :=
    (UInt64.add_right_inj start).mp h
  have hword : UInt64.ofNat i = UInt64.ofNat j := word_mul_odd_injective hodd hproduct
  have hnat := congrArg UInt64.toNat hword
  rwa [UInt64.toNat_ofNat_of_lt' hi, UInt64.toNat_ofNat_of_lt' hj] at hnat

theorem walk_period (stride start : UInt64) (n : Nat) :
    walk stride start (n + 2 ^ 64) = walk stride start n := by
  have hcycle : UInt64.ofNat (n + 2 ^ 64) = UInt64.ofNat n := by
    apply UInt64.toNat_inj.mp
    rw [UInt64.toNat_ofNat', UInt64.toNat_ofNat', Nat.add_mod_right]
  rw [walk, walk, hcycle]

/-- The value that a generator draws after `n` others. -/
def drawAt (next : σ → α × σ) : σ → Nat → α
  | s, 0 => (next s).1
  | s, n + 1 => drawAt next (next s).2 n

variable {next : σ → α × σ} {word : σ → UInt64} {mix : UInt64 → α} {stride : UInt64}

theorem drawAt_walk (hmoves : ∀ s, word (next s).2 = word s + stride)
    (hdraws : ∀ s, (next s).1 = mix (word s + stride)) (s : σ) (n : Nat) :
    drawAt next s n = mix (walk stride (word s) (n + 1)) := by
  induction n generalizing s with
  | zero =>
    rw [drawAt, hdraws, walk]
    simp
  | succ n ih => rw [drawAt, ih, hmoves, walk_succ]

theorem drawAt_injective (hmoves : ∀ s, word (next s).2 = word s + stride)
    (hdraws : ∀ s, (next s).1 = mix (word s + stride)) (hmix : Function.Injective mix)
    (hodd : stride.toNat % 2 = 1) (s : σ) {i j : Nat} (hi : i < 2 ^ 64) (hj : j < 2 ^ 64)
    (h : drawAt next s i = drawAt next s j) : i = j := by
  rw [drawAt_walk hmoves hdraws, drawAt_walk hmoves hdraws, ← walk_succ, ← walk_succ] at h
  exact walk_injective hodd (word s + stride) hi hj (hmix h)

theorem drawAt_period (hmoves : ∀ s, word (next s).2 = word s + stride)
    (hdraws : ∀ s, (next s).1 = mix (word s + stride)) (s : σ) (n : Nat) :
    drawAt next s (n + 2 ^ 64) = drawAt next s n := by
  rw [drawAt_walk hmoves hdraws, drawAt_walk hmoves hdraws, ← walk_succ, ← walk_succ,
    walk_period]

end strides

end XenorEngine.Lib.Mixing
