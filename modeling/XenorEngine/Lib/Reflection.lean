import XenorEngine.Lib.Ledger
import Mathlib.Algebra.BigOperators.Group.List.Basic
import Mathlib.Algebra.Order.Group.MinMax
import Mathlib.Order.Bounds.Basic
import Mathlib.Tactic.Abel

/-!
# Levels reflected at zero

A level moves by given steps and is cut at zero; what a step would have taken below zero
is owed. What is owed in the end is the depth of the lowest point that the uncut sums
reach, so the sums alone tell the level.
-/

namespace XenorEngine.Lib.Reflection

@[ext] structure Level (α : Type*) where
  stock : α
  owed : α

variable {α : Type*} [AddCommGroup α]

def Level.opened (initial : α) : Level α := ⟨initial, 0⟩

/-- How far below zero the steps lead when nothing is cut. -/
def deficit (initial : α) (steps : List α) : α := -(initial + steps.sum)

/-- The deficits on the way, and zero. -/
def deficits (initial : α) (steps : List α) : Set α :=
  {x | x = 0 ∨ ∃ k ≤ steps.length, x = deficit initial (steps.take k)}

theorem deficits_snoc (initial : α) (steps : List α) (step : α) :
    deficits initial (steps ++ [step]) =
      insert (deficit initial (steps ++ [step])) (deficits initial steps) := by
  ext x
  simp only [deficits, Set.mem_insert_iff, Set.mem_ofPred_eq, List.length_append,
    List.length_singleton]
  constructor
  · rintro (rfl | ⟨k, hk, rfl⟩)
    · exact .inr (.inl rfl)
    · rcases Nat.lt_or_ge steps.length k with hlt | hle
      · exact .inl (congrArg _ (List.take_of_length_le (by simp; omega)))
      · exact .inr (.inr ⟨k, hle, congrArg _ (List.take_append_of_le_length hle)⟩)
  · rintro (rfl | rfl | ⟨k, hk, rfl⟩)
    · exact .inr ⟨steps.length + 1, le_rfl, congrArg _ (List.take_of_length_le (by simp)).symm⟩
    · exact .inl rfl
    · exact .inr ⟨k, by omega, congrArg _ (List.take_append_of_le_length hk).symm⟩

variable [LinearOrder α] [IsOrderedAddMonoid α]

def Level.move (l : Level α) (step : α) : Level α where
  stock := max (l.stock + step) 0
  owed := l.owed + (max (l.stock + step) 0 - (l.stock + step))

/-- The invariant of a level that started at `initial`. -/
structure Reflected (initial : α) (steps : List α) (l : Level α) : Prop where
  stock_eq : l.stock = initial + steps.sum + l.owed
  owed : IsGreatest (deficits initial steps) l.owed

theorem reflected_opened {initial : α} (h : 0 ≤ initial) :
    Reflected initial [] (Level.opened initial) := by
  refine ⟨by simp [Level.opened], .inl rfl, ?_⟩
  rintro x (rfl | ⟨k, -, rfl⟩)
  · exact le_rfl
  · rw [List.take_nil, deficit, List.sum_nil, add_zero]
    exact neg_nonpos.mpr h

namespace Reflected
variable {initial : α} {steps : List α} {l : Level α}

omit [IsOrderedAddMonoid α] in
theorem owed_nonneg (h : Reflected initial steps l) : 0 ≤ l.owed := h.owed.2 (.inl rfl)

/- Either the step is covered and nothing is owed for it, or all that is missing since
the start is owed now. -/
theorem move (h : Reflected initial steps l) (step : α) :
    Reflected initial (steps ++ [step]) (l.move step) := by
  have hdeficit : deficit initial (steps ++ [step]) = l.owed - (l.stock + step) := by
    rw [deficit, h.stock_eq, List.sum_append, List.sum_singleton]
    abel
  have howed : (l.move step).owed = max (deficit initial (steps ++ [step])) l.owed := by
    simp only [hdeficit, Level.move]
    rw [← max_sub_sub_right, sub_self, ← max_add_add_left, zero_sub, add_zero, ← sub_eq_add_neg,
      max_comm]
  have hmoved : (l.move step).stock = l.stock + step + ((l.move step).owed - l.owed) := by
    simp only [Level.move, add_sub_cancel_left, add_sub_cancel]
  constructor
  · rw [hmoved, h.stock_eq, List.sum_append, List.sum_singleton]
    abel
  · rw [howed, deficits_snoc]
    exact h.owed.insert _

/- Nothing is owed as long as the sums stay above zero. -/
theorem owed_eq_zero_iff (h : Reflected initial steps l) :
    l.owed = 0 ↔ ∀ k ≤ steps.length, 0 ≤ initial + (steps.take k).sum := by
  constructor
  · intro howed k hk
    have hle : deficit initial (steps.take k) ≤ l.owed := h.owed.2 (.inr ⟨k, hk, rfl⟩)
    rw [howed] at hle
    exact neg_nonpos.mp hle
  · intro hcovered
    obtain hzero | ⟨k, hk, heq⟩ := h.owed.1
    · exact hzero
    · exact le_antisymm (heq ▸ neg_nonpos.mpr (hcovered k hk)) h.owed_nonneg

end Reflected

/-! ### Ledgers of the ledger library -/

open XenorEngine.Lib.Ledger

/-- What is foreseen of a ledger that is filled with `amounts` and drawn on as often. The
sums may be capped; the stock is foreseen as long as they are not. -/
structure Foreseen (cap initial demand : ℤ) (amounts : List ℤ) (a : Account) : Prop where
  produced_eq : a.produced = min amounts.sum cap
  shortage_le : a.shortage ≤ amounts.length * demand
  reflected : initial + amounts.sum < cap → amounts.length * demand < cap →
    Reflected initial (amounts.map (· - demand)) ⟨a.stock, a.shortage⟩

theorem foreseen_opened {cap initial : ℤ} (demand : ℤ) (hcap : 0 ≤ cap) (h0 : 0 ≤ initial) :
    Foreseen cap initial demand [] (Account.opened initial) := by
  refine ⟨?_, ?_, fun _ _ => reflected_opened h0⟩
  · exact (min_eq_left hcap).symm
  · rw [List.length_nil, Nat.cast_zero, zero_mul]
    exact le_rfl

/- A round moves the stock by the difference of amount and demand. -/
theorem foreseen_round {cap initial demand amount : ℤ} {n : ℕ} {amounts : List ℤ} {a : Account}
    (hi : 0 ≤ initial) (hd : 0 ≤ demand) (ha : 0 ≤ amount)
    (hbalanced : Account.Balanced cap initial demand n a)
    (h : Foreseen cap initial demand amounts a) :
    Foreseen cap initial demand (amounts ++ [amount]) ((a.fill cap amount).draw cap demand) := by
  have hsum : (amounts ++ [amount]).sum = amounts.sum + amount := by
    rw [List.sum_append, List.sum_singleton]
  have hcount : ((amounts ++ [amount]).length : ℤ) * demand =
      amounts.length * demand + demand := by
    rw [List.length_append, List.length_singleton, Nat.cast_add, Nat.cast_one]
    ring
  obtain ⟨hproduced, hshortage, hreflected⟩ := h
  obtain ⟨hstock, hstockLe, -, hconsumed, -, hstockEq, -⟩ := hbalanced
  generalize hasked : (amounts.length : ℤ) * demand = asked at hshortage hreflected hcount
  constructor
  case produced_eq =>
    rw [hsum]
    simp only [Account.draw, Account.fill]
    omega
  case shortage_le =>
    rw [hcount]
    simp only [Account.draw, Account.fill]
    omega
  case reflected =>
    intro hsupply hdemand
    rw [hsum] at hsupply
    rw [hcount] at hdemand
    have hbefore := hreflected (by omega) (by omega)
    have hroom := hstockEq (by omega)
    have hmove : (⟨((a.fill cap amount).draw cap demand).stock,
        ((a.fill cap amount).draw cap demand).shortage⟩ : Level ℤ) =
          (⟨a.stock, a.shortage⟩ : Level ℤ).move (amount - demand) := by
      ext <;> simp only [Account.draw, Account.fill, Level.move] <;> omega
    rw [List.map_append, List.map_singleton, hmove]
    exact hbefore.move _

end XenorEngine.Lib.Reflection
