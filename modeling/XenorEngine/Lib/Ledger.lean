import Mathlib.Algebra.Order.Ring.Int
import Mathlib.Tactic.Ring

/-!
# Capped ledgers

A stock is filled and drawn from in rounds while running totals are kept, every
number capped at the same limit. As long as the totals stay below the cap no
addition was capped, and the books balance exactly.
-/

namespace XenorEngine.Lib.Ledger

@[ext] structure Account where
  stock : ℤ
  produced : ℤ
  consumed : ℤ
  shortage : ℤ

namespace Account

def opened (stock : ℤ) : Account := ⟨stock, 0, 0, 0⟩

def fill (cap amount : ℤ) (a : Account) : Account :=
  { a with stock := min (a.stock + amount) cap, produced := min (a.produced + amount) cap }

def draw (cap demand : ℤ) (a : Account) : Account :=
  let used := min a.stock demand
  { a with
    stock := a.stock - used
    consumed := min (a.consumed + used) cap
    shortage := min (a.shortage + (demand - used)) cap }

/-- What `n` rounds with one demand keep, starting from a stock of `initial`. -/
structure Balanced (cap initial demand : ℤ) (n : ℕ) (a : Account) : Prop where
  stock_nonneg : 0 ≤ a.stock
  stock_le : a.stock ≤ cap
  produced_nonneg : 0 ≤ a.produced
  consumed_nonneg : 0 ≤ a.consumed
  shortage_nonneg : 0 ≤ a.shortage
  stock_eq : initial + a.produced < cap → initial + a.produced = a.stock + a.consumed
  demand_eq : initial + a.produced < cap → a.shortage < cap → n * demand = a.consumed + a.shortage

theorem opened_balanced {cap initial : ℤ} (demand : ℤ) (h0 : 0 ≤ initial) (hcap : initial ≤ cap) :
    Balanced cap initial demand 0 (opened initial) := by
  refine ⟨h0, hcap, le_rfl, le_rfl, le_rfl, fun _ => rfl, fun _ _ => ?_⟩
  rw [Nat.cast_zero, zero_mul]
  rfl

/- One round. Totals never shrink, so a total below the cap now was below it before. -/
theorem round_balanced {cap initial demand amount : ℤ} {n : ℕ} {a : Account} (hi : 0 ≤ initial)
    (hd : 0 ≤ demand) (ha : 0 ≤ amount) (h : Balanced cap initial demand n a) :
    Balanced cap initial demand (n + 1) ((a.fill cap amount).draw cap demand) := by
  obtain ⟨hs, hsc, hp, hc, hsh, hstock, hdemand⟩ := h
  have hn : ((n + 1 : ℕ) : ℤ) * demand = n * demand + demand := by
    rw [Nat.cast_add, Nat.cast_one]
    ring
  generalize hnd : (n : ℤ) * demand = total at hdemand hn
  constructor <;> simp only [fill, draw]
  case stock_eq =>
    intro hlt
    have hbefore := hstock (by omega)
    omega
  case demand_eq =>
    intro hlt hshort
    have hbefore := hstock (by omega)
    have hbefore' := hdemand (by omega) (by omega)
    omega
  all_goals omega

end Account

end XenorEngine.Lib.Ledger
