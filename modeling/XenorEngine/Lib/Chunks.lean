import Mathlib.Data.List.Basic

/-!
# Chunks of a list

A list cut into windows of one size, left to right, the last one possibly
shorter. The windows hold the whole list, so two lists of one length that differ
inside one window only have different windows there and the same ones elsewhere.
-/

namespace XenorEngine.Lib.Chunks

section chunks
variable {α : Type}

def window (n k : Nat) (xs : List α) : List α := (xs.drop (n * k)).take n

/-- The number of chunks of a list, the short last one included. -/
def chunkCount (n length : Nat) : Nat := (length + n - 1) / n

def chunks (n : Nat) (xs : List α) : List (List α) :=
  (List.range (chunkCount n xs.length)).map fun k => window n k xs

/-! ### One window -/

theorem window_length_le (n k : Nat) (xs : List α) : (window n k xs).length ≤ n := by
  rw [window, List.length_take]
  omega

theorem window_length_congr (n k : Nat) {xs ys : List α} (hlength : xs.length = ys.length) :
    (window n k xs).length = (window n k ys).length := by
  simp only [window, List.length_take, List.length_drop, hlength]

theorem window_succ (n k : Nat) (xs : List α) : window n (k + 1) xs = window n k (xs.drop n) := by
  simp only [window, List.drop_drop]
  rw [Nat.mul_succ, Nat.add_comm]

theorem window_getElem? (n k : Nat) (xs : List α) (j : Nat) :
    (window n k xs)[j]? = if j < n then xs[n * k + j]? else none := by
  rw [window, List.getElem?_take]
  simp only [List.getElem?_drop]

/-! ### All of them -/

theorem chunkCount_zero {n : Nat} (hn : 0 < n) : chunkCount n 0 = 0 := by
  show (0 + n - 1) / n = 0
  exact Nat.div_eq_of_lt (by omega)

theorem chunkCount_pos {n length : Nat} (hn : 0 < n) (hlength : 0 < length) :
    chunkCount n length = chunkCount n (length - n) + 1 := by
  unfold chunkCount
  by_cases hshort : length ≤ n
  · have hlast : length - n = 0 := by omega
    rw [hlast]
    have hone : (length + n - 1) / n = 1 :=
      Nat.div_eq_of_lt_le (by omega) (by omega)
    have hzero : (0 + n - 1) / n = 0 := Nat.div_eq_of_lt (by omega)
    omega
  · have hsplit : length + n - 1 = (length - n + n - 1) + n := by omega
    rw [hsplit, Nat.add_div_right _ hn]

theorem chunks_nil {n : Nat} (hn : 0 < n) : chunks n ([] : List α) = [] := by
  rw [chunks, List.length_nil, chunkCount_zero hn]
  rfl

theorem chunks_step {n : Nat} (hn : 0 < n) {xs : List α} (hxs : xs ≠ []) :
    chunks n xs = xs.take n :: chunks n (xs.drop n) := by
  have hlength : 0 < xs.length := List.length_pos_iff.mpr hxs
  have hfirst : window n 0 xs = xs.take n := by
    rw [window, Nat.mul_zero, List.drop_zero]
  rw [chunks, chunkCount_pos hn hlength, List.range_succ_eq_map, List.map_cons, List.map_map,
    hfirst, chunks, List.length_drop]
  congr 1
  apply List.map_congr_left
  intro k _
  exact window_succ n k xs

/-- Induction on a list from which one chunk is cut at a time. -/
theorem chunk_induction {n : Nat} (hn : 0 < n) {motive : List α → Prop} (nil : motive [])
    (cut : ∀ xs, xs ≠ [] → motive (xs.drop n) → motive xs) (xs : List α) : motive xs := by
  induction hlength : xs.length using Nat.strongRecOn generalizing xs with
  | _ length ih =>
    by_cases hxs : xs = []
    · rw [hxs]
      exact nil
    · have hpos : 0 < xs.length := List.length_pos_iff.mpr hxs
      have hless : (xs.drop n).length < length := by
        rw [List.length_drop]
        omega
      exact cut xs hxs (ih _ hless (xs.drop n) rfl)

theorem chunks_flatten {n : Nat} (hn : 0 < n) (xs : List α) : (chunks n xs).flatten = xs := by
  induction xs using chunk_induction hn with
  | nil =>
    rw [chunks_nil hn]
    rfl
  | cut xs hxs ih =>
    rw [chunks_step hn hxs, List.flatten_cons, ih]
    exact List.take_append_drop n xs

theorem chunks_injective {n : Nat} (hn : 0 < n) : Function.Injective (chunks n (α := α)) := by
  intro xs ys hxy
  rw [← chunks_flatten hn xs, ← chunks_flatten hn ys, hxy]

/-! ### A change inside one window -/

/-- Two lists with the same element at every place outside window `k`. -/
def AgreeOutside (n k : Nat) (xs ys : List α) : Prop := ∀ i, i / n ≠ k → xs[i]? = ys[i]?

variable {n k : Nat} {xs ys : List α}

theorem AgreeOutside.window_eq (hagree : AgreeOutside n k xs ys) {j : Nat} (hj : j ≠ k) :
    window n j xs = window n j ys := by
  apply List.ext_getElem?
  intro i
  rw [window_getElem?, window_getElem?]
  by_cases hi : i < n
  · rw [if_pos hi, if_pos hi]
    apply hagree
    have hplace : (n * j + i) / n = j := by
      rw [Nat.mul_add_div (by omega), Nat.div_eq_of_lt hi, Nat.add_zero]
    omega
  · rw [if_neg hi, if_neg hi]

/- One chunk replaced by another of its length, between any two ends. -/
theorem agreeOutside_replaced {before after part part' : List α}
    (hbefore : before.length = n * k) (hlength : part.length = part'.length)
    (hpart : part.length ≤ n) :
    AgreeOutside n k (before ++ (part ++ after)) (before ++ (part' ++ after)) := by
  intro i hi
  have hends : i < n * k ∨ n * k + n ≤ i := by
    by_contra hinside
    have hupper : i < (k + 1) * n := by
      rw [Nat.add_mul, Nat.mul_comm k n]
      omega
    have hlower : k * n ≤ i := by
      rw [Nat.mul_comm]
      omega
    exact hi (Nat.div_eq_of_lt_le hlower hupper)
  rcases hends with hfirst | hlast
  · rw [List.getElem?_append_left (by omega), List.getElem?_append_left (by omega)]
  · rw [List.getElem?_append_right (by omega), List.getElem?_append_right (by omega),
      List.getElem?_append_right (by omega), List.getElem?_append_right (by omega), hlength]

/- The difference is somewhere, so it is in window `k`, and that one is among the chunks. -/
theorem AgreeOutside.window_ne (hn : 0 < n) (hagree : AgreeOutside n k xs ys)
    (hlength : xs.length = ys.length) (hne : xs ≠ ys) :
    k < chunkCount n xs.length ∧ window n k xs ≠ window n k ys := by
  by_contra hnone
  have hsame : ∀ j < chunkCount n xs.length, window n j xs = window n j ys := by
    intro j hj
    by_cases hjk : j = k
    · subst hjk
      by_contra hdiff
      exact hnone ⟨hj, hdiff⟩
    · exact hagree.window_eq hjk
  apply hne
  apply chunks_injective hn
  rw [chunks, chunks, ← hlength]
  apply List.map_congr_left
  intro j hj
  exact hsame j (List.mem_range.mp hj)

end chunks

end XenorEngine.Lib.Chunks
