import Mathlib.Data.List.Basic
import Mathlib.Data.List.Count
import Mathlib.Data.List.Sort

/-!
# Stable grouping

A loop over keys with a loop over all items inside it, which skips the items of other
keys, visits the items grouped by key: each once, the groups in the order of the keys,
and within a group in the order of the items.
-/

namespace XenorEngine.Lib.Grouping
variable {κ τ : Type} [DecidableEq κ]

def grouped (keys : List κ) (key : τ → κ) (items : List τ) : List τ :=
  keys.flatMap fun k => items.filter fun x => key x = k

section Grouped
variable {keys : List κ} {key : τ → κ} {items : List τ}

theorem grouped_cons (k : κ) (keys : List κ) :
    grouped (k :: keys) key items =
      (items.filter fun x => key x = k) ++ grouped keys key items := List.flatMap_cons

theorem mem_grouped {x : τ} : x ∈ grouped keys key items ↔ x ∈ items ∧ key x ∈ keys := by
  simp only [grouped, List.mem_flatMap, List.mem_filter, decide_eq_true_eq]
  constructor
  · rintro ⟨k, hk, hx, rfl⟩
    exact ⟨hx, hk⟩
  · rintro ⟨hx, hk⟩
    exact ⟨key x, hk, hx, rfl⟩

/- Within a group the items keep their order. -/
theorem filter_grouped (hnodup : keys.Nodup) {k : κ} (hk : k ∈ keys) :
    ((grouped keys key items).filter fun x => key x = k) = items.filter fun x => key x = k := by
  induction keys with
  | nil => cases hk
  | cons k' keys ih =>
    obtain ⟨hfresh, hnodup⟩ := List.nodup_cons.mp hnodup
    rw [grouped_cons, List.filter_append, List.filter_filter]
    by_cases hsame : k' = k
    · subst hsame
      have hrest : ((grouped keys key items).filter fun x => key x = k') = [] := by
        rw [List.filter_eq_nil_iff]
        intro x hx hkey
        rw [decide_eq_true_eq] at hkey
        rw [← hkey] at hfresh
        exact hfresh (mem_grouped.mp hx).2
      rw [hrest, List.append_nil]
      simp only [Bool.and_self]
    · have hnone : (items.filter fun x => decide (key x = k) && decide (key x = k')) = [] := by
        rw [List.filter_eq_nil_iff]
        intro x _ hboth
        rw [Bool.and_eq_true, decide_eq_true_eq, decide_eq_true_eq] at hboth
        exact hsame (hboth.2.symm.trans hboth.1)
      rw [hnone, List.nil_append]
      exact ih hnodup ((List.mem_cons.mp hk).resolve_left (Ne.symm hsame))

/- Every item once. -/
theorem grouped_perm (hnodup : keys.Nodup) (hall : ∀ x ∈ items, key x ∈ keys) :
    (grouped keys key items).Perm items := by
  classical
  rw [List.perm_iff_count]
  intro x
  by_cases hx : key x ∈ keys
  · have hsame : ((grouped keys key items).filter fun y => key y = key x).count x =
        (items.filter fun y => key y = key x).count x := by rw [filter_grouped hnodup hx]
    rwa [List.count_filter (by simp), List.count_filter (by simp)] at hsame
  · have hout : x ∉ items := fun hmem => hx (hall x hmem)
    have hnone : x ∉ grouped keys key items := fun hmem => hx (mem_grouped.mp hmem).2
    rw [List.count_eq_zero.mpr hout, List.count_eq_zero.mpr hnone]

/- The groups follow the keys. -/
theorem pairwise_grouped {r : κ → κ → Prop} (hkeys : keys.Pairwise r) :
    (grouped keys key items).Pairwise fun x y => key x = key y ∨ r (key x) (key y) := by
  induction keys with
  | nil => exact List.Pairwise.nil
  | cons k keys ih =>
    obtain ⟨hbefore, hkeys⟩ := List.pairwise_cons.mp hkeys
    rw [grouped_cons, List.pairwise_append]
    refine ⟨?_, ih hkeys, ?_⟩
    · refine List.pairwise_of_forall_mem_list fun x hx y hy => .inl ?_
      have hkx := (List.mem_filter.mp hx).2
      have hky := (List.mem_filter.mp hy).2
      rw [decide_eq_true_eq] at hkx hky
      exact hkx.trans hky.symm
    · intro x hx y hy
      have hkx := (List.mem_filter.mp hx).2
      rw [decide_eq_true_eq] at hkx
      rw [hkx]
      exact .inr (hbefore _ (mem_grouped.mp hy).2)

theorem grouped_skip {x : τ} (hx : key x ∉ keys) :
    grouped keys key (x :: items) = grouped keys key items := by
  unfold grouped
  apply List.flatMap_congr
  intro k hk
  rw [List.filter_cons_of_neg]
  rw [decide_eq_true_eq]
  rintro rfl
  exact hx hk

theorem grouped_map {υ : Type} (f : υ → τ) (items : List υ) :
    grouped keys key (items.map f) = (grouped keys (fun x => key (f x)) items).map f := by
  unfold grouped
  rw [List.map_flatMap]
  apply List.flatMap_congr
  intro k _
  rw [List.filter_map]
  rfl

section Sorted
variable {r : τ → τ → Prop} [DecidableRel r]

theorem orderedInsert_first {x : τ} {xs : List τ} (h : ∀ y ∈ xs, r x y) :
    xs.orderedInsert r x = x :: xs := by
  cases xs with
  | nil => rfl
  | cons y xs => exact List.orderedInsert_cons_of_le r xs (h y List.mem_cons_self)

theorem orderedInsert_append {x : τ} {xs ys : List τ} (h : ∀ y ∈ xs, ¬ r x y) :
    (xs ++ ys).orderedInsert r x = xs ++ ys.orderedInsert r x := by
  induction xs with
  | nil => rfl
  | cons y xs ih =>
    rw [List.cons_append, List.orderedInsert_of_not_le r _ (h y List.mem_cons_self),
      ih fun z hz => h z (List.mem_cons_of_mem y hz), List.cons_append]

end Sorted

/- One more item in front goes to the front of its group. -/
theorem grouped_insert {rank : κ → ℕ} (hkeys : keys.Pairwise fun j k => rank j < rank k) {x : τ}
    (hx : key x ∈ keys) :
    grouped keys key (x :: items) =
      (grouped keys key items).orderedInsert (fun a b => rank (key a) ≤ rank (key b)) x := by
  induction keys with
  | nil => cases hx
  | cons k keys ih =>
    obtain ⟨hfirst, hkeys⟩ := List.pairwise_cons.mp hkeys
    rw [grouped_cons, grouped_cons]
    by_cases hk : key x = k
    · have hfresh : key x ∉ keys := fun hmem => by
        have hless := hfirst (key x) hmem
        rw [hk] at hless
        exact Nat.lt_irrefl _ hless
      rw [grouped_skip hfresh, List.filter_cons_of_pos (by simpa using hk), orderedInsert_first]
      · rfl
      · intro y hy
        rcases List.mem_append.mp hy with hy | hy
        · have hsame := (List.mem_filter.mp hy).2
          rw [decide_eq_true_eq] at hsame
          rw [hk, hsame]
        · rw [hk]
          exact Nat.le_of_lt (hfirst _ (mem_grouped.mp hy).2)
    · have hlater : key x ∈ keys := (List.mem_cons.mp hx).resolve_left hk
      rw [List.filter_cons_of_neg (by simpa using hk), ih hkeys hlater, orderedInsert_append]
      intro y hy
      have hsame := (List.mem_filter.mp hy).2
      rw [decide_eq_true_eq] at hsame
      rw [hsame, Nat.not_le]
      exact hfirst _ hlater

/- Grouping by keys of increasing rank is the stable sort by rank. -/
theorem grouped_eq_insertionSort {rank : κ → ℕ}
    (hkeys : keys.Pairwise fun j k => rank j < rank k) (hall : ∀ x ∈ items, key x ∈ keys) :
    grouped keys key items =
      items.insertionSort fun a b => rank (key a) ≤ rank (key b) := by
  induction items with
  | nil =>
    rw [List.insertionSort_nil, List.eq_nil_iff_forall_not_mem]
    intro x hx
    exact List.not_mem_nil (mem_grouped.mp hx).1
  | cons x items ih =>
    obtain ⟨hx, hall⟩ := List.forall_mem_cons.mp hall
    rw [grouped_insert hkeys hx, ih hall, List.insertionSort_cons]

end Grouped

/- The two loops. -/
theorem forM_grouped {m : Type → Type} [Monad m] [LawfulMonad m] (keys : List κ) (key : τ → κ)
    (items : List τ) (act : τ → m PUnit) :
    (keys.forM fun k => items.forM fun x => if key x ≠ k then pure () else act x) =
      (grouped keys key items).forM act := by
  have hskip (k : κ) : (items.forM fun x => if key x ≠ k then pure () else act x) =
      (items.filter fun x => key x = k).forM act := by
    induction items with
    | nil => rfl
    | cons x items ih =>
      simp only [List.forM_eq_forM] at ih ⊢
      by_cases hx : key x = k
      · rw [List.filter_cons_of_pos (by simpa using hx), List.forM_cons, List.forM_cons, ih,
          if_neg (not_not.mpr hx)]
      · rw [List.filter_cons_of_neg (by simpa using hx), List.forM_cons, ih, if_pos hx, pure_bind]
  simp only [hskip]
  induction keys with
  | nil => rfl
  | cons k keys ih =>
    simp only [List.forM_eq_forM] at ih ⊢
    rw [List.forM_cons, ih, grouped_cons, List.forM_append]

end XenorEngine.Lib.Grouping
