import XenorEngine.Lib.Fallible

/-!
# Deterministic machines

A machine takes one input at a time, fails or moves on, and emits one output per
step. A run can be cut anywhere: what a suffix does is fixed by the state at the
cut, so resuming from a state that was saved there repeats the uninterrupted run.
-/

namespace XenorEngine.Lib.Runs
open XenorEngine.Lib.Fallible

structure Machine (σ ι ο ε : Type) where
  step : σ → ι → Except ε (σ × ο)

variable {σ ι ο ε : Type}

def Machine.run (m : Machine σ ι ο ε) : σ → List ι → Except ε (σ × List ο)
  | s, [] => .ok (s, [])
  | s, i :: is => do
    let first ← m.step s i
    let rest ← m.run first.1 is
    pure (rest.1, first.2 :: rest.2)

theorem run_nil_ok {m : Machine σ ι ο ε} {s t : σ} {os : List ο} :
    m.run s [] = .ok (t, os) ↔ s = t ∧ os = [] := by
  simp only [Machine.run, Except.ok.injEq, Prod.mk.injEq]
  exact and_congr_right fun _ => eq_comm

theorem run_cons_ok {m : Machine σ ι ο ε} {s t : σ} {i : ι} {is : List ι} {os : List ο} :
    m.run s (i :: is) = .ok (t, os) ↔
      ∃ s' o os', m.step s i = .ok (s', o) ∧ m.run s' is = .ok (t, os') ∧ os = o :: os' := by
  simp only [Machine.run, bind_eq_ok, pure_eq_ok, Prod.mk.injEq]
  constructor
  · rintro ⟨⟨s', o⟩, hs, ⟨t', os'⟩, hr, rfl, rfl⟩
    exact ⟨s', o, os', hs, hr, rfl⟩
  · rintro ⟨s', o, os', hs, hr, rfl⟩
    exact ⟨(s', o), hs, (t, os'), hr, rfl, rfl⟩

theorem run_append_ok {m : Machine σ ι ο ε} {s t : σ} {xs ys : List ι} {os : List ο} :
    m.run s (xs ++ ys) = .ok (t, os) ↔
      ∃ mid os1 os2, m.run s xs = .ok (mid, os1) ∧ m.run mid ys = .ok (t, os2) ∧
        os = os1 ++ os2 := by
  induction xs generalizing s os with
  | nil =>
    simp only [List.nil_append, run_nil_ok]
    constructor
    · intro h
      exact ⟨s, [], os, ⟨rfl, rfl⟩, h, rfl⟩
    · rintro ⟨mid, os1, os2, ⟨rfl, rfl⟩, h, rfl⟩
      exact h
  | cons x xs ih =>
    simp only [List.cons_append, run_cons_ok, ih]
    constructor
    · rintro ⟨s', o, os', hs, ⟨mid, os1, os2, h1, h2, rfl⟩, rfl⟩
      exact ⟨mid, o :: os1, os2, ⟨s', o, os1, hs, h1, rfl⟩, h2, rfl⟩
    · rintro ⟨mid, os1, os2, ⟨s', o, os', hs, h1, rfl⟩, h2, rfl⟩
      exact ⟨s', o, os' ++ os2, hs, ⟨mid, os', os2, h1, h2, rfl⟩, rfl⟩

theorem run_length {m : Machine σ ι ο ε} {s t : σ} {is : List ι} {os : List ο}
    (h : m.run s is = .ok (t, os)) : os.length = is.length := by
  induction is generalizing s os with
  | nil => rw [(run_nil_ok.mp h).2]; rfl
  | cons i is ih =>
    obtain ⟨s', o, os', -, hr, rfl⟩ := run_cons_ok.mp h
    rw [List.length_cons, List.length_cons, ih hr]

/- The invariant rule: what every step preserves, every run preserves. The
invariant may speak about the outputs emitted so far. -/
theorem run_invariant {m : Machine σ ι ο ε} (I : σ → List ι → List ο → Prop)
    (hstep : ∀ s is os i s' o, I s is os → m.step s i = .ok (s', o) →
      I s' (is ++ [i]) (os ++ [o]))
    {s t : σ} {is0 is : List ι} {os0 os : List ο} (h0 : I s is0 os0)
    (h : m.run s is = .ok (t, os)) : I t (is0 ++ is) (os0 ++ os) := by
  induction is generalizing s is0 os0 os with
  | nil =>
    obtain ⟨rfl, rfl⟩ := run_nil_ok.mp h
    simpa using h0
  | cons i is ih =>
    obtain ⟨s', o, os', hs, hr, rfl⟩ := run_cons_ok.mp h
    have hI := ih (hstep s is0 os0 i s' o h0 hs) hr
    simpa [List.append_assoc] using hI

theorem run_holds {m : Machine σ ι ο ε} (I : σ → List ι → List ο → Prop)
    (hstep : ∀ s is os i s' o, I s is os → m.step s i = .ok (s', o) →
      I s' (is ++ [i]) (os ++ [o]))
    {s t : σ} {is : List ι} {os : List ο} (h0 : I s [] []) (h : m.run s is = .ok (t, os)) :
    I t is os := run_invariant I hstep h0 h

/- An invariant that the steps of one run keep: what a step needs may depend on where
in the run it is made. -/
theorem run_keeps {m : Machine σ ι ο ε} {I : σ → Prop} {s : σ} {inputs : List ι} (h0 : I s)
    (hstep : ∀ is i rest mid os s' o, inputs = is ++ i :: rest → m.run s is = .ok (mid, os) →
      I mid → m.step mid i = .ok (s', o) → I s')
    {is rest : List ι} {t : σ} {os : List ο} (hcut : inputs = is ++ rest)
    (h : m.run s is = .ok (t, os)) : I t := by
  induction is using List.reverseRecOn generalizing rest t os with
  | nil =>
    obtain ⟨rfl, -⟩ := run_nil_ok.mp h
    exact h0
  | append_singleton is i ih =>
    obtain ⟨mid, os1, os2, h1, h2, -⟩ := run_append_ok.mp h
    obtain ⟨s', o, os', hlast, hend, -⟩ := run_cons_ok.mp h2
    obtain ⟨rfl, -⟩ := run_nil_ok.mp hend
    rw [List.append_assoc] at hcut
    exact hstep is i rest mid os1 s' o hcut h1 (ih hcut h1) hlast

/- Two machines whose steps agree, what they output seen through `view`, agree on
whole runs. -/
theorem run_agrees {ο' ε' κ : Type} {m : Machine σ ι ο ε} {m' : Machine σ ι ο' ε'} {view : ο → κ}
    {view' : ο' → κ}
    (hstep : ∀ s i s' o, m.step s i = .ok (s', o) →
      ∃ o', m'.step s i = .ok (s', o') ∧ view' o' = view o)
    {s t : σ} {is : List ι} {os : List ο} (h : m.run s is = .ok (t, os)) :
    ∃ os', m'.run s is = .ok (t, os') ∧ os'.map view' = os.map view := by
  induction is generalizing s os with
  | nil =>
    obtain ⟨rfl, rfl⟩ := run_nil_ok.mp h
    exact ⟨[], rfl, rfl⟩
  | cons i is ih =>
    obtain ⟨s', o, os1, hfirst, hrest, rfl⟩ := run_cons_ok.mp h
    obtain ⟨o', hfirst', hview⟩ := hstep s i s' o hfirst
    obtain ⟨os', hrest', hviews⟩ := ih hrest
    refine ⟨o' :: os', run_cons_ok.mpr ⟨s', o', os', hfirst', hrest', rfl⟩, ?_⟩
    rw [List.map_cons, List.map_cons, hview, hviews]

/- A machine that takes the steps of another on the inputs that pass a further test, and
no other steps, takes its runs on inputs that all pass. -/
theorem run_filtered {ο' ε' : Type} {m : Machine σ ι ο ε} {m' : Machine σ ι ο' ε'} {Q : ι → Prop}
    (hstep : ∀ s i s', (∃ o', m'.step s i = .ok (s', o')) ↔ Q i ∧ ∃ o, m.step s i = .ok (s', o))
    {s t : σ} {is : List ι} : (∃ os', m'.run s is = .ok (t, os')) ↔
      (∀ i ∈ is, Q i) ∧ ∃ os, m.run s is = .ok (t, os) := by
  induction is generalizing s with
  | nil => simp [Machine.run]
  | cons i is ih =>
    rw [List.forall_mem_cons]
    constructor
    · rintro ⟨os', h'⟩
      obtain ⟨s', o', os1', hfirst', hrest', -⟩ := run_cons_ok.mp h'
      obtain ⟨hq, o, hfirst⟩ := (hstep s i s').mp ⟨o', hfirst'⟩
      obtain ⟨hqs, os, hrest⟩ := ih.mp ⟨os1', hrest'⟩
      exact ⟨⟨hq, hqs⟩, o :: os, run_cons_ok.mpr ⟨s', o, os, hfirst, hrest, rfl⟩⟩
    · rintro ⟨⟨hq, hqs⟩, os, h⟩
      obtain ⟨s', o, os1, hfirst, hrest, -⟩ := run_cons_ok.mp h
      obtain ⟨o', hfirst'⟩ := (hstep s i s').mpr ⟨hq, o, hfirst⟩
      obtain ⟨os', hrest'⟩ := ih.mpr ⟨hqs, os1, hrest⟩
      exact ⟨o' :: os', run_cons_ok.mpr ⟨s', o', os', hfirst', hrest', rfl⟩⟩

/- What the outputs of common steps have in common, those of common runs have. -/
theorem run_common {ο' ε' : Type} {m : Machine σ ι ο ε} {m' : Machine σ ι ο' ε'}
    {R : ο → ο' → Prop}
    (hstep : ∀ s i s1 o s2 o', m.step s i = .ok (s1, o) → m'.step s i = .ok (s2, o') →
      s1 = s2 ∧ R o o')
    {s t t' : σ} {is : List ι} {os : List ο} {os' : List ο'} (h : m.run s is = .ok (t, os))
    (h' : m'.run s is = .ok (t', os')) : t = t' ∧ List.Forall₂ R os os' := by
  induction is generalizing s os os' with
  | nil =>
    obtain ⟨rfl, rfl⟩ := run_nil_ok.mp h
    obtain ⟨rfl, rfl⟩ := run_nil_ok.mp h'
    exact ⟨rfl, .nil⟩
  | cons i is ih =>
    obtain ⟨s1, o, os1, hfirst, hrest, rfl⟩ := run_cons_ok.mp h
    obtain ⟨s2, o', os1', hfirst', hrest', rfl⟩ := run_cons_ok.mp h'
    obtain ⟨rfl, hmatch⟩ := hstep s i s1 o s2 o' hfirst hfirst'
    obtain ⟨hend, hmatches⟩ := ih hrest hrest'
    exact ⟨hend, .cons hmatch hmatches⟩

/- Two machines side by side: a relation of their states that steps on related inputs
keep, whole runs on related inputs keep. Only steps that both succeed are asked about. -/
theorem run_related {σ' ι' ο' ε' : Type} {m : Machine σ ι ο ε} {m' : Machine σ' ι' ο' ε'}
    {R : σ → σ' → Prop} {Q : ι → ι' → Prop}
    (hstep : ∀ s s' i i' t o t' o', R s s' → Q i i' → m.step s i = .ok (t, o) →
      m'.step s' i' = .ok (t', o') → R t t')
    {s t : σ} {s' t' : σ'} {is : List ι} {is' : List ι'} {os : List ο} {os' : List ο'}
    (hinputs : List.Forall₂ Q is is') (h0 : R s s') (h : m.run s is = .ok (t, os))
    (h' : m'.run s' is' = .ok (t', os')) : R t t' := by
  induction hinputs generalizing s s' os os' with
  | nil =>
    obtain ⟨rfl, -⟩ := run_nil_ok.mp h
    obtain ⟨rfl, -⟩ := run_nil_ok.mp h'
    exact h0
  | cons hinput hrest ih =>
    obtain ⟨s1, o, os1, hfirst, htail, -⟩ := run_cons_ok.mp h
    obtain ⟨s1', o', os1', hfirst', htail', -⟩ := run_cons_ok.mp h'
    exact ih (hstep _ _ _ _ _ _ _ _ h0 hinput hfirst hfirst') htail htail'

/-! ### Cutting a run -/

/- Cut a run after `k` inputs. -/
theorem run_split {m : Machine σ ι ο ε} {s t : σ} {is : List ι} {os : List ο} (k : ℕ)
    (h : m.run s is = .ok (t, os)) :
    ∃ mid, m.run s (is.take k) = .ok (mid, os.take k) ∧
      m.run mid (is.drop k) = .ok (t, os.drop k) := by
  have hcut : m.run s (is.take k ++ is.drop k) = .ok (t, os) := by
    rw [List.take_append_drop]
    exact h
  obtain ⟨mid, os1, os2, h1, h2, rfl⟩ := run_append_ok.mp hcut
  have hl1 := run_length h1
  have hl2 := run_length h2
  rw [List.length_take] at hl1
  rw [List.length_drop] at hl2
  by_cases hk : k ≤ is.length
  · have hk1 : os1.length = k := by omega
    refine ⟨mid, ?_, ?_⟩
    · rw [List.take_left' hk1]
      exact h1
    · rw [List.drop_left' hk1]
      exact h2
  · have hnil : os2 = [] := by
      rw [← List.length_eq_zero_iff]
      omega
    subst hnil
    have hi : is.length ≤ k := by omega
    have ho : os1.length ≤ k := by
      rw [hl1]
      omega
    rw [List.append_nil]
    rw [List.take_of_length_le hi] at h1
    rw [List.drop_eq_nil_of_le hi] at h2
    rw [List.take_of_length_le hi, List.drop_eq_nil_of_le hi, List.take_of_length_le ho,
      List.drop_eq_nil_of_le ho]
    exact ⟨mid, h1, h2⟩

/- Cut a run between two of its outputs. -/
theorem run_split_outputs {m : Machine σ ι ο ε} {s t : σ} {is : List ι} {xs ys : List ο}
    (h : m.run s is = .ok (t, xs ++ ys)) :
    ∃ mid is1 is2, is = is1 ++ is2 ∧ m.run s is1 = .ok (mid, xs) ∧
      m.run mid is2 = .ok (t, ys) := by
  obtain ⟨mid, h1, h2⟩ := run_split xs.length h
  rw [List.take_left] at h1
  rw [List.drop_left] at h2
  exact ⟨mid, _, _, (List.take_append_drop xs.length is).symm, h1, h2⟩

theorem run_cons_outputs {m : Machine σ ι ο ε} {s t : σ} {is : List ι} {o : ο} {os : List ο}
    (h : m.run s is = .ok (t, o :: os)) :
    ∃ i is' s', is = i :: is' ∧ m.step s i = .ok (s', o) ∧ m.run s' is' = .ok (t, os) := by
  cases is with
  | nil => exact absurd (run_nil_ok.mp h).2 (List.cons_ne_nil _ _)
  | cons i is =>
    obtain ⟨s', o', os', hstep, hrest, hos⟩ := run_cons_ok.mp h
    obtain ⟨rfl, rfl⟩ := List.cons.inj hos
    exact ⟨i, is, s', rfl, hstep, hrest⟩

end XenorEngine.Lib.Runs
