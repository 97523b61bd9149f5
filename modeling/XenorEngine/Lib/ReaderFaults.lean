import XenorEngine.Lib.FieldCodec

/-!
# How a reader can fail

A reader fails in many ways, and of some of them one wants to know exactly when
they occur. `Faults` says that it fails in such a way, `Faultless` that it never
does. A reader made of faultless parts and of checks between them faults at the
first check that does.
-/

namespace XenorEngine.Lib.ReaderFaults
open XenorEngine.Lib.Fallible XenorEngine.Lib.PrefixReader XenorEngine.Lib.FieldCodec

variable {τ ε ε' α β : Type} {bad : ε → Prop}

/-- Started at `c`, `m` fails in the way `bad`. -/
def Faults (bad : ε → Prop) (m : Reader τ ε α) (c : Cursor τ) : Prop :=
  ∃ e, m.run c = .error e ∧ bad e

def Faultless (bad : ε → Prop) (m : Reader τ ε α) : Prop := ∀ c, ¬ Faults bad m c

/-- What is left after `ls` has been read. -/
def Cursor.after (c : Cursor τ) (ls rest : List τ) : Cursor τ := ⟨rest, ls.reverse ++ c.seen⟩

theorem run_of_split {m : Reader τ ε α} {c : Cursor τ} {ls rest : List τ} {a : α}
    (h : m.Reads ls a) (hsplit : c.rest = ls ++ rest) :
    m.run c = .ok (a, Cursor.after c ls rest) := by
  obtain ⟨tokens, seen⟩ := c
  obtain rfl : tokens = ls ++ rest := hsplit
  exact h rest seen

theorem faults_bind {m : Reader τ ε α} {f : α → Reader τ ε β} {c : Cursor τ} :
    Faults bad (m >>= f) c ↔ Faults bad m c ∨ ∃ ls rest a, c.rest = ls ++ rest ∧
      m.Reads ls a ∧ Faults bad (f a) (Cursor.after c ls rest) := by
  have hrun : (m >>= f).run c = (m.run c >>= fun s => (f s.1).run s.2) := rfl
  constructor
  · rintro ⟨e, he, hbad⟩
    rw [hrun] at he
    cases hm : m.run c with
    | error e' =>
      rw [hm] at he
      obtain rfl : e' = e := Except.error.inj he
      exact Or.inl ⟨e', hm, hbad⟩
    | ok s =>
      obtain ⟨a, c'⟩ := s
      obtain ⟨ls, hrest, hseen, hreads⟩ := reads_of_run hm
      refine Or.inr ⟨ls, c'.rest, a, hrest, hreads, e, ?_, hbad⟩
      have hc' : c' = Cursor.after c ls c'.rest := by
        rw [Cursor.after, ← hseen]
      rw [hm, ok_bind] at he
      rwa [← hc']
  · rintro (⟨e, he, hbad⟩ | ⟨ls, rest, a, hsplit, hreads, e, he, hbad⟩)
    · refine ⟨e, ?_, hbad⟩
      rw [hrun, he]
      rfl
    · refine ⟨e, ?_, hbad⟩
      rw [hrun, run_of_split hreads hsplit, ok_bind]
      exact he

theorem faults_lift {x : Except ε α} {c : Cursor τ} :
    Faults bad (lift x : Reader τ ε α) c ↔ ∃ e, x = .error e ∧ bad e := by
  cases x with
  | error e =>
    constructor
    · rintro ⟨e', he, hbad⟩
      obtain rfl : e = e' := Except.error.inj he
      exact ⟨e, rfl, hbad⟩
    · rintro ⟨e', he, hbad⟩
      obtain rfl := Except.error.inj he
      exact ⟨e, rfl, hbad⟩
  | ok a =>
    constructor
    · rintro ⟨e, he, -⟩
      cases he
    · rintro ⟨e, he, -⟩
      cases he

/-! ### Parts that do not fault -/

theorem faultless_pure (a : α) : Faultless bad (pure a : Reader τ ε α) := by
  rintro c ⟨e, he, -⟩
  cases he

theorem faultless_lift {x : Except ε α} (h : ∀ e, x = .error e → ¬ bad e) :
    Faultless bad (lift x : Reader τ ε α) := by
  intro c hc
  obtain ⟨e, he, hbad⟩ := faults_lift.mp hc
  exact h e he hbad

theorem faultless_bind {m : Reader τ ε α} {f : α → Reader τ ε β} (hm : Faultless bad m)
    (hf : ∀ a, Faultless bad (f a)) : Faultless bad (m >>= f) := by
  intro c hc
  rcases faults_bind.mp hc with hc | ⟨ls, rest, a, -, -, hc⟩
  · exact hm c hc
  · exact hf a _ hc

theorem faultless_mapError {g : ε' → ε} {m : Reader τ ε' α} (h : ∀ e, ¬ bad (g e)) :
    Faultless bad (mapError g m) := by
  rintro c ⟨e, he, hbad⟩
  change (m.run c).mapError g = _ at he
  cases hm : m.run c with
  | error e' =>
    rw [hm] at he
    obtain rfl : g e' = e := Except.error.inj he
    exact h e' hbad
  | ok s =>
    rw [hm] at he
    cases he

theorem faultless_forRange {f : ℕ → Reader τ ε α} (h : ∀ i, Faultless bad (f i))
    (start count : ℕ) : Faultless bad (forRange f start count) := by
  induction count generalizing start with
  | zero => exact faultless_pure []
  | succ count ih =>
    refine faultless_bind (h start) fun a => ?_
    exact faultless_bind (ih (start + 1)) fun as => faultless_pure (a :: as)

theorem faultless_optionally {m : Reader τ ε α} (h : Faultless bad m) (present : Bool) :
    Faultless bad (optionally present m) := by
  cases present with
  | false => exact faultless_pure none
  | true => exact faultless_bind h fun a => faultless_pure (some a)

/-! ### Where a reader faults -/

theorem faults_after {m : Reader τ ε α} {f : α → Reader τ ε β} (hm : Faultless bad m)
    {c : Cursor τ} : Faults bad (m >>= f) c ↔ ∃ ls rest a, c.rest = ls ++ rest ∧ m.Reads ls a ∧
      Faults bad (f a) (Cursor.after c ls rest) := by
  rw [faults_bind]
  constructor
  · rintro (h | h)
    · exact absurd h (hm c)
    · exact h
  · exact Or.inr

theorem faults_before {m : Reader τ ε α} {f : α → Reader τ ε β} (hf : ∀ a, Faultless bad (f a))
    {c : Cursor τ} : Faults bad (m >>= f) c ↔ Faults bad m c := by
  rw [faults_bind]
  constructor
  · rintro (h | ⟨ls, rest, a, -, -, h⟩)
    · exact h
    · exact absurd h (hf a _)
  · exact Or.inl

/-- A check, then the rest. -/
theorem faults_check {x : Except ε Unit} {k : Unit → Reader τ ε β} {c : Cursor τ} :
    Faults bad (lift x >>= k) c ↔ (∃ e, x = .error e ∧ bad e) ∨
      x = .ok () ∧ Faults bad (k ()) c := by
  have hc : Cursor.after c [] c.rest = c := rfl
  rw [faults_bind, faults_lift]
  constructor
  · rintro (h | ⟨ls, rest, u, hsplit, hreads, h⟩)
    · exact Or.inl h
    · obtain ⟨rfl, hx⟩ := lift_reads.mp hreads
      obtain rfl : c.rest = rest := hsplit
      exact Or.inr ⟨hx, hc ▸ h⟩
  · rintro (h | ⟨hx, h⟩)
    · exact Or.inl h
    · exact Or.inr ⟨[], c.rest, (), rfl, lift_reads.mpr ⟨rfl, hx⟩, hc.symm ▸ h⟩

end XenorEngine.Lib.ReaderFaults
