import XenorEngine.Lib.ReaderFaults

/-!
# Token patterns

A pattern says of each token in turn what it may be. Many readers accept the sequences of
one pattern and no others, whatever they return. Where such a reader stops, and what a
reader after it finds, is then a statement about the tokens alone.
-/

namespace XenorEngine.Lib.TokenPattern
open XenorEngine.Lib.Fallible XenorEngine.Lib.PrefixReader XenorEngine.Lib.FieldCodec
open XenorEngine.Lib.ReaderFaults

variable {τ ε α β σ : Type}

abbrev Pattern (τ : Type) := List (τ → Prop)

def Matches (pattern : Pattern τ) (ls : List τ) : Prop :=
  List.Forall₂ (fun allowed t => allowed t) pattern ls

/-- The tokens `ls` are a sequence of the pattern, then `rest`. -/
def Begins (pattern : Pattern τ) (ls rest : List τ) : Prop :=
  ∃ p, ls = p ++ rest ∧ Matches pattern p

theorem matches_nil {ls : List τ} : Matches [] ls ↔ ls = [] := List.forall₂_nil_left_iff

theorem matches_cons {allowed : τ → Prop} {pattern : Pattern τ} {ls : List τ} :
    Matches (allowed :: pattern) ls ↔
      ∃ t rest, ls = t :: rest ∧ allowed t ∧ Matches pattern rest := by
  unfold Matches
  rw [List.forall₂_cons_left_iff]
  constructor
  · rintro ⟨t, rest, ht, hrest, rfl⟩
    exact ⟨t, rest, rfl, ht, hrest⟩
  · rintro ⟨t, rest, rfl, ht, hrest⟩
    exact ⟨t, rest, ht, hrest, rfl⟩

theorem matches_append {p q : Pattern τ} {ls : List τ} :
    Matches (p ++ q) ls ↔ ∃ l1 l2, ls = l1 ++ l2 ∧ Matches p l1 ∧ Matches q l2 := by
  induction p generalizing ls with
  | nil =>
    constructor
    · exact fun h => ⟨[], ls, rfl, matches_nil.mpr rfl, h⟩
    · rintro ⟨l1, l2, rfl, h1, h2⟩
      obtain rfl := matches_nil.mp h1
      exact h2
  | cons allowed p ih =>
    rw [List.cons_append, matches_cons]
    constructor
    · rintro ⟨t, rest, rfl, ht, hrest⟩
      obtain ⟨l1, l2, rfl, h1, h2⟩ := ih.mp hrest
      exact ⟨t :: l1, l2, rfl, matches_cons.mpr ⟨t, l1, rfl, ht, h1⟩, h2⟩
    · rintro ⟨l1, l2, rfl, h1, h2⟩
      obtain ⟨t, rest, rfl, ht, hrest⟩ := matches_cons.mp h1
      exact ⟨t, rest ++ l2, rfl, ht, ih.mpr ⟨rest, l2, rfl, hrest, h2⟩⟩

theorem begins_nil {ls rest : List τ} : Begins [] ls rest ↔ ls = rest := by
  constructor
  · rintro ⟨p, rfl, hp⟩
    rw [matches_nil.mp hp, List.nil_append]
  · rintro rfl
    exact ⟨[], rfl, matches_nil.mpr rfl⟩

theorem begins_append {p q : Pattern τ} {ls rest : List τ} :
    Begins (p ++ q) ls rest ↔ ∃ mid, Begins p ls mid ∧ Begins q mid rest := by
  constructor
  · rintro ⟨ms, rfl, hms⟩
    obtain ⟨l1, l2, rfl, h1, h2⟩ := matches_append.mp hms
    exact ⟨l2 ++ rest, ⟨l1, List.append_assoc .., h1⟩, l2, rfl, h2⟩
  · rintro ⟨mid, ⟨l1, rfl, h1⟩, l2, rfl, h2⟩
    exact ⟨l1 ++ l2, (List.append_assoc ..).symm, matches_append.mpr ⟨l1, l2, rfl, h1, h2⟩⟩

theorem begins_cons {allowed : τ → Prop} {p : Pattern τ} {ls rest : List τ} :
    Begins (allowed :: p) ls rest ↔ ∃ t mid, ls = t :: mid ∧ allowed t ∧ Begins p mid rest := by
  constructor
  · rintro ⟨ms, rfl, hms⟩
    obtain ⟨t, l, rfl, ht, hl⟩ := matches_cons.mp hms
    exact ⟨t, l ++ rest, rfl, ht, l, rfl, hl⟩
  · rintro ⟨t, mid, rfl, ht, l, rfl, hl⟩
    exact ⟨t :: l, rfl, matches_cons.mpr ⟨t, l, rfl, ht, hl⟩⟩

/-! ### Readers of a pattern -/

/-- `m` reads the sequences of the pattern and no others. -/
def Accepts (m : Reader τ ε α) (pattern : Pattern τ) : Prop :=
  ∀ ls, (∃ a, m.Reads ls a) ↔ Matches pattern ls

theorem accepts_pure (a : α) : Accepts (pure a : Reader τ ε α) [] := by
  intro ls
  rw [matches_nil]
  constructor
  · rintro ⟨b, hb⟩
    exact (pure_reads.mp hb).1
  · rintro rfl
    exact ⟨a, pure_reads.mpr ⟨rfl, rfl⟩⟩

theorem accepts_bind {m : Reader τ ε α} {f : α → Reader τ ε β} {p q : Pattern τ}
    (hm : Accepts m p) (hf : ∀ a, Accepts (f a) q) : Accepts (m >>= f) (p ++ q) := by
  intro ls
  rw [matches_append]
  constructor
  · rintro ⟨b, hb⟩
    obtain ⟨l1, l2, a, rfl, h1, h2⟩ := bind_reads.mp hb
    exact ⟨l1, l2, rfl, (hm l1).mp ⟨a, h1⟩, (hf a l2).mp ⟨b, h2⟩⟩
  · rintro ⟨l1, l2, rfl, h1, h2⟩
    obtain ⟨a, ha⟩ := (hm l1).mpr h1
    obtain ⟨b, hb⟩ := (hf a l2).mpr h2
    exact ⟨b, bind_reads.mpr ⟨l1, l2, a, rfl, ha, hb⟩⟩

theorem accepts_last {m : Reader τ ε α} {p : Pattern τ} (hm : Accepts m p) (f : α → β) :
    Accepts (m >>= fun a => pure (f a)) p := by
  have h := accepts_bind hm fun a => accepts_pure (f a)
  rwa [List.append_nil] at h

/-- One token, whose value is checked before the rest is read. -/
theorem accepts_checked {m : Reader τ ε α} {check : α → Except ε Unit}
    {f : α → Reader τ ε β} {allowed : τ → Prop} {p : Pattern τ}
    (hm : ∀ ls, (∃ a, m.Reads ls a ∧ check a = .ok ()) ↔ ∃ t, ls = [t] ∧ allowed t)
    (hf : ∀ a, Accepts (f a) p) :
    Accepts (m >>= fun a => lift (check a) >>= fun _ => f a) (allowed :: p) := by
  intro ls
  rw [matches_cons]
  constructor
  · rintro ⟨b, hb⟩
    obtain ⟨l1, l2, a, rfl, h1, hb⟩ := bind_reads.mp hb
    obtain ⟨l3, l4, u, rfl, h3, h4⟩ := bind_reads.mp hb
    obtain ⟨rfl, hcheck⟩ := lift_reads.mp h3
    obtain ⟨t, rfl, ht⟩ := (hm l1).mp ⟨a, h1, hcheck⟩
    exact ⟨t, l4, rfl, ht, (hf a l4).mp ⟨b, h4⟩⟩
  · rintro ⟨t, rest, rfl, ht, hrest⟩
    obtain ⟨a, ha, hcheck⟩ := (hm [t]).mpr ⟨t, rfl, ht⟩
    obtain ⟨b, hb⟩ := (hf a rest).mpr hrest
    exact ⟨b, bind_reads.mpr ⟨[t], rest, a, rfl, ha, bind_reads.mpr
      ⟨[], rest, (), rfl, lift_reads.mpr ⟨rfl, hcheck⟩, hb⟩⟩⟩

theorem accepts_forRange {f : ℕ → Reader τ ε α} {p : ℕ → Pattern τ}
    (hf : ∀ i, Accepts (f i) (p i)) (start count : ℕ) :
    Accepts (forRange f start count) ((List.range' start count).flatMap p) := by
  induction count generalizing start with
  | zero => exact accepts_pure []
  | succ count ih =>
    rw [List.range'_succ, List.flatMap_cons]
    exact accepts_bind (hf start) fun a => accepts_last (ih (start + 1)) fun as => a :: as

theorem accepts_optionally {m : Reader τ ε α} {p : Pattern τ} (hm : Accepts m p)
    (present : Bool) : Accepts (optionally present m) (if present then p else []) := by
  cases present with
  | false => exact accepts_pure none
  | true => exact accepts_last hm some

/-- `m` reads the sequences of some pattern of the family. -/
def AcceptsAny (m : Reader τ ε α) (pattern : σ → Pattern τ) : Prop :=
  ∀ ls, (∃ a, m.Reads ls a) ↔ ∃ shape, Matches (pattern shape) ls

theorem acceptsAny_bind {m : Reader τ ε α} {f : α → Reader τ ε β} {p : Pattern τ}
    {q : σ → Pattern τ} (hm : Accepts m p) (hf : ∀ a, AcceptsAny (f a) q) :
    AcceptsAny (m >>= f) fun shape => p ++ q shape := by
  intro ls
  simp only [matches_append]
  constructor
  · rintro ⟨b, hb⟩
    obtain ⟨l1, l2, a, rfl, h1, h2⟩ := bind_reads.mp hb
    obtain ⟨shape, hshape⟩ := (hf a l2).mp ⟨b, h2⟩
    exact ⟨shape, l1, l2, rfl, (hm l1).mp ⟨a, h1⟩, hshape⟩
  · rintro ⟨shape, l1, l2, rfl, h1, h2⟩
    obtain ⟨a, ha⟩ := (hm l1).mpr h1
    obtain ⟨b, hb⟩ := (hf a l2).mpr ⟨shape, h2⟩
    exact ⟨b, bind_reads.mpr ⟨l1, l2, a, rfl, ha, hb⟩⟩

/-- One token, whose value tells which pattern follows. -/
theorem acceptsAny_tagged {m : Reader τ ε σ} {f : σ → Reader τ ε β} {allowed : σ → τ → Prop}
    {p : σ → Pattern τ} (hm : ∀ ls a, m.Reads ls a ↔ ∃ t, ls = [t] ∧ allowed a t)
    (hf : ∀ a, Accepts (f a) (p a)) :
    AcceptsAny (m >>= f) fun a => allowed a :: p a := by
  intro ls
  simp only [matches_cons]
  constructor
  · rintro ⟨b, hb⟩
    obtain ⟨l1, l2, a, rfl, h1, h2⟩ := bind_reads.mp hb
    obtain ⟨t, rfl, ht⟩ := (hm l1 a).mp h1
    exact ⟨a, t, l2, rfl, ht, (hf a l2).mp ⟨b, h2⟩⟩
  · rintro ⟨a, t, rest, rfl, ht, hrest⟩
    obtain ⟨b, hb⟩ := (hf a rest).mpr hrest
    exact ⟨b, bind_reads.mpr ⟨[t], rest, a, rfl, (hm [t] a).mpr ⟨t, rfl, ht⟩, hb⟩⟩

/-! ### What is found after a pattern -/

variable {bad : ε → Prop}

theorem faults_after_pattern {m : Reader τ ε α} {f : α → Reader τ ε β} {p : Pattern τ}
    {Q : List τ → Prop} (hbad : Faultless bad m) (hm : Accepts m p)
    (hf : ∀ a c, Faults bad (f a) c ↔ Q c.rest) {c : Cursor τ} :
    Faults bad (m >>= f) c ↔ ∃ rest, Begins p c.rest rest ∧ Q rest := by
  rw [faults_after hbad]
  constructor
  · rintro ⟨ls, rest, a, hsplit, hreads, h⟩
    exact ⟨rest, ⟨ls, hsplit, (hm ls).mp ⟨a, hreads⟩⟩, (hf a _).mp h⟩
  · rintro ⟨rest, ⟨ls, hsplit, hmatch⟩, h⟩
    obtain ⟨a, ha⟩ := (hm ls).mpr hmatch
    exact ⟨ls, rest, a, hsplit, ha, (hf a _).mpr h⟩

/- The rounds before the first fault read one pattern each. A round that fits a pattern
reads it, unless it faults itself. -/
theorem faults_forRange_pattern {f : ℕ → Reader τ ε α} {pattern : ℕ → σ → Pattern τ}
    {Q : ℕ → List τ → Prop}
    (hreads : ∀ i ls a, (f i).Reads ls a → ∃ shape, Matches (pattern i shape) ls)
    (hmatch : ∀ i shape ls, Matches (pattern i shape) ls →
      (∃ a, (f i).Reads ls a) ∨ ∀ c : Cursor τ, ∀ rest, c.rest = ls ++ rest → Faults bad (f i) c)
    (hfaults : ∀ i c, Faults bad (f i) c ↔ Q i c.rest) {start count : ℕ} {c : Cursor τ} :
    Faults bad (forRange f start count) c ↔ ∃ shapes : List σ, shapes.length < count ∧
      ∃ rest, Begins (writeFrom pattern start shapes) c.rest rest ∧
        Q (start + shapes.length) rest := by
  induction count generalizing start c with
  | zero =>
    constructor
    · exact fun h => absurd h (faultless_pure [] c)
    · rintro ⟨shapes, hlt, -⟩
      omega
  | succ count ih =>
    have hrest : ∀ (a : α) (c : Cursor τ), Faults bad (forRange f (start + 1) count >>=
        fun as => pure (a :: as)) c ↔ Faults bad (forRange f (start + 1) count) c :=
      fun a c => faults_before fun as => faultless_pure (a :: as)
    change Faults bad (f start >>= fun a => forRange f (start + 1) count >>=
      fun as => pure (a :: as)) c ↔ _
    rw [faults_bind]
    constructor
    · rintro (h | ⟨ls, rest, a, hsplit, hr, h⟩)
      · exact ⟨[], Nat.succ_pos count, c.rest, begins_nil.mpr rfl, (hfaults start c).mp h⟩
      · obtain ⟨shape, hshape⟩ := hreads start ls a hr
        rw [hrest, ih] at h
        obtain ⟨shapes, hlt, rest', hbegins, hq⟩ := h
        refine ⟨shape :: shapes, Nat.succ_lt_succ hlt, rest',
          begins_append.mpr ⟨rest, ⟨ls, hsplit, hshape⟩, hbegins⟩, ?_⟩
        have hindex : start + (shapes.length + 1) = start + 1 + shapes.length := by omega
        rw [List.length_cons, hindex]
        exact hq
    · rintro ⟨shapes, hlt, rest, hbegins, hq⟩
      cases shapes with
      | nil =>
        obtain hsame := begins_nil.mp hbegins
        rw [← hsame] at hq
        exact Or.inl ((hfaults start c).mpr hq)
      | cons shape shapes =>
        obtain ⟨mid, ⟨ls, hsplit, hshape⟩, hbegins⟩ := begins_append.mp hbegins
        rcases hmatch start shape ls hshape with ⟨a, ha⟩ | hfault
        · refine Or.inr ⟨ls, mid, a, hsplit, ha, ?_⟩
          rw [hrest, ih]
          refine ⟨shapes, Nat.lt_of_succ_lt_succ hlt, rest, hbegins, ?_⟩
          have hindex : start + (shapes.length + 1) = start + 1 + shapes.length := by omega
          rw [List.length_cons, hindex] at hq
          exact hq
        · exact Or.inl (hfault c mid hsplit)

end XenorEngine.Lib.TokenPattern
