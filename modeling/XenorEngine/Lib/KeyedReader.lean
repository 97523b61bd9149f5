import XenorEngine.Lib.FieldCodec

/-!
# Readers that expect one key after the other

Two properties of a reader whose tokens carry keys. `Keyed`: no key occurs twice
in what it accepts. `Strict`: where it expects a key, it fails on every other one
and on the end. A reader with both notices when tokens are removed, repeated,
exchanged or added.
-/

namespace XenorEngine.Lib.KeyedReader
open XenorEngine.Lib.Fallible XenorEngine.Lib.PrefixReader XenorEngine.Lib.FieldCodec

variable {τ ε ε' α β κ : Type} {key : τ → κ}

/-! ### Distinct keys -/

/-- The keys `m` reads are in `S`, and no two of them are equal. -/
structure Keyed (key : τ → κ) (S : Set κ) (m : Reader τ ε α) : Prop where
  within : ∀ {ls a}, m.Reads ls a → ∀ t ∈ ls, key t ∈ S
  nodup : ∀ {ls a}, m.Reads ls a → (ls.map key).Nodup

theorem keyed_mono {S T : Set κ} {m : Reader τ ε α} (h : Keyed key S m) (hST : S ⊆ T) :
    Keyed key T m where
  within hr t ht := hST (h.within hr t ht)
  nodup := h.nodup

theorem keyed_pure (a : α) : Keyed key ∅ (pure a : Reader τ ε α) where
  within hr t ht := by
    rw [(pure_reads.mp hr).1] at ht
    cases ht
  nodup hr := by
    rw [(pure_reads.mp hr).1]
    exact List.nodup_nil

theorem keyed_bind {S T : Set κ} {m : Reader τ ε α} {f : α → Reader τ ε β}
    (hm : Keyed key S m) (hf : ∀ a, Keyed key T (f a)) (hdisj : ∀ k ∈ S, k ∉ T) :
    Keyed key (S ∪ T) (m >>= f) where
  within hr t ht := by
    obtain ⟨l1, l2, a, rfl, h1, h2⟩ := bind_reads.mp hr
    rcases List.mem_append.mp ht with ht | ht
    · exact Or.inl (hm.within h1 t ht)
    · exact Or.inr ((hf a).within h2 t ht)
  nodup hr := by
    obtain ⟨l1, l2, a, rfl, h1, h2⟩ := bind_reads.mp hr
    rw [List.map_append]
    refine List.Nodup.append (hm.nodup h1) ((hf a).nodup h2) ?_
    intro k hk1 hk2
    obtain ⟨t, ht, rfl⟩ := List.mem_map.mp hk1
    obtain ⟨u, hu, he⟩ := List.mem_map.mp hk2
    exact hdisj _ (hm.within h1 t ht) (he ▸ (hf a).within h2 u hu)

/-- A computation between two fields. -/
theorem keyed_lift_bind {T : Set κ} {x : Except ε α} {f : α → Reader τ ε β}
    (hf : ∀ a, Keyed key T (f a)) : Keyed key T (lift x >>= f) where
  within hr := by
    obtain ⟨l1, l2, a, rfl, h1, h2⟩ := bind_reads.mp hr
    rw [(lift_reads.mp h1).1]
    exact (hf a).within h2
  nodup hr := by
    obtain ⟨l1, l2, a, rfl, h1, h2⟩ := bind_reads.mp hr
    rw [(lift_reads.mp h1).1]
    exact (hf a).nodup h2

theorem keyed_forRange {S : ℕ → Set κ} {f : ℕ → Reader τ ε α} (h : ∀ i, Keyed key (S i) (f i))
    (hdisj : ∀ i j, i ≠ j → ∀ k ∈ S i, k ∉ S j) (start count : ℕ) :
    Keyed key {k | ∃ i, start ≤ i ∧ k ∈ S i} (forRange f start count) := by
  induction count generalizing start with
  | zero =>
    exact keyed_mono (keyed_pure []) (Set.empty_subset _)
  | succ count ih =>
    have hrest : Keyed key {k | ∃ i, start + 1 ≤ i ∧ k ∈ S i} (forRange f (start + 1) count) :=
      ih (start + 1)
    have hcons : ∀ a, Keyed key {k | ∃ i, start + 1 ≤ i ∧ k ∈ S i}
        (forRange f (start + 1) count >>= fun as => pure (a :: as)) := by
      intro a
      refine keyed_mono (keyed_bind hrest (fun as => keyed_pure (a :: as)) ?_) ?_
      · exact fun k _ hk => hk
      · rw [Set.union_empty]
    refine keyed_mono (keyed_bind (h start) hcons ?_) ?_
    · rintro k hk ⟨i, hi, hki⟩
      exact hdisj start i (by omega) k hk hki
    · rintro k (hk | ⟨i, hi, hki⟩)
      · exact ⟨start, Nat.le_refl _, hk⟩
      · exact ⟨i, by omega, hki⟩

theorem keyed_optionally {S : Set κ} {m : Reader τ ε α} (h : Keyed key S m) (present : Bool) :
    Keyed key S (optionally present m) := by
  cases present with
  | false => exact keyed_mono (keyed_pure none) (Set.empty_subset _)
  | true =>
    refine keyed_mono (keyed_bind h (fun a => keyed_pure (some a)) ?_) ?_
    · exact fun k _ hk => hk
    · rw [Set.union_empty]

/-- Among the tokens read, a key names one. -/
theorem keyed_unique {S : Set κ} {m : Reader τ ε α} (h : Keyed key S m) {ls : List τ} {a : α}
    (hr : m.Reads ls a) {t u : τ} (ht : t ∈ ls) (hu : u ∈ ls) (he : key t = key u) : t = u :=
  List.inj_on_of_nodup_map (h.nodup hr) ht hu he

/-- Distinct in a part of the key. -/
theorem keyed_of_comp {κ' : Type} {g : κ → κ'} {S : Set κ'} {m : Reader τ ε α}
    (h : Keyed (fun t => g (key t)) S m) : Keyed key (Set.preimage g S) m where
  within hr t ht := h.within hr t ht
  nodup hr := by
    have hnodup := h.nodup hr
    have hmap : (fun t => g (key t)) = g ∘ key := rfl
    rw [hmap, ← List.map_map] at hnodup
    exact hnodup.of_map g

/-! ### Strictness -/

/-- In the place of a token that is read, nothing with another key is, and the
failure is of the kind `bad`. -/
def Strict (key : τ → κ) (bad : ε → Prop) (m : Reader τ ε α) : Prop :=
  ∀ p t r a, m.Reads (p ++ t :: r) a → ∀ rest, (∀ u ∈ rest.head?, key u ≠ key t) →
    ∀ seen, ∃ e, m.run ⟨p ++ rest, seen⟩ = .error e ∧ bad e

variable {bad : ε → Prop}

theorem strict_silent {m : Reader τ ε α} (h : ∀ ls a, m.Reads ls a → ls = []) :
    Strict key bad m := by
  intro p t r a hr
  have hnil := h _ a hr
  simp at hnil

theorem strict_pure (a : α) : Strict key bad (pure a : Reader τ ε α) :=
  strict_silent fun _ _ hr => (pure_reads.mp hr).1

theorem strict_lift (x : Except ε α) : Strict key bad (lift x : Reader τ ε α) :=
  strict_silent fun _ _ hr => (lift_reads.mp hr).1

/- The place lies in the part of the first reader, or in that of the second. -/
theorem strict_bind {m : Reader τ ε α} {f : α → Reader τ ε β} (hm : Strict key bad m)
    (hf : ∀ a, Strict key bad (f a)) : Strict key bad (m >>= f) := by
  intro p t r b hr rest hrest seen
  obtain ⟨l1, l2, a, hsplit, h1, h2⟩ := bind_reads.mp hr
  rcases List.append_eq_append_iff.mp hsplit.symm with ⟨q, rfl, rfl⟩ | ⟨q, rfl, hq⟩
  · obtain ⟨e, he, hbad⟩ := hf a q t r b h2 rest hrest (l1.reverse ++ seen)
    refine ⟨e, ?_, hbad⟩
    change (m.run _ >>= fun s => (f s.1).run s.2) = _
    rw [List.append_assoc, h1, ok_bind]
    exact he
  · cases q with
    | nil =>
      rw [List.append_nil] at h1
      rw [List.nil_append] at hq
      subst hq
      obtain ⟨e, he, hbad⟩ := hf a [] t r b h2 rest hrest (p.reverse ++ seen)
      refine ⟨e, ?_, hbad⟩
      change (m.run _ >>= fun s => (f s.1).run s.2) = _
      rw [h1, ok_bind]
      exact he
    | cons u q =>
      obtain ⟨rfl, -⟩ := List.cons.inj hq
      obtain ⟨e, he, hbad⟩ := hm p t q a h1 rest hrest seen
      refine ⟨e, ?_, hbad⟩
      change (m.run _ >>= fun s => (f s.1).run s.2) = _
      rw [he]
      rfl

theorem strict_mapError {g : ε' → ε} {m : Reader τ ε' α}
    (h : Strict key (fun e => bad (g e)) m) : Strict key bad (mapError g m) := by
  intro p t r a hr rest hrest seen
  obtain ⟨e, he, hbad⟩ := h p t r a (mapError_reads.mp hr) rest hrest seen
  refine ⟨g e, ?_, hbad⟩
  change (m.run _).mapError g = _
  rw [he]
  rfl

theorem strict_token {value : τ → Option α} {missing : ε} {reject : List τ → τ → ε}
    (hkey : ∀ t a, value t = some a → ∀ u, key u ≠ key t → value u = none)
    (hmissing : bad missing) (hreject : ∀ seen t, bad (reject seen t)) :
    Strict key bad (token value missing reject) := by
  intro p t r a hr rest hrest seen
  obtain ⟨t', ht, hv⟩ := token_reads.mp hr
  have hp : p = [] := by
    cases p with
    | nil => rfl
    | cons x p => simp at ht
  subst hp
  obtain ⟨rfl, -⟩ := List.cons.inj ht
  cases rest with
  | nil => exact ⟨missing, rfl, hmissing⟩
  | cons u rest =>
    have hnone := hkey t a hv u (hrest u rfl)
    refine ⟨reject seen u, ?_, hreject seen u⟩
    simp only [token, List.nil_append, hnone]

theorem strict_forRange {f : ℕ → Reader τ ε α} (h : ∀ i, Strict key bad (f i))
    (start count : ℕ) : Strict key bad (forRange f start count) := by
  induction count generalizing start with
  | zero => exact strict_pure []
  | succ count ih =>
    refine strict_bind (h start) fun a => ?_
    exact strict_bind (ih (start + 1)) fun as => strict_pure (a :: as)

theorem strict_optionally {m : Reader τ ε α} (h : Strict key bad m) (present : Bool) :
    Strict key bad (optionally present m) := by
  cases present with
  | false => exact strict_pure none
  | true => exact strict_bind h fun a => strict_pure (some a)

/-! ### Tampering -/

/-- One change to a list: an element removed, repeated anywhere, exchanged with
another one, or a new element (of the kind `new`) at the end. -/
inductive Tampered (new : τ → Prop) : List τ → List τ → Prop
  | delete (p : List τ) (t : τ) (r : List τ) : Tampered new (p ++ t :: r) (p ++ r)
  | duplicate (p r : List τ) (t : τ) (ht : t ∈ p ++ r) : Tampered new (p ++ r) (p ++ t :: r)
  | exchange (p : List τ) (t : τ) (q : List τ) (u : τ) (r : List τ) :
    Tampered new (p ++ t :: (q ++ u :: r)) (p ++ u :: (q ++ t :: r))
  | append (ls : List τ) (t : τ) (ht : new t) : Tampered new ls (ls ++ [t])

/-- A change to a list of images that adds nothing changes the list itself. -/
theorem tampered_map {σ : Type} {f : τ → σ} {new : σ → Prop} {ls : List τ} {ms : List σ}
    (h : Tampered new (ls.map f) ms) :
    (∃ ls', ms = ls'.map f ∧ Tampered (fun _ => False) ls ls') ∨
      ∃ t, new t ∧ ms = ls.map f ++ [t] := by
  generalize hls : ls.map f = ns at h
  cases h with
  | delete p t r =>
    obtain ⟨l1, l2, rfl, rfl, h2⟩ := List.map_eq_append_iff.mp hls
    obtain ⟨x, l3, rfl, rfl, rfl⟩ := List.map_eq_cons_iff.mp h2
    exact Or.inl ⟨l1 ++ l3, List.map_append.symm, .delete l1 x l3⟩
  | duplicate p r t ht =>
    obtain ⟨l1, l2, rfl, rfl, rfl⟩ := List.map_eq_append_iff.mp hls
    rw [← List.map_append] at ht
    obtain ⟨x, hx, rfl⟩ := List.mem_map.mp ht
    refine Or.inl ⟨l1 ++ x :: l2, ?_, .duplicate l1 l2 x hx⟩
    rw [List.map_append, List.map_cons]
  | exchange p t q u r =>
    obtain ⟨l1, l2, rfl, rfl, h2⟩ := List.map_eq_append_iff.mp hls
    obtain ⟨x, l3, rfl, rfl, h3⟩ := List.map_eq_cons_iff.mp h2
    obtain ⟨l4, l5, rfl, rfl, h5⟩ := List.map_eq_append_iff.mp h3
    obtain ⟨y, l6, rfl, rfl, rfl⟩ := List.map_eq_cons_iff.mp h5
    refine Or.inl ⟨l1 ++ y :: (l4 ++ x :: l6), ?_, .exchange l1 x l4 y l6⟩
    simp only [List.map_append, List.map_cons]
  | append ls t ht =>
    exact Or.inr ⟨t, ht, rfl⟩

theorem tampered_subset {ls ls' : List τ} (h : Tampered (fun _ => False) ls ls') :
    ∀ t ∈ ls', t ∈ ls := by
  cases h with
  | delete p t r => simp; tauto
  | duplicate p r t ht =>
    intro u hu
    rcases List.mem_append.mp hu with hu | hu
    · exact List.mem_append_left _ hu
    · rcases List.mem_cons.mp hu with rfl | hu
      · exact ht
      · exact List.mem_append_right _ hu
  | exchange p t q u r => simp; tauto
  | append ls t ht => exact ht.elim

/-- `m` fails on the tokens, or leaves some of them. -/
def Refuses (bad : ε → Prop) (m : Reader τ ε α) (ls : List τ) : Prop :=
  (∃ e, m.run (Cursor.start ls) = .error e ∧ bad e) ∨
    ∃ a s, m.run (Cursor.start ls) = .ok (a, s) ∧ s.rest ≠ []

theorem refuses_of_strict {m : Reader τ ε α} (hs : Strict key bad m) {p : List τ} {t : τ}
    {r rest : List τ} {a : α} (hr : m.Reads (p ++ t :: r) a)
    (hrest : ∀ u ∈ rest.head?, key u ≠ key t) : Refuses bad m (p ++ rest) :=
  Or.inl (hs p t r a hr rest hrest [])

theorem refuses_of_longer {m : Reader τ ε α} {ls : List τ} {a : α} (hr : m.Reads ls a) {t : τ}
    (rest : List τ) : Refuses bad m (ls ++ t :: rest) :=
  Or.inr ⟨a, _, hr (t :: rest) [], List.cons_ne_nil _ _⟩

/-- What is accepted is no longer so after one change. -/
theorem refuses_tampered {S : Set κ} {m : Reader τ ε α} (hk : Keyed key S m)
    (hs : Strict key bad m) {new : τ → Prop} {ls ls' : List τ} {a : α} (hr : m.Reads ls a)
    (h : Tampered new ls ls') : Refuses bad m ls' := by
  have hnodup := hk.nodup hr
  cases h with
  | delete p t r =>
    refine refuses_of_strict hs hr fun u hu => ?_
    rw [List.map_append, List.map_cons] at hnodup
    have hnot := (List.nodup_cons.mp hnodup.of_append_right).1
    intro he
    exact hnot (he ▸ List.mem_map_of_mem (List.mem_of_mem_head? hu))
  | duplicate p r t ht =>
    cases r with
    | nil =>
      rw [List.append_nil] at hr
      exact refuses_of_longer hr []
    | cons u r =>
      by_cases he : key t = key u
      · -- the copy stands beside its original: the second of the two is refused
        obtain rfl := keyed_unique hk hr ht (by simp) he
        have hr' : m.Reads ((p ++ [t]) ++ r) a := by
          rw [List.append_assoc]
          exact hr
        have hsplit : p ++ t :: t :: r = (p ++ [t]) ++ t :: r := by
          rw [List.append_assoc]
          rfl
        rw [hsplit]
        cases r with
        | nil =>
          rw [List.append_nil] at hr'
          exact refuses_of_longer hr' []
        | cons v r =>
          refine refuses_of_strict hs hr' fun w hw => ?_
          obtain rfl := Option.some.inj hw
          rw [List.map_append, List.map_cons, List.map_cons] at hnodup
          have hnot := (List.nodup_cons.mp hnodup.of_append_right).1
          intro he
          exact hnot (he ▸ List.mem_cons_self ..)
      · refine refuses_of_strict hs hr fun w hw => ?_
        obtain rfl := Option.some.inj hw
        exact he
  | exchange p t q u r =>
    refine refuses_of_strict hs hr fun w hw => ?_
    obtain rfl := Option.some.inj hw
    rw [List.map_append, List.map_cons] at hnodup
    have hnot := (List.nodup_cons.mp hnodup.of_append_right).1
    intro he
    exact hnot (he ▸ List.mem_map_of_mem (by simp))
  | append ls t ht => exact refuses_of_longer hr []

end XenorEngine.Lib.KeyedReader
