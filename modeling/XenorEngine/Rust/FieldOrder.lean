import XenorEngine.Lib.KeyedReader
import XenorEngine.Rust.Parity

/-!
# The order of the fields (canonical/mod.rs)

`CanonicalLineReader` asks for one key after the other and accepts nothing else.
Which keys it asks for may depend on what was read; that none is asked for twice,
and that another key is an error, does not.
-/

namespace XenorEngine.Rust
open XenorEngine.Lib.ByteText XenorEngine.Lib.LineText XenorEngine.Lib.Fallible
open XenorEngine.Lib.PrefixReader XenorEngine.Lib.FieldCodec XenorEngine.Lib.KeyedReader

/-- The other kind of failure is a panic. -/
def Failure.IsError (f : Failure) : Prop := ∃ e, f = .error e

section Fields
variable {ε α β κ : Type} {lineKey : Line → κ} {k : κ} {ks : List κ} {S : Set κ}
  {wrap : CanonicalError → ε} {label key : String}

/-- The keys `ks`, read before those of `S`. -/
def withKeys (ks : List κ) (S : Set κ) : Set κ := {k | k ∈ ks ∨ k ∈ S}

theorem withKeys_subset {T : Set κ} (hks : ∀ k ∈ ks, k ∈ T) (hS : S ⊆ T) : withKeys ks S ⊆ T := by
  rintro k (hk | hk)
  · exact hks k hk
  · exact hS hk

theorem keyed_last {m : Reader Line ε α} (h : Keyed lineKey S m) :
    Keyed lineKey (withKeys [] S) m :=
  keyed_mono h fun _ hk => Or.inr hk

theorem keyed_singleton {m : Reader Line ε α}
    (h : ∀ ls a, m.Reads ls a → ∃ v, ls = [(key, v)]) (hkey : ∀ v, lineKey (key, v) = k) :
    Keyed lineKey {k} m where
  within hr t ht := by
    obtain ⟨v, rfl⟩ := h _ _ hr
    rw [List.mem_singleton.mp ht, hkey]
    rfl
  nodup hr := by
    obtain ⟨v, rfl⟩ := h _ _ hr
    exact List.nodup_singleton _

theorem keyed_cons {m : Reader Line ε α} {f : α → Reader Line ε β}
    (hm : Keyed lineKey {k} m) (hnot : k ∉ withKeys ks S)
    (hf : ∀ a, Keyed lineKey (withKeys ks S) (f a)) :
    Keyed lineKey (withKeys (k :: ks) S) (m >>= f) := by
  refine keyed_mono (keyed_bind hm hf ?_) ?_
  · rintro _ rfl
    exact hnot
  · rintro _ (rfl | hS | hS)
    · exact Or.inl (List.mem_cons_self ..)
    · exact Or.inl (List.mem_cons_of_mem _ hS)
    · exact Or.inr hS

theorem keyed_readField {parse : String → Except ε α} (hkey : ∀ v, lineKey (key, v) = k) :
    Keyed lineKey {k} (readField wrap label key parse) := by
  refine keyed_singleton (fun ls a hr => ?_) hkey
  obtain ⟨v, rfl, -⟩ := readField_reads.mp hr
  exact ⟨v, rfl⟩

theorem keyed_field {parse : String → Except ε α} {f : α → Reader Line ε β}
    (hkey : ∀ v, lineKey (key, v) = k) (hnot : k ∉ withKeys ks S)
    (hf : ∀ a, Keyed lineKey (withKeys ks S) (f a)) :
    Keyed lineKey (withKeys (k :: ks) S)
      (readField wrap label key parse >>= f) :=
  keyed_cons (keyed_readField hkey) hnot hf

theorem keyed_expect {expected : String} {f : Unit → Reader Line ε β}
    (hkey : ∀ v, lineKey (key, v) = k) (hnot : k ∉ withKeys ks S)
    (hf : ∀ u, Keyed lineKey (withKeys ks S) (f u)) :
    Keyed lineKey (withKeys (k :: ks) S)
      (expectField wrap label key expected >>= f) :=
  keyed_cons (keyed_singleton (fun _ _ hr => ⟨expected, expectField_reads.mp hr⟩) hkey) hnot hf

/- A field that is there only if a flag read before says so. -/
theorem keyed_optional {parse : String → Except ε α} {f : Option α → Reader Line ε β}
    {present : Bool} (hkey : ∀ v, lineKey (key, v) = k) (hnot : k ∉ withKeys ks S)
    (hf : ∀ a, Keyed lineKey (withKeys ks S) (f a)) :
    Keyed lineKey (withKeys (k :: ks) S)
      (optionally present (readField wrap label key parse) >>= f) :=
  keyed_cons (keyed_optionally (keyed_readField hkey) present) hnot hf

variable {bad : ε → Prop}

theorem strict_readValue {bad : CanonicalError → Prop} (hbad : ∀ e, bad e) :
    Strict (fun l : Line => l.1) bad (readValue key label) := by
  refine strict_token ?_ (hbad _) fun seen t => hbad _
  intro t v hv u hu
  split at hv
  · rename_i ht
    rw [if_neg (ht ▸ hu)]
  · cases hv

theorem strict_field {parse : String → Except ε α} (hbad : ∀ e, bad (wrap e)) :
    Strict (fun l : Line => l.1) bad (readField wrap label key parse) :=
  strict_bind (strict_mapError (strict_readValue hbad)) fun _ => strict_lift _

theorem strict_expect {expected : String} (hbad : ∀ e, bad (wrap e)) :
    Strict (fun l : Line => l.1) bad (expectField wrap label key expected) :=
  strict_mapError (strict_bind (strict_readValue hbad) fun _ => strict_lift _)

end Fields

/-! ### Files -/

def lineBytes (l : Line) : Bytes := utf8 (joinLine l)

theorem finish_eq_joinByteLines {ls : List Line} (hne : ls ≠ []) :
    CanonicalLineWriter.finish ls = joinByteLines (ls.map lineBytes) := by
  induction ls with
  | nil => exact absurd rfl hne
  | cons l ls ih =>
    cases ls with
    | nil =>
      rw [CanonicalLineWriter.finish, joinLines, List.map_singleton, String.intercalate_singleton,
        utf8_newline]
      simp [joinByteLines, lineBytes]
    | cons m ms =>
      have hlines : joinLines (l :: m :: ms) = joinLine l ++ "\n" ++ joinLines (m :: ms) := by
        simp only [joinLines, List.map_cons, String.intercalate_cons_cons, String.append_assoc]
      rw [CanonicalLineWriter.finish, hlines, utf8_append, utf8_newline,
        ← CanonicalLineWriter.finish, ih (List.cons_ne_nil _ _)]
      simp [joinByteLines, lineBytes]

theorem lineBytes_newline {l : Line} (h : Clean l) : 10 ∉ lineBytes l := by
  refine newline_not_mem ?_
  rw [joinLine_toList]
  exact (joinChars_clean h).1

theorem byteLines_finish {ls : List Line} (hne : ls ≠ []) (hclean : ∀ l ∈ ls, Clean l) :
    byteLines (CanonicalLineWriter.finish ls) = ls.map lineBytes := by
  rw [finish_eq_joinByteLines hne, byteLines_join]
  intro b hb
  obtain ⟨l, hl, rfl⟩ := List.mem_map.mp hb
  exact lineBytes_newline (hclean l hl)

theorem join_byteLines_finish {ls : List Line} (hne : ls ≠ []) (hclean : ∀ l ∈ ls, Clean l) :
    joinByteLines (byteLines (CanonicalLineWriter.finish ls)) = CanonicalLineWriter.finish ls := by
  rw [byteLines_finish hne hclean, finish_eq_joinByteLines hne]

/-- What may be added to a file: a line that is not empty, whatever its bytes. -/
def NewLine (l : Bytes) : Prop := l ≠ [] ∧ 10 ∉ l

section Tampering
variable {ε α : Type} {bad : ε → Prop} {wrap : CanonicalError → ε} {label : String}
  {fields : Reader Line ε α} {S : Set String} {ls : List Line}

theorem readAll_refused (hwrap : ∀ e, bad (wrap e)) (hclean : ∀ l ∈ ls, Clean l)
    (h : Refuses bad fields ls) :
    ∃ e, readAll (joinByteLines (ls.map lineBytes)) label wrap fields = .error e ∧ bad e := by
  cases ls with
  | nil => exact ⟨_, rfl, hwrap _⟩
  | cons l ls =>
    have hne := List.cons_ne_nil l ls
    rw [← finish_eq_joinByteLines hne, readAll, reader_new_finish hne hclean]
    rcases h with ⟨e, he, hbad⟩ | ⟨a, s, hrun, hrest⟩
    · refine ⟨e, ?_, hbad⟩
      change (fields.run (Cursor.start (l :: ls)) >>= _) = _
      rw [he]
      rfl
    · have hfinish : ∃ e, CanonicalLineReader.finish s label = .error e := by
        cases hf : CanonicalLineReader.finish s label with
        | error e => exact ⟨e, rfl⟩
        | ok u => exact absurd (finish_eq_ok.mp hf) hrest
      obtain ⟨e, he⟩ := hfinish
      refine ⟨wrap e, ?_, hwrap e⟩
      change (fields.run (Cursor.start (l :: ls)) >>= _) = _
      rw [hrun, ok_bind, he]
      rfl

/- The added line may be any bytes: the line layer refuses it, or the reader leaves it. -/
theorem readAll_appended (hwrap : ∀ e, bad (wrap e)) (hne : ls ≠ [])
    (hclean : ∀ l ∈ ls, Clean l) {a : α} (hr : fields.Reads ls a) {t : Bytes} (ht : NewLine t) :
    ∃ e, readAll (joinByteLines (ls.map lineBytes ++ [t])) label wrap fields = .error e ∧
      bad e := by
  cases hnew : CanonicalLineReader.new (joinByteLines (ls.map lineBytes ++ [t])) label with
  | error e =>
    refine ⟨wrap e, ?_, hwrap e⟩
    rw [readAll, hnew]
    rfl
  | ok reader =>
    obtain ⟨ms, hms, hmsClean, rfl, hbytes⟩ := reader_new_sound hnew
    have hlines : ms.map lineBytes = ls.map lineBytes ++ [t] := by
      have h := congrArg byteLines hbytes
      rw [byteLines_finish hms hmsClean, byteLines_join] at h
      · exact h.symm
      · intro b hb
        rcases List.mem_append.mp hb with hb | hb
        · obtain ⟨l, hl, rfl⟩ := List.mem_map.mp hb
          exact lineBytes_newline (hclean l hl)
        · rw [List.mem_singleton.mp hb]
          exact ht.2
    obtain ⟨l1, l2, rfl, h1, h2⟩ := List.map_eq_append_iff.mp hlines
    obtain ⟨x, rfl, -⟩ := List.map_eq_singleton_iff.mp h2
    have hl1 : l1 ≠ [] := by
      rintro rfl
      exact hne (List.map_eq_nil_iff.mp h1.symm)
    have hsame : l1 = ls := by
      refine finish_injective hl1 hne (fun l hl => hmsClean l (List.mem_append_left _ hl)) hclean ?_
      rw [finish_eq_joinByteLines hl1, finish_eq_joinByteLines hne, h1]
    rw [← hlines]
    refine readAll_refused hwrap hmsClean ?_
    rw [hsame]
    exact refuses_of_longer hr []

/- A file that is read is not read after one change to its lines. -/
theorem readAll_tampered (hkeyed : Keyed (fun l : Line => l.1) S fields)
    (hstrict : Strict (fun l : Line => l.1) bad fields) (hwrap : ∀ e, bad (wrap e))
    {bytes : Bytes} {a : α} (h : readAll bytes label wrap fields = .ok a) :
    joinByteLines (byteLines bytes) = bytes ∧
      ∀ changed, Tampered NewLine (byteLines bytes) changed →
        ∃ e, readAll (joinByteLines changed) label wrap fields = .error e ∧ bad e := by
  obtain ⟨ls, hne, hclean, rfl, hreads⟩ := readAll_eq_ok.mp h
  refine ⟨join_byteLines_finish hne hclean, fun changed ht => ?_⟩
  rw [byteLines_finish hne hclean] at ht
  rcases tampered_map ht with ⟨ls', rfl, ht'⟩ | ⟨t, hnew, rfl⟩
  · exact readAll_refused hwrap (fun l hl => hclean l (tampered_subset ht' l hl))
      (refuses_tampered hkeyed hstrict hreads ht')
  · exact readAll_appended hwrap hne hclean hreads hnew

end Tampering

/-! ### What a line says -/

/-- A line with this key has a value that is read as `a`. -/
def LineSays {ε α : Type} (ls : List Line) (key : String) (parse : String → Except ε α) (a : α) :
    Prop := ∃ v, (key, v) ∈ ls ∧ parse v = .ok a

theorem lineSays_mono {ε α : Type} {ls ms : List Line} {key : String}
    {parse : String → Except ε α} {a : α} (h : LineSays ls key parse a)
    (hsub : ∀ l ∈ ls, l ∈ ms) : LineSays ms key parse a := by
  obtain ⟨v, hmem, hv⟩ := h
  exact ⟨v, hsub _ hmem, hv⟩

/- Where no key occurs twice, a line says one thing. -/
theorem lineSays_iff {ε α : Type} {ls : List Line} {key : String} {parse : String → Except ε α}
    {a b : α} (hnodup : (ls.map Prod.fst).Nodup) (h : LineSays ls key parse a) :
    LineSays ls key parse b ↔ a = b := by
  constructor
  · obtain ⟨v, hmem, hv⟩ := h
    rintro ⟨w, hmem', hw⟩
    have hline := List.inj_on_of_nodup_map hnodup hmem hmem' rfl
    rw [(Prod.mk.inj hline).2, hw] at hv
    exact (Except.ok.inj hv).symm
  · rintro rfl
    exact h

end XenorEngine.Rust
