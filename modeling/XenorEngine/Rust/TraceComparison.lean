import XenorEngine.Rust.Replay

/-!
# replay: where two traces part

A comparison that fails points at the end of the longest common prefix, and its
kind names the first field, in the order of the checks, in which the two records
there disagree. Without such a pair one trace is a proper prefix of the other.
-/

namespace XenorEngine.Rust
open XenorEngine.Lib.Fallible

/-! ### Common prefixes -/

section prefixes
variable {α : Type}

def LongestCommonPrefix (p xs ys : List α) : Prop :=
  p <+: xs ∧ p <+: ys ∧ ∀ q, q <+: xs → q <+: ys → q.length ≤ p.length

def ProperPrefix (xs ys : List α) : Prop := xs <+: ys ∧ xs ≠ ys

theorem longest_of_heads {p xs ys : List α} (h : xs.head? ≠ ys.head?) :
    LongestCommonPrefix p (p ++ xs) (p ++ ys) := by
  refine ⟨List.prefix_append p xs, List.prefix_append p ys, ?_⟩
  rintro q ⟨restx, hx⟩ ⟨resty, hy⟩
  by_contra hlong
  have hat : ∀ rest zs : List α, q ++ rest = p ++ zs → zs.head? = q[p.length]? := by
    intro rest zs heq
    have hget := congrArg (·[p.length]?) heq
    simp only [List.getElem?_append_left (by omega : p.length < q.length),
      List.getElem?_append_right (Nat.le_refl _), Nat.sub_self] at hget
    rw [hget, List.head?_eq_getElem?]
  exact h ((hat restx xs hx).trans (hat resty ys hy).symm)

theorem properPrefix_append {p xs ys : List α} :
    ProperPrefix (p ++ xs) (p ++ ys) ↔ ProperPrefix xs ys := by
  unfold ProperPrefix
  rw [List.prefix_append_right_inj, ne_eq, List.append_cancel_left_eq]

theorem properPrefix_nil {xs : List α} : ProperPrefix [] xs ↔ xs ≠ [] := by
  simp [ProperPrefix, eq_comm]

theorem not_properPrefix_of_heads {x y : α} {xs ys : List α} (h : x ≠ y) :
    ¬ ProperPrefix (x :: xs) (y :: ys) := by
  rintro ⟨hproper, _⟩
  exact h (List.cons_prefix_cons.mp hproper).1

end prefixes

/-! ### The fields of a record -/

/-- In the order of the checks. -/
inductive RecordField
  | tick | input | tickSeed | phaseMarkers | validationSummaries | checksum
  | snapshotPresence | snapshotReason | snapshotMetadata | snapshotPayload
  deriving DecidableEq, Repr

def RecordField.inOrder : List RecordField :=
  [.tick, .input, .tickSeed, .phaseMarkers, .validationSummaries, .checksum,
    .snapshotPresence, .snapshotReason, .snapshotMetadata, .snapshotPayload]

def ReplayMismatchKind.field {C Snapshot : Type} :
    ReplayMismatchKind C Snapshot → Option RecordField
  | .tickCount _ _ => none
  | .tick _ _ => some .tick
  | .input _ _ => some .input
  | .tickSeed _ _ => some .tickSeed
  | .phaseMarkers _ _ => some .phaseMarkers
  | .validationSummaries _ _ => some .validationSummaries
  | .checksum _ _ => some .checksum
  | .snapshotPresence _ _ => some .snapshotPresence
  | .snapshotReason _ _ => some .snapshotReason
  | .snapshotMetadata _ _ => some .snapshotMetadata
  | .snapshotPayloadDigest _ _ => some .snapshotPayload
  | .snapshotPayload _ _ => some .snapshotPayload

section Compare
variable {C Snapshot ε : Type} [DecidableEq C] [DecidableEq Snapshot]

/-- A snapshot that is missing on one side has neither reason nor metadata nor payload there. -/
def RecordField.differs (e a : ReplayTickRecord C Snapshot) : RecordField → Bool
  | .tick => e.tick ≠ a.tick
  | .input => e.input ≠ a.input
  | .tickSeed => e.tickSeed ≠ a.tickSeed
  | .phaseMarkers => e.phaseMarkers ≠ a.phaseMarkers
  | .validationSummaries => e.validationSummaries ≠ a.validationSummaries
  | .checksum => e.checksum ≠ a.checksum
  | .snapshotPresence => e.snapshot.isSome ≠ a.snapshot.isSome
  | .snapshotReason => e.snapshot.map (·.reason) ≠ a.snapshot.map (·.reason)
  | .snapshotMetadata => e.snapshot.map (·.metadata) ≠ a.snapshot.map (·.metadata)
  | .snapshotPayload => e.snapshot.map (·.payload) ≠ a.snapshot.map (·.payload)

def firstDifference (e a : ReplayTickRecord C Snapshot) : Option RecordField :=
  RecordField.inOrder.find? (RecordField.differs e a)

/-- Every error of `checks` stands at `index` and names what the search finds. -/
def Reports (index : ℕ) (found : Option RecordField)
    (checks : Except (ReplayDivergence C Snapshot) Unit) : Prop :=
  ∀ d, checks = .error d → d.recordIndex = index ∧ d.kind.field = found

omit [DecidableEq C] [DecidableEq Snapshot] in
theorem reports_last {differs : RecordField → Bool} {p : Prop} [Decidable p] {f : RecordField}
    {index : ℕ} {tick : Option Tick} {kind : ReplayMismatchKind C Snapshot}
    (hp : differs f = decide p) (hkind : kind.field = some f) :
    Reports index ([f].find? differs) (rejectIf p ⟨index, tick, kind⟩) := by
  intro d hd
  obtain ⟨hfails, rfl⟩ := rejectIf_eq_error.mp hd
  exact ⟨rfl, by rw [hkind, List.find?_cons_of_pos (by rw [hp, decide_eq_true hfails])]⟩

omit [DecidableEq C] [DecidableEq Snapshot] in
theorem reports_cons {differs : RecordField → Bool} {p : Prop} [Decidable p] {f : RecordField}
    {fs : List RecordField} {index : ℕ} {tick : Option Tick}
    {kind : ReplayMismatchKind C Snapshot} {rest : Except (ReplayDivergence C Snapshot) Unit}
    (hp : differs f = decide p) (hkind : kind.field = some f)
    (hrest : ¬ p → Reports index (fs.find? differs) rest) :
    Reports index ((f :: fs).find? differs)
      (rejectIf p ⟨index, tick, kind⟩ >>= fun _ => rest) := by
  intro d hd
  rcases bind_eq_error.mp hd with hfirst | ⟨_, hpasses, hlater⟩
  · obtain ⟨hfails, rfl⟩ := rejectIf_eq_error.mp hfirst
    exact ⟨rfl, by rw [hkind, List.find?_cons_of_pos (by rw [hp, decide_eq_true hfails])]⟩
  · have hpasses := rejectIf_eq_ok.mp hpasses
    rw [List.find?_cons_of_neg (by rw [hp, decide_eq_true_iff]; exact hpasses)]
    exact hrest hpasses d hlater

theorem compareSnapshots_reports {digest : Snapshot → Except ε UInt64} {index : ℕ}
    {tick : Option Tick} {e a : ReplayTickRecord C Snapshot}
    {expected actual : SnapshotRecord Snapshot} (he : e.snapshot = some expected)
    (ha : a.snapshot = some actual) :
    Reports index
      ([RecordField.snapshotReason, .snapshotMetadata, .snapshotPayload].find?
        (RecordField.differs e a))
      (compareSnapshots digest index tick expected actual :
        Except (ReplayDivergence C Snapshot) Unit) := by
  apply reports_cons (by simp [RecordField.differs, he, ha]) rfl
  intro _
  apply reports_cons (by simp [RecordField.differs, he, ha]) rfl
  intro _
  apply reports_last (by simp [RecordField.differs, he, ha])
  -- the digests are asked for only after the payloads differ
  split <;> rfl

theorem compareRecord_reports {digest : Snapshot → Except ε UInt64} {index : ℕ}
    {e a : ReplayTickRecord C Snapshot} :
    Reports index (firstDifference e a) (compareRecord digest index e a) := by
  apply reports_cons rfl rfl
  intro _
  apply reports_cons rfl rfl
  intro _
  apply reports_cons rfl rfl
  intro _
  apply reports_cons rfl rfl
  intro _
  apply reports_cons rfl rfl
  intro _
  apply reports_cons rfl rfl
  intro _
  apply reports_cons rfl rfl
  intro _
  cases he : e.snapshot with
  | none =>
    intro d hd
    cases hd
  | some expected =>
    cases ha : a.snapshot with
    | none =>
      intro d hd
      cases hd
    | some actual => exact compareSnapshots_reports he ha

theorem firstDifference_eq_none {e a : ReplayTickRecord C Snapshot} :
    firstDifference e a = none ↔ e = a := by
  constructor
  · intro h
    have hsame := List.find?_eq_none.mp h
    simp only [RecordField.inOrder, List.forall_mem_cons, RecordField.differs, ne_eq,
      decide_eq_true_eq, not_not] at hsame
    obtain ⟨htick, hinput, hseed, hmarkers, hsummaries, hchecksum, -, hreason, hmetadata,
      hpayload, -⟩ := hsame
    cases e with
    | mk _ _ _ _ _ _ expected =>
      cases a with
      | mk _ _ _ _ _ _ actual =>
        have hsnapshot : expected = actual := by
          cases expected with
          | none => exact (Option.map_eq_none_iff.mp hreason.symm).symm
          | some s =>
            cases actual with
            | none => cases hreason
            | some t =>
              cases s
              cases t
              simp_all
        simp_all
  · rintro rfl
    apply List.find?_eq_none.mpr
    intro f _
    cases f <;> simp [RecordField.differs]

/- The induction is on the records that agree; they are the prefix that `shared` collects. -/
theorem compareFrom_error {digest : Snapshot → Except ε UInt64} {index : ℕ}
    {expected actual : List (ReplayTickRecord C Snapshot)} {d : ReplayDivergence C Snapshot}
    (h : compareFrom digest index expected actual = .error d) :
    ∃ shared es as, expected = shared ++ es ∧ actual = shared ++ as ∧
      d.recordIndex = index + shared.length ∧
      ((∃ e es' a as', es = e :: es' ∧ as = a :: as' ∧ e ≠ a ∧
          d.kind.field = firstDifference e a) ∨
        (es = [] ∧ as ≠ [] ∨ es ≠ [] ∧ as = []) ∧
          d.kind = .tickCount (index + expected.length) (index + actual.length)) := by
  induction expected generalizing index actual with
  | nil =>
    cases actual with
    | nil => cases h
    | cons a as =>
      cases h
      exact ⟨[], [], a :: as, rfl, rfl, rfl, .inr ⟨.inl ⟨rfl, by simp⟩, rfl⟩⟩
  | cons e es ih =>
    cases actual with
    | nil =>
      cases h
      exact ⟨[], e :: es, [], rfl, rfl, rfl, .inr ⟨.inr ⟨by simp, rfl⟩, rfl⟩⟩
    | cons a as =>
      rcases bind_eq_error.mp h with hrecord | ⟨_, hrecord, hrest⟩
      · obtain ⟨hindex, hfield⟩ := compareRecord_reports d hrecord
        have hne : e ≠ a := by
          intro heq
          rw [(compareRecord_eq_ok (u := ())).mpr heq] at hrecord
          cases hrecord
        exact ⟨[], e :: es, a :: as, rfl, rfl, hindex, .inl ⟨e, es, a, as, rfl, rfl, hne, hfield⟩⟩
      · obtain rfl := compareRecord_eq_ok.mp hrecord
        obtain ⟨shared, es', as', hes, has, hindex, hkind⟩ := ih hrest
        refine ⟨e :: shared, es', as', congrArg _ hes, congrArg _ has, ?_, ?_⟩
        · rw [hindex, List.length_cons]
          omega
        · simp only [List.length_cons]
          rwa [Nat.add_assoc, Nat.add_assoc, Nat.add_comm 1, Nat.add_comm 1] at hkind

/- Equal traces and no others pass; a failure stands where the common prefix ends. -/
theorem trace_comparison_exact (expected actual : List (ReplayTickRecord C Snapshot))
    (digest : Snapshot → Except ε UInt64) :
    (compareReplayTracesWithSnapshotDigest expected actual digest = .ok () ↔ expected = actual) ∧
    ∀ d, compareReplayTracesWithSnapshotDigest expected actual digest = .error d →
      (∃ shared, LongestCommonPrefix shared expected actual ∧
        d.recordIndex = shared.length) ∧
      (ProperPrefix expected actual ∨ ProperPrefix actual expected →
        d.kind = .tickCount expected.length actual.length) ∧
      (¬ (ProperPrefix expected actual ∨ ProperPrefix actual expected) →
        ∃ e a f, expected[d.recordIndex]? = some e ∧ actual[d.recordIndex]? = some a ∧
          firstDifference e a = some f ∧ d.kind.field = some f) := by
  refine ⟨compare_traces_eq_ok, ?_⟩
  intro d h
  obtain ⟨shared, es, as, rfl, rfl, hindex, hkind⟩ := compareFrom_error h
  rw [Nat.zero_add] at hindex
  simp only [properPrefix_append]
  rcases hkind with ⟨e, es, a, as, rfl, rfl, hne, hfield⟩ | ⟨hends, hkind⟩
  · refine ⟨⟨shared, longest_of_heads ?_, hindex⟩, ?_, ?_⟩
    · simpa only [List.head?_cons, ne_eq, Option.some.injEq] using hne
    · rintro (hproper | hproper)
      · exact absurd hproper (not_properPrefix_of_heads hne)
      · exact absurd hproper (not_properPrefix_of_heads hne.symm)
    · intro _
      obtain ⟨f, hf⟩ := Option.ne_none_iff_exists'.mp (mt firstDifference_eq_none.mp hne)
      refine ⟨e, a, f, ?_, ?_, hf, hfield.trans hf⟩
      · rw [hindex, List.getElem?_append_right (Nat.le_refl _), Nat.sub_self,
          List.getElem?_cons_zero]
      · rw [hindex, List.getElem?_append_right (Nat.le_refl _), Nat.sub_self,
          List.getElem?_cons_zero]
  · rw [Nat.zero_add, Nat.zero_add] at hkind
    have hproper : ProperPrefix es as ∨ ProperPrefix as es := by
      rcases hends with ⟨rfl, has⟩ | ⟨hes, rfl⟩
      · exact .inl (properPrefix_nil.mpr has)
      · exact .inr (properPrefix_nil.mpr hes)
    refine ⟨⟨shared, longest_of_heads ?_, hindex⟩, fun _ => hkind, ?_⟩
    · rcases hends with ⟨rfl, has⟩ | ⟨hes, rfl⟩
      · rwa [List.head?_nil, ne_eq, eq_comm, List.head?_eq_none_iff]
      · rwa [List.head?_nil, ne_eq, List.head?_eq_none_iff]
    · intro hnone
      exact absurd hproper hnone

end Compare
end XenorEngine.Rust
