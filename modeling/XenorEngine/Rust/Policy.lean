import XenorEngine.Rust.Core
import XenorEngine.Rust.Scalar

/-!
# Policies and checkpoints (engine/mod.rs, validation/mod.rs)
-/

namespace XenorEngine.Rust
open XenorEngine.Lib.LineText

/-- `str::strip_prefix`. -/
def stripPrefix (pre value : String) : Option String :=
  (pre.toList.isPrefixOf? value.toList).map String.ofList

inductive SnapshotCaptureReason
  | policyInterval (interval : Tick)
  | manual
  deriving DecidableEq, Repr

inductive SnapshotPolicy
  | never
  | every (interval : Tick)
  | manual
  deriving DecidableEq, Repr

namespace SnapshotPolicy

def canonicalString : SnapshotPolicy → String
  | .never => "never"
  | .every interval => "every:" ++ toString interval
  | .manual => "manual"

def parse (value : String) : Option SnapshotPolicy :=
  if value = "never" then some .never
  else if value = "manual" then some .manual
  else (stripPrefix "every:" value).bind fun interval =>
    match fromStrU64 interval with
    | .ok interval => some (.every interval)
    | .error _ => none

def shouldCapture (policy : SnapshotPolicy) (tick : Tick) : Option SnapshotCaptureReason :=
  match policy with
  | .never => none
  | .manual => none
  | .every interval =>
    if interval ≠ 0 ∧ tick % interval = 0 then some (.policyInterval interval) else none

end SnapshotPolicy

inductive ValidationCheckpoint
  | beforeTickBegin
  | afterInputApplied
  | afterSimulationGroup
  | afterFinalize
  deriving DecidableEq, Repr

namespace ValidationCheckpoint

def asStr : ValidationCheckpoint → String
  | .beforeTickBegin => "before_tick_begin"
  | .afterInputApplied => "after_input_applied"
  | .afterSimulationGroup => "after_simulation_group"
  | .afterFinalize => "after_finalize"

def parse (value : String) : Option ValidationCheckpoint :=
  if value = "before_tick_begin" then some .beforeTickBegin
  else if value = "after_input_applied" then some .afterInputApplied
  else if value = "after_simulation_group" then some .afterSimulationGroup
  else if value = "after_finalize" then some .afterFinalize
  else none

end ValidationCheckpoint

inductive ValidationPolicy
  | tickBoundary
  | everyPhase
  deriving DecidableEq, Repr

namespace ValidationPolicy

def asStr : ValidationPolicy → String
  | .tickBoundary => "tick_boundary"
  | .everyPhase => "every_phase"

def parse (value : String) : Option ValidationPolicy :=
  if value = "tick_boundary" then some .tickBoundary
  else if value = "every_phase" then some .everyPhase
  else none

def shouldValidate (policy : ValidationPolicy) (checkpoint : ValidationCheckpoint) : Bool :=
  match policy with
  | .tickBoundary =>
    match checkpoint with
    | .beforeTickBegin | .afterFinalize => true
    | _ => false
  | .everyPhase => true

end ValidationPolicy

structure ValidationContext where
  checkpoint : ValidationCheckpoint
  tick : Tick
  tickSeed : Seed
  deriving DecidableEq, Repr

structure ValidationSummary where
  checkpoint : ValidationCheckpoint
  stateTick : Tick
  stateDigest : UInt64
  deriving DecidableEq, Repr

/-! ### Spellings -/

theorem stripPrefix_append (pre value : String) : stripPrefix pre (pre ++ value) = some value := by
  have h : ∀ a b : List Char, a.isPrefixOf? (a ++ b) = some b := by
    intro a b
    induction a with
    | nil => rfl
    | cons c cs ih => simp [List.isPrefixOf?, ih]
  rw [stripPrefix, String.toList_append, h, Option.map_some, String.ofList_toList]

theorem stripPrefix_some {pre value rest : String} (h : stripPrefix pre value = some rest) :
    value = pre ++ rest := by
  have hl : ∀ (a b c : List Char), a.isPrefixOf? b = some c → b = a ++ c := by
    intro a
    induction a with
    | nil =>
      intro b c hb
      exact Option.some.inj hb
    | cons x xs ih =>
      intro b c hb
      cases b with
      | nil => cases hb
      | cons y ys =>
        simp only [List.isPrefixOf?] at hb
        split at hb
        · rename_i hxy
          rw [eq_of_beq hxy, ih ys c hb]
          rfl
        · cases hb
  obtain ⟨cs, hcs, rfl⟩ := Option.map_eq_some_iff.mp h
  apply String.toList_inj.mp
  rw [String.toList_append, String.toList_ofList]
  exact hl _ _ _ hcs

@[simp] theorem parse_canonicalString (policy : SnapshotPolicy) :
    SnapshotPolicy.parse policy.canonicalString = some policy := by
  cases policy with
  | never => rfl
  | manual => rfl
  | every interval =>
    have htext : (SnapshotPolicy.every interval).canonicalString = "every:" ++ toString interval :=
      rfl
    have hhead : ∀ s : String, s.toList.head? ≠ some 'e' →
        (SnapshotPolicy.every interval).canonicalString ≠ s := by
      rintro _ hs rfl
      exact hs (by rw [htext, String.toList_append]; rfl)
    rw [SnapshotPolicy.parse, if_neg (hhead "never" (by decide)),
      if_neg (hhead "manual" (by decide)), htext, stripPrefix_append, Option.bind_some,
      fromStrU64_toString]

theorem parse_some {value : String} {policy : SnapshotPolicy}
    (h : SnapshotPolicy.parse value = some policy) :
    value = policy.canonicalString ∨
      ∃ text interval, policy = .every interval ∧ value = "every:" ++ text ∧
        fromStrU64 text = .ok interval := by
  unfold SnapshotPolicy.parse at h
  split at h
  · rename_i hv
    cases h
    exact Or.inl hv
  · split at h
    · rename_i hv
      cases h
      exact Or.inl hv
    · obtain ⟨text, htext, h⟩ := Option.bind_eq_some_iff.mp h
      cases hn : fromStrU64 text with
      | error e => simp [hn] at h
      | ok interval =>
        simp only [hn, Option.some.injEq] at h
        exact Or.inr ⟨text, interval, h.symm, stripPrefix_some htext, hn⟩

@[simp] theorem parse_checkpoint (checkpoint : ValidationCheckpoint) :
    ValidationCheckpoint.parse checkpoint.asStr = some checkpoint := by
  cases checkpoint <;> rfl

theorem checkpoint_of_parse {value : String} {checkpoint : ValidationCheckpoint}
    (h : ValidationCheckpoint.parse value = some checkpoint) : value = checkpoint.asStr := by
  unfold ValidationCheckpoint.parse at h
  split_ifs at h with h1 h2 h3 h4 <;> cases h <;> assumption

@[simp] theorem parse_validationPolicy (policy : ValidationPolicy) :
    ValidationPolicy.parse policy.asStr = some policy := by
  cases policy <;> rfl

theorem validationPolicy_of_parse {value : String} {policy : ValidationPolicy}
    (h : ValidationPolicy.parse value = some policy) : value = policy.asStr := by
  unfold ValidationPolicy.parse at h
  split_ifs at h with h1 h2 <;> cases h <;> assumption

end XenorEngine.Rust
