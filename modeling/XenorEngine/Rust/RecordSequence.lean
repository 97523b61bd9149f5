import XenorEngine.Rust.EngineTrace

/-!
# persistence: which traces the sequence check accepts

The scan carries the expected tick along. Read at an index, it accepts a list of
records exactly when every record is the one that may stand there.
-/

namespace XenorEngine.Rust
open XenorEngine.Lib.Fallible

section Sequence
variable {C Snapshot : Type} (baseSeed : Seed) (policy : SnapshotPolicy) (version : UInt32)

/-- The record at index `i` of a trace: its tick is `i + 1`, its state before the tick is at `i`. -/
structure WellFormedAt (i : ℕ) (record : ReplayTickRecord C Snapshot) : Prop where
  tick : record.tick.toNat = i + 1
  inputTick : record.input.tick.toNat = i + 1
  seed : record.tickSeed = tickSeed baseSeed (UInt64.ofNat (i + 1))
  ordered : (record.validationSummaries.map (checkpointOrder ·.checkpoint)).Pairwise (· < ·)
  stateTick : ∀ summary ∈ record.validationSummaries, summary.stateTick.toNat = i
  present : record.snapshot.isSome = (policy.shouldCapture (UInt64.ofNat (i + 1))).isSome
  reason : ∀ snapshot ∈ record.snapshot,
    policy.shouldCapture (UInt64.ofNat (i + 1)) = some snapshot.reason
  schemaVersion : ∀ snapshot ∈ record.snapshot, snapshot.metadata.payloadSchemaVersion = version
  sourceTick : ∀ snapshot ∈ record.snapshot, snapshot.metadata.sourceTick.toNat = i + 1
  captureChecksum : ∀ snapshot ∈ record.snapshot,
    snapshot.metadata.captureChecksum = record.checksum

variable {baseSeed policy version}

theorem toNat_eq_iff {tick : Tick} {n : ℕ} (hn : n < 2 ^ 64) :
    tick.toNat = n ↔ tick = UInt64.ofNat n := by
  rw [← UInt64.toNat_inj, UInt64.toNat_ofNat_of_lt' hn]

theorem wellFormedAt_iff {i : ℕ} (hi : i + 1 < 2 ^ 64) {record : ReplayTickRecord C Snapshot} :
    WellFormedAt baseSeed policy version i record ↔
      LegalRecord baseSeed policy version (UInt64.ofNat (i + 1)) record := by
  have hprev : i < 2 ^ 64 := by omega
  have hbefore : saturatingSubU64 (UInt64.ofNat (i + 1)) 1 = UInt64.ofNat i := by
    rw [UInt64.ofNat_add]
    apply saturating_pred
    rwa [UInt64.toNat_ofNat_of_lt' hprev]
  constructor
  · intro h
    refine ⟨(toNat_eq_iff hi).mp h.tick, (toNat_eq_iff hi).mp h.inputTick, h.seed, h.ordered, ?_,
      ?_, ?_⟩
    · intro summary hmem
      rw [hbefore]
      exact (toNat_eq_iff hprev).mp (h.stateTick summary hmem)
    · cases hsnapshot : record.snapshot with
      | none =>
        have hnone := h.present
        rw [hsnapshot, Option.isSome_none, eq_comm, Option.isSome_eq_false_iff,
          Option.isNone_iff_eq_none] at hnone
        rw [hnone, Option.map_none]
      | some snapshot => exact (h.reason snapshot hsnapshot).symm
    · intro snapshot hmem
      obtain ⟨⟨payloadVersion, sourceTick, checksum⟩, reason, payload⟩ := snapshot
      have hversion := h.schemaVersion _ hmem
      have hsource := (toNat_eq_iff hi).mp (h.sourceTick _ hmem)
      have hchecksum := h.captureChecksum _ hmem
      rw [SnapshotMetadata.mk.injEq]
      exact ⟨hversion, hsource, hchecksum⟩
  · intro h
    refine ⟨(toNat_eq_iff hi).mpr h.tick_eq, (toNat_eq_iff hi).mpr h.input_tick, h.seed, h.ordered,
      ?_, ?_, ?_, ?_, ?_, ?_⟩
    · intro summary hmem
      rw [toNat_eq_iff hprev, ← hbefore]
      exact h.stateTick summary hmem
    · rw [← h.reason, Option.isSome_map]
    · intro snapshot hmem
      rw [← h.reason, hmem, Option.map_some]
    · intro snapshot hmem
      rw [h.metadata snapshot hmem]
    · intro snapshot hmem
      rw [h.metadata snapshot hmem, toNat_eq_iff hi]
    · intro snapshot hmem
      rw [h.metadata snapshot hmem]

theorem record_sequence_exact {records : List (ReplayTickRecord C Snapshot)}
    (hlength : records.length ≤ USIZE_MAX) :
    validateRecordSequence baseSeed policy version records = .ok () ↔
      ∀ i record, records[i]? = some record →
        WellFormedAt baseSeed policy version i record := by
  rw [validateRecordSequence_eq_ok, legalFrom_iff]
  unfold USIZE_MAX at hlength
  have hplace : ∀ i record, records[i]? = some record →
      i + 1 < 2 ^ 64 ∧ (1 : Tick) + UInt64.ofNat i = UInt64.ofNat (i + 1) := by
    intro i record hi
    have hbound := (List.getElem?_eq_some_iff.mp hi).1
    refine ⟨by omega, ?_⟩
    rw [UInt64.ofNat_add, UInt64.add_comm]
    rfl
  constructor
  · intro h i record hi
    obtain ⟨hbound, htick⟩ := hplace i record hi
    rw [wellFormedAt_iff hbound, ← htick]
    exact h i record hi
  · intro h i record hi
    obtain ⟨hbound, htick⟩ := hplace i record hi
    rw [htick, ← wellFormedAt_iff hbound]
    exact h i record hi

end Sequence

/-- Two ticks, the second with the snapshot its policy asks for. -/
def capturedRecords : List (ReplayTickRecord Unit Unit) :=
  [⟨1, ⟨1, ()⟩, tickSeed 7 1, [], [⟨.beforeTickBegin, 0, 8⟩, ⟨.afterFinalize, 0, 9⟩], 4, none⟩,
    ⟨2, ⟨2, ()⟩, tickSeed 7 2, [], [⟨.afterInputApplied, 1, 8⟩], 5,
      some ⟨⟨3, 2, 5⟩, .policyInterval 2, ()⟩⟩]

theorem record_sequence_exact_captured :
    capturedRecords.length ≤ USIZE_MAX ∧
      validateRecordSequence 7 (.every 2) 3 capturedRecords = .ok () ∧
      ∀ i record, capturedRecords[i]? = some record → WellFormedAt 7 (.every 2) 3 i record := by
  have hlength : capturedRecords.length ≤ USIZE_MAX := by decide
  have haccepted : validateRecordSequence 7 (.every 2) 3 capturedRecords = .ok () := by
    decide +kernel
  exact ⟨hlength, haccepted, (record_sequence_exact hlength).mp haccepted⟩

end XenorEngine.Rust
