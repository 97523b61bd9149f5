import XenorEngine.Rust.Persistence

/-!
# What an engine records

The tick loop and the validators of persistence describe a legal trace
independently of each other. For a `Traceable` engine they agree: every run
records a legal trace, whose artifact can be written, verified and resumed.
-/

namespace XenorEngine.Rust
open XenorEngine.Lib.ByteText XenorEngine.Lib.Fallible XenorEngine.Lib.Runs
open Debug (debug)

/-! ### Artifacts that can be written -/

section Artifact
variable {C Snapshot : Type} {s : ReplayArtifactSerializer C Snapshot}

theorem lastSnapshot_append (xs : List (ReplayTickRecord C Snapshot))
    (x : ReplayTickRecord C Snapshot) (ys : List (ReplayTickRecord C Snapshot)) :
    lastSnapshot (xs ++ x :: ys) = (lastSnapshot ys).or (x.snapshot.or (lastSnapshot xs)) := by
  simp only [lastSnapshot, List.reverse_append, List.reverse_cons, List.findSome?_append,
    List.findSome?_cons, List.findSome?_nil]
  cases ys.reverse.findSome? (·.snapshot) <;> cases x.snapshot <;> rfl

theorem lastTick_append (xs : List (ReplayTickRecord C Snapshot))
    (x : ReplayTickRecord C Snapshot) (ys : List (ReplayTickRecord C Snapshot)) :
    lastTick (xs ++ x :: ys) = (ys.getLast?.map (·.tick)).getD x.tick := by
  rw [lastTick, List.getLast?_append, List.getLast?_cons]
  cases ys.getLast? <;> rfl

theorem lastChecksum_append (xs : List (ReplayTickRecord C Snapshot))
    (x : ReplayTickRecord C Snapshot) (ys : List (ReplayTickRecord C Snapshot)) :
    lastChecksum (xs ++ x :: ys) = (ys.getLast?.map (·.checksum)).getD x.checksum := by
  rw [lastChecksum, List.getLast?_append, List.getLast?_cons]
  cases ys.getLast? <;> rfl

theorem lastSnapshot_some {records : List (ReplayTickRecord C Snapshot)}
    {snapshot : SnapshotRecord Snapshot} (h : lastSnapshot records = some snapshot) :
    ∃ record ∈ records, record.snapshot = some snapshot := by
  obtain ⟨record, hr, hs⟩ := List.exists_of_findSome?_eq_some h
  exact ⟨record, List.mem_reverse.mp hr, hs⟩

/- The last record that captured one, none of the records after it did. -/
theorem lastSnapshot_split {records : List (ReplayTickRecord C Snapshot)}
    {snapshot : SnapshotRecord Snapshot} (h : lastSnapshot records = some snapshot) :
    ∃ before record after, records = before ++ record :: after ∧
      record.snapshot = some snapshot ∧ ∀ r ∈ after, r.snapshot = none := by
  obtain ⟨later, record, earlier, hsplit, hs, hnone⟩ := List.findSome?_eq_some_iff.mp h
  refine ⟨earlier.reverse, record, later.reverse, ?_, hs, fun r hr => ?_⟩
  · rw [← List.reverse_reverse records, hsplit]
    simp
  · exact hnone r (List.mem_reverse.mp hr)

theorem lastSnapshot_eq_none {records : List (ReplayTickRecord C Snapshot)} :
    lastSnapshot records = none ↔ ∀ r ∈ records, r.snapshot = none := by
  simp only [lastSnapshot, List.findSome?_eq_none_iff, List.mem_reverse]

/- The scan from any tick; the induction is on the records, the tick follows them. -/
theorem legalFrom_iff {baseSeed : Seed} {policy : SnapshotPolicy} {version : UInt32} {tick : Tick}
    {records : List (ReplayTickRecord C Snapshot)} :
    LegalFrom baseSeed policy version tick records ↔
      ∀ i record, records[i]? = some record →
        LegalRecord baseSeed policy version (tick + UInt64.ofNat i) record := by
  induction records generalizing tick with
  | nil => simp [LegalFrom]
  | cons first rest ih =>
    have hnext : ∀ i, tick + 1 + UInt64.ofNat i = tick + UInt64.ofNat (i + 1) := by
      intro i
      rw [UInt64.ofNat_add, UInt64.add_assoc, UInt64.add_comm 1]
      rfl
    rw [LegalFrom, ih]
    constructor
    · rintro ⟨hfirst, hrest⟩ i record hi
      cases i with
      | zero =>
        obtain rfl : first = record := by simpa using hi
        exact (UInt64.add_zero tick).symm ▸ hfirst
      | succ i => exact hnext i ▸ hrest i record hi
    · intro h
      refine ⟨?_, fun i record hi => ?_⟩
      · have hfirst := h 0 first rfl
        rwa [show tick + UInt64.ofNat 0 = tick from UInt64.add_zero tick] at hfirst
      · rw [hnext]
        exact h (i + 1) record hi

theorem legalFrom_get {seed : Seed} {policy : SnapshotPolicy} {version : UInt32} {tick : Tick}
    {records : List (ReplayTickRecord C Snapshot)} {record : ReplayTickRecord C Snapshot} {i : ℕ}
    (h : LegalFrom seed policy version tick records) (hr : records[i]? = some record) :
    record.tick = tick + UInt64.ofNat i := (legalFrom_iff.mp h i record hr).tick_eq

theorem legalFrom_mem {seed : Seed} {policy : SnapshotPolicy} {version : UInt32} {tick : Tick}
    {records : List (ReplayTickRecord C Snapshot)} {record : ReplayTickRecord C Snapshot}
    (h : LegalFrom seed policy version tick records) (hr : record ∈ records) :
    LegalRecord seed policy version record.tick record := by
  obtain ⟨i, hi⟩ := List.mem_iff_getElem?.mp hr
  rw [legalFrom_get h hi]
  exact legalFrom_iff.mp h i record hi

namespace ReplayArtifactSerializer

theorem buildArtifact_eq_ok {seed : Seed} {policy : SnapshotPolicy} {identity : ConfigIdentity}
    {records : List (ReplayTickRecord C Snapshot)} {a : ReplayArtifact C Snapshot} :
    s.buildArtifact seed policy identity records = .ok a ↔
      LegalFrom seed policy s.snapshotSerializer.schemaVersion 1 records ∧
        a = s.artifactOf seed policy identity records := by
  simp only [buildArtifact, check_pure_eq_ok, validateRecordSequence_eq_ok]

theorem totalsMatch_artifactOf (seed : Seed) (policy : SnapshotPolicy)
    (identity : ConfigIdentity) (records : List (ReplayTickRecord C Snapshot)) :
    TotalsMatch (s.artifactOf seed policy identity records) := ⟨rfl, rfl⟩

theorem valid_artifactOf {seed : Seed} {policy : SnapshotPolicy} {identity : ConfigIdentity}
    {records : List (ReplayTickRecord C Snapshot)}
    (hlegal : LegalFrom seed policy s.snapshotSerializer.schemaVersion 1 records)
    (hw : ∀ record ∈ records, s.Writable record) :
    s.Valid (s.artifactOf seed policy identity records) :=
  ⟨⟨rfl, rfl, rfl, rfl⟩, hlegal, hw⟩

theorem exists_encode_of_valid {a : ReplayArtifact C Snapshot} (h : s.Valid a) :
    ∃ b, s.encode a = .ok b := ⟨_, encode_eq_ok'.mpr ⟨h, rfl⟩⟩

/- The snapshot of a record makes an artifact that can be written. -/
theorem snapshotArtifact_valid {a : ReplayArtifact C Snapshot} (h : s.Valid a)
    {record : ReplayTickRecord C Snapshot} (hr : record ∈ a.records)
    {snapshot : SnapshotRecord Snapshot} (hs : record.snapshot = some snapshot)
    (identity : ConfigIdentity) :
    SnapshotArtifact.Valid s.engineFamily s.snapshotSerializer SNAPSHOT_ARTIFACT_SCHEMA_VERSION
      (s.buildSnapshotArtifact a.metadata.baseSeed identity snapshot) := by
  have hmeta := (legalFrom_mem h.legal hr).metadata snapshot hs
  refine ⟨rfl, rfl, ?_, (h.writable record hr).snapshot snapshot hs⟩
  change snapshot.metadata.payloadSchemaVersion = _
  rw [hmeta]
  exact h.own.snapshot

theorem exists_snapshotDigest {a : ReplayArtifact C Snapshot} (h : s.Valid a)
    {record : ReplayTickRecord C Snapshot} (hr : record ∈ a.records)
    {snapshot : SnapshotRecord Snapshot} (hs : record.snapshot = some snapshot)
    (identity : ConfigIdentity) :
    ∃ d, s.snapshotArtifactDigest
      (s.buildSnapshotArtifact a.metadata.baseSeed identity snapshot) = .ok d := by
  have hv := snapshotArtifact_valid h hr hs identity
  have henc := SnapshotArtifact.encodeSnapshotArtifactBytes_eq_ok.mpr ⟨hv, rfl⟩
  exact ⟨_, map_eq_ok.mpr ⟨_, henc, rfl⟩⟩

theorem exists_summary {a : ReplayArtifact C Snapshot} (h : s.Valid a) :
    ∃ summary, s.summary a = .ok summary := by
  obtain ⟨b, hb⟩ := exists_encode_of_valid h
  have hsnap : ∃ d, transpose ((lastSnapshot a.records).map fun record =>
      s.snapshotArtifactDigest (s.buildSnapshotArtifact a.metadata.baseSeed
        a.metadata.configIdentity record)) = .ok d := by
    refine transpose_map_ok fun snapshot hlast => ?_
    obtain ⟨record, hr, hs⟩ := lastSnapshot_some hlast
    exact exists_snapshotDigest h hr hs a.metadata.configIdentity
  obtain ⟨d, hd⟩ := hsnap
  simp only [summary, digest, bind_eq_ok, map_eq_ok, pure_eq_ok]
  exact ⟨_, _, ⟨b, hb, rfl⟩, d, hd, rfl⟩

theorem summary_totals {a : ReplayArtifact C Snapshot} {summary : ArtifactSummary}
    (h : s.summary a = .ok summary) : summary.finalTick = a.metadata.totalTicks ∧
      summary.finalChecksum = lastChecksum a.records := by
  simp only [ReplayArtifactSerializer.summary, bind_eq_ok, pure_eq_ok] at h
  obtain ⟨_, -, _, -, rfl⟩ := h
  exact ⟨rfl, rfl⟩

/- Only what can be written has a summary. -/
theorem valid_of_summary {a : ReplayArtifact C Snapshot} {summary : ArtifactSummary}
    (h : s.summary a = .ok summary) : s.Valid a := by
  simp only [ReplayArtifactSerializer.summary, digest, bind_eq_ok, map_eq_ok] at h
  obtain ⟨-, ⟨b, hb, -⟩, -⟩ := h
  exact (encode_eq_ok'.mp hb).1

/- An artifact is determined by its seed, policy, config identity and records. -/
theorem eq_artifactOf {a : ReplayArtifact C Snapshot} (hown : s.OwnMetadata a.metadata)
    (htotals : TotalsMatch a) :
    a = s.artifactOf a.metadata.baseSeed a.metadata.snapshotPolicy a.metadata.configIdentity
      a.records := by
  obtain ⟨h1, h2, h3, h4⟩ := hown
  obtain ⟨h5, h6⟩ := htotals
  obtain ⟨⟨v, f, sd, tt, sp, ci, cv, sv, rc⟩, rs⟩ := a
  simp only at h1 h2 h3 h4 h5 h6
  subst h1 h2 h3 h4 h5 h6
  rfl

theorem executionResult_eq_ok {mode : ReplayExecutionMode} {a : ReplayArtifact C Snapshot}
    {result : ReplayExecutionResult Snapshot} :
    executionResult s mode a = .ok result ↔ s.summary a = .ok result.summary ∧
      result.mode = mode ∧ result.finalTick = a.metadata.totalTicks ∧
      result.finalChecksum = lastChecksum a.records ∧
      result.finalSnapshot = (lastSnapshot a.records).map (s.buildSnapshotArtifact
        a.metadata.baseSeed a.metadata.configIdentity) := by
  simp only [executionResult, bind_eq_ok, pure_eq_ok]
  constructor
  · rintro ⟨summary, h, rfl⟩
    exact ⟨h, rfl, rfl, rfl, rfl⟩
  · rintro ⟨h, h1, h2, h3, h4⟩
    obtain ⟨mode', tick, checksum, snapshot, summary⟩ := result
    simp only at h1 h2 h3 h4
    subst h1 h2 h3 h4
    exact ⟨summary, h, rfl⟩

theorem executionResult_mode {a : ReplayArtifact C Snapshot}
    {result : ReplayExecutionResult Snapshot} {mode : ReplayExecutionMode}
    (h : executionResult s mode a = .ok result) (mode' : ReplayExecutionMode) :
    executionResult s mode' a = .ok { result with mode := mode' } := by
  obtain ⟨h1, -, h3, h4, h5⟩ := executionResult_eq_ok.mp h
  exact executionResult_eq_ok.mpr ⟨h1, rfl, h3, h4, h5⟩

theorem exists_executionResult (mode : ReplayExecutionMode) {a : ReplayArtifact C Snapshot}
    (h : s.Valid a) : ∃ result, executionResult s mode a = .ok result := by
  obtain ⟨summary, hs⟩ := exists_summary h
  refine ⟨⟨mode, a.metadata.totalTicks, lastChecksum a.records, _, summary⟩,
    executionResult_eq_ok.mpr ⟨hs, rfl, rfl, rfl, rfl⟩⟩

end ReplayArtifactSerializer

end Artifact

/-! ### Engines whose traces are legal -/

section Engine
variable {S C P V Snapshot : Type} [SimulationState S Snapshot]
  [LawfulSimulationState S Snapshot] [StateValidator V S] [Phase P S C Snapshot]
  [PurePhase P S C Snapshot] [QuietPhase P S C Snapshot]

/-- `Inv` holds of the states the engine goes through. -/
structure Traceable (serializer : ReplayArtifactSerializer C Snapshot)
    (e : DeterministicEngine S C P V Snapshot) (Inv : S → Prop) : Prop where
  ordered : e.scheduler.Ordered
  nothingRecorded : e.replayLog = .default
  start_tick : SimulationState.tick e.state = 0
  start : Inv e.state
  aligned : ∀ (context : ValidationContext) (s : S),
    StateValidator.validate e.validator context s = .ok () →
      SimulationState.tick s = saturatingSubU64 context.tick 1
  checkpoints : ((checkpointsUpTo e.validationPolicy e.scheduler.phasePlan
    e.scheduler.phasePlan.length).map checkpointOrder).Pairwise (· < ·)
  keeps : ∀ (s s' : S) (frame : InputFrame C) (record : ReplayTickRecord C Snapshot),
    Inv s → e.tickStep s frame = .ok (s', record) → Inv s' ∧
      (∃ b, serializer.snapshotSerializer.encode (SimulationState.snapshot s') = .ok b) ∧
      ∀ t : S, SimulationState.restoreSnapshot t (SimulationState.snapshot s') = .ok s'
  commands : ∀ command : C, ∃ b, serializer.commandSerializer.encode command = .ok b
  version : serializer.snapshotSerializer.schemaVersion = SimulationState.snapshotSchemaVersion S

/-- What the step from `s` to `s'` records. -/
structure RecordedStep (serializer : ReplayArtifactSerializer C Snapshot)
    (e : DeterministicEngine S C P V Snapshot) (s s' : S) (frame : InputFrame C)
    (record : ReplayTickRecord C Snapshot) : Prop where
  next : SimulationState.tick s' = SimulationState.tick s + 1
  noWrap : (SimulationState.tick s).toNat + 1 < 2 ^ 64
  input : record.input = frame
  legal : LegalRecord e.seed e.snapshotPolicy serializer.snapshotSerializer.schemaVersion
    (SimulationState.tick s') record
  writable : serializer.Writable record
  checksum : record.checksum = SimulationState.checksum s'
  payload : ∀ snapshot ∈ record.snapshot, snapshot.payload = SimulationState.snapshot s'
  restores : ∀ t : S, SimulationState.restoreSnapshot t (SimulationState.snapshot s') = .ok s'

/- A tick that is the saturated successor of its own saturated predecessor has not wrapped. -/
theorem saturating_next {t : Tick} (h : t = saturatingSubU64 (saturatingAddU64 t 1) 1) :
    t.toNat + 1 < 2 ^ 64 ∧ saturatingAddU64 t 1 = t + 1 := by
  have hlt := t.toNat_lt
  unfold saturatingAddU64 at h ⊢
  rw [UInt64.toNat_one] at h ⊢
  by_cases ht : t.toNat + 1 < 2 ^ 64
  · rw [if_pos ht]
    exact ⟨ht, rfl⟩
  · rw [if_neg ht] at h
    have hmax : t.toNat = 2 ^ 64 - 1 := by omega
    rw [h] at hmax
    exact absurd hmax (by decide)

theorem saturating_pred {t : Tick} (h : t.toNat + 1 < 2 ^ 64) :
    saturatingSubU64 (t + 1) 1 = t := by
  have hle : (1 : UInt64) ≤ t + 1 := by
    rw [UInt64.le_iff_toNat_le, UInt64.toNat_add, UInt64.toNat_one, Nat.mod_eq_of_lt h]
    omega
  rw [saturatingSubU64, if_pos hle, UInt64.add_sub_cancel]

omit [LawfulSimulationState S Snapshot] [PurePhase P S C Snapshot]
  [QuietPhase P S C Snapshot] in
/- What a tick records can be wrong in the order of its checkpoints only. -/
theorem legalRecord_iff {e e' : DeterministicEngine S C P V Snapshot} {frame : InputFrame C}
    {result : TickResult Snapshot} {record : ReplayTickRecord C Snapshot}
    (hspec : TickSpec e e' frame result record)
    (hwrap : (SimulationState.tick e.state).toNat + 1 < 2 ^ 64) :
    LegalRecord e.seed e.snapshotPolicy (SimulationState.snapshotSchemaVersion S)
        (SimulationState.tick e.state + 1) record ↔
      (record.validationSummaries.map (checkpointOrder ·.checkpoint)).Pairwise (· < ·) := by
  have hnext : saturatingAddU64 (SimulationState.tick e.state) 1 =
      SimulationState.tick e.state + 1 := if_pos hwrap
  have htick : frame.tick = SimulationState.tick e.state + 1 := hspec.expected.trans hnext
  refine ⟨fun h => h.ordered, fun hordered => ?_⟩
  refine ⟨hspec.record_tick.trans htick, ?_, ?_, hordered, ?_, ?_, ?_⟩
  · rw [hspec.record_input, htick]
  · rw [hspec.record_seed, htick]
  · intro summary hmem
    rw [hspec.state_ticks summary hmem, saturating_pred hwrap]
  · rw [hspec.snapshot, Option.map_map, htick]
    exact Option.map_id'
  · intro snapshot hmem
    rw [Option.mem_def, hspec.snapshot, Option.map_eq_some_iff] at hmem
    obtain ⟨reason, -, rfl⟩ := hmem
    rw [htick]

variable {serializer : ReplayArtifactSerializer C Snapshot}
  {e : DeterministicEngine S C P V Snapshot} {Inv : S → Prop}

theorem tickStep_recorded (ht : Traceable serializer e Inv) {s s' : S} {frame : InputFrame C}
    {record : ReplayTickRecord C Snapshot} (hs : Inv s)
    (h : e.tickStep s frame = .ok (s', record)) : RecordedStep serializer e s s' frame record := by
  have hspec := DeterministicEngine.tickStep_spec ht.ordered h
  obtain ⟨-, hencode, hrestore⟩ := ht.keeps s s' frame record hs h
  have htick : frame.tick = saturatingAddU64 (SimulationState.tick s) 1 := hspec.expected
  have hbefore : SimulationState.tick s = saturatingSubU64 frame.tick 1 :=
    ht.aligned _ _ hspec.before
  rw [htick] at hbefore
  obtain ⟨hwrap, hnext⟩ := saturating_next hbefore
  rw [hnext] at htick
  have htick' : SimulationState.tick s' = frame.tick := by
    obtain ⟨t, -, -, hset, -⟩ := hspec.phases
    have hstate : s' = SimulationState.setTick t frame.tick := hset
    rw [hstate, LawfulSimulationState.tick_setTick]
  have hsnapshot := hspec.snapshot
  have hpayload : ∀ snapshot ∈ record.snapshot,
      snapshot.metadata = ⟨SimulationState.snapshotSchemaVersion S, frame.tick, record.checksum⟩ ∧
        snapshot.payload = SimulationState.snapshot s' := by
    intro snapshot hmem
    rw [Option.mem_def, hsnapshot, Option.map_eq_some_iff] at hmem
    obtain ⟨reason, -, rfl⟩ := hmem
    exact ⟨rfl, rfl⟩
  refine ⟨htick'.trans htick, hwrap, hspec.record_input, ?_, ?_, hspec.checksum,
    fun snapshot hmem => (hpayload snapshot hmem).2, hrestore⟩
  · have hmap : record.validationSummaries.map (checkpointOrder ·.checkpoint) =
        (record.validationSummaries.map (·.checkpoint)).map checkpointOrder := by
      rw [List.map_map]
      rfl
    rw [htick', htick, ht.version]
    refine (legalRecord_iff hspec hwrap).mpr ?_
    rw [hmap, hspec.checkpoints]
    exact ht.checkpoints
  · refine ⟨ht.commands _, ?_⟩
    intro snapshot hmem
    rw [(hpayload snapshot hmem).2]
    exact hencode

omit [StateValidator V S] [Phase P S C Snapshot] [PurePhase P S C Snapshot]
  [QuietPhase P S C Snapshot] in
theorem validateRecordPayload_recorded {s s' : S} {frame : InputFrame C}
    {record : ReplayTickRecord C Snapshot}
    (h : RecordedStep serializer e s s' frame record) :
    validateRecordPayload S record = .ok () := by
  unfold validateRecordPayload
  cases hs : record.snapshot with
  | none => rfl
  | some snapshot =>
    have hmeta := h.legal.metadata snapshot hs
    have hpay := h.payload snapshot hs
    simp only [bind_eq_ok, rejectIf_eq_ok, exists_const, ne_eq, not_not, hmeta, hpay,
      LawfulSimulationState.snapshotTick_snapshot, LawfulSimulationState.snapshotChecksum_snapshot,
      h.checksum, and_self]

/-- What a run from `s` to `s'` records. -/
structure RecordedRun (serializer : ReplayArtifactSerializer C Snapshot)
    (e : DeterministicEngine S C P V Snapshot) (s s' : S) (frames : List (InputFrame C))
    (records : List (ReplayTickRecord C Snapshot)) : Prop where
  inputs : records.map (·.input) = frames
  legal : LegalFrom e.seed e.snapshotPolicy serializer.snapshotSerializer.schemaVersion
    (SimulationState.tick s + 1) records
  writable : ∀ record ∈ records, serializer.Writable record
  payloads : ∀ record ∈ records, validateRecordPayload S record = .ok ()
  ticks : ∀ record ∈ records,
    (SimulationState.tick s).toNat < record.tick.toNat ∧
      record.tick.toNat ≤ (SimulationState.tick s').toNat
  mono : (SimulationState.tick s).toNat ≤ (SimulationState.tick s').toNat

theorem run_recorded (ht : Traceable serializer e Inv) {s s' : S} {frames : List (InputFrame C)}
    {records : List (ReplayTickRecord C Snapshot)} (hs : Inv s)
    (h : e.machine.run s frames = .ok (s', records)) :
    Inv s' ∧ RecordedRun serializer e s s' frames records := by
  induction frames generalizing s records with
  | nil =>
    obtain ⟨rfl, rfl⟩ := run_nil_ok.mp h
    refine ⟨hs, rfl, trivial, ?_, ?_, ?_, le_refl _⟩ <;> simp
  | cons frame frames ih =>
    obtain ⟨s1, record, rest, hstep, hrest, rfl⟩ := run_cons_ok.mp h
    have hone := tickStep_recorded ht hs hstep
    obtain ⟨hs1, -, -⟩ := ht.keeps s s1 frame record hs hstep
    obtain ⟨hs', hrun⟩ := ih hs1 hrest
    have hsucc : (SimulationState.tick s1).toNat = (SimulationState.tick s).toNat + 1 := by
      rw [hone.next, UInt64.toNat_add]
      exact Nat.mod_eq_of_lt hone.noWrap
    have hmono := hrun.mono
    refine ⟨hs', ?_, ⟨?_, ?_⟩, ?_, ?_, ?_, by omega⟩
    · rw [List.map_cons, hone.input, hrun.inputs]
    · rw [← hone.next]
      exact hone.legal
    · rw [← hone.next]
      exact hrun.legal
    · exact List.forall_mem_cons.mpr ⟨hone.writable, hrun.writable⟩
    · exact List.forall_mem_cons.mpr ⟨validateRecordPayload_recorded hone, hrun.payloads⟩
    · refine List.forall_mem_cons.mpr ⟨?_, fun r hr => ?_⟩
      · rw [hone.legal.tick_eq]
        omega
      · have hticks := hrun.ticks r hr
        omega

end Engine

end XenorEngine.Rust
