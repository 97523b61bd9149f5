import XenorEngine.Rust.EngineTrace

/-!
# Recording, verifying and resuming agree

What the three executions of persistence return, and that on the artifact of a
traceable engine's own run they all succeed with the same result.
-/

namespace XenorEngine.Rust
open XenorEngine.Lib.Fallible XenorEngine.Lib.Runs
open ReplayArtifactSerializer (orFail_eq_ok)
open Debug (debug)

section Build
variable {S C P V Snapshot : Type}
  {build : Seed → SnapshotPolicy → Outcome (DeterministicEngine S C P V Snapshot)}

theorem replayRecords_advance {e : DeterministicEngine S C P V Snapshot}
    (hidle : e.replayLog = .default) (s : S) (records : List (ReplayTickRecord C Snapshot)) :
    (e.advance s records).replayRecords = records := by
  simp [DeterministicEngine.advance, DeterministicEngine.replayRecords, hidle,
    InMemoryReplayLog.default]

theorem buildChecked_eq_ok {seed : Seed} {policy : SnapshotPolicy}
    {e : DeterministicEngine S C P V Snapshot} :
    buildChecked build seed policy = .ok e ↔ build seed policy = .ok e ∧ e.seed = seed := by
  rw [buildChecked, checked_eq_ok, orFail_eq_ok, rejectIf_eq_ok, not_not]

/-- What `build` makes for `seed` and `policy`. -/
structure Builds (build : Seed → SnapshotPolicy → Outcome (DeterministicEngine S C P V Snapshot))
    (seed : Seed) (policy : SnapshotPolicy) (e : DeterministicEngine S C P V Snapshot) :
    Prop where
  builds : build seed policy = .ok e
  seed : e.seed = seed
  ordered : e.scheduler.Ordered
  nothingRecorded : e.replayLog = .default

end Build

section Validate
variable {S C Snapshot : Type} [SimulationState S Snapshot]

theorem validateReplayArtifactForState_eq_ok {a : ReplayArtifact C Snapshot} {u : Unit} :
    validateReplayArtifactForState S a = .ok u ↔
      a.metadata.snapshotPayloadSchemaVersion = SimulationState.snapshotSchemaVersion S ∧
      (LegalFrom a.metadata.baseSeed a.metadata.snapshotPolicy
        a.metadata.snapshotPayloadSchemaVersion 1 a.records ∧ TotalsMatch a) ∧
      ∀ record ∈ a.records, validateRecordPayload S record = .ok u := by
  simp only [validateReplayArtifactForState, bind_eq_ok, rejectIf_eq_ok, exists_const, ne_eq,
    not_not, validateReplayArtifactShape_eq_ok, forM_eq_ok]

end Validate

section Execution
variable {S C P V Snapshot : Type} [SimulationState S Snapshot] [StateValidator V S]
  [Phase P S C Snapshot] [PurePhase P S C Snapshot] [QuietPhase P S C Snapshot]

theorem tickFrames_eq_ok {e e' : DeterministicEngine S C P V Snapshot}
    (hs : e.scheduler.Ordered) (hidle : e.replayLog = .default) {frames : List (InputFrame C)} :
    tickFrames e frames = .ok e' ↔
      ∃ s' records, e.machine.run e.state frames = .ok (s', records) ∧
        e' = e.advance s' records := by
  have hpending : e.replayLog.pending = none := by rw [hidle]; rfl
  rw [← DeterministicEngine.tickAll_refines (u := ()) hs hpending]
  unfold tickFrames
  cases DeterministicEngine.tickAll frames e <;> simp

variable {build : Seed → SnapshotPolicy → Outcome (DeterministicEngine S C P V Snapshot)}
  {serializer : ReplayArtifactSerializer C Snapshot} {seed : Seed} {policy : SnapshotPolicy}
  {identity : ConfigIdentity} {e : DeterministicEngine S C P V Snapshot}

theorem recordReplay_eq_ok (hb : Builds build seed policy e) {frames : List (InputFrame C)}
    {recorded : RecordedReplay C Snapshot} :
    recordReplay build serializer seed policy identity frames = .ok recorded ↔
      ∃ s' records, e.machine.run e.state frames = .ok (s', records) ∧
        serializer.buildArtifact seed policy identity records = .ok recorded.artifact ∧
        executionResult serializer .record recorded.artifact = .ok recorded.result := by
  have hchecked := buildChecked_eq_ok.mpr ⟨hb.builds, hb.seed⟩
  simp only [recordReplay, hchecked, ok_bind, bind_eq_ok, orFail_eq_ok,
    tickFrames_eq_ok hb.ordered hb.nothingRecorded, pure_eq_ok]
  constructor
  · rintro ⟨_, ⟨s', records, hrun, rfl⟩, artifact, hartifact, result, hresult, rfl⟩
    rw [replayRecords_advance hb.nothingRecorded] at hartifact
    exact ⟨s', records, hrun, hartifact, hresult⟩
  · rintro ⟨s', records, hrun, hartifact, hresult⟩
    refine ⟨_, ⟨s', records, hrun, rfl⟩, recorded.artifact, ?_, recorded.result, hresult, rfl⟩
    rwa [replayRecords_advance hb.nothingRecorded]

/-! ### The artifact of a run -/

section Run
variable [LawfulSimulationState S Snapshot] {Inv : S → Prop}

/-- A traceable engine that the closure builds for the policy it runs under. -/
structure Runs (build : Seed → SnapshotPolicy → Outcome (DeterministicEngine S C P V Snapshot))
    (serializer : ReplayArtifactSerializer C Snapshot) (seed : Seed) (policy : SnapshotPolicy)
    (e : DeterministicEngine S C P V Snapshot) (Inv : S → Prop) : Prop where
  traceable : Traceable serializer e Inv
  builds : build seed policy = .ok e
  seed : e.seed = seed
  policy : e.snapshotPolicy = policy

omit [PurePhase P S C Snapshot] [QuietPhase P S C Snapshot]
  [LawfulSimulationState S Snapshot] in
theorem Runs.toBuilds (h : Runs build serializer seed policy e Inv) :
    Builds build seed policy e :=
  ⟨h.builds, h.seed, h.traceable.ordered, h.traceable.nothingRecorded⟩

theorem Runs.recorded (h : Runs build serializer seed policy e Inv) {s' : S}
    {frames : List (InputFrame C)} {records : List (ReplayTickRecord C Snapshot)}
    (hrun : e.machine.run e.state frames = .ok (s', records)) :
    RecordedRun serializer e e.state s' frames records :=
  (run_recorded h.traceable h.traceable.start hrun).2

theorem Runs.legal (h : Runs build serializer seed policy e Inv) {s' : S}
    {frames : List (InputFrame C)} {records : List (ReplayTickRecord C Snapshot)}
    (hrun : e.machine.run e.state frames = .ok (s', records)) :
    LegalFrom seed policy serializer.snapshotSerializer.schemaVersion 1 records := by
  have hlegal := (h.recorded hrun).legal
  rw [h.traceable.start_tick, h.seed, h.policy] at hlegal
  exact hlegal

theorem Runs.valid (h : Runs build serializer seed policy e Inv) {s' : S}
    {frames : List (InputFrame C)} {records : List (ReplayTickRecord C Snapshot)}
    (hrun : e.machine.run e.state frames = .ok (s', records)) (identity : ConfigIdentity) :
    serializer.Valid (serializer.artifactOf seed policy identity records) :=
  ReplayArtifactSerializer.valid_artifactOf (h.legal hrun) (h.recorded hrun).writable

theorem Runs.validates (h : Runs build serializer seed policy e Inv) {s' : S}
    {frames : List (InputFrame C)} {records : List (ReplayTickRecord C Snapshot)}
    (hrun : e.machine.run e.state frames = .ok (s', records)) (identity : ConfigIdentity) :
    validateReplayArtifactForState S (serializer.artifactOf seed policy identity records) =
      .ok () :=
  validateReplayArtifactForState_eq_ok.mpr ⟨h.traceable.version, ⟨h.legal hrun,
    ReplayArtifactSerializer.totalsMatch_artifactOf ..⟩, (h.recorded hrun).payloads⟩

/- Recording succeeds whenever the ticks do, and only then. -/
theorem recordReplay_runs (h : Runs build serializer seed policy e Inv)
    {frames : List (InputFrame C)} {recorded : RecordedReplay C Snapshot} :
    recordReplay build serializer seed policy identity frames = .ok recorded ↔
      ∃ s' records, e.machine.run e.state frames = .ok (s', records) ∧
        recorded.artifact = serializer.artifactOf seed policy identity records ∧
        executionResult serializer .record recorded.artifact = .ok recorded.result := by
  rw [recordReplay_eq_ok h.toBuilds]
  constructor
  · rintro ⟨s', records, hrun, hartifact, hresult⟩
    exact ⟨s', records, hrun,
      (ReplayArtifactSerializer.buildArtifact_eq_ok.mp hartifact).2, hresult⟩
  · rintro ⟨s', records, hrun, hartifact, hresult⟩
    exact ⟨s', records, hrun,
      ReplayArtifactSerializer.buildArtifact_eq_ok.mpr ⟨h.legal hrun, hartifact⟩, hresult⟩

theorem exists_recordReplay (h : Runs build serializer seed policy e Inv) {s' : S}
    {frames : List (InputFrame C)} {records : List (ReplayTickRecord C Snapshot)}
    (hrun : e.machine.run e.state frames = .ok (s', records)) (identity : ConfigIdentity) :
    ∃ recorded, recordReplay build serializer seed policy identity frames = .ok recorded ∧
      recorded.artifact = serializer.artifactOf seed policy identity records ∧
      executionResult serializer .record recorded.artifact = .ok recorded.result := by
  obtain ⟨result, hresult⟩ :=
    ReplayArtifactSerializer.exists_executionResult .record (h.valid hrun identity)
  exact ⟨⟨_, result⟩, (recordReplay_runs h).mpr ⟨s', records, hrun, rfl, hresult⟩, rfl, hresult⟩

end Run

/-! ### Comparing -/

variable [Debug C] [Debug Snapshot] [DecidableEq C] [DecidableEq Snapshot]

omit [SimulationState S Snapshot] [StateValidator V S] [Phase P S C Snapshot]
  [PurePhase P S C Snapshot] [QuietPhase P S C Snapshot] in
theorem compareRecords_eq_ok {expected actual : List (ReplayTickRecord C Snapshot)} {u : Unit} :
    compareRecords serializer expected actual = .ok u ↔ expected = actual := by
  rw [compareRecords, mapError_eq_ok, compare_traces_eq_ok]

theorem executeReplayVerify_eq_ok {a : ReplayArtifact C Snapshot}
    (hb : Builds build a.metadata.baseSeed a.metadata.snapshotPolicy e)
    {result : ReplayExecutionResult Snapshot} :
    executeReplayVerify build serializer a identity = .ok result ↔
      validateReplayArtifactForState S a = .ok () ∧ a.metadata.configIdentity = identity ∧
        (∃ s', e.machine.run e.state (a.records.map (·.input)) = .ok (s', a.records)) ∧
        executionResult serializer .replayVerify a = .ok result := by
  have hchecked := buildChecked_eq_ok.mpr ⟨hb.builds, hb.seed⟩
  simp only [executeReplayVerify, hchecked, ok_bind, bind_eq_ok,
    orFail_eq_ok, Unique.exists_iff, PUnit.default_eq_unit,
    validateReplayConfigIdentity,
    rejectIf_eq_ok, ne_eq, not_not, tickFrames_eq_ok hb.ordered hb.nothingRecorded,
    compareRecords_eq_ok]
  refine and_congr_right fun _ => and_congr_right fun _ => ?_
  constructor
  · rintro ⟨_, ⟨s', records, hrun, rfl⟩, hsame, hresult⟩
    rw [replayRecords_advance hb.nothingRecorded] at hsame
    exact ⟨⟨s', hsame ▸ hrun⟩, hresult⟩
  · rintro ⟨⟨s', hrun⟩, hresult⟩
    refine ⟨_, ⟨s', a.records, hrun, rfl⟩, ?_, hresult⟩
    rw [replayRecords_advance hb.nothingRecorded]

variable [LawfulSimulationState S Snapshot] {Inv : S → Prop}

/- What is recorded is accepted, with the same result. -/
theorem executeReplayVerify_recorded (h : Runs build serializer seed policy e Inv)
    {frames : List (InputFrame C)} {recorded : RecordedReplay C Snapshot}
    (hrec : recordReplay build serializer seed policy identity frames = .ok recorded) :
    executeReplayVerify build serializer recorded.artifact identity =
      .ok { recorded.result with mode := .replayVerify } := by
  obtain ⟨s', records, hrun, hartifact, hresult⟩ := (recordReplay_runs h).mp hrec
  rw [hartifact] at hresult ⊢
  refine (executeReplayVerify_eq_ok h.toBuilds).mpr ⟨h.validates hrun identity, rfl, ⟨s', ?_⟩,
    ReplayArtifactSerializer.executionResult_mode hresult _⟩
  change e.machine.run e.state (records.map (·.input)) = .ok (s', records)
  rw [(h.recorded hrun).inputs]
  exact hrun

/-! ### Resuming -/

section Split
variable {s' : S} {frames : List (InputFrame C)}
  {before continuation : List (ReplayTickRecord C Snapshot)}
  {record : ReplayTickRecord C Snapshot}

/-- A run cut after one of its records. -/
structure CutRun (e : DeterministicEngine S C P V Snapshot) (s' mid : S)
    (before : List (ReplayTickRecord C Snapshot)) (record : ReplayTickRecord C Snapshot)
    (continuation : List (ReplayTickRecord C Snapshot)) : Prop where
  tick : SimulationState.tick mid = record.tick
  checksum : SimulationState.checksum mid = record.checksum
  payload : ∀ snapshot ∈ record.snapshot, snapshot.payload = SimulationState.snapshot mid ∧
    snapshot.metadata =
      ⟨SimulationState.snapshotSchemaVersion S, record.tick, record.checksum⟩
  restores : ∀ t : S, SimulationState.restoreSnapshot t (SimulationState.snapshot mid) = .ok mid
  earlier : ∀ r ∈ before, r.tick ≠ record.tick
  rest : e.machine.run mid (continuation.map (·.input)) = .ok (s', continuation)
  head : ∀ first ∈ continuation.head?, first.tick = saturatingAddU64 record.tick 1

omit [Debug C] [Debug Snapshot] [DecidableEq C] [DecidableEq Snapshot] in
theorem Runs.cut (h : Runs build serializer seed policy e Inv)
    (hrun : e.machine.run e.state frames = .ok (s', before ++ record :: continuation)) :
    ∃ mid, CutRun e s' mid before record continuation := by
  obtain ⟨start, is1, is2, -, hbefore, hafter⟩ := run_split_outputs hrun
  obtain ⟨frame, is3, mid, -, hstep, hrest⟩ := run_cons_outputs hafter
  obtain ⟨hstart, hrun1⟩ := run_recorded h.traceable h.traceable.start hbefore
  have hone := tickStep_recorded h.traceable hstart hstep
  obtain ⟨hmid, -, -⟩ := h.traceable.keeps _ _ _ _ hstart hstep
  obtain ⟨-, hrun2⟩ := run_recorded h.traceable hmid hrest
  have htick : SimulationState.tick mid = record.tick := hone.legal.tick_eq.symm
  refine ⟨mid, htick, hone.checksum.symm, ?_, hone.restores, ?_, ?_, ?_⟩
  · intro snapshot hs
    have hmeta := hone.legal.metadata snapshot hs
    rw [h.traceable.version, htick] at hmeta
    exact ⟨hone.payload snapshot hs, hmeta⟩
  · intro r hr hsame
    have hle := (hrun1.ticks r hr).2
    have hsucc : record.tick.toNat = (SimulationState.tick start).toNat + 1 := by
      rw [← htick, hone.next, UInt64.toNat_add]
      exact Nat.mod_eq_of_lt hone.noWrap
    rw [hsame] at hle
    omega
  · rw [hrun2.inputs]
    exact hrest
  · intro first hfirst
    cases continuation with
    | nil => cases hfirst
    | cons r rs =>
      obtain rfl := Option.some.inj hfirst
      obtain ⟨i, is4, s4, -, hstep4, -⟩ := run_cons_outputs hrest
      have hnext := tickStep_recorded h.traceable hmid hstep4
      have hwrap := hnext.noWrap
      rw [htick] at hwrap
      rw [hnext.legal.tick_eq, hnext.next, htick, saturatingAddU64]
      exact (if_pos hwrap).symm

omit [Debug C] [Debug Snapshot] [DecidableEq C] [DecidableEq Snapshot] in
/- A captured snapshot is of the state its record is about. -/
theorem Runs.snapshot_of_record (h : Runs build serializer seed policy e Inv)
    (hrun : e.machine.run e.state frames = .ok (s', before ++ record :: continuation))
    {snapshot : SnapshotRecord Snapshot} (hs : record.snapshot = some snapshot) :
    SimulationState.snapshotTick S snapshot.payload = record.tick ∧
      SimulationState.snapshotChecksum S snapshot.payload = record.checksum := by
  obtain ⟨mid, hcut⟩ := h.cut hrun
  obtain ⟨hpayload, -⟩ := hcut.payload snapshot hs
  rw [hpayload, LawfulSimulationState.snapshotTick_snapshot,
    LawfulSimulationState.snapshotChecksum_snapshot]
  exact ⟨hcut.tick, hcut.checksum⟩

omit [Debug C] [Debug Snapshot] [DecidableEq C] [DecidableEq Snapshot] in
/- A record that others follow is of an earlier tick than the last. -/
theorem Runs.lastTick_ne (h : Runs build serializer seed policy e Inv)
    (hrun : e.machine.run e.state frames = .ok (s', before ++ record :: continuation))
    (hmore : continuation ≠ []) : lastTick (before ++ record :: continuation) ≠ record.tick := by
  obtain ⟨middle, last, rfl⟩ := (List.eq_nil_or_concat' continuation).resolve_left hmore
  rw [← List.cons_append, ← List.append_assoc] at hrun ⊢
  obtain ⟨mid, hcut⟩ := h.cut hrun
  rw [lastTick_append]
  exact (hcut.earlier record (by simp)).symm

omit [Debug C] [Debug Snapshot] [DecidableEq C] [DecidableEq Snapshot] in
/- The policy decides on the tick of the frame alone. -/
theorem Runs.captured_iff (h : Runs build serializer seed policy e Inv)
    {records : List (ReplayTickRecord C Snapshot)}
    (hrun : e.machine.run e.state frames = .ok (s', records)) (hr : record ∈ records) :
    record.snapshot = none ↔ policy.shouldCapture record.input.tick = none := by
  have hlegal := legalFrom_mem (h.legal hrun) hr
  rw [hlegal.input_tick, ← hlegal.reason, Option.map_eq_none_iff]

end Split

omit [Debug C] [Debug Snapshot] [DecidableEq C] [DecidableEq Snapshot] in
/- A tick is recorded once. -/
theorem find_recorded (h : Runs build serializer seed policy e Inv)
    {frames : List (InputFrame C)} {recorded : RecordedReplay C Snapshot}
    (hrec : recordReplay build serializer seed policy identity frames = .ok recorded)
    {record : ReplayTickRecord C Snapshot} (hr : record ∈ recorded.artifact.records) :
    recorded.artifact.records.find? (·.tick = record.tick) = some record := by
  obtain ⟨s', records, hrun, hartifact, -⟩ := (recordReplay_runs h).mp hrec
  have hrecords : recorded.artifact.records = records := by rw [hartifact]; rfl
  rw [hrecords] at hr ⊢
  obtain ⟨before, continuation, rfl⟩ := List.append_of_mem hr
  obtain ⟨mid, hcut⟩ := h.cut hrun
  have hnone : before.find? (·.tick = record.tick) = none := by
    simpa [List.find?_eq_none] using hcut.earlier
  rw [List.find?_append, hnone, Option.none_or, List.find?_cons_of_pos (by simp)]

omit [StateValidator V S] [Phase P S C Snapshot] [PurePhase P S C Snapshot]
  [QuietPhase P S C Snapshot] [SimulationState S Snapshot] [LawfulSimulationState S Snapshot]
  [Debug C] [Debug Snapshot] [DecidableEq C] [DecidableEq Snapshot] in
theorem sourceRecord_eq_ok {a : ReplayArtifact C Snapshot}
    {before continuation : List (ReplayTickRecord C Snapshot)}
    {record : ReplayTickRecord C Snapshot} (ha : a.records = before ++ record :: continuation)
    (hbefore : ∀ r ∈ before, r.tick ≠ record.tick) :
    sourceRecord a record.tick = .ok (record, continuation) := by
  have hdrop : a.records.dropWhile (·.tick ≠ record.tick) = record :: continuation := by
    rw [ha, List.dropWhile_append_of_pos (by simpa using hbefore),
      List.dropWhile_cons_of_neg (by simp)]
  simp only [sourceRecord, hdrop]
  rfl

omit [StateValidator V S] [Phase P S C Snapshot] [PurePhase P S C Snapshot]
  [QuietPhase P S C Snapshot] [Debug C] [Debug Snapshot] [DecidableEq C]
  [DecidableEq Snapshot] in
theorem validateSnapshotArtifact_cut {mid : S} {snapshot : SnapshotRecord Snapshot}
    {tick : Tick} {checksum : UInt64} (htick : SimulationState.tick mid = tick)
    (hchecksum : SimulationState.checksum mid = checksum)
    (hpayload : snapshot.payload = SimulationState.snapshot mid)
    (hmeta : snapshot.metadata = ⟨SimulationState.snapshotSchemaVersion S, tick, checksum⟩) :
    validateSnapshotArtifact S (serializer.buildSnapshotArtifact seed identity snapshot) seed
      identity = .ok () := by
  subst htick hchecksum
  simp only [validateSnapshotArtifact, ReplayArtifactSerializer.buildSnapshotArtifact, hmeta,
    hpayload, bind_eq_ok, rejectIf_eq_ok, exists_const, ne_eq, not_true_eq_false,
    not_false_eq_true, true_and, LawfulSimulationState.snapshotTick_snapshot,
    LawfulSimulationState.snapshotChecksum_snapshot]

/- Resuming at a recorded snapshot repeats the rest of the run. -/
theorem executeReplayFromSnapshot_recorded (h : Runs build serializer seed policy e Inv)
    {frames : List (InputFrame C)} {recorded : RecordedReplay C Snapshot}
    (hrec : recordReplay build serializer seed policy identity frames = .ok recorded)
    {record : ReplayTickRecord C Snapshot} (hr : record ∈ recorded.artifact.records)
    {snapshot : SnapshotRecord Snapshot} (hs : record.snapshot = some snapshot) :
    executeReplayFromSnapshot build serializer
        (serializer.buildSnapshotArtifact seed identity snapshot) recorded.artifact identity =
      .ok { recorded.result with mode := .replayFromSnapshot record.tick } := by
  obtain ⟨s', records, hrun, hartifact, hresult⟩ := (recordReplay_runs h).mp hrec
  have hrecords : recorded.artifact.records = records := by rw [hartifact]; rfl
  rw [hrecords] at hr
  obtain ⟨before, continuation, rfl⟩ := List.append_of_mem hr
  obtain ⟨mid, hcut⟩ := h.cut hrun
  obtain ⟨hpayload, hmeta⟩ := hcut.payload snapshot hs
  obtain ⟨hsummary, -, htick, hchecksum, hsnapshot⟩ :=
    ReplayArtifactSerializer.executionResult_eq_ok.mp hresult
  rw [hartifact] at htick hchecksum hsnapshot hsummary ⊢
  have hsource : snapshot.metadata.sourceTick = record.tick := by rw [hmeta]
  have hcapture : snapshot.metadata.captureChecksum = record.checksum := by rw [hmeta]
  refine bind_eq_ok.mpr ⟨(), orFail_eq_ok.mpr (rejectIf_eq_ok.mpr (not_not.mpr rfl)), ?_⟩
  refine bind_eq_ok.mpr ⟨(), orFail_eq_ok.mpr (rejectIf_eq_ok.mpr (not_not.mpr rfl)), ?_⟩
  refine bind_eq_ok.mpr ⟨(), orFail_eq_ok.mpr
    (validateSnapshotArtifact_cut hcut.tick hcut.checksum hpayload hmeta), ?_⟩
  refine bind_eq_ok.mpr ⟨(record, continuation), orFail_eq_ok.mpr ?_, ?_⟩
  · change sourceRecord _ snapshot.metadata.sourceTick = _
    rw [hsource]
    exact sourceRecord_eq_ok rfl hcut.earlier
  refine bind_eq_ok.mpr ⟨snapshot, orFail_eq_ok.mpr (okOr_eq_ok.mpr hs), ?_⟩
  refine bind_eq_ok.mpr ⟨(), orFail_eq_ok.mpr (rejectIf_eq_ok.mpr ?_), ?_⟩
  · simp [ReplayArtifactSerializer.buildSnapshotArtifact]
  refine bind_eq_ok.mpr ⟨(), orFail_eq_ok.mpr ?_, ?_⟩
  · cases continuation with
    | nil => rfl
    | cons first rest =>
      refine rejectIf_eq_ok.mpr (not_not.mpr ?_)
      change first.tick = saturatingAddU64 snapshot.metadata.sourceTick 1
      rw [hsource]
      exact hcut.head first rfl
  refine bind_eq_ok.mpr ⟨(), orFail_eq_ok.mpr (h.validates hrun identity), ?_⟩
  refine bind_eq_ok.mpr ⟨e, buildChecked_eq_ok.mpr ⟨h.builds, h.seed⟩, ?_⟩
  refine bind_eq_ok.mpr ⟨{ e with state := mid }, ?_, ?_⟩
  · change e.restoreSnapshot snapshot.payload = _
    simp only [DeterministicEngine.restoreSnapshot, hpayload, hcut.restores]
    rfl
  refine bind_eq_ok.mpr ⟨(), orFail_eq_ok.mpr (rejectIf_eq_ok.mpr (not_not.mpr ?_)), ?_⟩
  · exact hcut.tick.trans hsource.symm
  have hticks : tickFrames { e with state := mid } (continuation.map (·.input)) =
      .ok (DeterministicEngine.advance { e with state := mid } s' continuation) :=
    (tickFrames_eq_ok (e := { e with state := mid }) h.traceable.ordered
      h.traceable.nothingRecorded).mpr ⟨s', continuation, hcut.rest, rfl⟩
  refine bind_eq_ok.mpr ⟨_, orFail_eq_ok.mpr hticks, ?_⟩
  refine bind_eq_ok.mpr ⟨(), orFail_eq_ok.mpr (compareRecords_eq_ok.mpr ?_), ?_⟩
  · exact (replayRecords_advance h.traceable.nothingRecorded _ _).symm
  refine bind_eq_ok.mpr ⟨_, orFail_eq_ok.mpr hsummary, pure_eq_ok.mpr ?_⟩
  rw [ReplayExecutionResult.mk.injEq]
  refine ⟨congrArg _ hsource, ?_, ?_, ?_, rfl⟩
  · rw [htick]
    exact (congrArg _ hsource).trans (lastTick_append before record continuation).symm
  · rw [hchecksum]
    exact (congrArg _ hcapture).trans (lastChecksum_append before record continuation).symm
  · rw [hsnapshot]
    change _ = (lastSnapshot (before ++ record :: continuation)).map _
    rw [lastSnapshot_append, hs]
    cases lastSnapshot continuation <;> rfl

end Execution

end XenorEngine.Rust
