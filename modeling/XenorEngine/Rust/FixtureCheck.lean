import XenorEngine.Rust.Execution
import XenorEngine.Rust.Fixture

/-!
# What verifying a fixture decides

Each of the six comparisons of `verify_fixture` skips fields. Together with the
checks made when a fixture is read, they pass exactly when replay and snapshot
artifact are those of the rerun.
-/

namespace XenorEngine.Rust
open XenorEngine.Lib.ByteText XenorEngine.Lib.Fallible
open ReplayArtifactSerializer (orFail_eq_ok executionResult_eq_ok)
open Debug (debug)

/-! ### Summaries -/

section Summary
variable {C Snapshot Config : Type} {s : ReplayArtifactSerializer C Snapshot}
  {a : ReplayArtifact C Snapshot} {summary : ArtifactSummary}

/-- The parts of a summary that later checks compare. -/
structure SummaryOf (s : ReplayArtifactSerializer C Snapshot) (a : ReplayArtifact C Snapshot)
    (summary : ArtifactSummary) : Prop where
  configVersion :
    summary.configPayloadSchemaVersion = a.metadata.configIdentity.payloadSchemaVersion
  configDigest : summary.configDigest = a.metadata.configIdentity.digest
  scenarioDigest : summary.scenarioDigest = none
  snapshotDigest : transpose ((lastSnapshot a.records).map fun record =>
    s.snapshotArtifactDigest (s.buildSnapshotArtifact a.metadata.baseSeed
      a.metadata.configIdentity record)) = .ok summary.snapshotDigest

theorem summaryOf_summary (h : s.summary a = .ok summary) : SummaryOf s a summary := by
  simp only [ReplayArtifactSerializer.summary, bind_eq_ok, pure_eq_ok] at h
  obtain ⟨digest, -, snapshotDigest, hsnapshot, rfl⟩ := h
  exact ⟨rfl, rfl, rfl, hsnapshot⟩

end Summary

section Record
variable {S C P V Snapshot : Type} [SimulationState S Snapshot] [StateValidator V S]
  [Phase P S C Snapshot]
  {build : Seed → SnapshotPolicy → Outcome (DeterministicEngine S C P V Snapshot)}
  {serializer : ReplayArtifactSerializer C Snapshot} {seed : Seed} {policy : SnapshotPolicy}
  {identity : ConfigIdentity} {frames : List (InputFrame C)} {recorded : RecordedReplay C Snapshot}

/- Whatever the engine: a recording is the artifact of its records. -/
theorem artifact_of_recordReplay
    (h : recordReplay build serializer seed policy identity frames = .ok recorded) :
    recorded.artifact =
        serializer.artifactOf seed policy identity recorded.artifact.records ∧
      executionResult serializer .record recorded.artifact = .ok recorded.result := by
  simp only [recordReplay, bind_eq_ok, orFail_eq_ok, pure_eq_ok] at h
  obtain ⟨-, -, e, -, artifact, hartifact, result, hresult, rfl⟩ := h
  obtain ⟨-, rfl⟩ := ReplayArtifactSerializer.buildArtifact_eq_ok.mp hartifact
  exact ⟨rfl, hresult⟩

end Record

/-! ### The rerun -/

namespace GoldenFixture
variable {C Snapshot Config : Type} (f : GoldenFixture C Snapshot Config)

/-- A scenario takes precedence over the fixture's own config and replay. -/
def effectiveConfig : ConfigArtifact Config :=
  (f.scenarioArtifact.map (·.configArtifact)).getD f.configArtifact
def effectiveSeed : Seed :=
  (f.scenarioArtifact.map (·.baseSeed)).getD f.replayArtifact.metadata.baseSeed
def effectiveFrames : List (InputFrame C) :=
  (f.scenarioArtifact.map (·.frames)).getD (f.replayArtifact.records.map (·.input))

end GoldenFixture

namespace GoldenFixtureSerializer
variable {S C P V Snapshot Config : Type} {s : GoldenFixtureSerializer C Snapshot Config}

/-- The codecs inside a fixture codec write the same snapshot artifacts. -/
def SameSnapshots (s : GoldenFixtureSerializer C Snapshot Config) : Prop :=
  s.snapshotSerializer = ⟨s.replaySerializer.engineFamily, s.replaySerializer.snapshotSerializer⟩

theorem snapshotDigest_eq (h : s.SameSnapshots) (a : SnapshotArtifact Snapshot) :
    s.snapshotSerializer.digest a = s.replaySerializer.snapshotArtifactDigest a := by
  rw [h]
  rfl

/- The digest of the final snapshot is in the summary already. -/
theorem finalSnapshot_digest (h : s.SameSnapshots) {a : ReplayArtifact C Snapshot}
    {summary : ArtifactSummary} (hs : s.replaySerializer.summary a = .ok summary) :
    transpose (((lastSnapshot a.records).map (s.replaySerializer.buildSnapshotArtifact
      a.metadata.baseSeed a.metadata.configIdentity)).map s.snapshotSerializer.digest) =
        .ok summary.snapshotDigest := by
  have hfun : s.snapshotSerializer.digest = s.replaySerializer.snapshotArtifactDigest :=
    funext (snapshotDigest_eq h)
  rw [hfun, Option.map_map]
  exact (summaryOf_summary hs).snapshotDigest

theorem fixtureSummary_eq_ok {replay : ReplayArtifact C Snapshot}
    {snapshot : Option (SnapshotArtifact Snapshot)}
    {scenario : Option (SimulationScenario C Config)} {summary : GoldenFixtureSummary} :
    s.fixtureSummaryFromArtifacts replay snapshot scenario = .ok summary ↔
      ∃ base snapshotDigest scenarioDigest, s.replaySerializer.summary replay = .ok base ∧
        transpose (snapshot.map s.snapshotSerializer.digest) = .ok snapshotDigest ∧
        transpose (scenario.map s.scenarioSerializer.digest) = .ok scenarioDigest ∧
        summary = { base with
          snapshotDigest := snapshotDigest.or base.snapshotDigest
          scenarioDigest := scenarioDigest.or base.scenarioDigest } := by
  simp only [fixtureSummaryFromArtifacts, bind_eq_ok, pure_eq_ok]
  constructor
  · rintro ⟨base, h1, snapshotDigest, h2, scenarioDigest, h3, rfl⟩
    exact ⟨base, snapshotDigest, scenarioDigest, h1, h2, h3, rfl⟩
  · rintro ⟨base, snapshotDigest, scenarioDigest, h1, h2, h3, rfl⟩
    exact ⟨base, h1, snapshotDigest, h2, scenarioDigest, h3, rfl⟩

theorem rerunOf_eq_ok {f : GoldenFixture C Snapshot Config} {rerun : Rerun C Config} :
    s.rerunOf f = .ok rerun ↔
      (∃ scenario digest, f.scenarioArtifact = some scenario ∧
        s.scenarioSerializer.digest scenario = .ok digest ∧
        rerun = ⟨scenario.configArtifact, scenario.baseSeed, scenario.frames, some digest⟩) ∨
      (f.scenarioArtifact = none ∧ rerun = ⟨f.configArtifact,
        f.replayArtifact.metadata.baseSeed, f.replayArtifact.records.map (·.input), none⟩) := by
  unfold rerunOf
  cases f.scenarioArtifact with
  | none =>
    rw [pure_eq_ok]
    simp [eq_comm]
  | some scenario =>
    simp only [bind_eq_ok, pure_eq_ok, Option.some.injEq, reduceCtorEq, false_and, or_false]
    constructor
    · rintro ⟨digest, hd, rfl⟩
      exact ⟨scenario, digest, rfl, hd, rfl⟩
    · rintro ⟨_, digest, rfl, hd, rfl⟩
      exact ⟨digest, hd, rfl⟩

theorem rerun_effective {f : GoldenFixture C Snapshot Config} {rerun : Rerun C Config}
    (h : s.rerunOf f = .ok rerun) : rerun.effectiveConfig = f.effectiveConfig ∧
      rerun.baseSeed = f.effectiveSeed ∧ rerun.frames = f.effectiveFrames := by
  unfold GoldenFixture.effectiveConfig GoldenFixture.effectiveSeed GoldenFixture.effectiveFrames
  rcases rerunOf_eq_ok.mp h with ⟨scenario, digest, hf, -, rfl⟩ | ⟨hf, rfl⟩
  · rw [hf]
    exact ⟨rfl, rfl, rfl⟩
  · rw [hf]
    exact ⟨rfl, rfl, rfl⟩

theorem rerun_scenarioDigest {f : GoldenFixture C Snapshot Config} {rerun : Rerun C Config}
    (h : s.rerunOf f = .ok rerun) :
    transpose (f.scenarioArtifact.map s.scenarioSerializer.digest) =
      .ok rerun.scenarioDigest := by
  rcases rerunOf_eq_ok.mp h with ⟨scenario, digest, hf, hd, rfl⟩ | ⟨hf, rfl⟩
  · rw [hf, transpose_eq_ok, Option.map_some, hd]
    rfl
  · rw [hf]
    rfl

section Consistent
variable [SimulationState S Snapshot] [StateValidator V S] [Phase P S C Snapshot]
  [SimulationConfig Config]
  {build : Seed → Config → Outcome (DeterministicEngine S C P V Snapshot)}
  {f : GoldenFixture C Snapshot Config} {rerun : Rerun C Config}
  {recorded : RecordedReplay C Snapshot}

/- The config a rerun uses is the fixture's own. -/
theorem rerun_config (hc : s.Consistent f) (hrerun : s.rerunOf f = .ok rerun) :
    rerun.effectiveConfig = f.configArtifact ∧
      rerun.baseSeed = f.replayArtifact.metadata.baseSeed ∧
      rerun.frames = f.replayArtifact.records.map (·.input) := by
  rcases rerunOf_eq_ok.mp hrerun with ⟨scenario, digest, hf, -, rfl⟩ | ⟨hf, rfl⟩
  · have hscenario := hc.scenario scenario hf
    exact ⟨hscenario.config, hscenario.baseSeed, hscenario.frames⟩
  · exact ⟨rfl, rfl, rfl⟩

theorem finalSnapshot_version (hrec : s.rerecord rerun build = .ok recorded)
    {a : SnapshotArtifact Snapshot} (ha : a ∈ recorded.result.finalSnapshot) :
    a.metadata.artifactSchemaVersion = SNAPSHOT_ARTIFACT_SCHEMA_VERSION := by
  obtain ⟨-, -, -, -, hfinal⟩ := executionResult_eq_ok.mp (artifact_of_recordReplay hrec).2
  rw [hfinal] at ha
  obtain ⟨record, -, rfl⟩ := Option.map_eq_some_iff.mp ha
  rfl

theorem config_of_consistent (hc : s.Consistent f) (hrerun : s.rerunOf f = .ok rerun) :
    ConfigContract f rerun.effectiveConfig rerun.scenarioDigest := by
  obtain ⟨hconfig, -, -⟩ := rerun_config hc hrerun
  obtain ⟨expected, hexpected, hsame⟩ := hc.summary
  obtain ⟨base, snapshotDigest, scenarioDigest, hbase, -, hscenario, rfl⟩ :=
    fixtureSummary_eq_ok.mp hexpected
  have hparts := summaryOf_summary hbase
  have hdigest : scenarioDigest = rerun.scenarioDigest :=
    Except.ok.inj (hscenario.symm.trans (rerun_scenarioDigest hrerun))
  have hversion := hsame.configSchemaVersion
  have hconfigDigest := hsame.configDigest
  have hscenarioDigest := hsame.scenarioDigest
  simp only [hparts.configVersion, hparts.configDigest, hparts.scenarioDigest, Option.or_none,
    hc.contract.identity] at hversion hconfigDigest hscenarioDigest
  rw [hconfig]
  exact ⟨rfl, hc.contract.identity, hc.contract.policy, hversion.symm, hconfigDigest.symm,
    hscenarioDigest.symm.trans hdigest, fun a ha => (hc.contract.snapshot a ha).2⟩

/- The summary of a consistent fixture, when its replay and its final snapshot are the
recording's. -/
theorem summary_of_consistent (hsame : s.SameSnapshots) (hc : s.Consistent f)
    (hrerun : s.rerunOf f = .ok rerun) (hrec : s.rerecord rerun build = .ok recorded)
    (hreplay : f.replayArtifact = recorded.artifact)
    (hsnapshot : f.snapshotArtifact = recorded.result.finalSnapshot) :
    SameParity f.summary
      { recorded.result.summary with scenarioDigest := rerun.scenarioDigest } := by
  obtain ⟨hsummary, -, -, -, hfinal⟩ := executionResult_eq_ok.mp (artifact_of_recordReplay hrec).2
  obtain ⟨expected, hexpected, hparity⟩ := hc.summary
  obtain ⟨base, snapshotDigest, scenarioDigest, hbase, hsnap, hscenario, rfl⟩ :=
    fixtureSummary_eq_ok.mp hexpected
  have hbase' : base = recorded.result.summary := by
    rw [hreplay] at hbase
    exact Except.ok.inj (hbase.symm.trans hsummary)
  have hdigest : scenarioDigest = rerun.scenarioDigest :=
    Except.ok.inj (hscenario.symm.trans (rerun_scenarioDigest hrerun))
  have hsnapDigest : snapshotDigest = recorded.result.summary.snapshotDigest := by
    rw [hsnapshot, hfinal] at hsnap
    exact Except.ok.inj (hsnap.symm.trans (finalSnapshot_digest hsame hsummary))
  have hnone := (summaryOf_summary hsummary).scenarioDigest
  subst hbase' hdigest hsnapDigest
  refine sameParity_trans (sameParity_symm hparity) ⟨rfl, rfl, rfl, rfl, rfl, rfl, ?_, ?_⟩
  · exact Option.or_self
  · simp only [hnone, Option.or_none]

end Consistent

/-! ### The verdict -/

section Verify
variable [SimulationState S Snapshot] [StateValidator V S] [Phase P S C Snapshot]
  [SimulationConfig Config] [DecidableEq C] [DecidableEq Snapshot] [DecidableEq Config]
  [Debug C] [Debug Snapshot] [Debug Config]
  {build : Seed → Config → Outcome (DeterministicEngine S C P V Snapshot)}
  {f : GoldenFixture C Snapshot Config} {rerun : Rerun C Config}
  {recorded : RecordedReplay C Snapshot} {result : GoldenFixtureResult}

/-- What has to agree for a verification to pass. -/
structure Passes (s : GoldenFixtureSerializer C Snapshot Config)
    (f : GoldenFixture C Snapshot Config) (rerun : Rerun C Config)
    (recorded : RecordedReplay C Snapshot) : Prop where
  config : ConfigContract f rerun.effectiveConfig rerun.scenarioDigest
  scenario : ∀ scenario ∈ f.scenarioArtifact,
    ScenarioContract f rerun.effectiveConfig scenario
  records : f.replayArtifact.records = recorded.artifact.records
  snapshot : compareOptionalSnapshotArtifacts f.snapshotArtifact recorded.result.finalSnapshot
    s.snapshotSerializer = .ok none
  summary : SameParity f.summary
    { recorded.result.summary with scenarioDigest := rerun.scenarioDigest }

theorem verifyFixture_eq_ok :
    s.verifyFixture f build = .ok result ↔ ∃ rerun recorded mismatch, s.rerunOf f = .ok rerun ∧
      s.rerecord rerun build = .ok recorded ∧
      compareOptionalSnapshotArtifacts f.snapshotArtifact recorded.result.finalSnapshot
        s.snapshotSerializer = .ok mismatch ∧
      result = s.report f rerun recorded mismatch := by
  simp only [verifyFixture, bind_eq_ok, orFail_eq_ok, pure_eq_ok]
  constructor
  · rintro ⟨rerun, h1, recorded, h2, mismatch, h3, rfl⟩
    exact ⟨rerun, recorded, mismatch, h1, h2, h3, rfl⟩
  · rintro ⟨rerun, recorded, mismatch, h1, h2, h3, rfl⟩
    exact ⟨rerun, h1, recorded, h2, mismatch, h3, rfl⟩

theorem report_passed {mismatch : Option String}
    (h : compareOptionalSnapshotArtifacts f.snapshotArtifact recorded.result.finalSnapshot
      s.snapshotSerializer = .ok mismatch) :
    (s.report f rerun recorded mismatch).passed = true ↔ s.Passes f rerun recorded := by
  have hreplay : (s.report f rerun recorded mismatch).replayMismatch = none ↔
      f.replayArtifact.records = recorded.artifact.records := by
    have hcompare : compareReplayTracesWithSnapshotDigest f.replayArtifact.records
        recorded.artifact.records s.snapshotSerializer.payloadDigest = .ok () ↔
          f.replayArtifact.records = recorded.artifact.records := compare_traces_eq_ok
    rw [← hcompare]
    simp only [report]
    split
    · rename_i hok
      simp [hok]
    · rename_i hbad
      simp [hbad]
  simp only [GoldenFixtureResult.passed, Bool.and_eq_true, Option.isNone_iff_eq_none, hreplay]
  simp only [report, compareFixtureConfigContract_eq_none, compareFixtureScenarioContract_eq_none,
    Option.map_eq_none_iff, firstMismatch_eq_none, compareParitySummaries_isMatch]
  constructor
  · rintro ⟨⟨⟨⟨⟨h1, h2⟩, h3⟩, rfl⟩, -⟩, h5⟩
    exact ⟨h1, h2, h3, h, h5⟩
  · rintro ⟨h1, h2, h3, h4, h5⟩
    rw [h, Except.ok.injEq] at h4
    exact ⟨⟨⟨⟨⟨h1, h2⟩, h3⟩, h4⟩, h5⟩, h5⟩

omit [DecidableEq C] [DecidableEq Config] [Debug C] [Debug Snapshot] [Debug Config] in
/- The conjunction of partial comparisons is total. -/
theorem passes_iff (hsame : s.SameSnapshots) (hw : s.Writable f)
    (htotals : TotalsMatch f.replayArtifact) (hc : s.Consistent f)
    (hrerun : s.rerunOf f = .ok rerun) (hrec : s.rerecord rerun build = .ok recorded) :
    s.Passes f rerun recorded ↔ f.replayArtifact = recorded.artifact ∧
      f.snapshotArtifact = recorded.result.finalSnapshot := by
  obtain ⟨b, hb⟩ := hw.replay
  have hown := (ReplayArtifactSerializer.encode_eq_ok'.mp hb).1.own
  obtain ⟨hconfig, hseed, -⟩ := rerun_config hc hrerun
  have hversion : ∀ a ∈ f.snapshotArtifact,
      a.metadata.artifactSchemaVersion = SNAPSHOT_ARTIFACT_SCHEMA_VERSION := by
    intro a ha
    obtain ⟨b, hb⟩ := hw.snapshot a ha
    exact (SnapshotArtifact.encodeSnapshotArtifactBytes_eq_ok.mp hb).1.version
  have hsnapshot : compareOptionalSnapshotArtifacts f.snapshotArtifact
      recorded.result.finalSnapshot s.snapshotSerializer = .ok none ↔
        f.snapshotArtifact = recorded.result.finalSnapshot :=
    compareOptionalSnapshotArtifacts_eq_none hversion fun a ha => finalSnapshot_version hrec ha
  constructor
  · intro h
    refine ⟨?_, hsnapshot.mp h.snapshot⟩
    have hartifact := (artifact_of_recordReplay hrec).1
    rw [← h.records] at hartifact
    rw [hartifact, hseed, ← h.config.policy, ← h.config.replayIdentity]
    exact ReplayArtifactSerializer.eq_artifactOf hown htotals
  · rintro ⟨hreplay, hsnap⟩
    refine ⟨config_of_consistent hc hrerun, ?_, by rw [hreplay], hsnapshot.mpr hsnap,
      summary_of_consistent hsame hc hrerun hrec hreplay hsnap⟩
    rw [hconfig]
    exact hc.scenario

end Verify

end GoldenFixtureSerializer

/-! ### The snapshot of a fixture -/

section Snapshot
variable {C Snapshot : Type}

/-- The replay artifact holds the snapshot. -/
def SnapshotRecorded (replay : ReplayArtifact C Snapshot) (a : SnapshotArtifact Snapshot) :
    Prop :=
  ∃ record ∈ replay.records, record.tick = a.metadata.snapshot.sourceTick ∧
    ∃ snapshot, record.snapshot = some snapshot ∧
      snapshot.reason = a.metadata.captureReason ∧
      snapshot.metadata = a.metadata.snapshot ∧ snapshot.payload = a.payload

/-- The replay has a tick of that number, its policy captures there for that reason, and
checksum and payload are those of that tick. -/
structure SnapshotExpected (replay : ReplayArtifact C Snapshot) (a : SnapshotArtifact Snapshot) :
    Prop where
  first : 1 ≤ a.metadata.snapshot.sourceTick
  last : a.metadata.snapshot.sourceTick.toNat ≤ replay.metadata.recordCount
  policy : replay.metadata.snapshotPolicy.shouldCapture a.metadata.snapshot.sourceTick =
    some a.metadata.captureReason
  checksum : ∀ record ∈ replay.records[a.metadata.snapshot.sourceTick.toNat - 1]?,
    a.metadata.snapshot.captureChecksum = record.checksum
  payload : ∀ record ∈ replay.records[a.metadata.snapshot.sourceTick.toNat - 1]?,
    ∀ snapshot ∈ record.snapshot, a.payload = snapshot.payload

section Legal
variable {replay : ReplayArtifact C Snapshot} {version : UInt32} {a : SnapshotArtifact Snapshot}
  (hlegal : LegalFrom replay.metadata.baseSeed replay.metadata.snapshotPolicy version 1
    replay.records)
  (hlength : replay.records.length ≤ USIZE_MAX)
include hlegal hlength

theorem tick_of_getElem {i : ℕ} {record : ReplayTickRecord C Snapshot}
    (hi : replay.records[i]? = some record) : record.tick.toNat = i + 1 := by
  have hlt := (List.getElem?_eq_some_iff.mp hi).1
  rw [legalFrom_get hlegal hi, UInt64.toNat_add, UInt64.toNat_ofNat']
  change (1 + i % 2 ^ 64) % 2 ^ 64 = i + 1
  unfold USIZE_MAX at hlength
  omega

/- The record of a tick stands at its number. -/
theorem getElem_of_tick {record : ReplayTickRecord C Snapshot} (hr : record ∈ replay.records) :
    replay.records[record.tick.toNat - 1]? = some record ∧ 1 ≤ record.tick.toNat ∧
      record.tick.toNat ≤ replay.records.length := by
  obtain ⟨i, hi⟩ := List.getElem?_of_mem hr
  have hlt := (List.getElem?_eq_some_iff.mp hi).1
  have hat := tick_of_getElem hlegal hlength hi
  rw [hat]
  exact ⟨hi, Nat.succ_le_succ (Nat.zero_le i), hlt⟩

theorem snapshotRecorded_iff (ht : TotalsMatch replay)
    (hversion : a.metadata.snapshot.payloadSchemaVersion = version) :
    SnapshotRecorded replay a ↔ SnapshotExpected replay a := by
  obtain ⟨hcount, -⟩ := ht
  constructor
  · rintro ⟨record, hr, hsource, snapshot, hs, hreason, hmeta, hpayload⟩
    have hrecord := legalFrom_mem hlegal hr
    obtain ⟨hget, hfirst, hlast⟩ := getElem_of_tick hlegal hlength hr
    rw [hsource] at hget hfirst hlast
    have hown := hrecord.metadata snapshot hs
    refine ⟨?_, ?_, ?_, ?_, ?_⟩
    · rw [UInt64.le_iff_toNat_le]
      exact hfirst
    · rw [hcount]
      exact hlast
    · rw [← hsource, ← hrecord.reason, hs, Option.map_some, hreason]
    · intro other hother
      obtain rfl := Option.some.inj (hget.symm.trans hother)
      rw [← hmeta, hown]
    · intro other hother snapshot' hs'
      obtain rfl := Option.some.inj (hget.symm.trans hother)
      obtain rfl := Option.some.inj (hs.symm.trans hs')
      exact hpayload.symm
  · rintro ⟨hfirst, hlast, hpolicy, hchecksum, hpayload⟩
    rw [UInt64.le_iff_toNat_le] at hfirst
    have hpos : 1 ≤ a.metadata.snapshot.sourceTick.toNat := hfirst
    rw [hcount] at hlast
    obtain ⟨record, hget⟩ : ∃ record,
        replay.records[a.metadata.snapshot.sourceTick.toNat - 1]? = some record :=
      ⟨_, List.getElem?_eq_getElem (by omega)⟩
    have hr := List.mem_of_getElem? hget
    have hat := tick_of_getElem hlegal hlength hget
    have hsource : record.tick = a.metadata.snapshot.sourceTick :=
      UInt64.toNat_inj.mp (by omega)
    have hrecord := legalFrom_mem hlegal hr
    have hreason := hrecord.reason
    rw [hsource, hpolicy, Option.map_eq_some_iff] at hreason
    obtain ⟨snapshot, hs, hsame⟩ := hreason
    refine ⟨record, hr, hsource, snapshot, hs, hsame, ?_, (hpayload record hget snapshot hs).symm⟩
    rw [hrecord.metadata snapshot hs, hsource, ← hchecksum record hget, ← hversion]

/- The record of that number holds the snapshot. -/
theorem snapshotRecorded_get (h : SnapshotRecorded replay a) : ∃ record snapshot,
    replay.records[a.metadata.snapshot.sourceTick.toNat - 1]? = some record ∧
      record.snapshot = some snapshot := by
  obtain ⟨record, hr, hsource, snapshot, hs, -⟩ := h
  obtain ⟨hget, -⟩ := getElem_of_tick hlegal hlength hr
  rw [hsource] at hget
  exact ⟨record, snapshot, hget, hs⟩

end Legal

end Snapshot

end XenorEngine.Rust
