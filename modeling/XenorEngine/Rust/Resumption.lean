import Mathlib.Data.List.TakeWhile
import XenorEngine.Rust.ReplayPrefixes

/-!
# What resuming checks

A resume checks the records after its snapshot and takes those before it as they are.
So a replay can be verified piece by piece, cut at its snapshots.
-/

namespace XenorEngine.Rust
open XenorEngine.Lib.Fallible XenorEngine.Lib.Runs
open ReplayArtifactSerializer (orFail_eq_ok)
open DeterministicEngine

/- Only the policy of an interval captures, and its reason names the interval. -/
theorem shouldCapture_eq_some {policy : SnapshotPolicy} {tick : Tick}
    {reason : SnapshotCaptureReason} (h : policy.shouldCapture tick = some reason) :
    ∃ interval, policy = .every interval ∧ reason = .policyInterval interval := by
  cases policy with
  | never => cases h
  | manual => cases h
  | every interval =>
    obtain ⟨-, hreason⟩ := Option.ite_none_right_eq_some.mp h
    exact ⟨interval, rfl, (Option.some.inj hreason).symm⟩

theorem shouldCapture_inj {policy policy' : SnapshotPolicy} {tick : Tick}
    {reason : SnapshotCaptureReason} (h : policy.shouldCapture tick = some reason)
    (h' : policy'.shouldCapture tick = some reason) : policy = policy' := by
  obtain ⟨interval, rfl, hreason⟩ := shouldCapture_eq_some h
  obtain ⟨interval', rfl, hreason'⟩ := shouldCapture_eq_some h'
  rw [hreason] at hreason'
  rw [SnapshotCaptureReason.policyInterval.inj hreason']

section Source
variable {C Snapshot : Type}

theorem sourceRecord_iff {a : ReplayArtifact C Snapshot} {tick : Tick}
    {record : ReplayTickRecord C Snapshot} {continuation : List (ReplayTickRecord C Snapshot)} :
    sourceRecord a tick = .ok (record, continuation) ↔ ∃ before,
      a.records = before ++ record :: continuation ∧ record.tick = tick ∧
        ∀ r ∈ before, r.tick ≠ tick := by
  constructor
  · intro h
    let other : ReplayTickRecord C Snapshot → Bool := fun r => decide (r.tick ≠ tick)
    have hsplit : a.records.takeWhile other ++ a.records.dropWhile other = a.records :=
      List.takeWhile_append_dropWhile
    have hhead := List.head?_dropWhile_not other a.records
    unfold sourceRecord at h
    cases hdrop : a.records.dropWhile other with
    | nil =>
      rw [hdrop] at h
      exact absurd h throw_ne_ok
    | cons first rest =>
      rw [hdrop] at h hsplit hhead
      obtain ⟨rfl, rfl⟩ := Prod.mk.inj (pure_eq_ok.mp h)
      refine ⟨_, hsplit.symm, by simpa [other] using hhead, fun r hr => ?_⟩
      simpa [other] using List.mem_takeWhile_imp hr
  · rintro ⟨before, hrecords, rfl, hbefore⟩
    exact sourceRecord_eq_ok hrecords hbefore

/- A legal record stands at the place its tick says. -/
theorem legalFrom_place {seed : Seed} {policy : SnapshotPolicy} {version : UInt32}
    {before continuation : List (ReplayTickRecord C Snapshot)}
    {record : ReplayTickRecord C Snapshot}
    (h : LegalFrom seed policy version 1 (before ++ record :: continuation)) :
    record.tick = 1 + UInt64.ofNat before.length :=
  legalFrom_get h (by rw [List.getElem?_append_right (le_refl _), Nat.sub_self]; rfl)

theorem snapshotArtifactAtTick_split {Config S P V : Type}
    {sim : Simulation Config S C P V Snapshot} {a : ReplayArtifact C Snapshot}
    {before continuation : List (ReplayTickRecord C Snapshot)}
    {record : ReplayTickRecord C Snapshot} {snapshot : SnapshotRecord Snapshot}
    (ha : a.records = before ++ record :: continuation)
    (hbefore : ∀ r ∈ before, r.tick ≠ record.tick) (hs : record.snapshot = some snapshot) :
    sim.snapshotArtifactAtTick a record.tick = .ok (sim.snapshotArtifactCodec.buildArtifact
      a.metadata.baseSeed a.metadata.configIdentity snapshot) := by
  have hnone : before.find? (·.tick = record.tick) = none := by
    simpa [List.find?_eq_none] using hbefore
  have hfind : a.records.find? (·.tick = record.tick) = some record := by
    rw [ha, List.find?_append, hnone, Option.none_or, List.find?_cons_of_pos (by simp)]
  simp only [Simulation.snapshotArtifactAtTick, hfind, Option.bind_some, hs, okOr]
  rfl

end Source

def SnapshotArtifact.withVersion {Snapshot : Type} (artifact : SnapshotArtifact Snapshot)
    (version : UInt32) : SnapshotArtifact Snapshot :=
  { artifact with metadata := { artifact.metadata with artifactSchemaVersion := version } }

section WellFormed
variable {S C Snapshot : Type} [SimulationState S Snapshot]
  {serializer : ReplayArtifactSerializer C Snapshot} {a : ReplayArtifact C Snapshot}

/-- A replay that can be written and that every execution takes as well formed. -/
structure WellFormed (S : Type) {C Snapshot : Type} [SimulationState S Snapshot]
    (serializer : ReplayArtifactSerializer C Snapshot) (a : ReplayArtifact C Snapshot) : Prop where
  valid : serializer.Valid a
  accepted : validateReplayArtifactForState S a = .ok ()

theorem WellFormed.truncate (h : WellFormed S serializer a) (k : ℕ) :
    WellFormed S serializer (a.truncate k) := by
  obtain ⟨hversion, ⟨hlegal, -⟩, hpayloads⟩ :=
    validateReplayArtifactForState_eq_ok.mp h.accepted
  have hshort : LegalFrom a.metadata.baseSeed a.metadata.snapshotPolicy
      a.metadata.snapshotPayloadSchemaVersion 1 (a.records.take k) := by
    refine legalFrom_iff.mpr fun i record hi => legalFrom_iff.mp hlegal i record ?_
    rw [List.getElem?_take] at hi
    exact (Option.ite_none_right_eq_some.mp hi).2
  refine ⟨⟨⟨?_, ?_, ?_, ?_⟩, hshort, ?_⟩,
    validateReplayArtifactForState_eq_ok.mpr ⟨hversion, ⟨hshort, rfl, rfl⟩, ?_⟩⟩
  · exact h.valid.own.version
  · exact h.valid.own.family
  · exact h.valid.own.command
  · exact h.valid.own.snapshot
  · exact fun record hr => h.valid.writable record (List.mem_of_mem_take hr)
  · exact fun record hr => hpayloads record (List.mem_of_mem_take hr)

/- Nothing looks at the phases of a record. -/
theorem WellFormed.withMarkers (h : WellFormed S serializer a)
    {first : ReplayTickRecord C Snapshot} {rest : List (ReplayTickRecord C Snapshot)}
    (hrecords : a.records = first :: rest) (markers : List PhaseMarker) :
    WellFormed S serializer
      { a with records := { first with phaseMarkers := markers } :: rest } := by
  obtain ⟨hversion, ⟨hlegal, htotals⟩, hpayloads⟩ :=
    validateReplayArtifactForState_eq_ok.mp h.accepted
  have hwritable := h.valid.writable
  have hcount := htotals.recordCount
  have hticks := htotals.totalTicks
  rw [hrecords] at hlegal hpayloads hwritable hcount hticks
  obtain ⟨hfirst, hrest⟩ := hlegal
  obtain ⟨hfirstPayload, hrestPayloads⟩ := List.forall_mem_cons.mp hpayloads
  obtain ⟨hfirstWritable, hrestWritable⟩ := List.forall_mem_cons.mp hwritable
  have hchanged : LegalFrom a.metadata.baseSeed a.metadata.snapshotPolicy
      a.metadata.snapshotPayloadSchemaVersion 1 ({ first with phaseMarkers := markers } :: rest) :=
    ⟨⟨hfirst.tick_eq, hfirst.input_tick, hfirst.seed, hfirst.ordered, hfirst.stateTick,
      hfirst.reason, hfirst.metadata⟩, hrest⟩
  refine ⟨⟨h.valid.own, hchanged, ?_⟩,
    validateReplayArtifactForState_eq_ok.mpr ⟨hversion, ⟨hchanged, hcount, ?_⟩, ?_⟩⟩
  · exact List.forall_mem_cons.mpr ⟨⟨hfirstWritable.command, hfirstWritable.snapshot⟩,
      hrestWritable⟩
  · rw [hticks]
    cases rest <;> rfl
  · exact List.forall_mem_cons.mpr ⟨hfirstPayload, hrestPayloads⟩

end WellFormed

/-! ### The execution -/

section Execution
variable {S C P V Snapshot : Type} [SimulationState S Snapshot] [StateValidator V S]
  [Phase P S C Snapshot] [PurePhase P S C Snapshot] [QuietPhase P S C Snapshot]
  [Debug C] [Debug Snapshot] [DecidableEq C] [DecidableEq Snapshot]
  {build : Seed → SnapshotPolicy → Outcome (DeterministicEngine S C P V Snapshot)}
  {serializer : ReplayArtifactSerializer C Snapshot} {identity : ConfigIdentity}
  {e : DeterministicEngine S C P V Snapshot}

/-- The snapshot of `source` is recorded in `a`, and what follows it is what the engine
does from there. -/
structure ResumesFrom (e : DeterministicEngine S C P V Snapshot) (identity : ConfigIdentity)
    (source : SnapshotArtifact Snapshot) (a : ReplayArtifact C Snapshot)
    (before : List (ReplayTickRecord C Snapshot)) (record : ReplayTickRecord C Snapshot)
    (continuation : List (ReplayTickRecord C Snapshot)) (mid s' : S) : Prop where
  family : source.metadata.engineFamily = a.metadata.engineFamily
  config : a.metadata.configIdentity = identity
  sourceOk : validateSnapshotArtifact S source a.metadata.baseSeed identity = .ok ()
  records : a.records = before ++ record :: continuation
  tick : record.tick = source.metadata.snapshot.sourceTick
  earlier : ∀ r ∈ before, r.tick ≠ source.metadata.snapshot.sourceTick
  snapshot : record.snapshot =
    some ⟨source.metadata.snapshot, source.metadata.captureReason, source.payload⟩
  head : ∀ first ∈ continuation.head?, first.tick = saturatingAddU64 record.tick 1
  restored : SimulationState.restoreSnapshot e.state source.payload = .ok mid
  midTick : SimulationState.tick mid = record.tick
  rest : e.machine.run mid (continuation.map (·.input)) = .ok (s', continuation)

omit [SimulationState S Snapshot] [StateValidator V S] [Phase P S C Snapshot]
  [PurePhase P S C Snapshot] [QuietPhase P S C Snapshot] [Debug C] [Debug Snapshot]
  [DecidableEq C] [DecidableEq Snapshot] in
theorem head_check {continuation : List (ReplayTickRecord C Snapshot)} {expectedTick : Tick} :
    (match continuation.head? with
      | some first => rejectIf (first.tick ≠ expectedTick)
          (EngineError.resumeTickMismatch expectedTick first.tick)
      | none => pure ()) = .ok () ↔ ∀ first ∈ continuation.head?, first.tick = expectedTick := by
  cases continuation with
  | nil =>
    simp only [List.head?_nil, Option.mem_def, reduceCtorEq, false_implies, implies_true, iff_true]
    rfl
  | cons first rest =>
    simp only [List.head?_cons, rejectIf_eq_ok, ne_eq, not_not, Option.mem_def, Option.some.injEq,
      forall_eq']

/- The engine repeats the records from a state exactly when its machine does. -/
theorem repeats_iff {mid : S} (hs : e.scheduler.Ordered) (hidle : e.replayLog = .default)
    {continuation : List (ReplayTickRecord C Snapshot)} :
    (∃ e', tickFrames { e with state := mid } (continuation.map (·.input)) = .ok e' ∧
        compareRecords serializer continuation e'.replayRecords = .ok ()) ↔
      ∃ s', e.machine.run mid (continuation.map (·.input)) = .ok (s', continuation) := by
  have hticks : ∀ e', tickFrames { e with state := mid } (continuation.map (·.input)) = .ok e' ↔
      ∃ s' records, e.machine.run mid (continuation.map (·.input)) = .ok (s', records) ∧
        e' = { e with state := mid }.advance s' records := fun e' =>
    tickFrames_eq_ok (e := { e with state := mid }) hs hidle
  have hrecords : ∀ s' records, ({ e with state := mid }.advance s' records).replayRecords =
      records := fun s' records =>
    replayRecords_advance (e := { e with state := mid }) hidle s' records
  constructor
  · rintro ⟨e', hticked, hsame⟩
    obtain ⟨s', records, hrun, rfl⟩ := (hticks e').mp hticked
    rw [hrecords, compareRecords_eq_ok] at hsame
    subst hsame
    exact ⟨s', hrun⟩
  · rintro ⟨s', hrun⟩
    refine ⟨_, (hticks _).mpr ⟨s', continuation, hrun, rfl⟩, ?_⟩
    rw [hrecords, compareRecords_eq_ok]

theorem exists_executeReplayFromSnapshot {source : SnapshotArtifact Snapshot}
    {a : ReplayArtifact C Snapshot}
    (hb : Builds build a.metadata.baseSeed a.metadata.snapshotPolicy e) :
    (∃ result, executeReplayFromSnapshot build serializer source a identity = .ok result) ↔
      WellFormed S serializer a ∧ ∃ before record continuation mid s',
        ResumesFrom e identity source a before record continuation mid s' := by
  have hchecked := buildChecked_eq_ok.mpr ⟨hb.builds, hb.seed⟩
  simp only [executeReplayFromSnapshot, hchecked, ok_bind, bind_eq_ok, orFail_eq_ok,
    Unique.exists_iff, PUnit.default_eq_unit, validateReplayConfigIdentity, rejectIf_eq_ok, ne_eq,
    not_not, not_or, okOr_eq_ok, pure_eq_ok, Prod.exists, sourceRecord_iff]
  constructor
  · rintro ⟨result, hfamily, hconfig, hsource, record, continuation, ⟨before, hrecords, htick,
      hearlier⟩, snapshot, hsnapshot, ⟨hreason, hmetadata, hpayload⟩, hhead, haccepted, restored,
      hrestore, hmid, _, hticks, hsame, summary, hsummary, -⟩
    obtain ⟨mid, hmidState, rfl⟩ := restoreSnapshot_ok hrestore
    obtain ⟨s', hrun⟩ := (repeats_iff hb.ordered hb.nothingRecorded).mp ⟨_, hticks, hsame⟩
    refine ⟨⟨ReplayArtifactSerializer.valid_of_summary hsummary, haccepted⟩, before, record,
      continuation, mid, s', hfamily, hconfig, hsource, hrecords, htick, hearlier, ?_, ?_,
      hmidState, hmid.trans htick.symm, hrun⟩
    · rw [hsnapshot, ← hreason, ← hmetadata, ← hpayload]
    · rw [htick]
      exact head_check.mp hhead
  · rintro ⟨⟨hvalid, haccepted⟩, before, record, continuation, mid, s', h⟩
    obtain ⟨summary, hsummary⟩ := ReplayArtifactSerializer.exists_summary hvalid
    obtain ⟨e', hticks, hsame⟩ := (repeats_iff hb.ordered hb.nothingRecorded).mpr ⟨s', h.rest⟩
    refine ⟨_, h.family, h.config, h.sourceOk, record, continuation,
      ⟨before, h.records, h.tick, h.earlier⟩, _, h.snapshot, ⟨rfl, rfl, rfl⟩,
      head_check.mpr (h.tick ▸ h.head), haccepted, { e with state := mid }, ?_,
      h.midTick.trans h.tick, e', hticks, hsame, summary, hsummary, rfl⟩
    simp only [restoreSnapshot, h.restored]
    rfl

end Execution

/-! ### Simulations -/

namespace Simulation
variable {Config S C P V Snapshot : Type} {sim : Simulation Config S C P V Snapshot}
  [SimulationState S Snapshot] [LawfulSimulationState S Snapshot] [StateValidator V S]
  [Phase P S C Snapshot] [PurePhase P S C Snapshot] [QuietPhase P S C Snapshot]
  [SimulationConfig Config] [DecidableEq C] [DecidableEq Snapshot] [Debug C] [Debug Snapshot]
  {fits : Config → Prop}

def Verifies (sim : Simulation Config S C P V Snapshot) (config : Config)
    (a : ReplayArtifact C Snapshot) : Prop :=
  ∃ result, sim.verifyReplayWithConfig config a = .ok result

def Resumes (sim : Simulation Config S C P V Snapshot) (config : Config)
    (source : SnapshotArtifact Snapshot) (a : ReplayArtifact C Snapshot) : Prop :=
  ∃ result, sim.resumeReplayFromSnapshotWithConfig config source a = .ok result

/-- The replay resumes at its own snapshot of record `k`. -/
def ResumesAt (sim : Simulation Config S C P V Snapshot) (config : Config)
    (a : ReplayArtifact C Snapshot) (k : ℕ) : Prop :=
  ∃ record source, a.records[k]? = some record ∧
    sim.snapshotArtifactAtTick a record.tick = .ok source ∧ sim.Resumes config source a

/-- Each piece resumes at the snapshot before it, up to the first, which is verified from
the start. The cuts come from the end of the replay. -/
def PiecesVerify (sim : Simulation Config S C P V Snapshot) (config : Config) :
    ReplayArtifact C Snapshot → List ℕ → Prop
  | a, [] => sim.Verifies config a
  | a, k :: cuts => sim.ResumesAt config a k ∧ PiecesVerify sim config (a.truncate (k + 1)) cuts

omit [LawfulSimulationState S Snapshot] [PurePhase P S C Snapshot]
  [QuietPhase P S C Snapshot] in
theorem Verifies.validate (hl : sim.Lawful fits) {config : Config}
    {a : ReplayArtifact C Snapshot} (h : sim.Verifies config a) :
    sim.validate config = .ok () := by
  obtain ⟨result, hresult⟩ := h
  simp only [verifyReplayWithConfig, bind_eq_ok, orFail_eq_ok, buildConfigArtifact_eq_ok hl]
    at hresult
  obtain ⟨_, ⟨hvalid, -⟩, -⟩ := hresult
  exact hvalid

section Cut
variable {config : Config} {a : ReplayArtifact C Snapshot}
  {e : DeterministicEngine S C P V Snapshot} {Inv : S → Prop}

omit [LawfulSimulationState S Snapshot] in
theorem verifies_iff (hl : sim.Lawful fits) (hvalid : sim.validate config = .ok ())
    (hruns : Runs (fun seed _ => sim.buildEngineInternal seed config) sim.replayArtifactCodec
      a.metadata.baseSeed (SimulationConfig.snapshotPolicy config) e Inv) :
    sim.Verifies config a ↔ a.metadata.configIdentity = sim.identityOf config ∧
      WellFormed S sim.replayArtifactCodec a ∧
      ∃ s', e.machine.run e.state (a.records.map (·.input)) = .ok (s', a.records) := by
  have hb : Builds (fun seed _ => sim.buildEngineInternal seed config) a.metadata.baseSeed
      a.metadata.snapshotPolicy e :=
    ⟨hruns.builds, hruns.seed, hruns.traceable.ordered, hruns.traceable.nothingRecorded⟩
  have hbuild := (buildConfigArtifact_eq_ok hl).mpr ⟨hvalid, rfl⟩
  simp only [Verifies, verifyReplayWithConfig, hbuild]
  constructor
  · rintro ⟨result, hverify⟩
    obtain ⟨haccepted, hidentity, hrun, hresult⟩ := (executeReplayVerify_eq_ok hb).mp hverify
    exact ⟨hidentity, ⟨ReplayArtifactSerializer.valid_of_summary
      (ReplayArtifactSerializer.executionResult_eq_ok.mp hresult).1, haccepted⟩, hrun⟩
  · rintro ⟨hidentity, hwell, hrun⟩
    obtain ⟨result, hresult⟩ :=
      ReplayArtifactSerializer.exists_executionResult .replayVerify hwell.valid
    exact ⟨result, (executeReplayVerify_eq_ok hb).mpr ⟨hwell.accepted, hidentity, hrun, hresult⟩⟩

omit [LawfulSimulationState S Snapshot] in
theorem resumes_iff (hl : sim.Lawful fits) (hvalid : sim.validate config = .ok ())
    (hruns : Runs (fun seed _ => sim.buildEngineInternal seed config) sim.replayArtifactCodec
      a.metadata.baseSeed (SimulationConfig.snapshotPolicy config) e Inv)
    {source : SnapshotArtifact Snapshot} :
    sim.Resumes config source a ↔ WellFormed S sim.replayArtifactCodec a ∧
      ∃ before record continuation mid s',
        ResumesFrom e (sim.identityOf config) source a before record continuation mid s' := by
  have hb : Builds (fun seed _ => sim.buildEngineInternal seed config) a.metadata.baseSeed
      a.metadata.snapshotPolicy e :=
    ⟨hruns.builds, hruns.seed, hruns.traceable.ordered, hruns.traceable.nothingRecorded⟩
  have hbuild := (buildConfigArtifact_eq_ok hl).mpr ⟨hvalid, rfl⟩
  rw [← exists_executeReplayFromSnapshot hb]
  simp only [Resumes, resumeReplayFromSnapshotWithConfig, hbuild]
  rfl

variable {before continuation : List (ReplayTickRecord C Snapshot)}
  {record : ReplayTickRecord C Snapshot} {snapshot : SnapshotRecord Snapshot}

omit [PurePhase P S C Snapshot] [QuietPhase P S C Snapshot] [DecidableEq C]
  [DecidableEq Snapshot] [Debug C] [Debug Snapshot] in
theorem resumesFrom_of_cut (hl : sim.Lawful fits) {mid s' : S}
    (hwell : WellFormed S sim.replayArtifactCodec a)
    (hidentity : a.metadata.configIdentity = sim.identityOf config)
    (ha : a.records = before ++ record :: continuation) (hs : record.snapshot = some snapshot)
    (hcut : CutRun e s' mid before record continuation) :
    ResumesFrom e (sim.identityOf config) (sim.snapshotArtifactCodec.buildArtifact
      a.metadata.baseSeed a.metadata.configIdentity snapshot) a before record continuation mid
      s' := by
  obtain ⟨hpayload, hmeta⟩ := hcut.payload snapshot hs
  have htick : record.tick = snapshot.metadata.sourceTick := by rw [hmeta]
  refine ⟨?_, hidentity, ?_, ha, htick, ?_, hs, hcut.head, ?_, hcut.tick, hcut.rest⟩
  · rw [hl.snapshotCodec]
    exact hwell.valid.own.family.symm
  · rw [hl.snapshotCodec, hidentity]
    change validateSnapshotArtifact S (sim.replayArtifactCodec.buildSnapshotArtifact
      a.metadata.baseSeed (sim.identityOf config) snapshot) _ _ = _
    exact validateSnapshotArtifact_cut hcut.tick hcut.checksum hpayload hmeta
  · intro r hr
    exact htick ▸ hcut.earlier r hr
  · change SimulationState.restoreSnapshot e.state snapshot.payload = .ok mid
    rw [hpayload]
    exact hcut.restores e.state

/- A run up to a snapshot, and a resume there: together they are the whole run. -/
theorem verifies_iff_cut (hl : sim.Lawful fits)
    (ha : a.records = before ++ record :: continuation) (hs : record.snapshot = some snapshot) :
    sim.Verifies config a ↔ sim.ResumesAt config a before.length ∧
      sim.Verifies config (a.truncate (before.length + 1)) := by
  have hget : a.records[before.length]? = some record := by
    rw [ha, List.getElem?_append_right (le_refl _), Nat.sub_self]
    rfl
  have htake : (a.truncate (before.length + 1)).records = before ++ [record] := by
    change a.records.take (before.length + 1) = _
    rw [ha, List.take_length_add_append]
    rfl
  constructor
  · intro hverifies
    have hvalid := hverifies.validate hl
    obtain ⟨e, Inv, hruns⟩ := hl.runs config a.metadata.baseSeed hvalid
    obtain ⟨hidentity, hwell, s', hrun⟩ := (verifies_iff hl hvalid hruns).mp hverifies
    obtain ⟨short, hshort, -⟩ := run_split (before.length + 1) hrun
    rw [ha] at hrun
    obtain ⟨mid, hcut⟩ := hruns.cut hrun
    refine ⟨⟨record, _, hget, snapshotArtifactAtTick_split ha hcut.earlier hs,
      (resumes_iff hl hvalid hruns).mpr ⟨hwell, before, record, continuation, mid, s',
        resumesFrom_of_cut hl hwell hidentity ha hs hcut⟩⟩, ?_⟩
    refine (verifies_iff (a := a.truncate (before.length + 1)) hl hvalid hruns).mpr
      ⟨hidentity, hwell.truncate _, short, ?_⟩
    rw [← List.map_take] at hshort
    exact hshort
  · rintro ⟨⟨record', source, hrecord', hsource, hresumes⟩, hverifies⟩
    obtain rfl : record = record' := Option.some.inj (hget.symm.trans hrecord')
    have hvalid := hverifies.validate hl
    obtain ⟨e, Inv, hruns⟩ := hl.runs config a.metadata.baseSeed hvalid
    obtain ⟨hidentity, -, s1, hhead⟩ :=
      (verifies_iff (a := a.truncate (before.length + 1)) hl hvalid hruns).mp hverifies
    rw [htake] at hhead
    obtain ⟨mid, hcut⟩ := hruns.cut hhead
    obtain ⟨rfl, -⟩ := run_nil_ok.mp hcut.rest
    rw [snapshotArtifactAtTick_split ha hcut.earlier hs] at hsource
    obtain rfl := Except.ok.inj hsource
    obtain ⟨hwell, before', record', continuation', mid', s', hfrom⟩ :=
      (resumes_iff hl hvalid hruns).mp hresumes
    obtain ⟨hpayload, hmeta⟩ := hcut.payload snapshot hs
    have htick : snapshot.metadata.sourceTick = record.tick := by rw [hmeta]
    -- both executions start their tails at the same record
    have hsame : sourceRecord a record.tick = .ok (record', continuation') :=
      sourceRecord_iff.mpr ⟨before', hfrom.records, hfrom.tick.trans htick,
        htick ▸ hfrom.earlier⟩
    rw [sourceRecord_eq_ok ha hcut.earlier] at hsame
    obtain ⟨rfl, rfl⟩ := Prod.mk.inj (Except.ok.inj hsame)
    have hrestored : SimulationState.restoreSnapshot e.state snapshot.payload = .ok mid' :=
      hfrom.restored
    rw [hpayload, hcut.restores] at hrestored
    obtain rfl := Except.ok.inj hrestored
    refine (verifies_iff hl hvalid hruns).mpr ⟨hidentity, hwell, s', ?_⟩
    have hwhole : a.records = (before ++ [record]) ++ continuation := by
      rw [ha, List.append_assoc]
      rfl
    rw [hwhole, List.map_append]
    exact run_append_ok.mpr ⟨_, _, _, hhead, hfrom.rest, rfl⟩

/- What a resume returns is what verifying the whole replay returns. -/
theorem resumes_with_result (hl : sim.Lawful fits) {result : ReplayExecutionResult Snapshot}
    (hverify : sim.verifyReplayWithConfig config a = .ok result) (hr : record ∈ a.records)
    (hs : record.snapshot = some snapshot) :
    ∃ source, sim.snapshotArtifactAtTick a record.tick = .ok source ∧
      source.payload = snapshot.payload ∧ sim.resumeReplayFromSnapshotWithConfig config source a =
        .ok { result with mode := .replayFromSnapshot record.tick } := by
  have hverifies : sim.Verifies config a := ⟨result, hverify⟩
  have hvalid := hverifies.validate hl
  obtain ⟨e, Inv, hruns⟩ := hl.runs config a.metadata.baseSeed hvalid
  obtain ⟨-, hwell, s', hrun⟩ := (verifies_iff hl hvalid hruns).mp hverifies
  obtain ⟨recorded, hrec, hartifact, ha⟩ := recorded_of_verified hl hverify
  -- the captured snapshot names the policy
  have hpolicy : a.metadata.snapshotPolicy = SimulationConfig.snapshotPolicy config := by
    have hown := (legalFrom_mem hwell.valid.legal hr).reason
    have hengine := (legalFrom_mem (hruns.legal hrun) hr).reason
    rw [hs] at hown hengine
    exact shouldCapture_inj hown.symm hengine.symm
  have hsame : recorded.artifact = a := by rw [hartifact, ← hpolicy, ← ha]
  have hagain := verifyReplayWithConfig_recorded hl hrec
  rw [hsame, hverify] at hagain
  rw [← hsame] at hr ⊢
  rw [Except.ok.inj hagain]
  exact resumeReplayWithConfig_recorded hl hrec hr hs

/- A resume goes by what is recorded, not by the version of the artifact. -/
omit [LawfulSimulationState S Snapshot] [PurePhase P S C Snapshot] [QuietPhase P S C Snapshot]
  [DecidableEq C] [DecidableEq Snapshot] [Debug C] [Debug Snapshot] in
theorem extracted_of_resumesFrom (hl : sim.Lawful fits) {source : SnapshotArtifact Snapshot}
    {mid s' : S} (hwell : WellFormed S sim.replayArtifactCodec a)
    (h : ResumesFrom e (sim.identityOf config) source a before record continuation mid s') :
    ∃ extracted, sim.snapshotArtifactAtTick a record.tick = .ok extracted ∧
      source = extracted.withVersion source.metadata.artifactSchemaVersion := by
  have hsource := h.sourceOk
  simp only [validateSnapshotArtifact, bind_eq_ok, rejectIf_eq_ok, exists_const, ne_eq, not_not]
    at hsource
  obtain ⟨hseed, hidentity, -⟩ := hsource
  refine ⟨_, snapshotArtifactAtTick_split h.records (h.tick ▸ h.earlier) h.snapshot, ?_⟩
  have hfamily := h.family.trans hwell.valid.own.family
  have hconfig := hidentity.trans h.config.symm
  rw [hl.snapshotCodec]
  obtain ⟨⟨version, family, seed, identity, reason, metadata⟩, payload⟩ := source
  obtain rfl : family = _ := hfamily
  obtain rfl : seed = _ := hseed
  obtain rfl : identity = _ := hconfig
  rfl

end Cut

/- The induction is on the cuts; every cut of the rest lies before this one. -/
theorem verifies_iff_pieces (hl : sim.Lawful fits) {config : Config}
    {a : ReplayArtifact C Snapshot} {cuts : List ℕ} (hdown : cuts.Pairwise (· > ·))
    (hcaptured : ∀ k ∈ cuts, ∃ record snapshot, a.records[k]? = some record ∧
      record.snapshot = some snapshot) :
    sim.Verifies config a ↔ sim.PiecesVerify config a cuts := by
  induction cuts generalizing a with
  | nil => rfl
  | cons k cuts ih =>
    obtain ⟨hlast, hrest⟩ := List.pairwise_cons.mp hdown
    obtain ⟨record, snapshot, hget, hs⟩ := hcaptured k List.mem_cons_self
    obtain ⟨hk, hrecord⟩ := List.getElem?_eq_some_iff.mp hget
    have ha : a.records = a.records.take k ++ record :: a.records.drop (k + 1) := by
      rw [← hrecord, List.cons_getElem_drop_succ, List.take_append_drop]
    have hlen : (a.records.take k).length = k := by
      rw [List.length_take]
      omega
    have hcut : sim.Verifies config a ↔ _ := verifies_iff_cut hl ha hs
    rw [hlen] at hcut
    rw [hcut, PiecesVerify]
    refine and_congr_right fun _ => ih hrest fun j hj => ?_
    obtain ⟨record', snapshot', hget', hs'⟩ := hcaptured j (List.mem_cons_of_mem _ hj)
    refine ⟨record', snapshot', ?_, hs'⟩
    change (a.records.take (k + 1))[j]? = _
    rw [List.getElem?_take_of_lt (by have := hlast j hj; omega)]
    exact hget'

/-- A replay can be verified piece by piece. -/
structure VerifiesInPieces (sim : Simulation Config S C P V Snapshot) : Prop where
  /- Wherever it is cut at snapshots, the pieces together verify what the whole does. -/
  pieces : ∀ (config : Config) (a : ReplayArtifact C Snapshot) (cuts : List ℕ),
    cuts.Pairwise (· > ·) → (∀ k ∈ cuts, ∃ record snapshot, a.records[k]? = some record ∧
      record.snapshot = some snapshot) →
    (sim.Verifies config a ↔ sim.PiecesVerify config a cuts)
  /- The piece up to the end returns what verifying the whole does. -/
  result : ∀ (config : Config) (a : ReplayArtifact C Snapshot)
    (result : ReplayExecutionResult Snapshot), sim.verifyReplayWithConfig config a = .ok result →
    ∀ record ∈ a.records, ∀ snapshot ∈ record.snapshot, ∃ source,
      sim.snapshotArtifactAtTick a record.tick = .ok source ∧
      source.payload = snapshot.payload ∧ sim.resumeReplayFromSnapshotWithConfig config source a =
        .ok { result with mode := .replayFromSnapshot record.tick }

theorem verifiesInPieces (hl : sim.Lawful fits) : sim.VerifiesInPieces where
  pieces _ _ _ hdown hcaptured := verifies_iff_pieces hl hdown hcaptured
  result _ _ _ hverify _ hr _ hs := resumes_with_result hl hverify hr hs

/-! ### What a resume looks at -/

section Tail
variable {config : Config} {a a' : ReplayArtifact C Snapshot}
  {source : SnapshotArtifact Snapshot}

omit [LawfulSimulationState S Snapshot] in
/- The config is valid, and the engine it builds does the resume. -/
theorem Resumes.resumesFrom (hl : sim.Lawful fits) (h : sim.Resumes config source a) :
    sim.validate config = .ok () ∧ WellFormed S sim.replayArtifactCodec a ∧
      ∃ (e : DeterministicEngine S C P V Snapshot) (Inv : S → Prop),
        Runs (fun seed _ => sim.buildEngineInternal seed config) sim.replayArtifactCodec
          a.metadata.baseSeed (SimulationConfig.snapshotPolicy config) e Inv ∧
        ∃ before record continuation mid s',
          ResumesFrom e (sim.identityOf config) source a before record continuation mid s' := by
  have hvalid : sim.validate config = .ok () := by
    obtain ⟨result, hresult⟩ := h
    simp only [resumeReplayFromSnapshotWithConfig, bind_eq_ok, orFail_eq_ok,
      buildConfigArtifact_eq_ok hl] at hresult
    obtain ⟨_, ⟨hvalid, -⟩, -⟩ := hresult
    exact hvalid
  obtain ⟨e, Inv, hruns⟩ := hl.runs config a.metadata.baseSeed hvalid
  obtain ⟨hwell, hfrom⟩ := (resumes_iff hl hvalid hruns).mp h
  exact ⟨hvalid, hwell, e, Inv, hruns, hfrom⟩

omit [LawfulSimulationState S Snapshot] in
theorem extracted_of_resumes (hl : sim.Lawful fits) (h : sim.Resumes config source a) :
    ∃ record ∈ a.records, ∃ extracted version,
      sim.snapshotArtifactAtTick a record.tick = .ok extracted ∧
      source = extracted.withVersion version := by
  obtain ⟨-, hwell, e, Inv, -, before, record, continuation, mid, s', hfrom⟩ :=
    h.resumesFrom hl
  obtain ⟨extracted, hextracted, hsource⟩ := extracted_of_resumesFrom hl hwell hfrom
  refine ⟨record, ?_, extracted, _, hextracted, hsource⟩
  rw [hfrom.records]
  exact List.mem_append_right _ List.mem_cons_self

omit [LawfulSimulationState S Snapshot] in
theorem Resumes.withVersion (hl : sim.Lawful fits) (h : sim.Resumes config source a)
    (version : UInt32) : sim.Resumes config (source.withVersion version) a := by
  obtain ⟨hvalid, hwell, e, Inv, hruns, before, record, continuation, mid, s', hfrom⟩ :=
    h.resumesFrom hl
  refine (resumes_iff hl hvalid hruns).mpr ⟨hwell, before, record, continuation, mid, s', ?_⟩
  exact ⟨hfrom.family, hfrom.config, hfrom.sourceOk, hfrom.records, hfrom.tick, hfrom.earlier,
    hfrom.snapshot, hfrom.head, hfrom.restored, hfrom.midTick, hfrom.rest⟩

omit [LawfulSimulationState S Snapshot] in
/- A recorded reason is that of an interval. -/
theorem Resumes.not_manual (hl : sim.Lawful fits) (h : sim.Resumes config source a) :
    source.metadata.captureReason ≠ .manual := by
  obtain ⟨-, hwell, e, Inv, -, before, record, continuation, mid, s', hfrom⟩ :=
    h.resumesFrom hl
  have hrecord : record ∈ a.records := by
    rw [hfrom.records]
    exact List.mem_append_right _ List.mem_cons_self
  have hreason := (legalFrom_mem hwell.valid.legal hrecord).reason
  rw [hfrom.snapshot] at hreason
  obtain ⟨interval, -, hinterval⟩ := shouldCapture_eq_some hreason.symm
  change source.metadata.captureReason = _ at hinterval
  rw [hinterval]
  exact SnapshotCaptureReason.noConfusion

omit [LawfulSimulationState S Snapshot] in
/- The records before the snapshot matter only in that they are well formed. -/
theorem Resumes.of_same_tail (hl : sim.Lawful fits) {k : ℕ} (h : sim.Resumes config source a)
    (hwell' : WellFormed S sim.replayArtifactCodec a') (hmetadata : a'.metadata = a.metadata)
    (htail : a'.records.drop k = a.records.drop k)
    (hk : k < source.metadata.snapshot.sourceTick.toNat) : sim.Resumes config source a' := by
  obtain ⟨hvalid, hwell, e, Inv, hruns, before, record, continuation, mid, s', hfrom⟩ :=
    h.resumesFrom hl
  have hlegal := hwell.valid.legal
  have hlegal' := hwell'.valid.legal
  rw [hmetadata] at hlegal'
  have hplace : record.tick = 1 + UInt64.ofNat before.length := by
    rw [hfrom.records] at hlegal
    exact legalFrom_place hlegal
  -- the snapshot does not lie in the part that differs
  have hle : k ≤ before.length := by
    by_contra hlt
    have hbound := source.metadata.snapshot.sourceTick.toNat_lt
    rw [← hfrom.tick, hplace, UInt64.toNat_add, UInt64.toNat_one, UInt64.toNat_ofNat',
      Nat.mod_eq_of_lt (a := before.length) (by omega)] at hk
    rw [Nat.mod_eq_of_lt (by omega)] at hk
    omega
  have hdrop : a'.records.drop before.length = record :: continuation := by
    have hsame := congrArg (List.drop (before.length - k)) htail
    rw [List.drop_drop, List.drop_drop, Nat.add_sub_cancel' hle, hfrom.records,
      List.drop_left] at hsame
    exact hsame
  have hrecords' : a'.records = a'.records.take before.length ++ record :: continuation := by
    rw [← hdrop, List.take_append_drop]
  refine (resumes_iff (a := a') hl hvalid (hmetadata ▸ hruns)).mpr ⟨hwell',
    a'.records.take before.length, record, continuation, mid, s', ?_⟩
  refine ⟨hmetadata ▸ hfrom.family, hmetadata ▸ hfrom.config, hmetadata ▸ hfrom.sourceOk,
    hrecords', hfrom.tick, ?_, hfrom.snapshot, hfrom.head, hfrom.restored, hfrom.midTick,
    hfrom.rest⟩
  intro r hr
  obtain ⟨j, hj⟩ := List.mem_iff_getElem?.mp hr
  rw [List.getElem?_take] at hj
  obtain ⟨hjlt, hj⟩ := Option.ite_none_right_eq_some.mp hj
  -- a record of `a` at the same place has the same tick
  have hother : a.records[j]? = some before[j] := by
    rw [hfrom.records, List.getElem?_append_left hjlt, List.getElem?_eq_getElem hjlt]
  rw [legalFrom_get hlegal' hj, ← legalFrom_get hlegal hother]
  exact hfrom.earlier _ (List.getElem_mem hjlt)

end Tail

/-- What a resume goes by: the records from its snapshot on. -/
structure ResumesByTail (sim : Simulation Config S C P V Snapshot) : Prop where
  /- No other artifacts resume a replay than its own, under any artifact version; all of
  them do when the replay verifies. -/
  own : ∀ (config : Config) (source : SnapshotArtifact Snapshot) (a : ReplayArtifact C Snapshot),
    let extracts : Prop := ∃ record ∈ a.records, ∃ extracted version,
      sim.snapshotArtifactAtTick a record.tick = .ok extracted ∧
      source = extracted.withVersion version
    (sim.Resumes config source a → extracts) ∧
      (sim.Verifies config a → extracts → sim.Resumes config source a)
  /- A snapshot that was taken by hand resumes none. -/
  manual : ∀ (config : Config) (source : SnapshotArtifact Snapshot)
    (a : ReplayArtifact C Snapshot), source.metadata.captureReason = .manual →
    ¬ sim.Resumes config source a
  /- Well-formed replays that agree from the snapshot on resume alike. -/
  tail : ∀ (config : Config) (source : SnapshotArtifact Snapshot)
    (a a' : ReplayArtifact C Snapshot) (k : ℕ), WellFormed S sim.replayArtifactCodec a →
    WellFormed S sim.replayArtifactCodec a' → a.metadata = a'.metadata →
    a.records.drop k = a'.records.drop k →
    k < source.metadata.snapshot.sourceTick.toNat →
    (sim.Resumes config source a ↔ sim.Resumes config source a')

theorem resumesByTail (hl : sim.Lawful fits) : sim.ResumesByTail where
  own config source a := by
    refine ⟨extracted_of_resumes hl, ?_⟩
    rintro ⟨result, hverify⟩ ⟨record, hr, extracted, version, hextracted, rfl⟩
    have hfound := hextracted
    simp only [snapshotArtifactAtTick, bind_eq_ok, okOr_eq_ok, Option.bind_eq_some_iff] at hfound
    obtain ⟨snapshot, ⟨found, hfind, hs⟩, -⟩ := hfound
    have htick : found.tick = record.tick := by simpa using List.find?_some hfind
    obtain ⟨source, hsource, -, hresume⟩ :=
      resumes_with_result hl hverify (List.mem_of_find?_eq_some hfind) hs
    rw [htick, hextracted] at hsource
    obtain rfl := Except.ok.inj hsource
    have hresumes : sim.Resumes config extracted a := ⟨_, hresume⟩
    exact hresumes.withVersion hl version
  manual config source a hmanual h := h.not_manual hl hmanual
  tail config source a a' k hwell hwell' hmetadata htail hk :=
    ⟨fun h => h.of_same_tail hl hwell' hmetadata.symm htail.symm hk,
      fun h => h.of_same_tail hl hwell hmetadata htail hk⟩

end Simulation

theorem replays_verify_in_pieces :
    counterSimulation.VerifiesInPieces ∧ settlementSimulation.VerifiesInPieces :=
  ⟨Simulation.verifiesInPieces counter_lawful, Simulation.verifiesInPieces settlement_lawful⟩

/- The recording cut at its first snapshot. -/
theorem replays_verify_in_pieces_two_ticks : ∃ recorded first second source result,
    TwoStepsRecording recorded ∧ recorded.artifact.records = [first, second] ∧
      counterSimulation.PiecesVerify .default recorded.artifact [0] ∧
      verifyCounterReplayWithConfig .default recorded.artifact = .ok result ∧
      counterSnapshotArtifactAtTick recorded.artifact first.tick = .ok source ∧
      resumeCounterReplayFromSnapshotWithConfig .default source recorded.artifact =
        .ok { result with mode := .replayFromSnapshot first.tick } := by
  obtain ⟨recorded, _, h, -⟩ := twoSteps_recorded
  obtain ⟨first, second, snapshot, _, hrecords, hs, -⟩ := h.split
  obtain ⟨hcounter, -⟩ := replays_verify_in_pieces
  have hverify : verifyCounterReplayWithConfig .default recorded.artifact =
      .ok { recorded.result with mode := .replayVerify } :=
    Simulation.verifyReplayWithConfig_recorded counter_lawful h.records
  have hfirst : first ∈ recorded.artifact.records := by
    rw [hrecords]
    exact List.mem_cons_self ..
  have hpieces := (hcounter.pieces .default recorded.artifact [0] (List.pairwise_singleton ..)
    fun k hk => ⟨first, snapshot, by rw [List.mem_singleton.mp hk, hrecords]; rfl, hs⟩).mp
      ⟨_, hverify⟩
  obtain ⟨source, hsource, -, hresume⟩ :=
    hcounter.result .default recorded.artifact _ hverify first hfirst snapshot hs
  exact ⟨recorded, first, second, source, _, h, hrecords, hpieces, hverify, hsource, hresume⟩

def counterSnapshotArtifactFromEngine (config : CounterSimulationConfig)
    (engine : CounterEngine) : Except EngineError CounterSnapshotArtifact := do
  let configArtifact ← buildCounterConfigArtifact config
  pure (counterSnapshotArtifactCodec.buildArtifact engine.seed configArtifact.metadata.identity
    engine.manualSnapshot)

theorem resumes_go_by_their_tails :
    counterSimulation.ResumesByTail ∧ settlementSimulation.ResumesByTail ∧
      ∀ (config : CounterSimulationConfig) (engine : CounterEngine)
        (source : CounterSnapshotArtifact),
        counterSnapshotArtifactFromEngine config engine = .ok source →
        ∀ (config' : CounterSimulationConfig) (a : CounterReplayArtifact),
          ¬ counterSimulation.Resumes config' source a := by
  have hcounter := Simulation.resumesByTail counter_lawful
  refine ⟨hcounter, Simulation.resumesByTail settlement_lawful, ?_⟩
  intro config engine source hsource config' a
  simp only [counterSnapshotArtifactFromEngine, bind_eq_ok, pure_eq_ok] at hsource
  obtain ⟨artifact, -, rfl⟩ := hsource
  exact hcounter.manual config' _ a rfl

/- Resumed at its second snapshot, the recording goes through also with a phase too many in
its first tick; a snapshot taken by hand resumes neither. -/
theorem resumes_go_by_their_tails_two_ticks : ∃ recorded other first second source byHand,
    TwoStepsRecording recorded ∧ recorded.artifact.records = [first, second] ∧
      other = { recorded.artifact with records :=
        [{ first with phaseMarkers := ⟨9, .finalize, "none"⟩ :: first.phaseMarkers }, second] } ∧
      source.metadata.snapshot.sourceTick = 2 ∧
      counterSimulation.Resumes .default source recorded.artifact ∧
      counterSimulation.Resumes .default source other ∧
      counterSnapshotArtifactFromEngine .default
        (buildCounterEngineInternal 7 defaultCounterScheduler .default) = .ok byHand ∧
      ¬ counterSimulation.Resumes .default byHand recorded.artifact := by
  obtain ⟨recorded, _, h, -⟩ := twoSteps_recorded
  obtain ⟨first, second, _, snapshot, hrecords, -, hs⟩ := h.split
  obtain ⟨hcounter, -, hmanual⟩ := resumes_go_by_their_tails
  have hsecond : second ∈ recorded.artifact.records := by
    rw [hrecords]
    exact List.mem_cons_of_mem _ (List.mem_cons_self ..)
  obtain ⟨source, hsource, -, hresume⟩ := Simulation.resumes_with_result counter_lawful
    (Simulation.verifyReplayWithConfig_recorded counter_lawful h.records) hsecond hs
  have hresumes : counterSimulation.Resumes .default source recorded.artifact := ⟨_, hresume⟩
  obtain ⟨-, hwell, -⟩ := hresumes.resumesFrom counter_lawful
  let other : CounterReplayArtifact := { recorded.artifact with records :=
    [{ first with phaseMarkers := ⟨9, .finalize, "none"⟩ :: first.phaseMarkers }, second] }
  have hother : WellFormed CounterState counterSimulation.replayArtifactCodec other :=
    hwell.withMarkers hrecords _
  have htick : source.metadata.snapshot.sourceTick = 2 := by
    have hlegal := hwell.valid.legal
    rw [hrecords] at hlegal
    have hfind := Simulation.find_of_recorded counter_lawful h.records hsecond
    rw [Simulation.snapshotArtifactAtTick, hfind, Option.bind_some, hs] at hsource
    obtain rfl := Except.ok.inj hsource
    exact congrArg SnapshotMetadata.sourceTick (hlegal.2.1.metadata snapshot hs)
  have htail : counterSimulation.Resumes .default source other := by
    refine (hcounter.tail .default source recorded.artifact other 1 hwell hother rfl ?_ ?_).mp
      hresumes
    · rw [hrecords]
      rfl
    · rw [htick]
      decide
  have hbuild := (Simulation.buildConfigArtifact_eq_ok counter_lawful).mpr
    (⟨rfl, rfl⟩ : counterSimulation.validate .default = .ok () ∧ _ = _)
  have hbyHand : ∃ byHand, counterSnapshotArtifactFromEngine .default
      (buildCounterEngineInternal 7 defaultCounterScheduler .default) = .ok byHand :=
    ⟨_, bind_eq_ok.mpr ⟨_, hbuild, rfl⟩⟩
  obtain ⟨byHand, hbyHand⟩ := hbyHand
  exact ⟨recorded, other, first, second, source, byHand, h, hrecords, rfl, htick, hresumes, htail,
    hbyHand, hmanual .default _ byHand hbyHand .default recorded.artifact⟩

end XenorEngine.Rust
