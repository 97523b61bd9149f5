import XenorEngine.Rust.Importers

/-!
# The snapshot of a fixture (fixture/mod.rs)

A fixture carries a replay file and perhaps a snapshot file, and reading it compares base
seed and config identity of the two. Whether the snapshot is one of the replay's is
decided by four lines of the snapshot file and the lines the replay file has for that tick.
-/

namespace XenorEngine.Rust
open XenorEngine.Lib.ByteText XenorEngine.Lib.LineText XenorEngine.Lib.Fallible
open XenorEngine.Lib.PrefixReader XenorEngine.Lib.FieldCodec XenorEngine.Lib.KeyedReader
open ReplayArtifactSerializer (orFail_eq_ok)

/-- The line `key` holds the bytes of a file with the lines `inner`. -/
def HoldsFile (ls : List Line) (key hexLabel label : String) (inner : List Line) : Prop :=
  ∃ bytes reader, LineSays ls key (fun v => decodeHex v hexLabel) bytes ∧
    CanonicalLineReader.new bytes label = .ok reader ∧ reader.rest = inner

/-! ### What a snapshot file says -/

namespace SnapshotArtifact
variable {Snapshot : Type}

/-- Tick, reason, checksum and payload of a capture, in the lines of a snapshot file. -/
structure CaptureLines (serializer : Serializer Snapshot) (ls : List Line) (tick : Tick)
    (reason : SnapshotCaptureReason) (checksum : UInt64) (payload : Snapshot) : Prop where
  tick : LineSays ls "source_tick" fromStrU64 tick
  reason : LineSays ls "capture_reason" parseSnapshotCaptureReason reason
  checksum : LineSays ls "capture_checksum" fromStrU64 checksum
  payload : LineSays ls "payload_hex" (decodePayload serializer) payload

theorem fields_capture {engineFamily : String} {serializer : Serializer Snapshot}
    {version : UInt32} {ls : List Line} {a : SnapshotArtifact Snapshot}
    (h : (fields engineFamily serializer version).Reads ls a) :
    CaptureLines serializer ls a.metadata.snapshot.sourceTick a.metadata.captureReason
      a.metadata.snapshot.captureChecksum a.payload := by
  unfold fields at h
  obtain ⟨l1, r1, _, rfl, -, h1⟩ := bind_reads.mp h
  obtain ⟨l2, r2, _, rfl, -, h2⟩ := bind_reads.mp h1
  obtain ⟨l3, r3, artifactVersion, rfl, -, h3⟩ := bind_reads.mp h2
  obtain ⟨l4, r4, _, rfl, -, h4⟩ := bind_reads.mp h3
  obtain ⟨l5, r5, family, rfl, -, h5⟩ := bind_reads.mp h4
  obtain ⟨l6, r6, _, rfl, -, h6⟩ := bind_reads.mp h5
  obtain ⟨l7, r7, baseSeed, rfl, -, h7⟩ := bind_reads.mp h6
  obtain ⟨l8, r8, configVersion, rfl, -, h8⟩ := bind_reads.mp h7
  obtain ⟨l9, r9, configDigest, rfl, -, h9⟩ := bind_reads.mp h8
  obtain ⟨l10, r10, reason, rfl, hreason, h10⟩ := bind_reads.mp h9
  obtain ⟨l11, r11, payloadVersion, rfl, -, h11⟩ := bind_reads.mp h10
  obtain ⟨l12, r12, _, rfl, -, h12⟩ := bind_reads.mp h11
  obtain ⟨l13, r13, tick, rfl, htick, h13⟩ := bind_reads.mp h12
  obtain ⟨l14, r14, checksum, rfl, hchecksum, h14⟩ := bind_reads.mp h13
  obtain ⟨l15, r15, payload, rfl, hpayload, h15⟩ := bind_reads.mp h14
  obtain ⟨rfl, rfl⟩ := pure_reads.mp h15
  obtain ⟨v10, rfl, hv10⟩ := readField_reads.mp hreason
  obtain ⟨v13, rfl, hv13⟩ := readField_reads.mp htick
  obtain ⟨v14, rfl, hv14⟩ := readField_reads.mp hchecksum
  obtain ⟨v15, rfl, hv15⟩ := readField_reads.mp hpayload
  exact ⟨⟨v13, by simp, mapError_eq_ok.mp hv13⟩, ⟨v10, by simp, hv10⟩,
    ⟨v14, by simp, mapError_eq_ok.mp hv14⟩, v15, by simp, hv15⟩

end SnapshotArtifact

/-! ### What a replay file says of a tick -/

namespace ReplayArtifactSerializer
variable {C Snapshot : Type} {s : ReplayArtifactSerializer C Snapshot} {layout : Layout}

/-- The same four of a tick, in the lines of a replay file: the tick is one of its
records, its policy captures there for that reason, and the record of that number has
this checksum and payload. -/
structure TickLines (s : ReplayArtifactSerializer C Snapshot) (ls : List Line) (tick : Tick)
    (reason : SnapshotCaptureReason) (checksum : UInt64) (payload : Snapshot) : Prop where
  first : 1 ≤ tick
  last : ∃ count, LineSays ls "record_count" fromStrUsize count ∧ tick.toNat ≤ count
  reason : ∃ policy, LineSays ls "snapshot_policy" parseReplayPolicy policy ∧
    policy.shouldCapture tick = some reason
  checksum : LineSays ls s!"record.{tick.toNat - 1}.checksum" fromStrU64 checksum
  payload : LineSays ls s!"record.{tick.toNat - 1}.snapshot.payload_hex"
    (s.decodeSnapshotPayload tick) payload

theorem decodeSnapshotPayload_eq_ok {tick other : Tick} {v : String} {payload : Snapshot} :
    s.decodeSnapshotPayload tick v = .ok payload ↔
      s.decodeSnapshotPayload other v = .ok payload := by
  simp only [decodeSnapshotPayload, bind_eq_ok, mapError_eq_ok]

theorem snapshotFields_payload {index : ℕ} {ls : List Line} {snapshot : SnapshotRecord Snapshot}
    (h : (s.snapshotFields index).Reads ls snapshot) (tick : Tick) :
    LineSays ls s!"record.{index}.snapshot.payload_hex" (s.decodeSnapshotPayload tick)
      snapshot.payload := by
  unfold snapshotFields at h
  obtain ⟨l1, r1, reason, rfl, -, h1⟩ := bind_reads.mp h
  obtain ⟨l2, r2, version, rfl, -, h2⟩ := bind_reads.mp h1
  obtain ⟨l3, r3, sourceTick, rfl, -, h3⟩ := bind_reads.mp h2
  obtain ⟨l4, r4, checksum, rfl, -, h4⟩ := bind_reads.mp h3
  obtain ⟨l5, r5, payload, rfl, hpayload, h5⟩ := bind_reads.mp h4
  obtain ⟨rfl, rfl⟩ := pure_reads.mp h5
  obtain ⟨v, rfl, hv⟩ := readField_reads.mp hpayload
  exact ⟨v, by simp, decodeSnapshotPayload_eq_ok.mp (orFail_eq_ok.mp hv)⟩

theorem recordFields_lines {index : ℕ} {ls : List Line} {record : ReplayTickRecord C Snapshot}
    (h : (s.recordFields layout index).Reads ls record) :
    LineSays ls s!"record.{index}.checksum" fromStrU64 record.checksum ∧
      ∀ snapshot ∈ record.snapshot, ∀ tick, LineSays ls
        s!"record.{index}.snapshot.payload_hex" (s.decodeSnapshotPayload tick)
          snapshot.payload := by
  unfold recordFields at h
  obtain ⟨l1, r1, tick, rfl, -, h1⟩ := bind_reads.mp h
  obtain ⟨l2, r2, inputTick, rfl, -, h2⟩ := bind_reads.mp h1
  obtain ⟨l3, r3, command, rfl, -, h3⟩ := bind_reads.mp h2
  obtain ⟨l4, r4, seed, rfl, -, h4⟩ := bind_reads.mp h3
  obtain ⟨l5, r5, phaseCount, rfl, -, h5⟩ := bind_reads.mp h4
  obtain ⟨l6, r6, _, rfl, -, h6⟩ := bind_reads.mp h5
  obtain ⟨l7, r7, phases, rfl, -, h7⟩ := bind_reads.mp h6
  obtain ⟨l8, r8, validationCount, rfl, -, h8⟩ := bind_reads.mp h7
  obtain ⟨l9, r9, _, rfl, -, h9⟩ := bind_reads.mp h8
  obtain ⟨l10, r10, validations, rfl, -, h10⟩ := bind_reads.mp h9
  obtain ⟨l11, r11, checksum, rfl, hchecksum, h11⟩ := bind_reads.mp h10
  obtain ⟨l12, r12, present, rfl, -, h12⟩ := bind_reads.mp h11
  obtain ⟨l13, r13, snapshot, rfl, hsnapshot, h13⟩ := bind_reads.mp h12
  obtain ⟨rfl, rfl⟩ := pure_reads.mp h13
  obtain ⟨v, rfl, hv⟩ := readField_reads.mp hchecksum
  refine ⟨⟨v, by simp, mapError_eq_ok.mp (orFail_eq_ok.mp hv)⟩, fun captured hcaptured at' => ?_⟩
  have hlines := snapshotFields_payload ((optionally_reads hsnapshot).2 captured hcaptured) at'
  refine lineSays_mono hlines fun l hl => ?_
  simp only [List.mem_append]
  tauto

/-- What the lines of a replay file say of its records. -/
structure RecordLines (s : ReplayArtifactSerializer C Snapshot) (ls : List Line)
    (a : ReplayArtifact C Snapshot) : Prop where
  count : LineSays ls "record_count" fromStrUsize a.metadata.recordCount
  policy : LineSays ls "snapshot_policy" parseReplayPolicy a.metadata.snapshotPolicy
  checksum : ∀ (i : ℕ) (record : ReplayTickRecord C Snapshot), a.records[i]? = some record →
    LineSays ls s!"record.{i}.checksum" fromStrU64 record.checksum
  payload : ∀ (i : ℕ) (record : ReplayTickRecord C Snapshot), a.records[i]? = some record →
    ∀ snapshot ∈ record.snapshot, ∀ tick, LineSays ls s!"record.{i}.snapshot.payload_hex"
      (s.decodeSnapshotPayload tick) snapshot.payload

theorem fields_records {ls : List Line} {a : ReplayArtifact C Snapshot}
    (h : (s.fields layout).Reads ls a) : s.RecordLines ls a := by
  unfold fields at h
  obtain ⟨l1, r1, _, rfl, -, h1⟩ := bind_reads.mp h
  obtain ⟨l2, r2, _, rfl, -, h2⟩ := bind_reads.mp h1
  obtain ⟨l3, r3, version, rfl, -, h3⟩ := bind_reads.mp h2
  obtain ⟨l4, r4, _, rfl, -, h4⟩ := bind_reads.mp h3
  obtain ⟨l5, r5, family, rfl, -, h5⟩ := bind_reads.mp h4
  obtain ⟨l6, r6, _, rfl, -, h6⟩ := bind_reads.mp h5
  obtain ⟨l7, r7, baseSeed, rfl, -, h7⟩ := bind_reads.mp h6
  obtain ⟨l8, r8, totalTicks, rfl, -, h8⟩ := bind_reads.mp h7
  obtain ⟨l9, r9, policy, rfl, hpolicy, h9⟩ := bind_reads.mp h8
  obtain ⟨l10, r10, configVersion, rfl, -, h10⟩ := bind_reads.mp h9
  obtain ⟨l11, r11, configDigest, rfl, -, h11⟩ := bind_reads.mp h10
  obtain ⟨l12, r12, commandVersion, rfl, -, h12⟩ := bind_reads.mp h11
  obtain ⟨l13, r13, _, rfl, -, h13⟩ := bind_reads.mp h12
  obtain ⟨l14, r14, payloadVersion, rfl, -, h14⟩ := bind_reads.mp h13
  obtain ⟨l15, r15, _, rfl, -, h15⟩ := bind_reads.mp h14
  obtain ⟨l16, r16, count, rfl, hcount, h16⟩ := bind_reads.mp h15
  obtain ⟨l17, r17, _, rfl, -, h17⟩ := bind_reads.mp h16
  obtain ⟨l18, r18, records, rfl, hrecords, h18⟩ := bind_reads.mp h17
  obtain ⟨rfl, rfl⟩ := pure_reads.mp h18
  obtain ⟨v9, rfl, hv9⟩ := readField_reads.mp hpolicy
  obtain ⟨v16, rfl, hv16⟩ := readField_reads.mp hcount
  have hpart : ∀ i record, records[i]? = some record → ∃ part,
      (s.recordFields layout i).Reads part record ∧ ∀ l ∈ part, l ∈ l18 := by
    intro i record hi
    have hround := forRange_reads_get hrecords hi
    rwa [Nat.zero_add] at hround
  refine ⟨⟨v16, by simp, mapError_eq_ok.mp (orFail_eq_ok.mp hv16)⟩,
    ⟨v9, by simp, orFail_eq_ok.mp hv9⟩, fun i record hi => ?_,
    fun i record hi snapshot hs tick => ?_⟩
  · obtain ⟨part, hread, hsub⟩ := hpart i record hi
    refine lineSays_mono (recordFields_lines hread).1 fun l hl => ?_
    have hmem := hsub l hl
    simp only [List.mem_append]
    tauto
  · obtain ⟨part, hread, hsub⟩ := hpart i record hi
    refine lineSays_mono ((recordFields_lines hread).2 snapshot hs tick) fun l hl => ?_
    have hmem := hsub l hl
    simp only [List.mem_append]
    tauto

end ReplayArtifactSerializer

/-! ### The two files in a fixture -/

section Files
variable {ls : List Line} {key hexLabel label : String}

theorem holdsFile_of_read {ε α : Type} {wrap : CanonicalError → ε} {fields : Reader Line ε α}
    {bytes : Bytes} {a : α} (hline : LineSays ls key (fun v => decodeHex v hexLabel) bytes)
    (h : readAll bytes label wrap fields = .ok a) :
    ∃ inner, HoldsFile ls key hexLabel label inner ∧ fields.Reads inner a := by
  obtain ⟨inner, hne, hclean, rfl, hreads⟩ := readAll_eq_ok.mp h
  exact ⟨inner, ⟨_, _, hline, reader_new_finish hne hclean label, rfl⟩, hreads⟩

theorem holdsFile_unique {inner other : List Line} (hnodup : (ls.map Prod.fst).Nodup)
    (h : HoldsFile ls key hexLabel label inner) (ho : HoldsFile ls key hexLabel label other) :
    inner = other := by
  obtain ⟨bytes, reader, hline, hnew, rfl⟩ := h
  obtain ⟨bytes', reader', hline', hnew', rfl⟩ := ho
  obtain rfl := (lineSays_iff hnodup hline).mp hline'
  obtain rfl := Except.ok.inj (hnew.symm.trans hnew')
  rfl

end Files

namespace GoldenFixtureSerializer
variable {C Snapshot Config : Type} {s : GoldenFixtureSerializer C Snapshot Config}
  {layout : Layout}

/-- Where the lines of a fixture hold its replay and its snapshot. -/
structure ArtifactLines (s : GoldenFixtureSerializer C Snapshot Config) (layout : Layout)
    (ls : List Line) (f : GoldenFixture C Snapshot Config) : Prop where
  replay : ∃ bytes, LineSays ls "replay_artifact_hex"
      (fun v => decodeHex v "golden fixture replay") bytes ∧
    s.replaySerializer.decode layout bytes = .ok f.replayArtifact
  present : LineSays ls "snapshot_artifact.present" reading.parseBool f.snapshotArtifact.isSome
  snapshot : ∀ a ∈ f.snapshotArtifact, ∃ bytes, LineSays ls "snapshot_artifact_hex"
      (fun v => decodeHex v "golden fixture snapshot") bytes ∧
    s.snapshotSerializer.decode bytes = .ok a

theorem readNested_says {α : Type} {r : Reading} {key hexLabel : String}
    {decode : Bytes → Outcome α} {ls : List Line} {a : α}
    (h : (r.readNested key hexLabel decode).Reads ls a) : ∃ bytes,
      LineSays ls key (fun v => decodeHex v hexLabel) bytes ∧ decode bytes = .ok a := by
  obtain ⟨v, rfl, hv⟩ := readField_reads.mp h
  obtain ⟨bytes, hbytes, hdecode⟩ := bind_eq_ok.mp hv
  exact ⟨bytes, ⟨v, List.mem_singleton_self _, mapError_eq_ok.mp hbytes⟩, hdecode⟩

theorem fields_artifacts {ls : List Line} {f : GoldenFixture C Snapshot Config}
    (h : (s.fields layout).Reads ls f) : s.ArtifactLines layout ls f := by
  unfold fields at h
  obtain ⟨l1, r1, _, rfl, -, h1⟩ := bind_reads.mp h
  obtain ⟨l2, r2, _, rfl, -, h2⟩ := bind_reads.mp h1
  obtain ⟨l3, r3, version, rfl, -, h3⟩ := bind_reads.mp h2
  obtain ⟨l4, r4, _, rfl, -, h4⟩ := bind_reads.mp h3
  obtain ⟨l5, r5, summary, rfl, -, h5⟩ := bind_reads.mp h4
  obtain ⟨l6, r6, config, rfl, -, h6⟩ := bind_reads.mp h5
  obtain ⟨l7, r7, scenarioPresent, rfl, -, h7⟩ := bind_reads.mp h6
  obtain ⟨l8, r8, scenario, rfl, -, h8⟩ := bind_reads.mp h7
  obtain ⟨l9, r9, replay, rfl, hreplay, h9⟩ := bind_reads.mp h8
  obtain ⟨l10, r10, present, rfl, hpresent, h10⟩ := bind_reads.mp h9
  obtain ⟨l11, r11, snapshot, rfl, hsnapshot, h11⟩ := bind_reads.mp h10
  obtain ⟨rfl, rfl⟩ := pure_reads.mp h11
  obtain ⟨replayBytes, hreplaySays, hreplayDecode⟩ := readNested_says hreplay
  obtain ⟨v, rfl, hv⟩ := readField_reads.mp hpresent
  obtain ⟨rfl, hpart⟩ := optionally_reads hsnapshot
  refine ⟨⟨replayBytes, lineSays_mono hreplaySays fun l hl => ?_, hreplayDecode⟩,
    ⟨v, by simp, orFail_eq_ok.mp hv⟩, fun a ha => ?_⟩
  · simp only [List.mem_append]
    tauto
  · obtain ⟨bytes, hline, hdecode⟩ := readNested_says (hpart a ha)
    refine ⟨bytes, lineSays_mono hline fun l hl => ?_, orFail_eq_ok.mp hdecode⟩
    simp only [List.mem_append]
    tauto

/-- The file has no snapshot, or the lines of its snapshot file say of a tick what those of
its replay file say. -/
def NamesCapture (s : GoldenFixtureSerializer C Snapshot Config) (bytes : Bytes) : Prop :=
  ∃ reader, CanonicalLineReader.new bytes reading.label = .ok reader ∧
    (LineSays reader.rest "snapshot_artifact.present" reading.parseBool false ∨
      ∃ replay snapshot tick reason checksum payload,
        HoldsFile reader.rest "replay_artifact_hex" "golden fixture replay"
          ReplayArtifactSerializer.label replay ∧
        HoldsFile reader.rest "snapshot_artifact_hex" "golden fixture snapshot"
          SnapshotArtifact.label snapshot ∧
        s.replaySerializer.TickLines replay tick reason checksum payload ∧
        SnapshotArtifact.CaptureLines s.snapshotSerializer.payloadSerializer snapshot tick reason
          checksum payload)

end GoldenFixtureSerializer

/- What the two files say decides whether the capture is the replay's. -/
theorem expected_iff_lines {C Snapshot : Type} {s : ReplayArtifactSerializer C Snapshot}
    {serializer : Serializer Snapshot} {replay : ReplayArtifact C Snapshot}
    {a : SnapshotArtifact Snapshot} {replayLines snapshotLines : List Line}
    (hreplay : (replayLines.map Prod.fst).Nodup) (hsnapshot : (snapshotLines.map Prod.fst).Nodup)
    (hr : s.RecordLines replayLines replay)
    (ha : SnapshotArtifact.CaptureLines serializer snapshotLines a.metadata.snapshot.sourceTick
      a.metadata.captureReason a.metadata.snapshot.captureChecksum a.payload)
    (hget : SnapshotExpected replay a → ∃ record snapshot,
      replay.records[a.metadata.snapshot.sourceTick.toNat - 1]? = some record ∧
        record.snapshot = some snapshot) :
    SnapshotExpected replay a ↔ ∃ tick reason checksum payload,
      s.TickLines replayLines tick reason checksum payload ∧
      SnapshotArtifact.CaptureLines serializer snapshotLines tick reason checksum payload := by
  constructor
  · intro h
    obtain ⟨record, snapshot, hrecord, hs⟩ := hget h
    refine ⟨_, _, _, _, ⟨h.first, ⟨_, hr.count, h.last⟩, ⟨_, hr.policy, h.policy⟩, ?_, ?_⟩, ha⟩
    · rw [h.checksum record hrecord]
      exact hr.checksum _ record hrecord
    · rw [h.payload record hrecord snapshot hs]
      exact hr.payload _ record hrecord snapshot hs _
  · rintro ⟨tick, reason, checksum, payload, ht, hc⟩
    obtain rfl := (lineSays_iff hsnapshot ha.tick).mp hc.tick
    obtain rfl := (lineSays_iff hsnapshot ha.reason).mp hc.reason
    obtain rfl := (lineSays_iff hsnapshot ha.checksum).mp hc.checksum
    obtain rfl := (lineSays_iff hsnapshot ha.payload).mp hc.payload
    obtain ⟨count, hcount, hlast⟩ := ht.last
    obtain ⟨policy, hpolicy, hcapture⟩ := ht.reason
    obtain rfl := (lineSays_iff hreplay hr.count).mp hcount
    obtain rfl := (lineSays_iff hreplay hr.policy).mp hpolicy
    refine ⟨ht.first, hlast, hcapture, fun record hrecord => ?_,
      fun record hrecord snapshot hs => ?_⟩
    · exact ((lineSays_iff hreplay (hr.checksum _ record hrecord)).mp ht.checksum).symm
    · exact ((lineSays_iff hreplay (hr.payload _ record hrecord snapshot hs _)).mp
        ht.payload).symm

namespace Simulation
variable {Config S C P V Snapshot : Type} {sim : Simulation Config S C P V Snapshot}
  [SimulationState S Snapshot] [StateValidator V S] [Phase P S C Snapshot]
  [SimulationConfig Config] [DecidableEq C] [DecidableEq Config] [Debug C] [Debug Config]
  {fits : Config → Prop} {layout : Layout}

/- The two files of a fixture that was read, line by line. -/
theorem snapshotRecorded_iff_lines (hl : sim.Lawful fits) {bytes : Bytes}
    {f : GoldenFixture C Snapshot Config}
    (hdecode : sim.goldenFixtureCodec.decode layout bytes = .ok f) :
    (∀ a ∈ f.snapshotArtifact, SnapshotRecorded f.replayArtifact a) ↔
      sim.goldenFixtureCodec.NamesCapture bytes := by
  have hrecorded := fun a => snapshotRecorded_of_decode hl hdecode (a := a)
  obtain ⟨hw, -, hr, -⟩ := fixture_of_decode hl hdecode
  obtain ⟨replayBytes, hreplayBytes⟩ := hw.replay
  have hvalid := (ReplayArtifactSerializer.encode_eq_ok'.mp hreplayBytes).1
  simp only [GoldenFixtureSerializer.decode, bind_eq_ok, pure_eq_ok] at hdecode
  obtain ⟨_, hread, -, -, rfl⟩ := hdecode
  rename_i f
  obtain ⟨ls, hne, hclean, rfl, hreads⟩ := readAll_eq_ok.mp hread
  have hnew := reader_new_finish hne hclean GoldenFixtureSerializer.reading.label
  have hnodup := GoldenFixtureSerializer.fields_keyed.nodup hreads
  have hlines := GoldenFixtureSerializer.fields_artifacts hreads
  cases hsnapshot : f.snapshotArtifact with
  | none =>
    refine ⟨fun _ => ⟨_, hnew, .inl ?_⟩, fun _ a ha => by cases ha⟩
    have hpresent := hlines.present
    rwa [hsnapshot] at hpresent
  | some a =>
    obtain ⟨rb, hrb, hreplay⟩ := hlines.replay
    simp only [ReplayArtifactSerializer.decode, bind_eq_ok, pure_eq_ok] at hreplay
    obtain ⟨_, hreplay, -, -, rfl⟩ := hreplay
    obtain ⟨rl, hrl, hrlReads⟩ := holdsFile_of_read hrb hreplay
    obtain ⟨sb, hsb, hdecoded⟩ := hlines.snapshot a hsnapshot
    obtain ⟨sl, hsl, hslReads⟩ := holdsFile_of_read hsb hdecoded
    have hrlKeyed : Keyed (fun l : Line => l.1) _ (sim.replayArtifactCodec.fields layout) :=
      keyed_of_comp ReplayArtifactSerializer.fields_keyed
    have hagree := expected_iff_lines (hrlKeyed.nodup hrlReads)
      (SnapshotArtifact.fields_keyed.nodup hslReads)
      (ReplayArtifactSerializer.fields_records hrlReads)
      (SnapshotArtifact.fields_capture hslReads)
      fun h => snapshotRecorded_get hvalid.legal hr.records.1 ((hrecorded a hsnapshot).mpr h)
    simp only [Option.mem_def, Option.some.injEq, forall_eq']
    rw [hrecorded a hsnapshot, hagree]
    constructor
    · rintro ⟨tick, reason, checksum, payload, ht, hc⟩
      exact ⟨_, hnew, .inr ⟨rl, sl, tick, reason, checksum, payload, hrl, hsl, ht, hc⟩⟩
    · rintro ⟨reader, hreader, hcase⟩
      obtain rfl := Except.ok.inj (hnew.symm.trans hreader)
      rcases hcase with habsent | ⟨rl', sl', tick, reason, checksum, payload, hrl', hsl', ht, hc⟩
      · have hpresent := (lineSays_iff hnodup hlines.present).mp habsent
        rw [hsnapshot] at hpresent
        cases hpresent
      · obtain rfl := holdsFile_unique hnodup hrl hrl'
        obtain rfl := holdsFile_unique hnodup hsl hsl'
        exact ⟨tick, reason, checksum, payload, ht, hc⟩

omit [DecidableEq C] [DecidableEq Config] [Debug C] [Debug Config] in
/- The final snapshot of a run is one of its recording. -/
theorem finalSnapshot_recorded [LawfulSimulationState S Snapshot] [PurePhase P S C Snapshot]
    [QuietPhase P S C Snapshot] (hl : sim.Lawful fits) {scenario : SimulationScenario C Config}
    {execution : ScenarioExecutionResult C Snapshot}
    (hexec : sim.executeScenario scenario = .ok execution) :
    ∀ a ∈ execution.finalSnapshot, SnapshotRecorded execution.replay.artifact a := by
  obtain ⟨digest, recorded, e, Inv, s', records, -, hruns, hrun, hartifact, hresult, rfl⟩ :=
    executed_run hl hexec
  intro a ha
  change a ∈ recorded.result.finalSnapshot at ha
  obtain ⟨-, -, -, -, hfinal⟩ := ReplayArtifactSerializer.executionResult_eq_ok.mp hresult
  rw [hfinal] at ha
  obtain ⟨snapshot, hlast, rfl⟩ := Option.map_eq_some_iff.mp ha
  obtain ⟨record, hr, hs⟩ := lastSnapshot_some hlast
  refine ⟨record, hr, ?_, snapshot, hs, rfl, rfl, rfl⟩
  rw [hartifact] at hr
  change record.tick = snapshot.metadata.sourceTick
  rw [(legalFrom_mem (hruns.legal hrun) hr).metadata snapshot hs]

end Simulation

/- Of the fixtures that are read, those hold a snapshot of their replay whose files agree on
the tick it is from. -/
theorem fixture_snapshot_recorded_iff (layout : Layout) :
    (∀ (b : Bytes) (f : CounterGoldenFixture),
      counterGoldenFixtureCodec.decode layout b = .ok f →
      ((∀ a ∈ f.snapshotArtifact, SnapshotRecorded f.replayArtifact a) ↔
        counterGoldenFixtureCodec.NamesCapture b)) ∧
    (∀ (b : Bytes) (f : SettlementGoldenFixture),
      settlementGoldenFixtureCodec.decode layout b = .ok f →
      ((∀ a ∈ f.snapshotArtifact, SnapshotRecorded f.replayArtifact a) ↔
        settlementGoldenFixtureCodec.NamesCapture b)) :=
  ⟨fun _ _ hdecode => Simulation.snapshotRecorded_iff_lines counter_lawful hdecode,
    fun _ _ hdecode => Simulation.snapshotRecorded_iff_lines settlement_lawful hdecode⟩

/- The fixture of the two ticks, whose snapshot is that of the second. -/
theorem fixture_snapshot_recorded_two_ticks : ∃ b f,
    counterGoldenFixtureCodec.decode unitLayout b = .ok f ∧ f.snapshotArtifact.isSome = true ∧
      (∀ a ∈ f.snapshotArtifact, SnapshotRecorded f.replayArtifact a) ∧
      counterGoldenFixtureCodec.NamesCapture b := by
  obtain ⟨f, b, _, execution, hf⟩ := exists_twoSteps_fixture
  have hrecorded : ∀ a ∈ f.snapshotArtifact, SnapshotRecorded f.replayArtifact a := by
    rw [hf.generated.snapshot, hf.generated.replay]
    exact Simulation.finalSnapshot_recorded counter_lawful hf.executes
  exact ⟨b, f, hf.decodes, hf.snapshot, hrecorded,
    ((fixture_snapshot_recorded_iff unitLayout).1 b f hf.decodes).mp hrecorded⟩

/- A fixture of no frames is read with the snapshot of tick 1 beside it. -/
theorem fixture_with_stray_snapshot :
    ¬ ∀ (layout : Layout) (b : Bytes) (f : CounterGoldenFixture),
      counterGoldenFixtureCodec.decode layout b = .ok f →
        ∀ a ∈ f.snapshotArtifact, SnapshotRecorded f.replayArtifact a := by
  intro hall
  obtain ⟨b, f, -, hdecode, hsnapshot, hreplay, -⟩ := @exists_stray_fixture (some straySnapshot)
    (fun a ha => (Option.some.inj ha).symm) id sameParity_refl
  obtain ⟨record, hr, -⟩ := hall _ b f hdecode straySnapshot (by rw [hsnapshot]; rfl)
  rw [hreplay] at hr
  cases hr

end XenorEngine.Rust
