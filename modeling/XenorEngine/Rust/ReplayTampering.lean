import XenorEngine.Rust.ArtifactGuarantees
import XenorEngine.Rust.FieldOrder

/-!
# Tampering with a replay artifact (persistence/mod.rs)

The keys a decoder asks for depend on counts and flags it has read, but they are
distinct in every file and each is asked for in one place. A file in which lines
were removed, repeated, exchanged or added is refused with an error.
-/

namespace XenorEngine.Rust
open XenorEngine.Lib.ByteText XenorEngine.Lib.LineText XenorEngine.Lib.Fallible
open XenorEngine.Lib.PrefixReader XenorEngine.Lib.FieldCodec XenorEngine.Lib.Decimal
open XenorEngine.Lib.KeyedReader

/-! ### Segments of a key -/

/-- `record.3.tick` is `record`, `3`, `tick`. -/
def segments (key : String) : List String := (key.toList.splitOn '.').map String.ofList

theorem segments_dot (a b : String) : segments (a ++ "." ++ b) = segments a ++ segments b := by
  have hchars : (a ++ "." ++ b).toList = a.toList ++ '.' :: b.toList := by
    rw [String.toList_append, String.toList_append, List.append_assoc]
    rfl
  rw [segments, hchars, List.splitOn_append_cons_self, List.map_append]
  rfl

theorem segments_index (i : ℕ) : segments (toString i) = [toString i] := by
  have hdot : '.' ∉ (toString i).toList := by
    rw [toList_toString_nat]
    intro h
    exact absurd (natChars_isDigit h) (by decide)
  have hsplit : (toString i).toList.splitOn '.' = [(toString i).toList] := by
    have h := @List.splitOn_intercalate _ [(toString i).toList] _ _ '.'
      (fun l hl => by rwa [List.mem_singleton.mp hl]) (by simp)
    simpa using h
  rw [segments, hsplit, List.map_singleton, String.ofList_toList]

theorem index_injective {i j : ℕ} (h : toString i = toString j) : i = j := by
  apply natChars_injective
  rw [← toList_toString_nat, h, toList_toString_nat]

/- The key of a field of record `i`, and of an element `j` of one of its lists. -/
theorem segments_record (i : ℕ) (leaf : String) {dotted : String} {path : List String}
    (hdotted : dotted = "." ++ leaf) (hpath : segments leaf = path) :
    segments (toString "record." ++ toString i ++ toString dotted) =
      "record" :: toString i :: path := by
  have hkey : toString "record." ++ toString i ++ toString dotted =
      "record" ++ "." ++ (toString i ++ "." ++ leaf) := by
    have hpre : toString "record." = "record" ++ "." := rfl
    rw [hdotted, hpre]
    simp only [String.append_assoc, toString]
  have hrecord : segments "record" = ["record"] := by decide
  rw [hkey, segments_dot, segments_dot, segments_index, hpath, hrecord]
  rfl

theorem segments_element (i j : ℕ) (list leaf : String) {middle dotted : String}
    (hmiddle : middle = "." ++ list ++ ".") (hdotted : dotted = "." ++ leaf)
    (hlist : segments list = [list]) (hleaf : segments leaf = [leaf]) :
    segments (toString "record." ++ toString i ++ toString middle ++ toString j ++
      toString dotted) = ["record", toString i, list, toString j, leaf] := by
  have hkey : toString "record." ++ toString i ++ toString middle ++ toString j ++
      toString dotted = toString "record." ++ toString i ++ toString ("." ++
        (list ++ "." ++ (toString j ++ "." ++ leaf))) := by
    rw [hmiddle, hdotted]
    simp only [String.append_assoc, toString]
  rw [hkey, segments_record i _ rfl rfl, segments_dot, segments_dot, segments_index, hlist, hleaf]
  rfl

/-! ### Distinct keys -/

namespace ReplayArtifactSerializer
variable {C Snapshot : Type} {s : ReplayArtifactSerializer C Snapshot} {layout : Layout}

/-- The segments of the key of a line. -/
def lineSegments (l : Line) : List String := segments l.1

/-- The keys of element `j` of a list of record `i`. -/
def elementKeys (i : ℕ) (list : String) (j : ℕ) : Set (List String) :=
  {k | ∃ leaf, k = ["record", toString i, list, toString j, leaf]}

theorem elementKeys_disjoint {i : ℕ} {list : String} (j j' : ℕ) (h : j ≠ j') :
    ∀ k ∈ elementKeys i list j, k ∉ elementKeys i list j' := by
  rintro _ ⟨leaf, rfl⟩ ⟨leaf', he⟩
  simp only [List.cons.injEq, true_and] at he
  exact h (index_injective he.1)

theorem phaseFields_keyed (i j : ℕ) :
    Keyed lineSegments (elementKeys i "phase" j) (phaseFields i j) := by
  have hkeys : Keyed lineSegments (withKeys [["record", toString i, "phase", toString j, "ordinal"],
      ["record", toString i, "phase", toString j, "group"],
      ["record", toString i, "phase", toString j, "name_hex"]] ∅) (phaseFields i j) := by
    unfold phaseFields
    refine keyed_field (fun _ => segments_element i j "phase" "ordinal" rfl rfl (by decide)
      (by decide)) (by simp [withKeys]) fun ordinal => ?_
    refine keyed_field (fun _ => segments_element i j "phase" "group" rfl rfl (by decide)
      (by decide)) (by simp [withKeys]) fun group => ?_
    refine keyed_field (fun _ => segments_element i j "phase" "name_hex" rfl rfl (by decide)
      (by decide)) (by simp [withKeys]) fun name => ?_
    exact keyed_last (keyed_pure _)
  exact keyed_mono hkeys (withKeys_subset (by simp [elementKeys]) (Set.empty_subset _))

theorem validationFields_keyed (i j : ℕ) :
    Keyed lineSegments (elementKeys i "validation" j) (validationFields i j) := by
  have hkeys : Keyed lineSegments
      (withKeys [["record", toString i, "validation", toString j, "checkpoint"],
        ["record", toString i, "validation", toString j, "state_tick"],
        ["record", toString i, "validation", toString j, "state_digest"]] ∅)
      (validationFields i j) := by
    unfold validationFields
    refine keyed_field (fun _ => segments_element i j "validation" "checkpoint" rfl rfl
      (by decide) (by decide)) (by simp [withKeys]) fun checkpoint => ?_
    refine keyed_field (fun _ => segments_element i j "validation" "state_tick" rfl rfl
      (by decide) (by decide)) (by simp [withKeys]) fun stateTick => ?_
    refine keyed_field (fun _ => segments_element i j "validation" "state_digest" rfl rfl
      (by decide) (by decide)) (by simp [withKeys]) fun stateDigest => ?_
    exact keyed_last (keyed_pure _)
  exact keyed_mono hkeys (withKeys_subset (by simp [elementKeys]) (Set.empty_subset _))

theorem snapshotFields_keyed (i : ℕ) :
    Keyed lineSegments (withKeys [["record", toString i, "snapshot", "reason"],
      ["record", toString i, "snapshot", "payload_schema_version"],
      ["record", toString i, "snapshot", "source_tick"],
      ["record", toString i, "snapshot", "capture_checksum"],
      ["record", toString i, "snapshot", "payload_hex"]] ∅) (s.snapshotFields i) := by
  unfold snapshotFields
  refine keyed_field (fun _ => segments_record i "snapshot.reason" rfl (by decide))
    (by simp [withKeys]) fun reason => ?_
  refine keyed_field (fun _ => segments_record i "snapshot.payload_schema_version" rfl (by decide))
    (by simp [withKeys]) fun version => ?_
  refine keyed_field (fun _ => segments_record i "snapshot.source_tick" rfl (by decide))
    (by simp [withKeys]) fun sourceTick => ?_
  refine keyed_field (fun _ => segments_record i "snapshot.capture_checksum" rfl (by decide))
    (by simp [withKeys]) fun checksum => ?_
  refine keyed_field (fun _ => segments_record i "snapshot.payload_hex" rfl (by decide))
    (by simp [withKeys]) fun payload => ?_
  exact keyed_last (keyed_pure _)

/-- The keys of record `i`. -/
def recordKeys (i : ℕ) : Set (List String) := {k | ∃ path, k = "record" :: toString i :: path}

theorem recordKeys_disjoint (i i' : ℕ) (h : i ≠ i') : ∀ k ∈ recordKeys i, k ∉ recordKeys i' := by
  rintro _ ⟨path, rfl⟩ ⟨path', he⟩
  simp only [List.cons.injEq, true_and] at he
  exact h (index_injective he.1)

theorem recordFields_keyed (i : ℕ) :
    Keyed lineSegments (recordKeys i) (s.recordFields layout i) := by
  have hkeys : Keyed lineSegments
      (withKeys [["record", toString i, "tick"], ["record", toString i, "input", "tick"],
        ["record", toString i, "command_hex"], ["record", toString i, "tick_seed"],
        ["record", toString i, "phase_count"]]
      ({k | ∃ j, 0 ≤ j ∧ k ∈ elementKeys i "phase" j} ∪
        withKeys [["record", toString i, "validation_count"]]
      ({k | ∃ j, 0 ≤ j ∧ k ∈ elementKeys i "validation" j} ∪
        withKeys [["record", toString i, "checksum"],
          ["record", toString i, "snapshot", "present"]]
        (withKeys [["record", toString i, "snapshot", "reason"],
          ["record", toString i, "snapshot", "payload_schema_version"],
          ["record", toString i, "snapshot", "source_tick"],
          ["record", toString i, "snapshot", "capture_checksum"],
          ["record", toString i, "snapshot", "payload_hex"]] ∅ ∪ ∅))))
      (s.recordFields layout i) := by
    unfold recordFields
    refine keyed_field (fun _ => segments_record i "tick" rfl (by decide))
      (by simp [withKeys, elementKeys]) fun tick => ?_
    refine keyed_field (fun _ => segments_record i "input.tick" rfl (by decide))
      (by simp [withKeys, elementKeys]) fun inputTick => ?_
    refine keyed_field (fun _ => segments_record i "command_hex" rfl (by decide))
      (by simp [withKeys, elementKeys]) fun command => ?_
    refine keyed_field (fun _ => segments_record i "tick_seed" rfl (by decide))
      (by simp [withKeys, elementKeys]) fun tickSeed => ?_
    refine keyed_field (fun _ => segments_record i "phase_count" rfl (by decide))
      (by simp [withKeys, elementKeys]) fun phaseCount => ?_
    refine keyed_lift_bind fun _ => keyed_last (keyed_bind
      (keyed_forRange (phaseFields_keyed i) elementKeys_disjoint 0 phaseCount) ?_
      (by rintro _ ⟨j, -, leaf, rfl⟩; simp [withKeys, elementKeys]))
    intro phaseMarkers
    refine keyed_field (fun _ => segments_record i "validation_count" rfl (by decide))
      (by simp [withKeys, elementKeys]) fun validationCount => ?_
    refine keyed_lift_bind fun _ => keyed_last (keyed_bind
      (keyed_forRange (validationFields_keyed i) elementKeys_disjoint 0 validationCount) ?_
      (by rintro _ ⟨j, -, leaf, rfl⟩; simp [withKeys]))
    intro validationSummaries
    refine keyed_field (fun _ => segments_record i "checksum" rfl (by decide))
      (by simp [withKeys]) fun checksum => ?_
    refine keyed_field (fun _ => segments_record i "snapshot.present" rfl (by decide))
      (by simp [withKeys]) fun snapshotPresent => ?_
    exact keyed_last (keyed_bind (keyed_optionally (snapshotFields_keyed i) snapshotPresent)
      (fun snapshot => keyed_pure _) fun _ _ => Set.notMem_empty _)
  refine keyed_mono hkeys (withKeys_subset (by simp [recordKeys]) (Set.union_subset ?_
    (withKeys_subset (by simp [recordKeys]) (Set.union_subset ?_ (withKeys_subset
      (by simp [recordKeys]) (Set.union_subset (withKeys_subset (by simp [recordKeys])
        (Set.empty_subset _)) (Set.empty_subset _)))))))
  · rintro _ ⟨j, -, leaf, rfl⟩
    exact ⟨_, rfl⟩
  · rintro _ ⟨j, -, leaf, rfl⟩
    exact ⟨_, rfl⟩

def headKeys : List (List String) :=
  [["artifact"], ["canonical_encoding"], ["artifact_schema_version"], ["engine_family_hex"],
   ["base_seed"], ["total_ticks"], ["snapshot_policy"], ["config_payload_schema_version"],
   ["config_digest"], ["command_payload_schema_version"], ["snapshot_payload_schema_version"],
   ["record_count"]]

/- However many records a file has, its keys are distinct. -/
theorem fields_keyed :
    Keyed lineSegments (withKeys headKeys ({k | ∃ i, 0 ≤ i ∧ k ∈ recordKeys i} ∪ ∅))
      (s.fields layout) := by
  have hone : ∀ key : String, segments key = [key] → ∀ v, lineSegments (key, v) = [key] :=
    fun _ h _ => h
  unfold fields headKeys
  refine keyed_expect (hone _ (by decide)) (by simp [withKeys, recordKeys]) fun _ => ?_
  refine keyed_expect (hone _ (by decide)) (by simp [withKeys, recordKeys]) fun _ => ?_
  refine keyed_field (hone _ (by decide)) (by simp [withKeys, recordKeys]) fun version => ?_
  refine keyed_lift_bind fun _ => ?_
  refine keyed_field (hone _ (by decide)) (by simp [withKeys, recordKeys]) fun family => ?_
  refine keyed_lift_bind fun _ => ?_
  refine keyed_field (hone _ (by decide)) (by simp [withKeys, recordKeys]) fun baseSeed => ?_
  refine keyed_field (hone _ (by decide)) (by simp [withKeys, recordKeys]) fun totalTicks => ?_
  refine keyed_field (hone _ (by decide)) (by simp [withKeys, recordKeys]) fun policy => ?_
  refine keyed_field (hone _ (by decide)) (by simp [withKeys, recordKeys]) fun configVersion => ?_
  refine keyed_field (hone _ (by decide)) (by simp [withKeys, recordKeys]) fun configDigest => ?_
  refine keyed_field (hone _ (by decide)) (by simp [withKeys, recordKeys]) fun commandVersion => ?_
  refine keyed_lift_bind fun _ => ?_
  refine keyed_field (hone _ (by decide)) (by simp [withKeys, recordKeys]) fun payloadVersion => ?_
  refine keyed_lift_bind fun _ => ?_
  refine keyed_field (hone _ (by decide)) (by simp [withKeys, recordKeys]) fun recordCount => ?_
  refine keyed_lift_bind fun _ => ?_
  exact keyed_last (keyed_bind (keyed_forRange recordFields_keyed recordKeys_disjoint 0 recordCount)
    (fun records => keyed_pure _) fun _ _ => Set.notMem_empty _)

/-! ### One key in each place -/

theorem replayCorrupted_isError (error : CanonicalError) : (replayCorrupted error).IsError :=
  ⟨_, rfl⟩

theorem strict_readReplay {α : Type} {key : String} {parse : String → Except EngineError α} :
    Strict (fun l : Line => l.1) Failure.IsError (readReplay key parse) :=
  strict_field replayCorrupted_isError

theorem strict_expectReplay {key expected : String} :
    Strict (fun l : Line => l.1) Failure.IsError (expectReplay key expected) :=
  strict_expect replayCorrupted_isError

theorem phaseFields_strict (i j : ℕ) :
    Strict (fun l : Line => l.1) Failure.IsError (phaseFields i j) := by
  unfold phaseFields
  refine strict_bind strict_readReplay fun ordinal => ?_
  refine strict_bind strict_readReplay fun group => ?_
  exact strict_bind strict_readReplay fun name => strict_pure _

theorem validationFields_strict (i j : ℕ) :
    Strict (fun l : Line => l.1) Failure.IsError (validationFields i j) := by
  unfold validationFields
  refine strict_bind strict_readReplay fun checkpoint => ?_
  refine strict_bind strict_readReplay fun stateTick => ?_
  exact strict_bind strict_readReplay fun stateDigest => strict_pure _

theorem snapshotFields_strict (i : ℕ) :
    Strict (fun l : Line => l.1) Failure.IsError (s.snapshotFields i) := by
  unfold snapshotFields
  refine strict_bind strict_readReplay fun reason => ?_
  refine strict_bind strict_readReplay fun version => ?_
  refine strict_bind strict_readReplay fun sourceTick => ?_
  refine strict_bind strict_readReplay fun checksum => ?_
  exact strict_bind strict_readReplay fun payload => strict_pure _

theorem recordFields_strict (i : ℕ) :
    Strict (fun l : Line => l.1) Failure.IsError (s.recordFields layout i) := by
  unfold recordFields
  refine strict_bind strict_readReplay fun tick => ?_
  refine strict_bind strict_readReplay fun inputTick => ?_
  refine strict_bind strict_readReplay fun command => ?_
  refine strict_bind strict_readReplay fun tickSeed => ?_
  refine strict_bind strict_readReplay fun phaseCount => ?_
  refine strict_bind (strict_lift _) fun _ => ?_
  refine strict_bind (strict_forRange (phaseFields_strict i) 0 phaseCount) fun markers => ?_
  refine strict_bind strict_readReplay fun validationCount => ?_
  refine strict_bind (strict_lift _) fun _ => ?_
  refine strict_bind (strict_forRange (validationFields_strict i) 0 validationCount)
    fun summaries => ?_
  refine strict_bind strict_readReplay fun checksum => ?_
  refine strict_bind strict_readReplay fun snapshotPresent => ?_
  exact strict_bind (strict_optionally (snapshotFields_strict i) snapshotPresent)
    fun snapshot => strict_pure _

theorem fields_strict : Strict (fun l : Line => l.1) Failure.IsError (s.fields layout) := by
  unfold fields
  refine strict_bind strict_expectReplay fun _ => ?_
  refine strict_bind strict_expectReplay fun _ => ?_
  refine strict_bind strict_readReplay fun version => ?_
  refine strict_bind (strict_lift _) fun _ => ?_
  refine strict_bind strict_readReplay fun family => ?_
  refine strict_bind (strict_lift _) fun _ => ?_
  refine strict_bind strict_readReplay fun baseSeed => ?_
  refine strict_bind strict_readReplay fun totalTicks => ?_
  refine strict_bind strict_readReplay fun policy => ?_
  refine strict_bind strict_readReplay fun configVersion => ?_
  refine strict_bind strict_readReplay fun configDigest => ?_
  refine strict_bind strict_readReplay fun commandVersion => ?_
  refine strict_bind (strict_lift _) fun _ => ?_
  refine strict_bind strict_readReplay fun payloadVersion => ?_
  refine strict_bind (strict_lift _) fun _ => ?_
  refine strict_bind strict_readReplay fun recordCount => ?_
  refine strict_bind (strict_lift _) fun _ => ?_
  exact strict_bind (strict_forRange recordFields_strict 0 recordCount) fun records => strict_pure _

/- A file that is accepted is its lines, and after one change to them it is refused with
an error. -/
theorem tampered_replay_rejected (s : ReplayArtifactSerializer C Snapshot) (layout : Layout)
    (bytes : Bytes) (a : ReplayArtifact C Snapshot) (h : s.decode layout bytes = .ok a) :
    joinByteLines (byteLines bytes) = bytes ∧
      ∀ changed, Tampered NewLine (byteLines bytes) changed →
        ∃ e, s.decode layout (joinByteLines changed) = .error (.error e) := by
  simp only [decode, bind_eq_ok] at h
  obtain ⟨artifact, hread, -⟩ := h
  obtain ⟨hjoin, hall⟩ := readAll_tampered (keyed_of_comp fields_keyed) fields_strict
    replayCorrupted_isError hread
  refine ⟨hjoin, fun changed ht => ?_⟩
  obtain ⟨-, herror, e, rfl⟩ := hall changed ht
  refine ⟨e, ?_⟩
  rw [decode, herror]
  rfl

end ReplayArtifactSerializer

/- The lines of the two ticks stand apart in the file of the recording. -/
theorem twoSteps_tickLines {recorded : CounterRecordedReplay} (h : TwoStepsRecording recorded) :
    ∃ b head first middle second tail,
      counterReplayArtifactCodec.encode recorded.artifact = .ok b ∧
      byteLines b = head ++ lineBytes ("record.0.tick", first) ::
        (middle ++ lineBytes ("record.1.tick", second) :: tail) := by
  obtain ⟨b, hb⟩ := h.encodes
  obtain ⟨hvalid, rfl⟩ := ReplayArtifactSerializer.encode_eq_ok'.mp hb
  obtain ⟨r0, r1, _, _, hrecords, -⟩ := h.split
  have hclean : ∀ l ∈ counterReplayArtifactCodec.out recorded.artifact, Clean l :=
    (@ReplayArtifactSerializer.fields_codec _ _ _ unitLayout _ _ le_rfl
      counter_lawful.commandLaw counter_lawful.snapshotLaw).legal _
      ⟨hvalid.own, h.totals.recordCount, hvalid.writable, h.representable⟩
  have hne : counterReplayArtifactCodec.out recorded.artifact ≠ [] := List.cons_ne_nil _ _
  have hrecord : ∀ (i : ℕ) (record : ReplayTickRecord CounterCommand CounterSnapshot), ∃ tail,
      counterReplayArtifactCodec.recordOut i record =
        (s!"record.{i}.tick", toString record.tick) :: tail := fun _ _ => ⟨_, rfl⟩
  obtain ⟨tail0, h0⟩ := hrecord 0 r0
  obtain ⟨tail1, h1⟩ := hrecord 1 r1
  refine ⟨_, (ReplayArtifactSerializer.headLines recorded.artifact.metadata).map lineBytes,
    toString r0.tick, tail0.map lineBytes, toString r1.tick, tail1.map lineBytes, hb, ?_⟩
  rw [byteLines_finish hne hclean, ReplayArtifactSerializer.out, hrecords,
    writeFrom, writeFrom, writeFrom, h0, h1, List.append_nil]
  simp only [List.map_append, List.map_cons, List.cons_append]
  rfl

/- The recording without a line of its first tick, with it a second time, and with the lines
of the two ticks exchanged. -/
theorem tampered_replay_rejected_two_ticks : ∃ recorded b head first middle second tail,
    TwoStepsRecording recorded ∧
      counterReplayArtifactCodec.decode unitLayout b = .ok recorded.artifact ∧
      byteLines b = head ++ lineBytes ("record.0.tick", first) ::
        (middle ++ lineBytes ("record.1.tick", second) :: tail) ∧
      ∀ changed ∈
        [head ++ (middle ++ lineBytes ("record.1.tick", second) :: tail),
         head ++ lineBytes ("record.0.tick", first) :: lineBytes ("record.0.tick", first) ::
           (middle ++ lineBytes ("record.1.tick", second) :: tail),
         head ++ lineBytes ("record.1.tick", second) ::
           (middle ++ lineBytes ("record.0.tick", first) :: tail)],
        ∃ e, counterReplayArtifactCodec.decode unitLayout (joinByteLines changed) =
          .error (.error e) := by
  obtain ⟨recorded, _, h, -⟩ := twoSteps_recorded
  obtain ⟨b, head, first, middle, second, tail, hb, hlines⟩ := twoSteps_tickLines h
  have hdecode := (Simulation.replay_codec_law counter_lawful unitLayout).roundTrip hb
    ⟨h.representable, h.totals⟩
  obtain ⟨-, hrejected⟩ := ReplayArtifactSerializer.tampered_replay_rejected
    counterReplayArtifactCodec unitLayout b _ hdecode
  rw [hlines] at hrejected
  refine ⟨recorded, b, head, first, middle, second, tail, h, hdecode, hlines, ?_⟩
  simp only [List.forall_mem_cons]
  exact ⟨hrejected _ (.delete ..), hrejected _ (.duplicate _ _ _ (by simp)),
    hrejected _ (.exchange ..), List.forall_mem_nil _⟩

end XenorEngine.Rust
