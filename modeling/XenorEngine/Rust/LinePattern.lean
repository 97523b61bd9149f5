import XenorEngine.Lib.TokenPattern
import XenorEngine.Rust.Scenario

/-!
# The lines an importer takes (persistence/mod.rs, scenario/mod.rs)

A replay is a head, a count and as many records, and a record has two counts and a flag.
Given these, each line has one key and takes the values of one kind, whatever the other
lines say.
-/

namespace XenorEngine.Rust
open XenorEngine.Lib.ByteText XenorEngine.Lib.LineText XenorEngine.Lib.Fallible
open XenorEngine.Lib.PrefixReader XenorEngine.Lib.FieldCodec XenorEngine.Lib.Decimal
open XenorEngine.Lib.TokenPattern
open ReplayArtifactSerializer (orFail_eq_ok)

/-- A line with this key and a value of this kind. -/
def LineOf (key : String) (kind : String → Prop) (l : Line) : Prop := l.1 = key ∧ kind l.2

/-- The values a parser takes. -/
def Parses {ε α : Type} (parse : String → Except ε α) (value : String) : Prop :=
  ∃ a, parse value = .ok a

/-- The hexadecimal spellings of what a decoder takes. -/
def HexOf {ε α : Type} (label : String) (decode : Bytes → Except ε α) (value : String) : Prop :=
  ∃ bytes, decodeHex value label = .ok bytes ∧ ∃ a, decode bytes = .ok a

theorem hexOf_iff {ε ε' α : Type} {label value : String} {decode : Bytes → Except ε α}
    {x : Except ε' α}
    (h : ∀ a, x = .ok a ↔ ∃ bytes, decodeHex value label = .ok bytes ∧ decode bytes = .ok a) :
    HexOf label decode value ↔ ∃ a, x = .ok a := by
  simp only [HexOf, h]
  constructor
  · rintro ⟨bytes, hbytes, a, ha⟩
    exact ⟨a, bytes, hbytes, ha⟩
  · rintro ⟨a, bytes, hbytes, ha⟩
    exact ⟨bytes, hbytes, a, ha⟩

/-- After lines of the pattern, a line with this key counts `count`. -/
def CountAt (pattern : Pattern Line) (key : String) (count : ℕ) (ls : List Line) : Prop :=
  ∃ value rest, Begins pattern ls ((key, value) :: rest) ∧ fromStrUsize value = .ok count

theorem countAt_append {p q : Pattern Line} {key : String} {count : ℕ} {ls : List Line} :
    CountAt (p ++ q) key count ls ↔ ∃ mid, Begins p ls mid ∧ CountAt q key count mid := by
  constructor
  · rintro ⟨value, rest, hbegins, hcount⟩
    obtain ⟨mid, h1, h2⟩ := begins_append.mp hbegins
    exact ⟨mid, h1, value, rest, h2, hcount⟩
  · rintro ⟨mid, h1, value, rest, h2, hcount⟩
    exact ⟨value, rest, begins_append.mpr ⟨mid, h1, h2⟩, hcount⟩

theorem begins_count {key : String} {count : ℕ} {p : Pattern Line} {ls rest : List Line} :
    Begins (LineOf key (fromStrUsize · = .ok count) :: p) ls rest ↔
      ∃ value mid, ls = (key, value) :: mid ∧ fromStrUsize value = .ok count ∧
        Begins p mid rest := by
  rw [begins_cons]
  constructor
  · rintro ⟨⟨k, value⟩, mid, rfl, ⟨hkey, hcount⟩, h⟩
    obtain rfl : k = key := hkey
    exact ⟨value, mid, rfl, hcount, h⟩
  · rintro ⟨value, mid, rfl, hcount, h⟩
    exact ⟨(key, value), mid, rfl, ⟨rfl, hcount⟩, h⟩

section Fields
variable {α β : Type} {wrap : CanonicalError → Failure} {label key : String}

theorem accepts_field {parse : String → Outcome α} {kind : String → Prop}
    (hkind : ∀ v, kind v ↔ ∃ a, parse v = .ok a) :
    Accepts (readField wrap label key parse) [LineOf key kind] := by
  intro ls
  simp only [readField_reads, matches_cons, matches_nil]
  constructor
  · rintro ⟨a, v, rfl, ha⟩
    exact ⟨(key, v), [], rfl, ⟨rfl, (hkind v).mpr ⟨a, ha⟩⟩, rfl⟩
  · rintro ⟨⟨k, v⟩, _, rfl, ⟨hk, hv⟩, rfl⟩
    obtain rfl : k = key := hk
    obtain ⟨a, ha⟩ := (hkind v).mp hv
    exact ⟨a, v, rfl, ha⟩

theorem accepts_readField {parse : String → Outcome α} {kind : String → Prop}
    {f : α → Reader Line Failure β} {p : Pattern Line}
    (hkind : ∀ v, kind v ↔ ∃ a, parse v = .ok a) (hf : ∀ a, Accepts (f a) p) :
    Accepts (readField wrap label key parse >>= f) (LineOf key kind :: p) :=
  accepts_bind (accepts_field hkind) hf

theorem accepts_expectField {expected : String} {f : Unit → Reader Line Failure β}
    {p : Pattern Line} (hf : ∀ u, Accepts (f u) p) :
    Accepts (expectField wrap label key expected >>= f) (LineOf key (· = expected) :: p) := by
  have hone : Accepts (expectField wrap label key expected) [LineOf key (· = expected)] := by
    intro ls
    simp only [expectField_reads, matches_cons, matches_nil]
    constructor
    · rintro ⟨-, rfl⟩
      exact ⟨(key, expected), [], rfl, ⟨rfl, rfl⟩, rfl⟩
    · rintro ⟨⟨k, v⟩, _, rfl, ⟨hk, hv⟩, rfl⟩
      obtain rfl : k = key := hk
      obtain rfl : v = expected := hv
      exact ⟨(), rfl⟩
  exact accepts_bind hone hf

theorem accepts_checkedField {parse : String → Outcome α} {check : α → Outcome Unit}
    {kind : String → Prop} {f : α → Reader Line Failure β} {p : Pattern Line}
    (hkind : ∀ v, kind v ↔ ∃ a, parse v = .ok a ∧ check a = .ok ())
    (hf : ∀ a, Accepts (f a) p) :
    Accepts (readField wrap label key parse >>= fun a => lift (check a) >>= fun _ => f a)
      (LineOf key kind :: p) := by
  refine accepts_checked (fun ls => ?_) hf
  simp only [readField_reads]
  constructor
  · rintro ⟨a, ⟨v, rfl, ha⟩, hcheck⟩
    exact ⟨(key, v), rfl, rfl, (hkind v).mpr ⟨a, ha, hcheck⟩⟩
  · rintro ⟨⟨k, v⟩, rfl, hk, hv⟩
    obtain rfl : k = key := hk
    obtain ⟨a, ha, hcheck⟩ := (hkind v).mp hv
    exact ⟨a, ⟨v, rfl, ha⟩, hcheck⟩

/- The kinds of line the parsers take. -/
theorem parses_number {fromStr : String → Except NumberFault α} {artifact field v : String} :
    Parses fromStr v ↔ ∃ a, orFail (parseNumber fromStr artifact field v) = .ok a := by
  simp only [Parses, orFail_eq_ok, parseNumber, mapError_eq_ok]

theorem parses_checked [DecidableEq α] {fromStr : String → Except NumberFault α}
    {artifact field v : String} {expected : α} {e : α → EngineError} :
    fromStr v = .ok expected ↔ ∃ a, orFail (parseNumber fromStr artifact field v) = .ok a ∧
      orFail (rejectIf (a ≠ expected) (e a)) = .ok () := by
  simp only [orFail_eq_ok, parseNumber, mapError_eq_ok, rejectIf_eq_ok, ne_eq, not_not,
    exists_eq_right]

end Fields

/-! ### Scenarios -/

namespace SimulationScenarioSerializer
variable {C Config : Type} (s : SimulationScenarioSerializer C Config) (layout : Layout)

/-- The lines before `frame_count`. -/
def headPattern : Pattern Line :=
  [LineOf "artifact" (· = "scenario"),
   LineOf "canonical_encoding" (· = CANONICAL_TEXT_ENCODING),
   LineOf "artifact_schema_version" (fromStrU32 · = .ok schemaVersion),
   LineOf "config_artifact_hex"
     (HexOf "scenario config artifact" s.configArtifactSerializer.decode),
   LineOf "base_seed" (Parses fromStrU64)]

/-- The frames that are counted after such lines can be allocated. -/
def CountsFit (ls : List Line) : Prop :=
  ∀ count, CountAt s.headPattern "frame_count" count ls → layout.frame * count ≤ layout.limit

/-- What the lines before `frame_count` say. -/
structure Head (Config : Type) where
  artifactSchemaVersion : UInt32
  configArtifact : ConfigArtifact Config
  baseSeed : Seed

def headFields : Reader Line Failure (Head Config) := do
  reading.expectValue "artifact" "scenario"
  reading.expectValue "canonical_encoding" CANONICAL_TEXT_ENCODING
  let artifactSchemaVersion ← reading.readValue "artifact_schema_version" reading.parseU32
  lift (orFail (rejectIf (artifactSchemaVersion ≠ schemaVersion)
    (.unsupportedSchemaVersion "scenario artifact" schemaVersion artifactSchemaVersion)))
  let configArtifact ← reading.readValue "config_artifact_hex" s.decodeConfigArtifact
  let baseSeed ← reading.readValue "base_seed" reading.parseU64
  pure ⟨artifactSchemaVersion, configArtifact, baseSeed⟩

def tailFields (head : Head Config) (frameCount : ℕ) :
    Reader Line Failure (SimulationScenario C Config) := do
  let frames ← forRange s.frameFields 0 frameCount
  let parityPresent ← reading.readValue "expected_parity.present" reading.parseBool
  let expectedParitySummary ← optionally parityPresent
    (reading.summaryFields "scenario parity engine family" "expected_parity")
  pure ⟨⟨head.artifactSchemaVersion⟩, head.configArtifact, head.baseSeed, frames,
    expectedParitySummary⟩

theorem fields_eq : s.fields layout = (s.headFields >>= fun head =>
    reading.readValue "frame_count" reading.parseUsize >>= fun frameCount =>
      lift (withCapacity layout layout.frame frameCount) >>= fun _ =>
        s.tailFields head frameCount) := by
  simp only [fields, headFields, tailFields, bind_assoc, pure_bind]

theorem headFields_accepts : Accepts s.headFields s.headPattern := by
  unfold headFields headPattern
  refine accepts_expectField fun _ => ?_
  refine accepts_expectField fun _ => ?_
  refine accepts_checkedField (fun v => parses_checked) fun version => ?_
  refine accepts_readField (fun v => ?_) fun configArtifact => ?_
  · refine hexOf_iff fun a => ?_
    simp only [orFail_eq_ok, decodeConfigArtifact, bind_eq_ok, mapError_eq_ok]
  exact accepts_readField (fun v => parses_number) fun baseSeed => accepts_pure _

end SimulationScenarioSerializer

/-! ### Replays -/

namespace ReplayArtifactSerializer
variable {C Snapshot : Type} (s : ReplayArtifactSerializer C Snapshot) (layout : Layout)

/-- The lines before `record_count`. -/
def headPattern : Pattern Line :=
  [LineOf "artifact" (· = "replay"),
   LineOf "canonical_encoding" (· = CANONICAL_TEXT_ENCODING),
   LineOf "artifact_schema_version" (fromStrU32 · = .ok schemaVersion),
   LineOf "engine_family_hex"
     (decodeHexString · "replay artifact engine family" = .ok s.engineFamily),
   LineOf "base_seed" (Parses fromStrU64),
   LineOf "total_ticks" (Parses fromStrU64),
   LineOf "snapshot_policy" (Parses parseReplayPolicy),
   LineOf "config_payload_schema_version" (Parses fromStrU32),
   LineOf "config_digest" (Parses fromStrU64),
   LineOf "command_payload_schema_version" (fromStrU32 · = .ok s.commandSerializer.schemaVersion),
   LineOf "snapshot_payload_schema_version"
     (fromStrU32 · = .ok s.snapshotSerializer.schemaVersion)]

/-- The lines of a record before `phase_count`. -/
def recordHeadPattern (index : ℕ) : Pattern Line :=
  [LineOf s!"record.{index}.tick" (Parses fromStrU64),
   LineOf s!"record.{index}.input.tick" (Parses fromStrU64),
   LineOf s!"record.{index}.command_hex"
     (HexOf "replay artifact command" s.commandSerializer.decode),
   LineOf s!"record.{index}.tick_seed" (Parses fromStrU64)]

def phasePattern (index phaseIndex : ℕ) : Pattern Line :=
  [LineOf s!"record.{index}.phase.{phaseIndex}.ordinal" (Parses fromStrUsize),
   LineOf s!"record.{index}.phase.{phaseIndex}.group" fun v => (PhaseGroup.parse v).isSome,
   LineOf s!"record.{index}.phase.{phaseIndex}.name_hex"
     (Parses (decodeHexString · "replay artifact phase name"))]

def validationPattern (index validationIndex : ℕ) : Pattern Line :=
  [LineOf s!"record.{index}.validation.{validationIndex}.checkpoint"
     fun v => (ValidationCheckpoint.parse v).isSome,
   LineOf s!"record.{index}.validation.{validationIndex}.state_tick" (Parses fromStrU64),
   LineOf s!"record.{index}.validation.{validationIndex}.state_digest" (Parses fromStrU64)]

def snapshotPattern (index : ℕ) : Pattern Line :=
  [LineOf s!"record.{index}.snapshot.reason" (Parses parseSnapshotCaptureReason),
   LineOf s!"record.{index}.snapshot.payload_schema_version" (Parses fromStrU32),
   LineOf s!"record.{index}.snapshot.source_tick" (Parses fromStrU64),
   LineOf s!"record.{index}.snapshot.capture_checksum" (Parses fromStrU64),
   LineOf s!"record.{index}.snapshot.payload_hex"
     (HexOf "replay artifact snapshot payload" s.snapshotSerializer.decode)]

/-- What the counts and the flag of a record say. -/
structure RecordShape where
  phases : ℕ
  validations : ℕ
  snapshot : Bool

/-- The lines of a record from `phase_count` to the one before `validation_count`. -/
def phasesPattern (index phases : ℕ) : Pattern Line :=
  LineOf s!"record.{index}.phase_count" (fromStrUsize · = .ok phases) ::
    (List.range' 0 phases).flatMap (phasePattern index)

/-- The lines of a record after `validation_count`. -/
def recordTailPattern (index : ℕ) (shape : RecordShape) : Pattern Line :=
  (List.range' 0 shape.validations).flatMap (validationPattern index) ++
    LineOf s!"record.{index}.checksum" (Parses fromStrU64) ::
    LineOf s!"record.{index}.snapshot.present" (boolOf · = some shape.snapshot) ::
    (if shape.snapshot then s.snapshotPattern index else [])

def recordPattern (index : ℕ) (shape : RecordShape) : Pattern Line :=
  s.recordHeadPattern index ++ (phasesPattern index shape.phases ++
    LineOf s!"record.{index}.validation_count" (fromStrUsize · = .ok shape.validations) ::
      s.recordTailPattern index shape)

/-- The lines before record `shapes.length` of `count`. -/
def recordsPattern (count : ℕ) (shapes : List RecordShape) : Pattern Line :=
  s.headPattern ++ LineOf "record_count" (fromStrUsize · = .ok count) ::
    writeFrom s.recordPattern 0 shapes

/-- What is counted after such lines can be allocated. -/
structure CountsFit (ls : List Line) : Prop where
  records : ∀ count, CountAt s.headPattern "record_count" count ls →
    layout.record * count ≤ layout.limit
  phases : ∀ count shapes phases, shapes.length < count →
    CountAt (s.recordsPattern count shapes ++ s.recordHeadPattern shapes.length)
      s!"record.{shapes.length}.phase_count" phases ls →
    layout.phaseMarker * phases ≤ layout.limit
  validations : ∀ count shapes phases validations, shapes.length < count →
    CountAt (s.recordsPattern count shapes ++ (s.recordHeadPattern shapes.length ++
        phasesPattern shapes.length phases))
      s!"record.{shapes.length}.validation_count" validations ls →
    layout.validationSummary * validations ≤ layout.limit

/-! ### The parts of the reader -/

/-- What the lines before `record_count` say, short of the count. -/
def headFields : Reader Line Failure (ℕ → ReplayArtifactMetadata) := do
  expectReplay "artifact" "replay"
  expectReplay "canonical_encoding" CANONICAL_TEXT_ENCODING
  let artifactSchemaVersion ← readReplay "artifact_schema_version"
    (parseNumber fromStrU32 "replay" "artifact schema version")
  lift (orFail (rejectIf (artifactSchemaVersion ≠ schemaVersion)
    (.unsupportedSchemaVersion "replay artifact" schemaVersion artifactSchemaVersion)))
  let engineFamily ← readReplay "engine_family_hex" fun v =>
    (decodeHexString v "replay artifact engine family").mapError replayCorruptedCanonical
  lift (orFail (rejectIf (engineFamily ≠ s.engineFamily) (.replayDecode
    s!"engine family mismatch: expected `{s.engineFamily}`, got `{engineFamily}`")))
  let baseSeed ← readReplay "base_seed" (parseNumber fromStrU64 "replay" "base seed")
  let totalTicks ← readReplay "total_ticks" (parseNumber fromStrU64 "replay" "total ticks")
  let snapshotPolicy ← readReplay "snapshot_policy" parseReplayPolicy
  let configPayloadSchemaVersion ← readReplay "config_payload_schema_version"
    (parseNumber fromStrU32 "replay" "config payload schema version")
  let configDigest ← readReplay "config_digest" (parseNumber fromStrU64 "replay" "config digest")
  let commandPayloadSchemaVersion ← readReplay "command_payload_schema_version"
    (parseNumber fromStrU32 "replay" "command payload schema version")
  lift (orFail (rejectIf (commandPayloadSchemaVersion ≠ s.commandSerializer.schemaVersion)
    (.unsupportedSchemaVersion "replay command payload" s.commandSerializer.schemaVersion
      commandPayloadSchemaVersion)))
  let snapshotPayloadSchemaVersion ← readReplay "snapshot_payload_schema_version"
    (parseNumber fromStrU32 "replay" "snapshot payload schema version")
  lift (orFail (rejectIf (snapshotPayloadSchemaVersion ≠ s.snapshotSerializer.schemaVersion)
    (.unsupportedSchemaVersion "replay snapshot payload" s.snapshotSerializer.schemaVersion
      snapshotPayloadSchemaVersion)))
  pure fun recordCount => ⟨artifactSchemaVersion, engineFamily, baseSeed, totalTicks,
    snapshotPolicy, ⟨configPayloadSchemaVersion, configDigest⟩, commandPayloadSchemaVersion,
    snapshotPayloadSchemaVersion, recordCount⟩

theorem fields_eq : s.fields layout = (s.headFields >>= fun metadata =>
    readReplay "record_count" (parseNumber fromStrUsize "replay" "record count") >>=
      fun recordCount => lift (withCapacity layout layout.record recordCount) >>= fun _ =>
        forRange (s.recordFields layout) 0 recordCount >>= fun records =>
          pure ⟨metadata recordCount, records⟩) := by
  simp only [fields, headFields, bind_assoc, pure_bind]

/-- What the lines of a record before `phase_count` say. -/
structure RecordHead (C : Type) where
  tick : Tick
  input : InputFrame C
  tickSeed : UInt64

def recordHead (index : ℕ) : Reader Line Failure (RecordHead C) := do
  let tick ← readReplay s!"record.{index}.tick" (parseNumber fromStrU64 "replay" "record tick")
  let inputTick ← readReplay s!"record.{index}.input.tick"
    (parseNumber fromStrU64 "replay" "record input tick")
  let command ← readReplay s!"record.{index}.command_hex" (s.decodeCommand tick)
  let tickSeedValue ← readReplay s!"record.{index}.tick_seed"
    (parseNumber fromStrU64 "replay" "record tick seed")
  pure ⟨tick, ⟨inputTick, command⟩, tickSeedValue⟩

def recordTail (index : ℕ) (head : RecordHead C) (phaseMarkers : List PhaseMarker)
    (validationCount : ℕ) : Reader Line Failure (ReplayTickRecord C Snapshot) := do
  let validationSummaries ← forRange (validationFields index) 0 validationCount
  let checksum ← readReplay s!"record.{index}.checksum"
    (parseNumber fromStrU64 "replay" "record checksum")
  let snapshotPresent ← readReplay s!"record.{index}.snapshot.present" parseReplayBool
  let snapshot ← optionally snapshotPresent (s.snapshotFields index)
  pure ⟨head.tick, head.input, head.tickSeed, phaseMarkers, validationSummaries, checksum,
    snapshot⟩

/-- The lines of a record after `phase_count`. -/
def recordMiddle (index : ℕ) (head : RecordHead C) (phaseCount : ℕ) :
    Reader Line Failure (ReplayTickRecord C Snapshot) :=
  forRange (phaseFields index) 0 phaseCount >>= fun phaseMarkers =>
    readReplay s!"record.{index}.validation_count"
      (parseNumber fromStrUsize "replay" "validation count") >>= fun validationCount =>
        lift (withCapacity layout layout.validationSummary validationCount) >>= fun _ =>
          s.recordTail index head phaseMarkers validationCount

theorem recordFields_eq (index : ℕ) : s.recordFields layout index =
    (s.recordHead index >>= fun head =>
      readReplay s!"record.{index}.phase_count"
        (parseNumber fromStrUsize "replay" "phase count") >>= fun phaseCount =>
          lift (withCapacity layout layout.phaseMarker phaseCount) >>= fun _ =>
            s.recordMiddle layout index head phaseCount) := by
  simp only [recordFields, recordHead, recordMiddle, recordTail, bind_assoc, pure_bind]

theorem headFields_accepts : Accepts s.headFields s.headPattern := by
  unfold headFields headPattern
  refine accepts_expectField fun _ => ?_
  refine accepts_expectField fun _ => ?_
  refine accepts_checkedField (fun v => parses_checked) fun version => ?_
  refine accepts_checkedField (fun v => ?_) fun family => ?_
  · simp only [orFail_eq_ok, mapError_eq_ok, rejectIf_eq_ok, ne_eq, not_not, exists_eq_right]
  refine accepts_readField (fun v => parses_number) fun baseSeed => ?_
  refine accepts_readField (fun v => parses_number) fun totalTicks => ?_
  refine accepts_readField (fun v => ?_) fun policy => ?_
  · simp only [Parses, orFail_eq_ok]
  refine accepts_readField (fun v => parses_number) fun configVersion => ?_
  refine accepts_readField (fun v => parses_number) fun configDigest => ?_
  refine accepts_checkedField (fun v => parses_checked) fun commandVersion => ?_
  exact accepts_checkedField (fun v => parses_checked) fun payloadVersion => accepts_pure _

theorem recordHead_accepts (index : ℕ) :
    Accepts (s.recordHead index) (s.recordHeadPattern index) := by
  unfold recordHead recordHeadPattern
  refine accepts_readField (fun v => parses_number) fun tick => ?_
  refine accepts_readField (fun v => parses_number) fun inputTick => ?_
  refine accepts_readField (fun v => hexOf_iff fun a => ?_) fun command => ?_
  · simp only [orFail_eq_ok, decodeCommand, bind_eq_ok, mapError_eq_ok]
  exact accepts_readField (fun v => parses_number) fun tickSeed => accepts_pure _

theorem phaseFields_accepts (index phaseIndex : ℕ) :
    Accepts (phaseFields index phaseIndex) (phasePattern index phaseIndex) := by
  unfold phaseFields phasePattern
  refine accepts_readField (fun v => parses_number) fun ordinal => ?_
  refine accepts_readField (fun v => ?_) fun group => ?_
  · simp only [orFail_eq_ok, okOr_eq_ok, Option.isSome_iff_exists]
  refine accepts_readField (fun v => ?_) fun name => accepts_pure _
  simp only [Parses, orFail_eq_ok, mapError_eq_ok]

theorem validationFields_accepts (index validationIndex : ℕ) :
    Accepts (validationFields index validationIndex) (validationPattern index validationIndex) := by
  unfold validationFields validationPattern
  refine accepts_readField (fun v => ?_) fun checkpoint => ?_
  · simp only [orFail_eq_ok, okOr_eq_ok, Option.isSome_iff_exists]
  refine accepts_readField (fun v => parses_number) fun stateTick => ?_
  exact accepts_readField (fun v => parses_number) fun stateDigest => accepts_pure _

theorem snapshotFields_accepts (index : ℕ) :
    Accepts (s.snapshotFields index) (s.snapshotPattern index) := by
  unfold snapshotFields snapshotPattern
  refine accepts_readField (fun v => ?_) fun reason => ?_
  · simp only [Parses, orFail_eq_ok]
  refine accepts_readField (fun v => parses_number) fun version => ?_
  refine accepts_readField (fun v => parses_number) fun sourceTick => ?_
  refine accepts_readField (fun v => parses_number) fun checksum => ?_
  refine accepts_readField (fun v => hexOf_iff fun a => ?_) fun payload => accepts_pure _
  simp only [orFail_eq_ok, decodeSnapshotPayload, bind_eq_ok, mapError_eq_ok]

theorem recordTail_accepts (index : ℕ) (head : RecordHead C) (phaseMarkers : List PhaseMarker)
    (phases validations : ℕ) :
    AcceptsAny (s.recordTail index head phaseMarkers validations)
      fun present => s.recordTailPattern index ⟨phases, validations, present⟩ := by
  unfold recordTail recordTailPattern
  refine acceptsAny_bind (accepts_forRange (validationFields_accepts index) 0 validations)
    fun summaries => ?_
  refine acceptsAny_bind (accepts_field fun v => parses_number) fun checksum => ?_
  refine acceptsAny_tagged (fun ls present => ?_) fun present => ?_
  · simp only [readReplay, readField_reads, orFail_eq_ok, parseReplayBool, okOr_eq_ok]
    constructor
    · rintro ⟨v, rfl, hv⟩
      exact ⟨_, rfl, rfl, hv⟩
    · rintro ⟨⟨k, v⟩, rfl, hk, hv⟩
      obtain rfl : k = _ := hk
      exact ⟨v, rfl, hv⟩
  · exact accepts_last (accepts_optionally (s.snapshotFields_accepts index) present) _

end ReplayArtifactSerializer

end XenorEngine.Rust
