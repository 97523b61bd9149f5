import XenorEngine.Rust.Scenario

/-!
# Golden fixtures (fixture/mod.rs)

A fixture bundles a config, a scenario, a replay and a snapshot artifact with a
summary. Bundles are checked when they are built, written, read and verified.
-/

namespace XenorEngine.Rust
open XenorEngine.Lib.ByteText XenorEngine.Lib.LineText XenorEngine.Lib.Fallible
open XenorEngine.Lib.PrefixReader XenorEngine.Lib.FieldCodec XenorEngine.Lib.Decimal
open ReplayArtifactSerializer (spells_orFail orFail_eq_ok)
open Debug (debug)

def GOLDEN_FIXTURE_SCHEMA_VERSION : UInt32 := 2

structure GoldenFixtureMetadata where
  artifactSchemaVersion : UInt32
  deriving DecidableEq, Repr

structure GoldenFixture (C Snapshot Config : Type) where
  metadata : GoldenFixtureMetadata
  configArtifact : ConfigArtifact Config
  scenarioArtifact : Option (SimulationScenario C Config)
  replayArtifact : ReplayArtifact C Snapshot
  snapshotArtifact : Option (SnapshotArtifact Snapshot)
  summary : GoldenFixtureSummary
  deriving DecidableEq, Repr

structure GoldenFixtureResult where
  fixtureSummary : GoldenFixtureSummary
  actualSummary : ParityArtifactSummary
  comparison : ParityComparison
  configMismatch : Option String
  scenarioMismatch : Option String
  replayMismatch : Option String
  snapshotMismatch : Option String
  summaryMismatch : Option String
  deriving DecidableEq, Repr

def GoldenFixtureResult.passed (r : GoldenFixtureResult) : Bool :=
  r.configMismatch.isNone && r.scenarioMismatch.isNone && r.replayMismatch.isNone &&
    r.snapshotMismatch.isNone && r.summaryMismatch.isNone && r.comparison.isMatch

structure GoldenFixtureSerializer (C Snapshot Config : Type) where
  replaySerializer : ReplayArtifactSerializer C Snapshot
  snapshotSerializer : SnapshotArtifactSerializer Snapshot
  configArtifactSerializer : ConfigArtifactSerializer Config
  scenarioSerializer : SimulationScenarioSerializer C Config

/-! ### Contracts between the artifacts -/

section Contract
variable {C Snapshot Config : Type} [SimulationConfig Config] [DecidableEq C]
  [DecidableEq Snapshot] [DecidableEq Config] [Debug C] [Debug Config]

def validateFixtureContract (configArtifact : ConfigArtifact Config)
    (scenarioArtifact : Option (SimulationScenario C Config))
    (replayArtifact : ReplayArtifact C Snapshot)
    (snapshotArtifact : Option (SnapshotArtifact Snapshot)) : Except EngineError Unit := do
  let identity := configArtifact.metadata.identity
  let policy := SimulationConfig.snapshotPolicy configArtifact.payload
  rejectIf (replayArtifact.metadata.configIdentity ≠ identity) (.configMismatch
    s!"fixture replay config identity mismatch: expected {debug identity}, got {debug replayArtifact.metadata.configIdentity}")
  rejectIf (replayArtifact.metadata.snapshotPolicy ≠ policy) (.configMismatch
    s!"fixture replay snapshot policy mismatch: expected {debug policy}, got {debug replayArtifact.metadata.snapshotPolicy}")
  ifPresent snapshotArtifact fun snapshotArtifact => do
    rejectIf (snapshotArtifact.metadata.baseSeed ≠ replayArtifact.metadata.baseSeed)
      (.snapshotMetadataMismatch
        s!"fixture snapshot base seed mismatch: expected {replayArtifact.metadata.baseSeed}, got {snapshotArtifact.metadata.baseSeed}")
    rejectIf (snapshotArtifact.metadata.configIdentity ≠ identity) (.configMismatch
      s!"fixture snapshot config identity mismatch: expected {debug identity}, got {debug snapshotArtifact.metadata.configIdentity}")
  ifPresent scenarioArtifact fun scenarioArtifact =>
    rejectIf (scenarioArtifact.configArtifact ≠ configArtifact) (.configMismatch
      s!"fixture config artifact does not match scenario config artifact: expected {debug scenarioArtifact.configArtifact}, got {debug configArtifact}")

/-- The first of the checks that fails, with its text. -/
def firstFailing : List (Bool × String) → Option String
  | [] => none
  | (failed, detail) :: rest => if failed then some detail else firstFailing rest

/-- The source returns this and the next in `Ok`. -/
def compareFixtureConfigContract (fixture : GoldenFixture C Snapshot Config)
    (effectiveConfig : ConfigArtifact Config) (scenarioDigest : Option UInt64) : Option String :=
  let identity := effectiveConfig.metadata.identity
  let policy := SimulationConfig.snapshotPolicy effectiveConfig.payload
  let replay := fixture.replayArtifact.metadata
  firstFailing [
    (fixture.configArtifact.metadata.identity ≠ identity,
      s!"fixture config identity mismatch: fixture {debug fixture.configArtifact.metadata.identity}, effective {debug identity}"),
    (replay.configIdentity ≠ identity,
      s!"replay config identity mismatch: expected {debug identity}, got {debug replay.configIdentity}"),
    (replay.snapshotPolicy ≠ policy,
      s!"replay snapshot policy mismatch: expected {debug policy}, got {debug replay.snapshotPolicy}"),
    (fixture.summary.configPayloadSchemaVersion ≠ identity.payloadSchemaVersion,
      s!"fixture summary config schema mismatch: expected {identity.payloadSchemaVersion}, got {fixture.summary.configPayloadSchemaVersion}"),
    (fixture.summary.configDigest ≠ identity.digest,
      s!"fixture summary config digest mismatch: expected {identity.digest}, got {fixture.summary.configDigest}"),
    (fixture.summary.scenarioDigest ≠ scenarioDigest,
      s!"fixture summary scenario digest mismatch: expected {debug scenarioDigest}, got {debug fixture.summary.scenarioDigest}"),
    (∃ snapshot ∈ fixture.snapshotArtifact, snapshot.metadata.configIdentity ≠ identity,
      s!"snapshot config identity mismatch: expected {debug identity}, got " ++
        (fixture.snapshotArtifact.map (debug ·.metadata.configIdentity)).getD "")]

def compareFixtureScenarioContract (fixture : GoldenFixture C Snapshot Config)
    (effectiveConfig : ConfigArtifact Config) : Option String :=
  match fixture.scenarioArtifact with
  | none => none
  | some scenario =>
    let replayFrames := fixture.replayArtifact.records.map (·.input)
    firstFailing [
      (scenario.configArtifact ≠ effectiveConfig,
        s!"scenario config artifact mismatch: expected {debug effectiveConfig}, got {debug scenario.configArtifact}"),
      (scenario.baseSeed ≠ fixture.replayArtifact.metadata.baseSeed,
        s!"scenario base seed mismatch: expected {fixture.replayArtifact.metadata.baseSeed}, got {scenario.baseSeed}"),
      (scenario.frames ≠ replayFrames,
        s!"scenario frames mismatch: expected {debug replayFrames}, got {debug scenario.frames}")]

def compareFixtureSummaryContract (actual expected : GoldenFixtureSummary) : Option String :=
  let comparison := compareParitySummaries expected actual
  if comparison.isMatch then none else some comparison.display

def compareSnapshotArtifacts (expected actual : SnapshotArtifact Snapshot)
    (snapshotSerializer : SnapshotArtifactSerializer Snapshot) :
    Except EngineError (Option String) :=
  let e := expected.metadata
  let a := actual.metadata
  match firstFailing [
    (e.baseSeed ≠ a.baseSeed,
      s!"snapshot base seed mismatch: expected {e.baseSeed}, got {a.baseSeed}"),
    (e.configIdentity ≠ a.configIdentity,
      s!"snapshot config identity mismatch: expected {debug e.configIdentity}, got {debug a.configIdentity}"),
    (e.engineFamily ≠ a.engineFamily,
      s!"snapshot engine family mismatch: expected `{e.engineFamily}`, got `{a.engineFamily}`"),
    (e.captureReason ≠ a.captureReason,
      s!"snapshot capture reason mismatch: expected {debug e.captureReason}, got {debug a.captureReason}"),
    (e.snapshot ≠ a.snapshot,
      s!"snapshot metadata mismatch: expected {debug e.snapshot}, got {debug a.snapshot}")] with
  | some detail => pure (some detail)
  | none =>
    if expected.payload ≠ actual.payload then do
      let expectedDigest ← snapshotSerializer.payloadDigest expected.payload
      let actualDigest ← snapshotSerializer.payloadDigest actual.payload
      pure (some s!"snapshot payload digest mismatch: expected {expectedDigest}, got {actualDigest}")
    else pure none

def compareOptionalSnapshotArtifacts (expected actual : Option (SnapshotArtifact Snapshot))
    (snapshotSerializer : SnapshotArtifactSerializer Snapshot) :
    Except EngineError (Option String) :=
  match expected, actual with
  | none, none => pure none
  | some expected, none => pure (some
      s!"snapshot artifact missing from rerun: expected tick {expected.metadata.snapshot.sourceTick}")
  | none, some actual => pure (some
      s!"unexpected rerun snapshot artifact at tick {actual.metadata.snapshot.sourceTick}")
  | some expected, some actual => compareSnapshotArtifacts expected actual snapshotSerializer

/-! ### What the contracts say -/

/-- What `validate_fixture_contract` demands. -/
structure FixtureContract (configArtifact : ConfigArtifact Config)
    (scenarioArtifact : Option (SimulationScenario C Config))
    (replayArtifact : ReplayArtifact C Snapshot)
    (snapshotArtifact : Option (SnapshotArtifact Snapshot)) : Prop where
  identity : replayArtifact.metadata.configIdentity = configArtifact.metadata.identity
  policy : replayArtifact.metadata.snapshotPolicy =
    SimulationConfig.snapshotPolicy configArtifact.payload
  snapshot : ∀ a ∈ snapshotArtifact, a.metadata.baseSeed = replayArtifact.metadata.baseSeed ∧
    a.metadata.configIdentity = configArtifact.metadata.identity
  scenario : ∀ a ∈ scenarioArtifact, a.configArtifact = configArtifact

omit [DecidableEq C] [DecidableEq Snapshot] [Debug C] in
theorem validateFixtureContract_eq_ok {configArtifact : ConfigArtifact Config}
    {scenarioArtifact : Option (SimulationScenario C Config)}
    {replayArtifact : ReplayArtifact C Snapshot}
    {snapshotArtifact : Option (SnapshotArtifact Snapshot)} {u : Unit} :
    validateFixtureContract configArtifact scenarioArtifact replayArtifact snapshotArtifact =
      .ok u ↔
        FixtureContract configArtifact scenarioArtifact replayArtifact snapshotArtifact := by
  simp only [validateFixtureContract, bind_eq_ok, rejectIf_eq_ok, exists_const, ifPresent_eq_ok,
    ne_eq, not_not]
  constructor
  · rintro ⟨h1, h2, h3, h4⟩
    exact ⟨h1, h2, h3, h4⟩
  · rintro ⟨h1, h2, h3, h4⟩
    exact ⟨h1, h2, h3, h4⟩

theorem firstFailing_eq_none {checks : List (Bool × String)} :
    firstFailing checks = none ↔ ∀ check ∈ checks, check.1 = false := by
  induction checks with
  | nil => simp [firstFailing]
  | cons check checks ih =>
    obtain ⟨failed, detail⟩ := check
    cases failed <;> simp [firstFailing, ih]

/-- What `compare_fixture_config_contract` demands. -/
structure ConfigContract (fixture : GoldenFixture C Snapshot Config)
    (effectiveConfig : ConfigArtifact Config) (scenarioDigest : Option UInt64) : Prop where
  identity : fixture.configArtifact.metadata.identity = effectiveConfig.metadata.identity
  replayIdentity :
    fixture.replayArtifact.metadata.configIdentity = effectiveConfig.metadata.identity
  policy : fixture.replayArtifact.metadata.snapshotPolicy =
    SimulationConfig.snapshotPolicy effectiveConfig.payload
  schemaVersion : fixture.summary.configPayloadSchemaVersion =
    effectiveConfig.metadata.identity.payloadSchemaVersion
  digest : fixture.summary.configDigest = effectiveConfig.metadata.identity.digest
  scenarioDigest : fixture.summary.scenarioDigest = scenarioDigest
  snapshotIdentity : ∀ a ∈ fixture.snapshotArtifact,
    a.metadata.configIdentity = effectiveConfig.metadata.identity

omit [DecidableEq C] [DecidableEq Snapshot] [DecidableEq Config] [Debug C] [Debug Config] in
theorem compareFixtureConfigContract_eq_none {fixture : GoldenFixture C Snapshot Config}
    {effectiveConfig : ConfigArtifact Config} {scenarioDigest : Option UInt64} :
    compareFixtureConfigContract fixture effectiveConfig scenarioDigest = none ↔
      ConfigContract fixture effectiveConfig scenarioDigest := by
  simp only [compareFixtureConfigContract, firstFailing_eq_none, List.forall_mem_cons,
    decide_eq_false_iff_not, ne_eq, not_not, not_exists, not_and, List.not_mem_nil,
    IsEmpty.forall_iff, implies_true, and_true]
  constructor
  · rintro ⟨h1, h2, h3, h4, h5, h6, h7⟩
    exact ⟨h1, h2, h3, h4, h5, h6, h7⟩
  · rintro ⟨h1, h2, h3, h4, h5, h6, h7⟩
    exact ⟨h1, h2, h3, h4, h5, h6, h7⟩

/-- What `compare_fixture_scenario_contract` demands. -/
structure ScenarioContract (fixture : GoldenFixture C Snapshot Config)
    (effectiveConfig : ConfigArtifact Config) (scenario : SimulationScenario C Config) : Prop where
  config : scenario.configArtifact = effectiveConfig
  baseSeed : scenario.baseSeed = fixture.replayArtifact.metadata.baseSeed
  frames : scenario.frames = fixture.replayArtifact.records.map (·.input)

omit [SimulationConfig Config] [DecidableEq Snapshot] in
theorem compareFixtureScenarioContract_eq_none {fixture : GoldenFixture C Snapshot Config}
    {effectiveConfig : ConfigArtifact Config} :
    compareFixtureScenarioContract fixture effectiveConfig = none ↔
      ∀ scenario ∈ fixture.scenarioArtifact,
        ScenarioContract fixture effectiveConfig scenario := by
  unfold compareFixtureScenarioContract
  cases fixture.scenarioArtifact with
  | none => simp
  | some scenario =>
    simp only [firstFailing_eq_none, List.forall_mem_cons, decide_eq_false_iff_not, ne_eq,
      not_not, List.not_mem_nil, IsEmpty.forall_iff, implies_true, and_true, Option.mem_def,
      Option.some.injEq, forall_eq']
    constructor
    · rintro ⟨h1, h2, h3⟩
      exact ⟨h1, h2, h3⟩
    · rintro ⟨h1, h2, h3⟩
      exact ⟨h1, h2, h3⟩

omit [SimulationConfig Config] [DecidableEq C] [DecidableEq Snapshot] [DecidableEq Config]
  [Debug C] [Debug Config] in
theorem compareFixtureSummaryContract_eq_none {actual expected : GoldenFixtureSummary} :
    compareFixtureSummaryContract actual expected = none ↔ SameParity expected actual := by
  rw [← compareParitySummaries_isMatch]
  cases h : (compareParitySummaries expected actual).isMatch <;>
    simp [compareFixtureSummaryContract, h]

theorem compareSnapshotArtifacts_eq_none {expected actual : SnapshotArtifact Snapshot}
    {snapshotSerializer : SnapshotArtifactSerializer Snapshot} :
    compareSnapshotArtifacts expected actual snapshotSerializer = .ok none ↔
      expected.metadata.baseSeed = actual.metadata.baseSeed ∧
      expected.metadata.configIdentity = actual.metadata.configIdentity ∧
      expected.metadata.engineFamily = actual.metadata.engineFamily ∧
      expected.metadata.captureReason = actual.metadata.captureReason ∧
      expected.metadata.snapshot = actual.metadata.snapshot ∧
      expected.payload = actual.payload := by
  have hmeta : ∀ checks : List (Bool × String), firstFailing checks ≠ none →
      ¬ ∀ check ∈ checks, check.1 = false :=
    fun checks hne hall => hne (firstFailing_eq_none.mpr hall)
  simp only [compareSnapshotArtifacts]
  split
  · rename_i detail hfail
    have hne := hmeta _ (by rw [hfail]; exact Option.some_ne_none _)
    simp only [List.forall_mem_cons, decide_eq_false_iff_not, ne_eq, not_not, List.not_mem_nil,
      IsEmpty.forall_iff, implies_true, and_true] at hne
    constructor
    · intro h
      cases h
    · rintro ⟨h1, h2, h3, h4, h5, -⟩
      exact absurd ⟨h1, h2, h3, h4, h5⟩ hne
  · rename_i hpass
    have hall := firstFailing_eq_none.mp hpass
    simp only [List.forall_mem_cons, decide_eq_false_iff_not, ne_eq, not_not, List.not_mem_nil,
      IsEmpty.forall_iff, implies_true, and_true] at hall
    obtain ⟨h1, h2, h3, h4, h5⟩ := hall
    by_cases hp : expected.payload = actual.payload
    · simp [h1, h2, h3, h4, h5, hp]
    · simp [hp]

/- The artifacts' own schema versions are not compared. -/
theorem compareOptionalSnapshotArtifacts_eq_none
    {expected actual : Option (SnapshotArtifact Snapshot)}
    {snapshotSerializer : SnapshotArtifactSerializer Snapshot} {version : UInt32}
    (hexpected : ∀ a ∈ expected, a.metadata.artifactSchemaVersion = version)
    (hactual : ∀ a ∈ actual, a.metadata.artifactSchemaVersion = version) :
    compareOptionalSnapshotArtifacts expected actual snapshotSerializer = .ok none ↔
      expected = actual := by
  cases expected with
  | none => cases actual <;> simp [compareOptionalSnapshotArtifacts]
  | some e =>
    cases actual with
    | none => simp [compareOptionalSnapshotArtifacts]
    | some a =>
      have he := hexpected e rfl
      have ha := hactual a rfl
      simp only [compareOptionalSnapshotArtifacts, compareSnapshotArtifacts_eq_none,
        Option.some.injEq]
      obtain ⟨⟨ev, ef, es, ei, er, em⟩, ep⟩ := e
      obtain ⟨⟨av, af, as, ai, ar, am⟩, ap⟩ := a
      simp only at he ha
      subst he ha
      simp only [SnapshotArtifact.mk.injEq, SnapshotArtifactMetadata.mk.injEq, true_and]
      tauto

end Contract

/-! ### The serializer -/

namespace GoldenFixtureSerializer

def reading : Reading := ⟨"golden fixture", "golden fixture"⟩

variable {C Snapshot Config : Type} (s : GoldenFixtureSerializer C Snapshot Config)

def fixtureSummaryFromArtifacts (replayArtifact : ReplayArtifact C Snapshot)
    (snapshotArtifact : Option (SnapshotArtifact Snapshot))
    (scenarioArtifact : Option (SimulationScenario C Config)) :
    Except EngineError GoldenFixtureSummary := do
  let summary ← s.replaySerializer.summary replayArtifact
  let snapshotDigest ← transpose (snapshotArtifact.map s.snapshotSerializer.digest)
  let scenarioDigest ← transpose (scenarioArtifact.map s.scenarioSerializer.digest)
  pure { summary with
    snapshotDigest := snapshotDigest.or summary.snapshotDigest
    scenarioDigest := scenarioDigest.or summary.scenarioDigest }

section Build
variable [SimulationConfig Config] [DecidableEq C] [DecidableEq Config] [Debug C] [Debug Config]

def buildFixture (configArtifact : ConfigArtifact Config)
    (scenarioArtifact : Option (SimulationScenario C Config))
    (replayArtifact : ReplayArtifact C Snapshot)
    (snapshotArtifact : Option (SnapshotArtifact Snapshot)) :
    Except EngineError (GoldenFixture C Snapshot Config) := do
  validateFixtureContract configArtifact scenarioArtifact replayArtifact snapshotArtifact
  let summary ← s.fixtureSummaryFromArtifacts replayArtifact snapshotArtifact scenarioArtifact
  pure ⟨⟨GOLDEN_FIXTURE_SCHEMA_VERSION⟩, configArtifact, scenarioArtifact, replayArtifact,
    snapshotArtifact, summary⟩

/-- The checks that `encode` and `decode` share. -/
def validateFixture (fixture : GoldenFixture C Snapshot Config) : Except EngineError Unit := do
  validateFixtureContract fixture.configArtifact fixture.scenarioArtifact fixture.replayArtifact
    fixture.snapshotArtifact
  ifPresent (compareFixtureScenarioContract fixture fixture.configArtifact) fun detail =>
    throw (.scenarioMismatch detail)
  let expectedSummary ← s.fixtureSummaryFromArtifacts fixture.replayArtifact
    fixture.snapshotArtifact fixture.scenarioArtifact
  ifPresent (compareFixtureSummaryContract fixture.summary expectedSummary) fun detail =>
    throw (.summaryMismatch detail)

/-! ### Writing -/

def nestedLines (key : String) (bytes : Bytes) : CanonicalLineWriter := [(key, encodeHex bytes)]

def lines (value : GoldenFixture C Snapshot Config) (configBytes : Bytes)
    (scenarioBytes : Option Bytes) (replayBytes : Bytes) (snapshotBytes : Option Bytes) :
    CanonicalLineWriter :=
  [("artifact", "golden_fixture"),
   ("canonical_encoding", CANONICAL_TEXT_ENCODING),
   ("artifact_schema_version", toString value.metadata.artifactSchemaVersion)]
  ++ (summaryLines "summary" value.summary
  ++ (nestedLines "config_artifact_hex" configBytes
  ++ (("scenario_artifact.present", encodeBool scenarioBytes.isSome) ::
  (writeOption (nestedLines "scenario_artifact_hex") scenarioBytes
  ++ (nestedLines "replay_artifact_hex" replayBytes
  ++ (("snapshot_artifact.present", encodeBool snapshotBytes.isSome) ::
  writeOption (nestedLines "snapshot_artifact_hex") snapshotBytes))))))

def encode (fixture : GoldenFixture C Snapshot Config) : Except EngineError Bytes := do
  rejectIf (fixture.metadata.artifactSchemaVersion ≠ GOLDEN_FIXTURE_SCHEMA_VERSION)
    (.unsupportedSchemaVersion "golden fixture" GOLDEN_FIXTURE_SCHEMA_VERSION
      fixture.metadata.artifactSchemaVersion)
  s.validateFixture fixture
  let configBytes ← s.configArtifactSerializer.encode fixture.configArtifact
  let scenarioBytes ← transpose (fixture.scenarioArtifact.map s.scenarioSerializer.encode)
  let replayBytes ← s.replaySerializer.encode fixture.replayArtifact
  let snapshotBytes ← transpose (fixture.snapshotArtifact.map s.snapshotSerializer.encode)
  pure (CanonicalLineWriter.finish
    (lines fixture configBytes scenarioBytes replayBytes snapshotBytes))

def digest (fixture : GoldenFixture C Snapshot Config) : Except EngineError UInt64 :=
  canonicalDigest <$> s.encode fixture

/-! ### Reading -/

def fields (layout : Layout) : Reader Line Failure (GoldenFixture C Snapshot Config) := do
  reading.expectValue "artifact" "golden_fixture"
  reading.expectValue "canonical_encoding" CANONICAL_TEXT_ENCODING
  let artifactSchemaVersion ← reading.readValue "artifact_schema_version" reading.parseU32
  lift (orFail (rejectIf (artifactSchemaVersion ≠ GOLDEN_FIXTURE_SCHEMA_VERSION)
    (.unsupportedSchemaVersion "golden fixture" GOLDEN_FIXTURE_SCHEMA_VERSION
      artifactSchemaVersion)))
  let summary ← reading.summaryFields "golden fixture summary engine family" "summary"
  let configArtifact ← reading.readNested "config_artifact_hex" "golden fixture config artifact"
    fun bytes => orFail (s.configArtifactSerializer.decode bytes)
  let scenarioPresent ← reading.readValue "scenario_artifact.present" reading.parseBool
  let scenarioArtifact ← optionally scenarioPresent (reading.readNested "scenario_artifact_hex"
    "golden fixture scenario artifact" (s.scenarioSerializer.decode layout))
  let replayArtifact ← reading.readNested "replay_artifact_hex" "golden fixture replay"
    (s.replaySerializer.decode layout)
  let snapshotPresent ← reading.readValue "snapshot_artifact.present" reading.parseBool
  let snapshotArtifact ← optionally snapshotPresent (reading.readNested "snapshot_artifact_hex"
    "golden fixture snapshot" fun bytes => orFail (s.snapshotSerializer.decode bytes))
  pure ⟨⟨artifactSchemaVersion⟩, configArtifact, scenarioArtifact, replayArtifact,
    snapshotArtifact, summary⟩

def decode (layout : Layout) (bytes : Bytes) : Outcome (GoldenFixture C Snapshot Config) := do
  let fixture ← readAll bytes reading.label reading.corrupted (s.fields layout)
  orFail (s.validateFixture fixture)
  pure fixture

/-! ### The codec -/

variable {s} {layout : Layout} {fits : Config → Prop} {depth n : ℕ}

/-- What `encode` and `decode` make sure of. -/
structure Consistent (s : GoldenFixtureSerializer C Snapshot Config)
    (f : GoldenFixture C Snapshot Config) : Prop where
  contract : FixtureContract f.configArtifact f.scenarioArtifact f.replayArtifact
    f.snapshotArtifact
  scenario : ∀ scenario ∈ f.scenarioArtifact, ScenarioContract f f.configArtifact scenario
  summary : ∃ expected, s.fixtureSummaryFromArtifacts f.replayArtifact f.snapshotArtifact
    f.scenarioArtifact = .ok expected ∧ SameParity expected f.summary

theorem validateFixture_eq_ok {f : GoldenFixture C Snapshot Config} {u : Unit} :
    s.validateFixture f = .ok u ↔ s.Consistent f := by
  simp only [validateFixture, bind_eq_ok, exists_const, validateFixtureContract_eq_ok,
    ifPresent_throw_eq_ok, compareFixtureScenarioContract_eq_none,
    compareFixtureSummaryContract_eq_none]
  constructor
  · rintro ⟨h1, h2, h3⟩
    exact ⟨h1, h2, h3⟩
  · rintro ⟨h1, h2, h3⟩
    exact ⟨h1, h2, h3⟩

/-- A fixture all artifacts of which can be written. -/
structure Writable (s : GoldenFixtureSerializer C Snapshot Config)
    (f : GoldenFixture C Snapshot Config) : Prop where
  version : f.metadata.artifactSchemaVersion = GOLDEN_FIXTURE_SCHEMA_VERSION
  config : ∃ b, s.configArtifactSerializer.encode f.configArtifact = .ok b
  scenario : ∀ a ∈ f.scenarioArtifact, ∃ b, s.scenarioSerializer.encode a = .ok b
  replay : ∃ b, s.replaySerializer.encode f.replayArtifact = .ok b
  snapshot : ∀ a ∈ f.snapshotArtifact, ∃ b, s.snapshotSerializer.encode a = .ok b

def out (s : GoldenFixtureSerializer C Snapshot Config) (f : GoldenFixture C Snapshot Config) :
    CanonicalLineWriter :=
  lines f (encoded s.configArtifactSerializer.encode f.configArtifact)
    (f.scenarioArtifact.map (encoded s.scenarioSerializer.encode))
    (encoded s.replaySerializer.encode f.replayArtifact)
    (f.snapshotArtifact.map (encoded s.snapshotSerializer.encode))

theorem encode_eq_ok' {f : GoldenFixture C Snapshot Config} {b : Bytes} :
    s.encode f = .ok b ↔ (s.Writable f ∧ s.Consistent f) ∧
      b = CanonicalLineWriter.finish (s.out f) := by
  simp only [encode, bind_eq_ok, rejectIf_eq_ok, exists_const, ne_eq, not_not,
    validateFixture_eq_ok, exists_encode, exists_transpose, pure_eq_ok]
  constructor
  · rintro ⟨h1, h2, h3, h4, h5, h6, hb⟩
    exact ⟨⟨⟨h1, h3, h4, h5, h6⟩, h2⟩, hb.symm⟩
  · rintro ⟨⟨⟨h1, h3, h4, h5, h6⟩, h2⟩, hb⟩
    exact ⟨h1, h2, h3, h4, h5, h6, hb.symm⟩

/-- The values a decoder can return. -/
structure Representable (layout : Layout) (fits : Config → Prop)
    (f : GoldenFixture C Snapshot Config) : Prop where
  config : fits f.configArtifact.payload
  scenario : ∀ a ∈ f.scenarioArtifact, SimulationScenarioSerializer.Representable layout fits a
  replay : f.replayArtifact.Representable layout

section Law
variable
  (hconfig : CodecLaw s.configArtifactSerializer.encode s.configArtifactSerializer.decode
    (fun a => fits a.payload) (depth + 1))
  (hscenario : CodecLaw s.scenarioSerializer.encode (s.scenarioSerializer.decode layout)
    (SimulationScenarioSerializer.Representable layout fits) (depth + 2))
  (hreplay : CodecLaw s.replaySerializer.encode (s.replaySerializer.decode layout)
    (fun a => a.Representable layout ∧ TotalsMatch a) (depth + 1))
  (hsnapshot : CodecLaw s.snapshotSerializer.encode s.snapshotSerializer.decode
    (fun _ => True) (depth + 1))

omit [SimulationConfig Config] [DecidableEq C] [DecidableEq Config] [Debug C] [Debug Config] in
include hconfig hscenario hreplay hsnapshot in
theorem fields_codec (hn : depth + 2 ≤ n) :
    CodecOn (lineSpelling (plainSpelling n))
      (fun f => s.Writable f ∧ Representable layout fits f ∧ TotalsMatch f.replayArtifact)
      (s.fields layout) s.out := by
  unfold out lines
  simp only [writeOption_map, Option.isSome_map]
  refine codec_expect (by decide) (by decide) (by decide) ?_
  refine codec_expect (by decide) (by decide) (by decide) ?_
  refine codec_value .text
    (fun f : GoldenFixture C Snapshot Config => f.metadata.artifactSchemaVersion) (by decide)
    Reading.spells_u32 ?_
  intro version
  refine codec_check (fun f h => ?_) fun hversion => ?_
  · rw [orFail_eq_ok, rejectIf_eq_ok, not_not, ← h.2, h.1.1.version]
  refine codec_bind (fun f : GoldenFixture C Snapshot Config => f.summary)
    (Reading.summaryFields_codec _ _ (by decide)) (fun _ _ => trivial) ?_
  intro summary _
  refine codec_bind (fun f : GoldenFixture C Snapshot Config => f.configArtifact)
    (Reading.readNested_codec (by decide) _ hconfig.orFail (by omega))
    (fun _ h => ⟨h.1.1.1.config, h.1.1.2.1.config⟩) ?_
  intro configArtifact hconfigArtifact
  refine codec_value .text (fun f : GoldenFixture C Snapshot Config => f.scenarioArtifact.isSome)
    (by decide) Reading.spells_bool ?_
  intro scenarioPresent
  refine codec_bind (fun f : GoldenFixture C Snapshot Config => f.scenarioArtifact)
    (codec_optionally (Reading.readNested_codec (by decide) _ hscenario hn) _) ?_ ?_
  · intro f h
    exact ⟨h.2, fun a ha => ⟨h.1.1.1.1.1.scenario a ha, h.1.1.1.1.2.1.scenario a ha⟩⟩
  intro scenarioArtifact hscenarioArtifact
  refine codec_bind (fun f : GoldenFixture C Snapshot Config => f.replayArtifact)
    (Reading.readNested_codec (by decide) _ hreplay (by omega)) ?_ ?_
  · intro f h
    have hf := h.1.1.1.1.1
    exact ⟨hf.1.replay, hf.2.1.replay, hf.2.2⟩
  intro replayArtifact hreplayArtifact
  refine codec_value .text (fun f : GoldenFixture C Snapshot Config => f.snapshotArtifact.isSome)
    (by decide) Reading.spells_bool ?_
  intro snapshotPresent
  refine codec_last (fun f : GoldenFixture C Snapshot Config => f.snapshotArtifact)
    (codec_optionally (Reading.readNested_codec (by decide) _ hsnapshot.orFail (by omega)) _) ?_ ?_
  · intro f h
    exact ⟨h.2, fun a ha => ⟨h.1.1.1.1.1.1.1.1.snapshot a ha, trivial⟩⟩
  intro snapshotArtifact hsnapshotArtifact
  rw [orFail_eq_ok, rejectIf_eq_ok, not_not] at hversion
  rintro ⟨⟨v⟩, c, sc, r, sn, sm⟩
  simp only [GoldenFixture.mk.injEq, GoldenFixtureMetadata.mk.injEq, and_assoc]
  constructor
  · rintro ⟨-, -, -, h1, h2, h3, -, h4, h5, -, h6⟩
    exact ⟨h1, h3, h4, h5, h6, h2⟩
  · rintro ⟨rfl, rfl, rfl, rfl, rfl, rfl⟩
    exact ⟨⟨hversion, hconfigArtifact.1, fun a ha => (hscenarioArtifact.2 a ha).1,
      hreplayArtifact.1, fun a ha => (hsnapshotArtifact.2 a ha).1⟩,
      ⟨hconfigArtifact.2, fun a ha => (hscenarioArtifact.2 a ha).2, hreplayArtifact.2.1⟩,
      hreplayArtifact.2.2, rfl, rfl, rfl, hscenarioArtifact.1, rfl, rfl, hsnapshotArtifact.1, rfl⟩

include hconfig hscenario hreplay hsnapshot in
theorem codec_law :
    CodecLaw s.encode (s.decode layout)
      (fun f => Representable layout fits f ∧ TotalsMatch f.replayArtifact) (depth + 3) := by
  refine codecLaw_of_fields
    (fun _ hn => fields_codec hconfig hscenario hreplay hsnapshot hn) reading.label
    reading.corrupted (fun f => s.Writable f ∧ s.Consistent f) s.Consistent ?_ ?_ ?_ ?_
  · exact fun _ _ => encode_eq_ok'
  · intro bytes f
    rw [decode, checked_eq_ok, orFail_eq_ok, validateFixture_eq_ok]
  · intro f
    constructor
    · rintro ⟨⟨hw, hr, ht⟩, hc⟩
      exact ⟨⟨hw, hc⟩, hr, ht⟩
    · rintro ⟨⟨hw, hc⟩, hr, ht⟩
      exact ⟨⟨hw, hr, ht⟩, hc⟩
  · exact fun _ => List.cons_ne_nil _ _

end Law

end Build

/-! ### Generating and verifying -/

section Execute
variable {S P V : Type} [SimulationState S Snapshot] [StateValidator V S] [Phase P S C Snapshot]
  [SimulationConfig Config] [DecidableEq C] [DecidableEq Snapshot] [DecidableEq Config]
  [Debug C] [Debug Snapshot] [Debug Config]

def generateFixture (baseSeed : Seed) (configArtifact : ConfigArtifact Config)
    (frames : List (InputFrame C))
    (build : Seed → Config → Outcome (DeterministicEngine S C P V Snapshot)) :
    Outcome (GoldenFixture C Snapshot Config) := do
  let config := configArtifact.payload
  let recorded ← recordReplay (fun seed _ => build seed config) s.replaySerializer baseSeed
    (SimulationConfig.snapshotPolicy config) configArtifact.metadata.identity frames
  orFail (s.buildFixture configArtifact none recorded.artifact recorded.result.finalSnapshot)

def generateFixtureFromScenario (scenario : SimulationScenario C Config)
    (build : Seed → Config → Outcome (DeterministicEngine S C P V Snapshot)) :
    Outcome (GoldenFixture C Snapshot Config) := do
  let execution ← s.scenarioSerializer.execute scenario build s.replaySerializer
  orFail (s.buildFixture scenario.configArtifact (some scenario) execution.replay.artifact
    execution.finalSnapshot)

/-- What a verification runs again, with the digest of the scenario it comes from. -/
structure Rerun (C Config : Type) where
  effectiveConfig : ConfigArtifact Config
  baseSeed : Seed
  frames : List (InputFrame C)
  scenarioDigest : Option UInt64

def rerunOf (fixture : GoldenFixture C Snapshot Config) : Except EngineError (Rerun C Config) :=
  match fixture.scenarioArtifact with
  | some scenario => do
    let digest ← s.scenarioSerializer.digest scenario
    pure ⟨scenario.configArtifact, scenario.baseSeed, scenario.frames, some digest⟩
  | none => pure ⟨fixture.configArtifact, fixture.replayArtifact.metadata.baseSeed,
    fixture.replayArtifact.records.map (·.input), none⟩

def rerecord (rerun : Rerun C Config)
    (build : Seed → Config → Outcome (DeterministicEngine S C P V Snapshot)) :
    Outcome (RecordedReplay C Snapshot) :=
  let config := rerun.effectiveConfig.payload
  recordReplay (fun seed _ => build seed config) s.replaySerializer rerun.baseSeed
    (SimulationConfig.snapshotPolicy config) rerun.effectiveConfig.metadata.identity rerun.frames

/-- What a verification reports once everything is computed that can fail. -/
def report (fixture : GoldenFixture C Snapshot Config) (rerun : Rerun C Config)
    (recorded : RecordedReplay C Snapshot) (snapshotMismatch : Option String) :
    GoldenFixtureResult :=
  let actualSummary :=
    { recorded.result.summary with scenarioDigest := rerun.scenarioDigest }
  let comparison := compareParitySummaries fixture.summary actualSummary
  { fixtureSummary := fixture.summary
    actualSummary := actualSummary
    comparison := comparison
    configMismatch :=
      compareFixtureConfigContract fixture rerun.effectiveConfig rerun.scenarioDigest
    scenarioMismatch := compareFixtureScenarioContract fixture rerun.effectiveConfig
    replayMismatch :=
      match compareReplayTracesWithSnapshotDigest fixture.replayArtifact.records
          recorded.artifact.records s.snapshotSerializer.payloadDigest with
      | .ok () => none
      | .error mismatch => some mismatch.display
    snapshotMismatch := snapshotMismatch
    summaryMismatch := comparison.firstMismatch.map (·.display) }

def verifyFixture (fixture : GoldenFixture C Snapshot Config)
    (build : Seed → Config → Outcome (DeterministicEngine S C P V Snapshot)) :
    Outcome GoldenFixtureResult := do
  let rerun ← orFail (s.rerunOf fixture)
  let recorded ← s.rerecord rerun build
  let snapshotMismatch ← orFail (compareOptionalSnapshotArtifacts fixture.snapshotArtifact
    recorded.result.finalSnapshot s.snapshotSerializer)
  pure (s.report fixture rerun recorded snapshotMismatch)

end Execute

end GoldenFixtureSerializer

end XenorEngine.Rust
