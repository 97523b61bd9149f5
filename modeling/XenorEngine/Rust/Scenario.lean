import XenorEngine.Rust.Parity

/-!
# Scenarios (scenario/mod.rs)

A scenario carries a config artifact, a seed, frames and perhaps the summary its
execution is expected to have. Its digest leaves that summary out.
-/

namespace XenorEngine.Rust
open XenorEngine.Lib.ByteText XenorEngine.Lib.LineText XenorEngine.Lib.Fallible
open XenorEngine.Lib.PrefixReader XenorEngine.Lib.FieldCodec XenorEngine.Lib.Decimal
open ReplayArtifactSerializer (spells_orFail orFail_eq_ok withCapacity_eq_ok)
open Debug (debug)

def SCENARIO_ARTIFACT_SCHEMA_VERSION : UInt32 := 1

class SimulationConfig (Config : Type) where
  snapshotPolicy : Config → SnapshotPolicy

structure SimulationScenarioMetadata where
  artifactSchemaVersion : UInt32
  deriving DecidableEq, Repr

structure SimulationScenario (C Config : Type) where
  metadata : SimulationScenarioMetadata
  configArtifact : ConfigArtifact Config
  baseSeed : Seed
  frames : List (InputFrame C)
  expectedParitySummary : Option ParityArtifactSummary
  deriving DecidableEq, Repr

structure ScenarioExecutionResult (C Snapshot : Type) where
  scenarioDigest : UInt64
  replay : RecordedReplay C Snapshot
  paritySummary : ParityArtifactSummary
  finalSnapshot : Option (SnapshotArtifact Snapshot)
  inspection : ReplayInspectionView
  deriving DecidableEq, Repr

structure ScenarioVerificationResult (C Snapshot : Type) where
  execution : ScenarioExecutionResult C Snapshot
  parityComparison : Option ParityComparison
  deriving DecidableEq, Repr

def ScenarioVerificationResult.passed {C Snapshot : Type}
    (r : ScenarioVerificationResult C Snapshot) : Bool :=
  (r.parityComparison.map (·.isMatch)).getD true

structure SimulationScenarioSerializer (C Config : Type) where
  commandSerializer : Serializer C
  configArtifactSerializer : ConfigArtifactSerializer Config

namespace SimulationScenarioSerializer

def schemaVersion : UInt32 := SCENARIO_ARTIFACT_SCHEMA_VERSION
def reading : Reading := ⟨"scenario", "scenario artifact"⟩

variable {C Config : Type} (s : SimulationScenarioSerializer C Config)

def buildScenario (configArtifact : ConfigArtifact Config) (baseSeed : Seed)
    (frames : List (InputFrame C)) (expectedParitySummary : Option ParityArtifactSummary) :
    SimulationScenario C Config :=
  ⟨⟨SCENARIO_ARTIFACT_SCHEMA_VERSION⟩, configArtifact, baseSeed, frames, expectedParitySummary⟩

/-! ### Writing -/

def headLines (artifact : String) (value : SimulationScenario C Config) (configBytes : Bytes) :
    CanonicalLineWriter :=
  [("artifact", artifact),
   ("canonical_encoding", CANONICAL_TEXT_ENCODING),
   ("artifact_schema_version", toString value.metadata.artifactSchemaVersion),
   ("config_artifact_hex", encodeHex configBytes),
   ("base_seed", toString value.baseSeed),
   ("frame_count", toString value.frames.length)]

def frameLines (index : ℕ) (frame : InputFrame C) (commandBytes : Bytes) : CanonicalLineWriter :=
  [(s!"frame.{index}.tick", toString frame.tick),
   (s!"frame.{index}.command_hex", encodeHex commandBytes)]

def encodeFrames : ℕ → List (InputFrame C) → Except EngineError CanonicalLineWriter
  | _, [] => pure []
  | index, frame :: frames => do
    let commandBytes ← (s.commandSerializer.encode frame.command).mapError fun error =>
      .scenarioDecode s!"failed to encode scenario command at frame {index}: {error.text}"
    let rest ← encodeFrames (index + 1) frames
    pure (frameLines index frame commandBytes ++ rest)

def contractBytes (scenario : SimulationScenario C Config) : Except EngineError Bytes := do
  let configBytes ← s.configArtifactSerializer.encode scenario.configArtifact
  let frames ← s.encodeFrames 0 scenario.frames
  pure (CanonicalLineWriter.finish
    (headLines "scenario_contract" scenario configBytes ++ frames))

def digest (scenario : SimulationScenario C Config) : Except EngineError UInt64 :=
  canonicalDigest <$> s.contractBytes scenario

def parityLines (summary : Option ParityArtifactSummary) : CanonicalLineWriter :=
  ("expected_parity.present", encodeBool summary.isSome) ::
    writeOption (summaryLines "expected_parity") summary

def encode (value : SimulationScenario C Config) : Except EngineError Bytes := do
  rejectIf (value.metadata.artifactSchemaVersion ≠ schemaVersion)
    (.unsupportedSchemaVersion "scenario artifact" schemaVersion
      value.metadata.artifactSchemaVersion)
  let configBytes ← s.configArtifactSerializer.encode value.configArtifact
  let frames ← s.encodeFrames 0 value.frames
  pure (CanonicalLineWriter.finish (headLines "scenario" value configBytes ++
    (frames ++ parityLines value.expectedParitySummary)))

/-! ### Reading -/

def decodeConfigArtifact (hex : String) : Except EngineError (ConfigArtifact Config) := do
  let bytes ← (decodeHex hex "scenario config artifact").mapError fun error =>
    EngineError.corruptedArtifact "scenario" error.detail
  s.configArtifactSerializer.decode bytes

def decodeCommand (index : ℕ) (hex : String) : Except EngineError C := do
  let bytes ← (decodeHex hex "scenario command").mapError fun error =>
    EngineError.corruptedArtifact "scenario" error.detail
  (s.commandSerializer.decode bytes).mapError fun error =>
    .scenarioDecode s!"failed to decode scenario command at frame {index}: {error.text}"

def frameFields (index : ℕ) : Reader Line Failure (InputFrame C) := do
  let tick ← reading.readValue s!"frame.{index}.tick" reading.parseU64
  let command ← reading.readValue s!"frame.{index}.command_hex" (s.decodeCommand index)
  pure ⟨tick, command⟩

def fields (layout : Layout) : Reader Line Failure (SimulationScenario C Config) := do
  reading.expectValue "artifact" "scenario"
  reading.expectValue "canonical_encoding" CANONICAL_TEXT_ENCODING
  let artifactSchemaVersion ← reading.readValue "artifact_schema_version" reading.parseU32
  lift (orFail (rejectIf (artifactSchemaVersion ≠ schemaVersion)
    (.unsupportedSchemaVersion "scenario artifact" schemaVersion artifactSchemaVersion)))
  let configArtifact ← reading.readValue "config_artifact_hex" s.decodeConfigArtifact
  let baseSeed ← reading.readValue "base_seed" reading.parseU64
  let frameCount ← reading.readValue "frame_count" reading.parseUsize
  lift (withCapacity layout layout.frame frameCount)
  let frames ← forRange s.frameFields 0 frameCount
  let parityPresent ← reading.readValue "expected_parity.present" reading.parseBool
  let expectedParitySummary ← optionally parityPresent
    (reading.summaryFields "scenario parity engine family" "expected_parity")
  pure ⟨⟨artifactSchemaVersion⟩, configArtifact, baseSeed, frames, expectedParitySummary⟩

def decode (layout : Layout) (bytes : Bytes) : Outcome (SimulationScenario C Config) :=
  readAll bytes reading.label reading.corrupted (s.fields layout)

/-! ### The codec -/

section Law
variable {s} {layout : Layout} {fits : Config → Prop} {depth n : ℕ}

def frameOut (s : SimulationScenarioSerializer C Config) (index : ℕ) (frame : InputFrame C) :
    CanonicalLineWriter :=
  frameLines index frame (encoded s.commandSerializer.encode frame.command)

theorem frameFields_codec (hn : depth ≤ n)
    (hcmd : CodecLaw s.commandSerializer.encode s.commandSerializer.decode (fun _ => True) depth)
    (index : ℕ) :
    CodecOn (lineSpelling (plainSpelling n))
      (fun frame : InputFrame C => ∃ b, s.commandSerializer.encode frame.command = .ok b)
      (s.frameFields index) (s.frameOut index) := by
  have hpre : CleanText (toString "frame." ++ toString index) :=
    cleanText_append (by decide) (cleanText_nat index)
  unfold frameOut frameLines
  refine codec_value .text (fun frame : InputFrame C => frame.tick)
    (goodKey_append hpre (by decide) (by decide)) Reading.spells_u64 ?_
  intro tick
  refine codec_field .nested (fun frame : InputFrame C => frame.command)
    (goodKey_append hpre (by decide) (by decide))
    (spells_nested "scenario command" hcmd hn ?_) (fun _ h => ⟨h.1, trivial⟩) ?_
  · intro v a
    simp only [orFail_eq_ok, decodeCommand, bind_eq_ok, mapError_eq_ok]
  intro command hcommand
  refine codec_pure ?_
  rintro ⟨tick', command'⟩
  simp only [InputFrame.mk.injEq, and_assoc]
  constructor
  · exact fun h => h.2
  · rintro ⟨rfl, rfl⟩
    exact ⟨hcommand.1, rfl, rfl⟩

theorem encodeFrames_eq_ok {index : ℕ} {frames : List (InputFrame C)} {ls : CanonicalLineWriter} :
    s.encodeFrames index frames = .ok ls ↔
      (∀ frame ∈ frames, ∃ b, s.commandSerializer.encode frame.command = .ok b) ∧
        ls = writeFrom s.frameOut index frames := by
  induction frames generalizing index ls with
  | nil =>
    rw [encodeFrames, pure_eq_ok, eq_comm]
    simp [writeFrom]
  | cons frame frames ih =>
    simp only [encodeFrames, bind_eq_ok, mapError_eq_ok, exists_encode, pure_eq_ok, ih, writeFrom,
      List.forall_mem_cons]
    constructor
    · rintro ⟨hw, _, ⟨hws, rfl⟩, hls⟩
      exact ⟨⟨hw, hws⟩, hls.symm⟩
    · rintro ⟨⟨hw, hws⟩, hls⟩
      exact ⟨hw, _, ⟨hws, rfl⟩, hls.symm⟩

/-- What a scenario has to satisfy to be written. -/
structure Valid (s : SimulationScenarioSerializer C Config) (a : SimulationScenario C Config) :
    Prop where
  version : a.metadata.artifactSchemaVersion = schemaVersion
  config : ∃ b, s.configArtifactSerializer.encode a.configArtifact = .ok b
  frames : ∀ frame ∈ a.frames, ∃ b, s.commandSerializer.encode frame.command = .ok b

def out (s : SimulationScenarioSerializer C Config) (a : SimulationScenario C Config) :
    CanonicalLineWriter :=
  headLines "scenario" a (encoded s.configArtifactSerializer.encode a.configArtifact) ++
    (writeFrom s.frameOut 0 a.frames ++ parityLines a.expectedParitySummary)

theorem encode_eq_ok' {a : SimulationScenario C Config} {b : Bytes} :
    s.encode a = .ok b ↔ s.Valid a ∧ b = CanonicalLineWriter.finish (s.out a) := by
  simp only [encode, bind_eq_ok, rejectIf_eq_ok, exists_const, pure_eq_ok, ne_eq, not_not,
    exists_encode, encodeFrames_eq_ok]
  constructor
  · rintro ⟨h1, h2, ls, ⟨h3, rfl⟩, hb⟩
    exact ⟨⟨h1, h2, h3⟩, hb.symm⟩
  · rintro ⟨⟨h1, h2, h3⟩, hb⟩
    exact ⟨h1, h2, _, ⟨h3, rfl⟩, hb.symm⟩

/- A digest is taken over what can be written, and unlike writing it does not ask for the
version. -/
theorem exists_digest {a : SimulationScenario C Config} :
    (∃ d, s.digest a = .ok d) ↔
      (∃ b, s.configArtifactSerializer.encode a.configArtifact = .ok b) ∧
        ∀ frame ∈ a.frames, ∃ b, s.commandSerializer.encode frame.command = .ok b := by
  constructor
  · rintro ⟨d, h⟩
    obtain ⟨bytes, hbytes, -⟩ := map_eq_ok.mp h
    obtain ⟨b, hb, hrest⟩ := bind_eq_ok.mp hbytes
    obtain ⟨lines, hlines, -⟩ := bind_eq_ok.mp hrest
    exact ⟨⟨b, hb⟩, (encodeFrames_eq_ok.mp hlines).1⟩
  · rintro ⟨⟨b, hb⟩, hcommands⟩
    have hframes : s.encodeFrames 0 a.frames = .ok _ := encodeFrames_eq_ok.mpr ⟨hcommands, rfl⟩
    have hbytes : s.contractBytes a = .ok _ :=
      bind_eq_ok.mpr ⟨b, hb, bind_eq_ok.mpr ⟨_, hframes, rfl⟩⟩
    exact ⟨_, map_eq_ok.mpr ⟨_, hbytes, rfl⟩⟩

/-- The values a decoder can return. -/
def Representable (layout : Layout) (fits : Config → Prop) (a : SimulationScenario C Config) :
    Prop := Allocated layout layout.frame a.frames ∧ fits a.configArtifact.payload

theorem fields_codec (hn : depth + 1 ≤ n)
    (hcmd : CodecLaw s.commandSerializer.encode s.commandSerializer.decode (fun _ => True) depth)
    (hconfig : CodecLaw s.configArtifactSerializer.encode s.configArtifactSerializer.decode
      (fun a => fits a.payload) (depth + 1)) :
    CodecOn (lineSpelling (plainSpelling n)) (fun a => s.Valid a ∧ Representable layout fits a)
      (s.fields layout) s.out := by
  unfold out headLines parityLines
  refine codec_expect (by decide) (by decide) (by decide) ?_
  refine codec_expect (by decide) (by decide) (by decide) ?_
  refine codec_value .text (fun a : SimulationScenario C Config => a.metadata.artifactSchemaVersion)
    (by decide) Reading.spells_u32 ?_
  intro version
  refine codec_check (fun a h => ?_) fun hversion => ?_
  · rw [orFail_eq_ok, rejectIf_eq_ok, not_not, ← h.2, h.1.1.version]
  refine codec_field .nested (fun a : SimulationScenario C Config => a.configArtifact) (by decide)
    (spells_nested "scenario config artifact" hconfig hn ?_)
    (fun _ h => ⟨h.1.1.config, h.1.2.2⟩) ?_
  · intro v a
    simp only [orFail_eq_ok, decodeConfigArtifact, bind_eq_ok, mapError_eq_ok]
  intro configArtifact hconfigArtifact
  refine codec_value .text (fun a : SimulationScenario C Config => a.baseSeed) (by decide)
    Reading.spells_u64 ?_
  intro baseSeed
  refine codec_field .text (fun a : SimulationScenario C Config => a.frames.length) (by decide)
    Reading.spells_usize (fun _ h => h.1.1.1.2.1.1) ?_
  intro frameCount hcount
  refine codec_check (fun a h => ?_) fun hcap => ?_
  · rw [withCapacity_eq_ok, ← h.2]
    exact h.1.1.1.1.2.1.2
  refine codec_bind (fun a : SimulationScenario C Config => a.frames)
    (codec_forRange (frameFields_codec (by omega) hcmd) 0 _)
    (fun _ h => ⟨h.2, h.1.1.1.1.1.frames⟩) ?_
  intro frames hframes
  refine codec_value .text (fun a : SimulationScenario C Config => a.expectedParitySummary.isSome)
    (by decide) Reading.spells_bool ?_
  intro parityPresent
  refine codec_last (fun a : SimulationScenario C Config => a.expectedParitySummary)
    (codec_optionally (Reading.summaryFields_codec _ _ (by decide)) _)
    (fun _ h => ⟨h.2, fun _ _ => trivial⟩) ?_
  intro expected hexpected
  rw [orFail_eq_ok, rejectIf_eq_ok, not_not] at hversion
  rw [withCapacity_eq_ok] at hcap
  rintro ⟨⟨v⟩, c, sd, fs, ex⟩
  simp only [SimulationScenario.mk.injEq, SimulationScenarioMetadata.mk.injEq, and_assoc]
  constructor
  · rintro ⟨-, -, h1, h2, h3, -, h4, -, h5⟩
    exact ⟨h1, h2, h3, h4, h5⟩
  · rintro ⟨rfl, rfl, rfl, rfl, rfl⟩
    obtain ⟨rfl, hall⟩ := hframes
    exact ⟨⟨hversion, hconfigArtifact.1, hall⟩, ⟨⟨hcount, hcap⟩, hconfigArtifact.2⟩, rfl, rfl, rfl,
      rfl, rfl, hexpected.1, rfl⟩

theorem codec_law
    (hcmd : CodecLaw s.commandSerializer.encode s.commandSerializer.decode (fun _ => True) depth)
    (hconfig : CodecLaw s.configArtifactSerializer.encode s.configArtifactSerializer.decode
      (fun a => fits a.payload) (depth + 1)) :
    CodecLaw s.encode (s.decode layout) (Representable layout fits) (depth + 2) := by
  refine codecLaw_of_fields (fun _ hn => @fields_codec _ _ s layout _ _ _ hn hcmd hconfig)
    reading.label reading.corrupted s.Valid (fun _ => True) ?_ ?_ ?_ ?_
  · exact fun _ _ => encode_eq_ok'
  · intro b a
    rw [decode, and_true]
  · intro a
    rw [and_true]
  · exact fun _ => List.cons_ne_nil _ _

end Law

/-! ### Executing -/

section Execute
variable {S P V Snapshot : Type} [SimulationState S Snapshot] [StateValidator V S]
  [Phase P S C Snapshot] [SimulationConfig Config]

def execute (scenario : SimulationScenario C Config)
    (build : Seed → Config → Outcome (DeterministicEngine S C P V Snapshot))
    (replaySerializer : ReplayArtifactSerializer C Snapshot) :
    Outcome (ScenarioExecutionResult C Snapshot) := do
  let scenarioDigest ← orFail (s.digest scenario)
  let config := scenario.configArtifact.payload
  let recorded ← recordReplay (fun seed _ => build seed config) replaySerializer
    scenario.baseSeed (SimulationConfig.snapshotPolicy config)
    scenario.configArtifact.metadata.identity scenario.frames
  let summary := { recorded.result.summary with scenarioDigest := some scenarioDigest }
  let recorded := { recorded with result := { recorded.result with summary := summary } }
  pure ⟨scenarioDigest, recorded, summary, recorded.result.finalSnapshot,
    inspectReplayTrace recorded.artifact.records⟩

def verify (scenario : SimulationScenario C Config)
    (build : Seed → Config → Outcome (DeterministicEngine S C P V Snapshot))
    (replaySerializer : ReplayArtifactSerializer C Snapshot) :
    Outcome (ScenarioVerificationResult C Snapshot) := do
  let execution ← s.execute scenario build replaySerializer
  pure ⟨execution, scenario.expectedParitySummary.map fun expected =>
    compareParitySummaries expected execution.paritySummary⟩

end Execute

end SimulationScenarioSerializer

end XenorEngine.Rust
