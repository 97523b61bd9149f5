import XenorEngine.Lib.ByteText

/-!
# core, rng (core/mod.rs, rng/mod.rs)

Error values with their texts, the 64-bit mixing functions behind every digest
and seed, and the SplitMix64 generator. A call that can panic returns a
`Failure`, which tells an ordinary error from a panic and from an abort of the process.
-/

namespace XenorEngine.Rust
open XenorEngine.Lib.ByteText

abbrev Seed := UInt64
abbrev Tick := UInt64

inductive EngineError
  | unexpectedInputTick (expected got : Tick)
  | schedulerInvariant (detail : String)
  | replayLifecycle (detail : String)
  | phaseFailed (tick : Tick) (group phase reason : String)
  | unsupportedSchemaVersion (artifact : String) (expected got : UInt32)
  | configDecode (detail : String)
  | configMismatch (detail : String)
  | scenarioDecode (detail : String)
  | scenarioMismatch (detail : String)
  | summaryMismatch (detail : String)
  | replayDecode (detail : String)
  | snapshotDecode (detail : String)
  | snapshotSerialization (tick : Tick) (reason : String)
  | snapshotMetadataMismatch (detail : String)
  | seedMismatch (expected got : Seed)
  | replayContinuationMismatch (detail : String)
  | resumeTickMismatch (expected got : Tick)
  | corruptedArtifact (artifact detail : String)
  | invariantViolation (tick : Tick) (checkpoint detail : String)
  | replayMismatch (tick : Option Tick) (detail : String)
  deriving DecidableEq, Repr

def EngineError.display : EngineError → String
  | .unexpectedInputTick expected got =>
    s!"unexpected input tick: expected {expected}, got {got}"
  | .schedulerInvariant detail => s!"scheduler invariant violated: {detail}"
  | .replayLifecycle detail => s!"replay lifecycle error: {detail}"
  | .phaseFailed tick group phase reason =>
    s!"phase `{phase}` in group `{group}` failed at tick {tick}: {reason}"
  | .unsupportedSchemaVersion artifact expected got =>
    s!"unsupported {artifact} schema version: expected {expected}, got {got}"
  | .configDecode detail => s!"config decode failed: {detail}"
  | .configMismatch detail => s!"config mismatch: {detail}"
  | .scenarioDecode detail => s!"scenario decode failed: {detail}"
  | .scenarioMismatch detail => s!"scenario mismatch: {detail}"
  | .summaryMismatch detail => s!"summary mismatch: {detail}"
  | .replayDecode detail => s!"replay decode failed: {detail}"
  | .snapshotDecode detail => s!"snapshot decode failed: {detail}"
  | .snapshotSerialization tick reason =>
    s!"snapshot serialization failed at tick {tick}: {reason}"
  | .snapshotMetadataMismatch detail => s!"snapshot metadata mismatch: {detail}"
  | .seedMismatch expected got => s!"seed mismatch: expected {expected}, got {got}"
  | .replayContinuationMismatch detail => s!"replay continuation mismatch: {detail}"
  | .resumeTickMismatch expected got =>
    s!"resume tick mismatch: expected {expected}, got {got}"
  | .corruptedArtifact artifact detail => s!"corrupted {artifact} artifact: {detail}"
  | .invariantViolation tick checkpoint detail =>
    s!"state invariant violated at tick {tick} during `{checkpoint}`: {detail}"
  | .replayMismatch (some tick) detail => s!"replay mismatch at tick {tick}: {detail}"
  | .replayMismatch none detail => s!"replay mismatch: {detail}"

inductive Failure
  | error (e : EngineError)
  | panicked (message : String)
  | aborted (message : String)
  deriving DecidableEq, Repr

abbrev Outcome := Except Failure

/-- `?` on an ordinary `Result<_, EngineError>`. -/
def orFail {α : Type} (x : Except EngineError α) : Outcome α := x.mapError Failure.error

def mix64 (value : UInt64) : UInt64 :=
  let value := value + 0x9e3779b97f4a7c15
  let value := (value ^^^ (value >>> 30)) * 0xbf58476d1ce4e5b9
  let value := (value ^^^ (value >>> 27)) * 0x94d049bb133111eb
  value ^^^ (value >>> 31)

/- Unfolding it never helps a unification and costs much. -/
attribute [irreducible] mix64

def checksumInit : UInt64 := 0x6eed0e9da4d94a4f

def checksumWords (words : List UInt64) : UInt64 :=
  words.foldl (fun checksum word => mix64 (checksum ^^^ word)) checksumInit

/-- `u64::from_le_bytes` of a chunk padded with zeros. -/
def leWord (part : Bytes) : UInt64 :=
  part.foldr (fun byte acc => byte.toUInt64 + acc * 256) 0

def checksumChunks : UInt64 → Bytes → UInt64
  | checksum, b0 :: b1 :: b2 :: b3 :: b4 :: b5 :: b6 :: b7 :: rest =>
    checksumChunks (mix64 (checksum ^^^ leWord [b0, b1, b2, b3, b4, b5, b6, b7])) rest
  | checksum, [] => checksum
  | checksum, part => mix64 (checksum ^^^ leWord part)

def checksumBytes (bytes : Bytes) : UInt64 := checksumChunks checksumInit bytes

def hashStr (value : String) : UInt64 :=
  (utf8 value).foldl (fun hash byte => hash * 0x00000100000001b3 ^^^ byte.toUInt64)
    0xcbf29ce484222325

def forkSeed (base : Seed) (domain : String) : Seed := mix64 (base ^^^ hashStr domain)

def tickSeed (seed : Seed) (tick : Tick) : Seed := mix64 (seed ^^^ tick)

structure SplitMix64 where
  origin : Seed
  state : UInt64
  deriving DecidableEq, Repr

namespace SplitMix64

def fromSeed (seed : Seed) : SplitMix64 := ⟨seed, seed⟩

def nextU64 (rng : SplitMix64) : UInt64 × SplitMix64 :=
  let state := rng.state + 0x9e3779b97f4a7c15
  (mix64 state, ⟨rng.origin, state⟩)

end SplitMix64

end XenorEngine.Rust
