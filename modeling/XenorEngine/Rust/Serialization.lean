import XenorEngine.Rust.Counter
import XenorEngine.Rust.Settlement
import XenorEngine.Rust.Spelling

/-!
# Payload serializers (serialization/mod.rs)
-/

namespace XenorEngine.Rust
open XenorEngine.Lib.ByteText XenorEngine.Lib.LineText XenorEngine.Lib.Fallible
open XenorEngine.Lib.PrefixReader XenorEngine.Lib.FieldCodec

structure SerializationError where
  text : String
  deriving DecidableEq, Repr

structure Serializer (T : Type) where
  schemaVersion : UInt32
  encode : T → Except SerializationError Bytes
  decode : Bytes → Except SerializationError T

def canonicalText (error : CanonicalError) : SerializationError := ⟨error.detail⟩

/-! ### Scalars -/

def encodeBool (value : Bool) : String := if value then "true" else "false"

def okOr {ε α : Type} (x : Option α) (e : ε) : Except ε α :=
  match x with
  | some a => pure a
  | none => throw e

def boolOf (value : String) : Option Bool :=
  if value = "true" then some true else if value = "false" then some false else none

def parseBool (value : String) : Except SerializationError Bool :=
  okOr (boolOf value) ⟨s!"invalid bool `{value}`"⟩

def parseU32 (value : String) : Except SerializationError UInt32 :=
  (fromStrU32 value).mapError fun error => ⟨s!"invalid u32 `{value}`: {parseIntErrorText error}"⟩
def parseU64 (value : String) : Except SerializationError UInt64 :=
  (fromStrU64 value).mapError fun error => ⟨s!"invalid u64 `{value}`: {parseIntErrorText error}"⟩
def parseUsize (value : String) : Except SerializationError ℕ :=
  (fromStrUsize value).mapError fun error =>
    ⟨s!"invalid usize `{value}`: {parseIntErrorText error}"⟩
def parseI64 (value : String) : Except SerializationError Int64 :=
  (fromStrI64 value).mapError fun error => ⟨s!"invalid i64 `{value}`: {parseIntErrorText error}"⟩

def parseSnapshotPolicy (value : String) : Except SerializationError SnapshotPolicy :=
  okOr (SnapshotPolicy.parse value) ⟨s!"invalid snapshot policy `{value}`"⟩
def parseValidationPolicy (value : String) : Except SerializationError ValidationPolicy :=
  okOr (ValidationPolicy.parse value) ⟨s!"invalid validation policy `{value}`"⟩
def parseSettlementStatus (value : String) : Except SerializationError SettlementStatus :=
  okOr (SettlementStatus.parse value) ⟨s!"invalid settlement status `{value}`"⟩

@[simp] theorem okOr_eq_ok {ε α : Type} {x : Option α} {e : ε} {a : α} :
    okOr x e = .ok a ↔ x = some a := by
  cases x <;> simp [okOr]

theorem payload_u32 : Spells plainScalar parseU32 toString fun _ => True :=
  spells_congr spells_u32 fun _ _ => mapError_eq_ok
theorem payload_u64 : Spells plainScalar parseU64 toString fun _ => True :=
  spells_congr spells_u64 fun _ _ => mapError_eq_ok
theorem payload_usize : Spells plainScalar parseUsize toString fun n => n ≤ USIZE_MAX :=
  spells_congr spells_usize fun _ _ => mapError_eq_ok
theorem payload_i64 : Spells plainScalar parseI64 toString fun _ => True :=
  spells_congr spells_i64 fun _ _ => mapError_eq_ok

theorem boolOf_some {value : String} {b : Bool} (h : boolOf value = some b) :
    value = encodeBool b := by
  unfold boolOf at h
  split_ifs at h with h1 h2 <;> cases h <;> assumption

theorem spells_bool {ε : Type} (e : String → ε) :
    Spells plainScalar (fun v => okOr (boolOf v) (e v)) encodeBool fun _ => True := by
  refine spells_name ?_ ?_ ?_ ?_
  · intro b
    cases b <;> rfl
  · intro v b h
    exact boolOf_some (okOr_eq_ok.mp h)
  · intro b
    cases b <;> decide
  · intro b
    cases b <;> decide

theorem spells_snapshotPolicy {ε : Type} (e : String → ε) :
    Spells plainScalar (fun v => okOr (SnapshotPolicy.parse v) (e v))
      SnapshotPolicy.canonicalString fun _ => True where
  parse_print policy _ := by rw [okOr_eq_ok, parse_canonicalString]
  clean policy _ := by
    cases policy with
    | never => decide
    | manual => decide
    | every interval => exact cleanText_append (by decide) (cleanText_u64 interval)
  sound v policy h := by
    refine ⟨trivial, ?_⟩
    rcases parse_some (okOr_eq_ok.mp h) with rfl | ⟨text, interval, rfl, rfl, hn⟩
    · refine ⟨fun _ => rfl, fun _ => ?_⟩
      cases policy with
      | never => decide
      | manual => decide
      | every interval =>
        exact (interval_plain "every" (by decide) (fun _ => rfl)
          (fromStrU64_toString interval)).mpr rfl
    · exact interval_plain "every" (by decide) (fun _ => rfl) hn

theorem spells_validationPolicy {ε : Type} (e : String → ε) :
    Spells plainScalar (fun v => okOr (ValidationPolicy.parse v) (e v)) ValidationPolicy.asStr
      fun _ => True := by
  refine spells_name ?_ ?_ ?_ ?_
  · intro p
    rw [okOr_eq_ok, parse_validationPolicy]
  · intro v p h
    exact validationPolicy_of_parse (okOr_eq_ok.mp h)
  · intro p
    cases p <;> decide
  · intro p
    cases p <;> decide

theorem spells_checkpoint {ε : Type} (e : ε) :
    Spells plainScalar (fun v => okOr (ValidationCheckpoint.parse v) e)
      ValidationCheckpoint.asStr fun _ => True := by
  refine spells_name ?_ ?_ ?_ ?_
  · intro c
    rw [okOr_eq_ok, parse_checkpoint]
  · intro v c h
    exact checkpoint_of_parse (okOr_eq_ok.mp h)
  · intro c
    cases c <;> decide
  · intro c
    cases c <;> decide

theorem spells_phaseGroup {ε : Type} (e : ε) :
    Spells plainScalar (fun v => okOr (PhaseGroup.parse v) e) PhaseGroup.asStr fun _ => True := by
  refine spells_name ?_ ?_ ?_ ?_
  · intro g
    rw [okOr_eq_ok, parse_phaseGroup]
  · intro v g h
    exact phaseGroup_of_parse (okOr_eq_ok.mp h)
  · intro g
    cases g <;> decide
  · intro g
    cases g <;> decide

theorem spells_settlementStatus {ε : Type} (e : String → ε) :
    Spells plainScalar (fun v => okOr (SettlementStatus.parse v) (e v)) SettlementStatus.asStr
      fun _ => True := by
  refine spells_name ?_ ?_ ?_ ?_
  · intro s
    rw [okOr_eq_ok, SettlementStatus.parse_asStr]
  · intro v s h
    exact SettlementStatus.of_parse (okOr_eq_ok.mp h)
  · intro s
    cases s <;> decide
  · intro s
    cases s <;> decide

/-! ### Counter commands -/

namespace CounterCommandTextSerializer

def schemaVersion : UInt32 := 1
def label : String := "counter command payload"

def lines (value : CounterCommand) : CanonicalLineWriter :=
  [("payload_kind", "counter_command"),
   ("canonical_encoding", CANONICAL_TEXT_ENCODING),
   ("command_payload_schema_version", toString schemaVersion),
   ("delta", toString value.delta),
   ("consume_entropy", encodeBool value.consumeEntropy)]

def encode (value : CounterCommand) : Except SerializationError Bytes :=
  pure (CanonicalLineWriter.finish (lines value))

def fields : Reader Line SerializationError CounterCommand := do
  expectField canonicalText label "payload_kind" "counter_command"
  expectField canonicalText label "canonical_encoding" CANONICAL_TEXT_ENCODING
  let version ← readField canonicalText label "command_payload_schema_version" parseU32
  lift (rejectIf (version ≠ schemaVersion)
    (SerializationError.mk s!"unsupported command payload schema version: {version}"))
  let delta ← readField canonicalText label "delta" parseI64
  let consumeEntropy ← readField canonicalText label "consume_entropy" parseBool
  pure ⟨delta, consumeEntropy⟩

def decode (bytes : Bytes) : Except SerializationError CounterCommand :=
  readAll bytes label canonicalText fields

theorem fields_codec (nested : Bytes → Bool) :
    CodecOn (lineSpelling nested) (fun _ => True) fields lines := by
  refine codec_expect (by decide) (by decide) (by decide) ?_
  refine codec_expect (by decide) (by decide) (by decide) ?_
  refine codec_version (by decide) payload_u32 ?_
  refine codec_value .text CounterCommand.delta (by decide) payload_i64 ?_
  intro delta
  refine codec_value .text CounterCommand.consumeEntropy (by decide) (spells_bool _) ?_
  intro consumeEntropy
  refine codec_pure ?_
  rintro ⟨delta', consumeEntropy'⟩
  simp only [true_and, CounterCommand.mk.injEq]

theorem codec_law : CodecLaw encode decode (fun _ => True) 1 := by
  refine codecLaw_of_fields (fun _ _ => fields_codec _) label canonicalText (fun _ => True)
    (fun _ => True) ?_ ?_ ?_ ?_
  · intro value bytes
    rw [encode, pure_eq_ok, true_and, eq_comm]
  · intro bytes value
    rw [decode, and_true]
  · exact fun _ => Iff.rfl
  · exact fun _ => List.cons_ne_nil _ _

end CounterCommandTextSerializer

def counterCommandTextSerializer : Serializer CounterCommand :=
  ⟨CounterCommandTextSerializer.schemaVersion, CounterCommandTextSerializer.encode,
    CounterCommandTextSerializer.decode⟩

/-! ### Counter snapshots -/

namespace CounterSnapshotTextSerializer

def schemaVersion : UInt32 := 2
def label : String := "counter snapshot payload"

def entityLines (index : ℕ) (entity : CounterEntitySnapshot) : CanonicalLineWriter :=
  [(s!"entity.{index}.id", toString entity.id.id),
   (s!"entity.{index}.value", toString entity.value),
   (s!"entity.{index}.velocity", toString entity.velocity)]

def lines (value : CounterSnapshot) : CanonicalLineWriter :=
  [("payload_kind", "counter_snapshot"),
   ("canonical_encoding", CANONICAL_TEXT_ENCODING),
   ("snapshot_payload_schema_version", toString schemaVersion),
   ("tick", toString value.tick),
   ("next_entity_id", toString value.nextEntityId),
   ("primary_entity_id", toString value.primaryEntity.id),
   ("entity_count", toString value.entities.length)]
  ++ (writeFrom entityLines 0 value.entities ++
  [("pending_delta", toString value.pendingDelta),
   ("pending_entropy", toString value.pendingEntropy),
   ("entropy_budget", toString value.entropyBudget),
   ("finalize_marker", toString value.finalizeMarker)])

def encode (value : CounterSnapshot) : Except SerializationError Bytes := do
  value.validate.mapError SerializationError.mk
  pure (CanonicalLineWriter.finish (lines value))

def entityFields (index : ℕ) : Reader Line SerializationError CounterEntitySnapshot := do
  let id ← readField canonicalText label s!"entity.{index}.id" parseU64
  let value ← readField canonicalText label s!"entity.{index}.value" parseI64
  let velocity ← readField canonicalText label s!"entity.{index}.velocity" parseI64
  pure ⟨⟨id⟩, value, velocity⟩

def fields : Reader Line SerializationError CounterSnapshot := do
  expectField canonicalText label "payload_kind" "counter_snapshot"
  expectField canonicalText label "canonical_encoding" CANONICAL_TEXT_ENCODING
  let version ← readField canonicalText label "snapshot_payload_schema_version" parseU32
  lift (rejectIf (version ≠ schemaVersion)
    (SerializationError.mk s!"unsupported snapshot payload schema version: {version}"))
  let tick ← readField canonicalText label "tick" parseU64
  let nextEntityId ← readField canonicalText label "next_entity_id" parseU64
  let primaryEntity ← readField canonicalText label "primary_entity_id" parseU64
  let entityCount ← readField canonicalText label "entity_count" parseUsize
  let entities ← forRange entityFields 0 entityCount
  let pendingDelta ← readField canonicalText label "pending_delta" parseI64
  let pendingEntropy ← readField canonicalText label "pending_entropy" parseU64
  let entropyBudget ← readField canonicalText label "entropy_budget" parseU64
  let finalizeMarker ← readField canonicalText label "finalize_marker" parseU64
  pure ⟨tick, nextEntityId, ⟨primaryEntity⟩, entities, pendingDelta, pendingEntropy,
    entropyBudget, finalizeMarker⟩

def decode (bytes : Bytes) : Except SerializationError CounterSnapshot := do
  let snapshot ← readAll bytes label canonicalText fields
  snapshot.validate.mapError SerializationError.mk
  pure snapshot

theorem entityFields_codec (nested : Bytes → Bool) (index : ℕ) :
    CodecOn (lineSpelling nested) (fun _ => True) (entityFields index) (entityLines index) := by
  have hpre : CleanText (toString "entity." ++ toString index) :=
    cleanText_append (by decide) (cleanText_nat index)
  refine codec_value .text (fun e : CounterEntitySnapshot => e.id.id)
    (goodKey_append hpre (by decide) (by decide)) payload_u64 ?_
  intro id
  refine codec_value .text CounterEntitySnapshot.value (goodKey_append hpre (by decide) (by decide))
    payload_i64 ?_
  intro value
  refine codec_value .text CounterEntitySnapshot.velocity
    (goodKey_append hpre (by decide) (by decide)) payload_i64 ?_
  intro velocity
  refine codec_pure ?_
  rintro ⟨⟨id'⟩, value', velocity'⟩
  simp only [true_and, and_assoc, CounterEntitySnapshot.mk.injEq, EntityId.mk.injEq]

theorem fields_codec (nested : Bytes → Bool) :
    CodecOn (lineSpelling nested) (fun s : CounterSnapshot => s.entities.length ≤ USIZE_MAX)
      fields lines := by
  refine codec_expect (by decide) (by decide) (by decide) ?_
  refine codec_expect (by decide) (by decide) (by decide) ?_
  refine codec_version (by decide) payload_u32 ?_
  refine codec_value .text CounterSnapshot.tick (by decide) payload_u64 ?_
  intro tick
  refine codec_value .text CounterSnapshot.nextEntityId (by decide) payload_u64 ?_
  intro nextEntityId
  refine codec_value .text (fun s : CounterSnapshot => s.primaryEntity.id) (by decide) payload_u64
    ?_
  intro primaryEntity
  refine codec_field .text (fun s : CounterSnapshot => s.entities.length) (by decide)
    payload_usize (fun _ h => h.1.1.1) ?_
  intro entityCount hcount
  refine codec_bind CounterSnapshot.entities (codec_forRange (entityFields_codec nested) 0 _)
    (fun _ h => ⟨h.2, fun _ _ => trivial⟩) ?_
  intro entities hentities
  refine codec_value .text CounterSnapshot.pendingDelta (by decide) payload_i64 ?_
  intro pendingDelta
  refine codec_value .text CounterSnapshot.pendingEntropy (by decide) payload_u64 ?_
  intro pendingEntropy
  refine codec_value .text CounterSnapshot.entropyBudget (by decide) payload_u64 ?_
  intro entropyBudget
  refine codec_value .text CounterSnapshot.finalizeMarker (by decide) payload_u64 ?_
  intro finalizeMarker
  refine codec_pure ?_
  rintro ⟨tick', nextEntityId', ⟨primaryEntity'⟩, entities', pendingDelta', pendingEntropy',
    entropyBudget', finalizeMarker'⟩
  simp only [and_assoc, CounterSnapshot.mk.injEq, EntityId.mk.injEq]
  constructor
  · rintro ⟨-, rfl, rfl, rfl, -, rest⟩
    exact ⟨rfl, rfl, rfl, rest⟩
  · rintro ⟨rfl, rfl, rfl, rfl, rest⟩
    rw [hentities.1]
    exact ⟨hcount, rfl, rfl, rfl, rfl, rfl, rest⟩

/- Distinct ids below the next one: their number fits the count field. -/
theorem entities_fit {s : CounterSnapshot} (h : s.Valid) : s.entities.length ≤ USIZE_MAX := by
  have hsub : (s.entities.map fun e => e.id.id.toNat) ⊆ List.range USIZE_MAX := by
    intro n hn
    obtain ⟨e, he, rfl⟩ := List.mem_map.mp hn
    have hlt := UInt64.lt_iff_toNat_lt.mp (h.fresh e he)
    have hnext := s.nextEntityId.toNat_lt
    rw [List.mem_range, USIZE_MAX]
    omega
  have hnodup : (s.entities.map fun e => e.id.id.toNat).Nodup := by
    have hcomp : (s.entities.map fun e => e.id.id.toNat) =
        (s.entities.map (·.id)).map fun id => id.id.toNat := by
      rw [List.map_map]
      rfl
    rw [hcomp]
    refine List.Nodup.map ?_ h.nodup
    rintro ⟨a⟩ ⟨b⟩ hab
    exact congrArg EntityId.mk (UInt64.toNat_inj.mp hab)
  have hle := (List.subperm_of_subset hnodup hsub).length_le
  rwa [List.length_map, List.length_range] at hle

theorem encode_eq_ok {value : CounterSnapshot} {bytes : Bytes} :
    encode value = .ok bytes ↔ value.Valid ∧ bytes = CanonicalLineWriter.finish (lines value) := by
  rw [encode, check_pure_eq_ok, mapError_eq_ok, CounterSnapshot.validate_eq_ok]

theorem codec_law : CodecLaw encode decode (fun _ => True) 1 := by
  refine codecLaw_of_fields (fun _ _ => fields_codec _) label canonicalText CounterSnapshot.Valid
    CounterSnapshot.Valid ?_ ?_ ?_ ?_
  · exact fun _ _ => encode_eq_ok
  · intro bytes value
    rw [decode, checked_eq_ok, mapError_eq_ok, CounterSnapshot.validate_eq_ok]
  · exact fun _ => ⟨fun h => ⟨h.2, trivial⟩, fun h => ⟨entities_fit h.1, h.1⟩⟩
  · exact fun _ => List.cons_ne_nil _ _

end CounterSnapshotTextSerializer

def counterSnapshotTextSerializer : Serializer CounterSnapshot :=
  ⟨CounterSnapshotTextSerializer.schemaVersion, CounterSnapshotTextSerializer.encode,
    CounterSnapshotTextSerializer.decode⟩

/-! ### Counter configurations -/

namespace CounterConfigTextSerializer

def schemaVersion : UInt32 := 2
def label : String := "counter config payload"

def entityLines (index : ℕ) (entity : CounterEntityInit) : CanonicalLineWriter :=
  [(s!"initial_entity.{index}.value", toString entity.value),
   (s!"initial_entity.{index}.velocity", toString entity.velocity)]

def lines (value : CounterSimulationConfig) : CanonicalLineWriter :=
  [("payload_kind", "counter_config"),
   ("canonical_encoding", CANONICAL_TEXT_ENCODING),
   ("config_payload_schema_version", toString schemaVersion),
   ("initial_value", toString value.initialValue),
   ("initial_velocity", toString value.initialVelocity),
   ("initial_entity_count", toString value.initialEntities.length)]
  ++ (writeFrom entityLines 0 value.initialEntities ++
  [("snapshot_policy", value.snapshotPolicy.canonicalString),
   ("validation_policy", value.validationPolicy.asStr),
   ("max_abs_value", toString value.maxAbsValue),
   ("max_abs_velocity", toString value.maxAbsVelocity),
   ("max_abs_pending_delta", toString value.maxAbsPendingDelta)])

def validateConfig (config : CounterSimulationConfig) : Except SerializationError Unit :=
  config.validate.mapError fun error => ⟨error.display⟩

def encode (value : CounterSimulationConfig) : Except SerializationError Bytes := do
  validateConfig value
  pure (CanonicalLineWriter.finish (lines value))

def entityFields (index : ℕ) : Reader Line SerializationError CounterEntityInit := do
  let value ← readField canonicalText label s!"initial_entity.{index}.value" parseI64
  let velocity ← readField canonicalText label s!"initial_entity.{index}.velocity" parseI64
  pure ⟨value, velocity⟩

def fields : Reader Line SerializationError CounterSimulationConfig := do
  expectField canonicalText label "payload_kind" "counter_config"
  expectField canonicalText label "canonical_encoding" CANONICAL_TEXT_ENCODING
  let version ← readField canonicalText label "config_payload_schema_version" parseU32
  lift (rejectIf (version ≠ schemaVersion)
    (SerializationError.mk s!"unsupported config payload schema version: {version}"))
  let initialValue ← readField canonicalText label "initial_value" parseI64
  let initialVelocity ← readField canonicalText label "initial_velocity" parseI64
  let entityCount ← readField canonicalText label "initial_entity_count" parseUsize
  let initialEntities ← forRange entityFields 0 entityCount
  let snapshotPolicy ← readField canonicalText label "snapshot_policy" parseSnapshotPolicy
  let validationPolicy ← readField canonicalText label "validation_policy" parseValidationPolicy
  let maxAbsValue ← readField canonicalText label "max_abs_value" parseI64
  let maxAbsVelocity ← readField canonicalText label "max_abs_velocity" parseI64
  let maxAbsPendingDelta ← readField canonicalText label "max_abs_pending_delta" parseI64
  let config : CounterSimulationConfig :=
    ⟨initialValue, initialVelocity, initialEntities, snapshotPolicy, validationPolicy, maxAbsValue,
      maxAbsVelocity, maxAbsPendingDelta⟩
  lift (validateConfig config)
  pure config

def decode (bytes : Bytes) : Except SerializationError CounterSimulationConfig :=
  readAll bytes label canonicalText fields

theorem entityFields_codec (nested : Bytes → Bool) (index : ℕ) :
    CodecOn (lineSpelling nested) (fun _ => True) (entityFields index) (entityLines index) := by
  have hpre : CleanText (toString "initial_entity." ++ toString index) :=
    cleanText_append (by decide) (cleanText_nat index)
  refine codec_value .text CounterEntityInit.value (goodKey_append hpre (by decide) (by decide))
    payload_i64 ?_
  intro value
  refine codec_value .text CounterEntityInit.velocity (goodKey_append hpre (by decide) (by decide))
    payload_i64 ?_
  intro velocity
  refine codec_pure ?_
  rintro ⟨value', velocity'⟩
  simp only [true_and, CounterEntityInit.mk.injEq]

theorem fields_codec (nested : Bytes → Bool) :
    CodecOn (lineSpelling nested) (fun config : CounterSimulationConfig =>
      config.validate = .ok () ∧ config.initialEntities.length ≤ USIZE_MAX) fields lines := by
  refine codec_expect (by decide) (by decide) (by decide) ?_
  refine codec_expect (by decide) (by decide) (by decide) ?_
  refine codec_version (by decide) payload_u32 ?_
  refine codec_value .text CounterSimulationConfig.initialValue (by decide) payload_i64 ?_
  intro initialValue
  refine codec_value .text CounterSimulationConfig.initialVelocity (by decide) payload_i64 ?_
  intro initialVelocity
  refine codec_field .text (fun c : CounterSimulationConfig => c.initialEntities.length)
    (by decide) payload_usize (fun _ h => h.1.1.2) ?_
  intro entityCount hcount
  refine codec_bind CounterSimulationConfig.initialEntities
    (codec_forRange (entityFields_codec nested) 0 _) (fun _ h => ⟨h.2, fun _ _ => trivial⟩) ?_
  intro initialEntities hentities
  refine codec_value .text CounterSimulationConfig.snapshotPolicy (by decide)
    (spells_snapshotPolicy _) ?_
  intro snapshotPolicy
  refine codec_value .text CounterSimulationConfig.validationPolicy (by decide)
    (spells_validationPolicy _) ?_
  intro validationPolicy
  refine codec_value .text CounterSimulationConfig.maxAbsValue (by decide) payload_i64 ?_
  intro maxAbsValue
  refine codec_value .text CounterSimulationConfig.maxAbsVelocity (by decide) payload_i64 ?_
  intro maxAbsVelocity
  refine codec_value .text CounterSimulationConfig.maxAbsPendingDelta (by decide) payload_i64 ?_
  intro maxAbsPendingDelta
  -- the validation stands between the last field and the end
  refine codec_check ?_ fun hvalid => codec_pure ?_
  · rintro ⟨v, w, es, sp, vp, a, b, c⟩ h
    simp only [and_assoc] at h
    obtain ⟨hvalid, -, rfl, rfl, -, rfl, rfl, rfl, rfl, rfl, rfl⟩ := h
    exact mapError_eq_ok.mpr hvalid
  · have hvalid := mapError_eq_ok.mp hvalid
    rintro ⟨v, w, es, sp, vp, a, b, c⟩
    simp only [and_assoc, CounterSimulationConfig.mk.injEq]
    constructor
    · rintro ⟨-, -, rfl, rfl, -, rest⟩
      exact ⟨rfl, rfl, rest⟩
    · rintro ⟨rfl, rfl, rfl, rfl, rfl, rfl, rfl, rfl⟩
      rw [hentities.1]
      exact ⟨hvalid, hcount, rfl, rfl, rfl, rfl, rfl, rfl, rfl, rfl, rfl⟩

theorem encode_eq_ok {value : CounterSimulationConfig} {bytes : Bytes} :
    encode value = .ok bytes ↔
      value.validate = .ok () ∧ bytes = CanonicalLineWriter.finish (lines value) := by
  rw [encode, check_pure_eq_ok, validateConfig, mapError_eq_ok]

theorem codec_law : CodecLaw encode decode
    (fun config : CounterSimulationConfig => config.initialEntities.length ≤ USIZE_MAX) 1 := by
  refine codecLaw_of_fields (fun _ _ => fields_codec _) label canonicalText
    (fun config => config.validate = .ok ()) (fun _ => True) ?_ ?_ ?_ ?_
  · exact fun _ _ => encode_eq_ok
  · intro bytes value
    rw [decode, and_true]
  · intro config
    rw [and_true]
  · exact fun _ => List.cons_ne_nil _ _

end CounterConfigTextSerializer

def counterConfigTextSerializer : Serializer CounterSimulationConfig :=
  ⟨CounterConfigTextSerializer.schemaVersion, CounterConfigTextSerializer.encode,
    CounterConfigTextSerializer.decode⟩

/-! ### Settlement commands -/

namespace SettlementCommandTextSerializer

def schemaVersion : UInt32 := 1
def label : String := "settlement command payload"

def opcode : SettlementCommand → String
  | .hold => "hold"
  | .setWorkerAllocation _ => "set_worker_allocation"

def allocation : SettlementCommand → WorkerAllocation
  | .hold => .zero
  | .setWorkerAllocation allocation => allocation

def lines (value : SettlementCommand) : CanonicalLineWriter :=
  [("payload_kind", "settlement_command"),
   ("canonical_encoding", CANONICAL_TEXT_ENCODING),
   ("command_payload_schema_version", toString schemaVersion),
   ("opcode", opcode value),
   ("allocation_farmers", toString (allocation value).farmers),
   ("allocation_loggers", toString (allocation value).loggers)]

def encode (value : SettlementCommand) : Except SerializationError Bytes :=
  pure (CanonicalLineWriter.finish (lines value))

/-- The opcode is looked at after the last line has been read. -/
def fields : Reader Line SerializationError (String × WorkerAllocation) := do
  expectField canonicalText label "payload_kind" "settlement_command"
  expectField canonicalText label "canonical_encoding" CANONICAL_TEXT_ENCODING
  let version ← readField canonicalText label "command_payload_schema_version" parseU32
  lift (rejectIf (version ≠ schemaVersion)
    (SerializationError.mk s!"unsupported command payload schema version: {version}"))
  let opcode ← mapError canonicalText (readValue "opcode" label)
  let farmers ← readField canonicalText label "allocation_farmers" parseU32
  let loggers ← readField canonicalText label "allocation_loggers" parseU32
  pure (opcode, ⟨farmers, loggers⟩)

def commandOf (opcode : String) (allocation : WorkerAllocation) :
    Except SerializationError SettlementCommand :=
  if opcode = "hold" then do
    rejectIf (allocation ≠ .zero)
      ⟨s!"hold command must encode zero allocation, got farmers={allocation.farmers}, loggers={allocation.loggers}"⟩
    pure .hold
  else if opcode = "set_worker_allocation" then pure (.setWorkerAllocation allocation)
  else throw ⟨s!"invalid settlement opcode `{opcode}`"⟩

def decode (bytes : Bytes) : Except SerializationError SettlementCommand := do
  let (opcode, allocation) ← readAll bytes label canonicalText fields
  commandOf opcode allocation

theorem commandOf_eq_ok {text : String} {workers : WorkerAllocation} {c : SettlementCommand} :
    commandOf text workers = .ok c ↔ text = opcode c ∧ workers = allocation c := by
  unfold commandOf
  cases c with
  | hold =>
    split_ifs with h1 h2
    · simp [h1, opcode, allocation]
    · simp [h2, opcode]
    · simp [h1, opcode]
  | setWorkerAllocation a =>
    split_ifs with h1 h2
    · simp [h1, opcode]
    · simp [h2, opcode, allocation]
    · simp [h2, opcode]

/-- The reader as one that ends with the command itself. -/
def commandFields : Reader Line SerializationError SettlementCommand := do
  let parts ← fields
  lift (commandOf parts.1 parts.2)

theorem decode_eq_ok {bytes : Bytes} {c : SettlementCommand} :
    decode bytes = .ok c ↔ readAll bytes label canonicalText commandFields = .ok c := by
  simp only [decode, bind_eq_ok, readAll_eq_ok, commandFields, bind_reads, lift_reads]
  constructor
  · rintro ⟨parts, ⟨ls, hne, hclean, hb, hr⟩, hc⟩
    exact ⟨ls, hne, hclean, hb, ls, [], parts, (List.append_nil _).symm, hr, rfl, hc⟩
  · rintro ⟨_, hne, hclean, hb, ls, _, parts, rfl, hr, rfl, hc⟩
    rw [List.append_nil] at hne hclean hb
    exact ⟨parts, ⟨ls, hne, hclean, hb, hr⟩, hc⟩

theorem commandFields_codec (nested : Bytes → Bool) :
    CodecOn (lineSpelling nested) (fun _ => True) commandFields lines := by
  simp only [commandFields, fields, bind_assoc, pure_bind]
  refine codec_expect (by decide) (by decide) (by decide) ?_
  refine codec_expect (by decide) (by decide) (by decide) ?_
  refine codec_version (by decide) payload_u32 ?_
  refine codec_raw opcode (by decide) ?_ ?_ ?_
  · intro c _
    cases c with
    | hold => decide
    | setWorkerAllocation a =>
      show CleanText "set_worker_allocation"
      decide
  · intro c _
    cases c with
    | hold => decide
    | setWorkerAllocation a =>
      show plainScalar "set_worker_allocation" = true
      decide
  intro text
  refine codec_value .text (fun c => (allocation c).farmers) (by decide) payload_u32 ?_
  intro farmers
  refine codec_value .text (fun c => (allocation c).loggers) (by decide) payload_u32 ?_
  intro loggers
  refine codec_lift ?_
  intro c
  rw [commandOf_eq_ok]
  constructor
  · rintro ⟨⟨⟨-, rfl⟩, rfl⟩, rfl⟩
    exact ⟨rfl, rfl⟩
  · rintro ⟨rfl, h⟩
    rw [← h]
    exact ⟨⟨⟨trivial, rfl⟩, rfl⟩, rfl⟩

theorem codec_law : CodecLaw encode decode (fun _ => True) 1 := by
  refine codecLaw_of_fields (fun _ _ => commandFields_codec _) label canonicalText
    (fun _ => True) (fun _ => True) ?_ ?_ ?_ ?_
  · intro value bytes
    rw [encode, pure_eq_ok, true_and, eq_comm]
  · intro bytes value
    rw [decode_eq_ok, and_true]
  · exact fun _ => Iff.rfl
  · exact fun _ => List.cons_ne_nil _ _

end SettlementCommandTextSerializer

def settlementCommandTextSerializer : Serializer SettlementCommand :=
  ⟨SettlementCommandTextSerializer.schemaVersion, SettlementCommandTextSerializer.encode,
    SettlementCommandTextSerializer.decode⟩

/-! ### Settlement snapshots -/

namespace SettlementSnapshotTextSerializer

def schemaVersion : UInt32 := 1
def label : String := "settlement snapshot payload"

def lines (value : SettlementSnapshot) : CanonicalLineWriter :=
  [("payload_kind", "settlement_snapshot"),
   ("canonical_encoding", CANONICAL_TEXT_ENCODING),
   ("snapshot_payload_schema_version", toString schemaVersion),
   ("tick", toString value.tick),
   ("population", toString value.population),
   ("current_allocation_farmers", toString value.currentAllocation.farmers),
   ("current_allocation_loggers", toString value.currentAllocation.loggers),
   ("pending_allocation_present", encodeBool value.pendingAllocationPresent),
   ("pending_allocation_farmers", toString value.pendingAllocation.farmers),
   ("pending_allocation_loggers", toString value.pendingAllocation.loggers),
   ("food", toString value.food),
   ("wood", toString value.wood),
   ("last_produced_food", toString value.lastProducedFood),
   ("last_produced_wood", toString value.lastProducedWood),
   ("last_consumed_food", toString value.lastConsumedFood),
   ("last_consumed_wood", toString value.lastConsumedWood),
   ("last_food_shortage", toString value.lastFoodShortage),
   ("last_wood_shortage", toString value.lastWoodShortage),
   ("total_food_produced", toString value.totalFoodProduced),
   ("total_wood_produced", toString value.totalWoodProduced),
   ("total_food_consumed", toString value.totalFoodConsumed),
   ("total_wood_consumed", toString value.totalWoodConsumed),
   ("total_food_shortage", toString value.totalFoodShortage),
   ("total_wood_shortage", toString value.totalWoodShortage),
   ("shortage_ticks", toString value.shortageTicks),
   ("last_status", value.lastStatus.asStr),
   ("finalize_marker", toString value.finalizeMarker)]

def encode (value : SettlementSnapshot) : Except SerializationError Bytes := do
  value.validate.mapError SerializationError.mk
  pure (CanonicalLineWriter.finish (lines value))

def fields : Reader Line SerializationError SettlementSnapshot := do
  expectField canonicalText label "payload_kind" "settlement_snapshot"
  expectField canonicalText label "canonical_encoding" CANONICAL_TEXT_ENCODING
  let version ← readField canonicalText label "snapshot_payload_schema_version" parseU32
  lift (rejectIf (version ≠ schemaVersion)
    (SerializationError.mk s!"unsupported snapshot payload schema version: {version}"))
  let tick ← readField canonicalText label "tick" parseU64
  let population ← readField canonicalText label "population" parseU32
  let currentFarmers ← readField canonicalText label "current_allocation_farmers" parseU32
  let currentLoggers ← readField canonicalText label "current_allocation_loggers" parseU32
  let pendingAllocationPresent ←
    readField canonicalText label "pending_allocation_present" parseBool
  let pendingFarmers ← readField canonicalText label "pending_allocation_farmers" parseU32
  let pendingLoggers ← readField canonicalText label "pending_allocation_loggers" parseU32
  let food ← readField canonicalText label "food" parseI64
  let wood ← readField canonicalText label "wood" parseI64
  let lastProducedFood ← readField canonicalText label "last_produced_food" parseI64
  let lastProducedWood ← readField canonicalText label "last_produced_wood" parseI64
  let lastConsumedFood ← readField canonicalText label "last_consumed_food" parseI64
  let lastConsumedWood ← readField canonicalText label "last_consumed_wood" parseI64
  let lastFoodShortage ← readField canonicalText label "last_food_shortage" parseI64
  let lastWoodShortage ← readField canonicalText label "last_wood_shortage" parseI64
  let totalFoodProduced ← readField canonicalText label "total_food_produced" parseI64
  let totalWoodProduced ← readField canonicalText label "total_wood_produced" parseI64
  let totalFoodConsumed ← readField canonicalText label "total_food_consumed" parseI64
  let totalWoodConsumed ← readField canonicalText label "total_wood_consumed" parseI64
  let totalFoodShortage ← readField canonicalText label "total_food_shortage" parseI64
  let totalWoodShortage ← readField canonicalText label "total_wood_shortage" parseI64
  let shortageTicks ← readField canonicalText label "shortage_ticks" parseU64
  let lastStatus ← readField canonicalText label "last_status" parseSettlementStatus
  let finalizeMarker ← readField canonicalText label "finalize_marker" parseU64
  pure ⟨tick, population, ⟨currentFarmers, currentLoggers⟩, pendingAllocationPresent,
    ⟨pendingFarmers, pendingLoggers⟩, food, wood, lastProducedFood, lastProducedWood,
    lastConsumedFood, lastConsumedWood, lastFoodShortage, lastWoodShortage, totalFoodProduced,
    totalWoodProduced, totalFoodConsumed, totalWoodConsumed, totalFoodShortage,
    totalWoodShortage, shortageTicks, lastStatus, finalizeMarker⟩

def decode (bytes : Bytes) : Except SerializationError SettlementSnapshot := do
  let snapshot ← readAll bytes label canonicalText fields
  snapshot.validate.mapError SerializationError.mk
  pure snapshot

theorem fields_codec (nested : Bytes → Bool) :
    CodecOn (lineSpelling nested) (fun _ => True) fields lines := by
  refine codec_expect (by decide) (by decide) (by decide) ?_
  refine codec_expect (by decide) (by decide) (by decide) ?_
  refine codec_version (by decide) payload_u32 ?_
  refine codec_value .text SettlementSnapshot.tick (by decide) payload_u64 ?_
  intro tick
  refine codec_value .text SettlementSnapshot.population (by decide) payload_u32 ?_
  intro population
  refine codec_value .text (fun s : SettlementSnapshot => s.currentAllocation.farmers) (by decide)
    payload_u32 ?_
  intro currentFarmers
  refine codec_value .text (fun s : SettlementSnapshot => s.currentAllocation.loggers) (by decide)
    payload_u32 ?_
  intro currentLoggers
  refine codec_value .text SettlementSnapshot.pendingAllocationPresent (by decide) (spells_bool _)
    ?_
  intro pendingAllocationPresent
  refine codec_value .text (fun s : SettlementSnapshot => s.pendingAllocation.farmers) (by decide)
    payload_u32 ?_
  intro pendingFarmers
  refine codec_value .text (fun s : SettlementSnapshot => s.pendingAllocation.loggers) (by decide)
    payload_u32 ?_
  intro pendingLoggers
  refine codec_value .text SettlementSnapshot.food (by decide) payload_i64 ?_
  intro food
  refine codec_value .text SettlementSnapshot.wood (by decide) payload_i64 ?_
  intro wood
  refine codec_value .text SettlementSnapshot.lastProducedFood (by decide) payload_i64 ?_
  intro lastProducedFood
  refine codec_value .text SettlementSnapshot.lastProducedWood (by decide) payload_i64 ?_
  intro lastProducedWood
  refine codec_value .text SettlementSnapshot.lastConsumedFood (by decide) payload_i64 ?_
  intro lastConsumedFood
  refine codec_value .text SettlementSnapshot.lastConsumedWood (by decide) payload_i64 ?_
  intro lastConsumedWood
  refine codec_value .text SettlementSnapshot.lastFoodShortage (by decide) payload_i64 ?_
  intro lastFoodShortage
  refine codec_value .text SettlementSnapshot.lastWoodShortage (by decide) payload_i64 ?_
  intro lastWoodShortage
  refine codec_value .text SettlementSnapshot.totalFoodProduced (by decide) payload_i64 ?_
  intro totalFoodProduced
  refine codec_value .text SettlementSnapshot.totalWoodProduced (by decide) payload_i64 ?_
  intro totalWoodProduced
  refine codec_value .text SettlementSnapshot.totalFoodConsumed (by decide) payload_i64 ?_
  intro totalFoodConsumed
  refine codec_value .text SettlementSnapshot.totalWoodConsumed (by decide) payload_i64 ?_
  intro totalWoodConsumed
  refine codec_value .text SettlementSnapshot.totalFoodShortage (by decide) payload_i64 ?_
  intro totalFoodShortage
  refine codec_value .text SettlementSnapshot.totalWoodShortage (by decide) payload_i64 ?_
  intro totalWoodShortage
  refine codec_value .text SettlementSnapshot.shortageTicks (by decide) payload_u64 ?_
  intro shortageTicks
  refine codec_value .text SettlementSnapshot.lastStatus (by decide) (spells_settlementStatus _) ?_
  intro lastStatus
  refine codec_value .text SettlementSnapshot.finalizeMarker (by decide) payload_u64 ?_
  intro finalizeMarker
  refine codec_pure ?_
  rintro ⟨tick', population', ⟨currentFarmers', currentLoggers'⟩, pendingAllocationPresent',
    ⟨pendingFarmers', pendingLoggers'⟩, food', wood', lastProducedFood', lastProducedWood',
    lastConsumedFood', lastConsumedWood', lastFoodShortage', lastWoodShortage',
    totalFoodProduced', totalWoodProduced', totalFoodConsumed', totalWoodConsumed',
    totalFoodShortage', totalWoodShortage', shortageTicks', lastStatus', finalizeMarker'⟩
  simp only [true_and, and_assoc, SettlementSnapshot.mk.injEq, WorkerAllocation.mk.injEq]

theorem encode_eq_ok {value : SettlementSnapshot} {bytes : Bytes} :
    encode value = .ok bytes ↔
      value.validate = .ok () ∧ bytes = CanonicalLineWriter.finish (lines value) := by
  rw [encode, check_pure_eq_ok, mapError_eq_ok]

theorem codec_law : CodecLaw encode decode (fun _ => True) 1 := by
  refine codecLaw_of_fields (fun _ _ => fields_codec _) label canonicalText
    (fun s => s.validate = .ok ()) (fun s => s.validate = .ok ()) ?_ ?_ ?_ ?_
  · exact fun _ _ => encode_eq_ok
  · intro bytes value
    rw [decode, checked_eq_ok, mapError_eq_ok]
  · exact fun _ => and_comm
  · exact fun _ => List.cons_ne_nil _ _

end SettlementSnapshotTextSerializer

def settlementSnapshotTextSerializer : Serializer SettlementSnapshot :=
  ⟨SettlementSnapshotTextSerializer.schemaVersion, SettlementSnapshotTextSerializer.encode,
    SettlementSnapshotTextSerializer.decode⟩

/-! ### Settlement configurations -/

namespace SettlementConfigTextSerializer

def schemaVersion : UInt32 := 1
def label : String := "settlement config payload"

def lines (value : SettlementSimulationConfig) : CanonicalLineWriter :=
  [("payload_kind", "settlement_config"),
   ("canonical_encoding", CANONICAL_TEXT_ENCODING),
   ("config_payload_schema_version", toString schemaVersion),
   ("population", toString value.population),
   ("initial_food", toString value.initialFood),
   ("initial_wood", toString value.initialWood),
   ("initial_allocation_farmers", toString value.initialAllocation.farmers),
   ("initial_allocation_loggers", toString value.initialAllocation.loggers),
   ("food_per_farmer", toString value.foodPerFarmer),
   ("wood_per_logger", toString value.woodPerLogger),
   ("food_consumption_per_worker", toString value.foodConsumptionPerWorker),
   ("wood_consumption_per_tick", toString value.woodConsumptionPerTick),
   ("snapshot_policy", value.snapshotPolicy.canonicalString),
   ("validation_policy", value.validationPolicy.asStr),
   ("max_inventory", toString value.maxInventory)]

def validateConfig (config : SettlementSimulationConfig) : Except SerializationError Unit :=
  config.validate.mapError fun error => ⟨error.display⟩

def encode (value : SettlementSimulationConfig) : Except SerializationError Bytes := do
  validateConfig value
  pure (CanonicalLineWriter.finish (lines value))

def fields : Reader Line SerializationError SettlementSimulationConfig := do
  expectField canonicalText label "payload_kind" "settlement_config"
  expectField canonicalText label "canonical_encoding" CANONICAL_TEXT_ENCODING
  let version ← readField canonicalText label "config_payload_schema_version" parseU32
  lift (rejectIf (version ≠ schemaVersion)
    (SerializationError.mk s!"unsupported config payload schema version: {version}"))
  let population ← readField canonicalText label "population" parseU32
  let initialFood ← readField canonicalText label "initial_food" parseI64
  let initialWood ← readField canonicalText label "initial_wood" parseI64
  let initialFarmers ← readField canonicalText label "initial_allocation_farmers" parseU32
  let initialLoggers ← readField canonicalText label "initial_allocation_loggers" parseU32
  let foodPerFarmer ← readField canonicalText label "food_per_farmer" parseI64
  let woodPerLogger ← readField canonicalText label "wood_per_logger" parseI64
  let foodConsumptionPerWorker ←
    readField canonicalText label "food_consumption_per_worker" parseI64
  let woodConsumptionPerTick ← readField canonicalText label "wood_consumption_per_tick" parseI64
  let snapshotPolicy ← readField canonicalText label "snapshot_policy" parseSnapshotPolicy
  let validationPolicy ← readField canonicalText label "validation_policy" parseValidationPolicy
  let maxInventory ← readField canonicalText label "max_inventory" parseI64
  let config : SettlementSimulationConfig :=
    ⟨population, initialFood, initialWood, ⟨initialFarmers, initialLoggers⟩, foodPerFarmer,
      woodPerLogger, foodConsumptionPerWorker, woodConsumptionPerTick, snapshotPolicy,
      validationPolicy, maxInventory⟩
  lift (validateConfig config)
  pure config

def decode (bytes : Bytes) : Except SerializationError SettlementSimulationConfig :=
  readAll bytes label canonicalText fields

theorem fields_codec (nested : Bytes → Bool) :
    CodecOn (lineSpelling nested)
      (fun config : SettlementSimulationConfig => config.validate = .ok ()) fields lines := by
  refine codec_expect (by decide) (by decide) (by decide) ?_
  refine codec_expect (by decide) (by decide) (by decide) ?_
  refine codec_version (by decide) payload_u32 ?_
  refine codec_value .text SettlementSimulationConfig.population (by decide) payload_u32 ?_
  intro population
  refine codec_value .text SettlementSimulationConfig.initialFood (by decide) payload_i64 ?_
  intro initialFood
  refine codec_value .text SettlementSimulationConfig.initialWood (by decide) payload_i64 ?_
  intro initialWood
  refine codec_value .text (fun s : SettlementSimulationConfig => s.initialAllocation.farmers)
    (by decide) payload_u32 ?_
  intro initialFarmers
  refine codec_value .text (fun s : SettlementSimulationConfig => s.initialAllocation.loggers)
    (by decide) payload_u32 ?_
  intro initialLoggers
  refine codec_value .text SettlementSimulationConfig.foodPerFarmer (by decide) payload_i64 ?_
  intro foodPerFarmer
  refine codec_value .text SettlementSimulationConfig.woodPerLogger (by decide) payload_i64 ?_
  intro woodPerLogger
  refine codec_value .text SettlementSimulationConfig.foodConsumptionPerWorker (by decide)
    payload_i64 ?_
  intro foodConsumptionPerWorker
  refine codec_value .text SettlementSimulationConfig.woodConsumptionPerTick (by decide) payload_i64
    ?_
  intro woodConsumptionPerTick
  refine codec_value .text SettlementSimulationConfig.snapshotPolicy (by decide)
    (spells_snapshotPolicy _) ?_
  intro snapshotPolicy
  refine codec_value .text SettlementSimulationConfig.validationPolicy (by decide)
    (spells_validationPolicy _) ?_
  intro validationPolicy
  refine codec_value .text SettlementSimulationConfig.maxInventory (by decide) payload_i64 ?_
  intro maxInventory
  refine codec_check ?_ fun hvalid => codec_pure ?_
  · rintro ⟨n, food, wood, ⟨farmers, loggers⟩, a, b, c, d, sp, vp, m⟩ h
    simp only [and_assoc] at h
    obtain ⟨hvalid, rfl, rfl, rfl, rfl, rfl, rfl, rfl, rfl, rfl, rfl, rfl, rfl⟩ := h
    exact mapError_eq_ok.mpr hvalid
  · have hvalid := mapError_eq_ok.mp hvalid
    rintro ⟨n, food, wood, ⟨farmers, loggers⟩, a, b, c, d, sp, vp, m⟩
    simp only [and_assoc, SettlementSimulationConfig.mk.injEq, WorkerAllocation.mk.injEq]
    constructor
    · rintro ⟨-, rest⟩
      exact rest
    · rintro ⟨rfl, rfl, rfl, rfl, rfl, rfl, rfl, rfl, rfl, rfl, rfl, rfl⟩
      exact ⟨hvalid, rfl, rfl, rfl, rfl, rfl, rfl, rfl, rfl, rfl, rfl, rfl, rfl⟩

theorem encode_eq_ok {value : SettlementSimulationConfig} {bytes : Bytes} :
    encode value = .ok bytes ↔
      value.validate = .ok () ∧ bytes = CanonicalLineWriter.finish (lines value) := by
  rw [encode, check_pure_eq_ok, validateConfig, mapError_eq_ok]

theorem codec_law : CodecLaw encode decode (fun _ => True) 1 := by
  refine codecLaw_of_fields (fun _ _ => fields_codec _) label canonicalText
    (fun config => config.validate = .ok ()) (fun _ => True) ?_ ?_ ?_ ?_
  · exact fun _ _ => encode_eq_ok
  · intro bytes value
    rw [decode, and_true]
  · exact fun _ => Iff.rfl
  · exact fun _ => List.cons_ne_nil _ _

end SettlementConfigTextSerializer

def settlementConfigTextSerializer : Serializer SettlementSimulationConfig :=
  ⟨SettlementConfigTextSerializer.schemaVersion, SettlementConfigTextSerializer.encode,
    SettlementConfigTextSerializer.decode⟩

end XenorEngine.Rust
