import XenorEngine.Rust.EngineRun

/-!
# The counter simulation (config/mod.rs, state/mod.rs, deterministic/mod.rs, api/mod.rs)

A primary entity whose value and velocity the commands drive, other entities that
only take part in checksums, a validator and five phases. A `CounterState` carries
the proof that its primary entity is stored, which the source `expect`s.
-/

namespace XenorEngine.Rust
open XenorEngine.Lib.Fallible
open Debug (debug)

/- Maps are looked up by key and never iterated in what is modelled. -/
@[ext] structure DeterministicMap (K V : Type) where
  get : K → Option V

namespace DeterministicMap
variable {K V : Type} [DecidableEq K]

def new : DeterministicMap K V := ⟨fun _ => none⟩

def insert (m : DeterministicMap K V) (key : K) (value : V) : DeterministicMap K V :=
  ⟨Function.update m.get key (some value)⟩

def containsKey (m : DeterministicMap K V) (key : K) : Bool := (m.get key).isSome

def fromIter (items : List (K × V)) : DeterministicMap K V :=
  items.foldl (fun m p => m.insert p.1 p.2) new

theorem get_insert (m : DeterministicMap K V) (key : K) (value : V) (k : K) :
    (m.insert key value).get k = if k = key then some value else m.get k := by
  simp only [insert, Function.update_apply]

theorem get_foldl_insert (items : List (K × V)) (m : DeterministicMap K V) (k : K)
    (hk : k ∉ items.map (·.1)) :
    (items.foldl (fun m p => m.insert p.1 p.2) m).get k = m.get k := by
  induction items generalizing m with
  | nil => rfl
  | cons p ps ih =>
    simp only [List.map_cons, List.mem_cons, not_or] at hk
    rw [List.foldl_cons, ih (m.insert p.1 p.2) hk.2, get_insert, if_neg hk.1]

theorem isSome_foldl_insert (items : List (K × V)) (m : DeterministicMap K V) (k : K) :
    ((items.foldl (fun m p => m.insert p.1 p.2) m).get k).isSome ↔
      k ∈ items.map (·.1) ∨ (m.get k).isSome := by
  induction items generalizing m with
  | nil => simp
  | cons p ps ih =>
    rw [List.foldl_cons, ih (m.insert p.1 p.2), get_insert, List.map_cons, List.mem_cons]
    split
    · rename_i h
      simp [h]
    · rename_i h
      simp [h]

theorem get_foldl_insert_mem {items : List (K × V)} (hn : (items.map (·.1)).Nodup)
    (m : DeterministicMap K V) {k : K} {v : V} (hk : (k, v) ∈ items) :
    (items.foldl (fun m p => m.insert p.1 p.2) m).get k = some v := by
  induction items generalizing m with
  | nil => cases hk
  | cons p ps ih =>
    simp only [List.map_cons, List.nodup_cons] at hn
    rcases List.mem_cons.mp hk with rfl | hk
    · rw [List.foldl_cons, get_foldl_insert ps _ k hn.1, get_insert, if_pos rfl]
    · rw [List.foldl_cons, ih hn.2 _ hk]

end DeterministicMap

/-! ### Configuration -/

structure CounterEntityInit where
  value : Int64
  velocity : Int64
  deriving DecidableEq, Repr

structure CounterSimulationConfig where
  initialValue : Int64
  initialVelocity : Int64
  initialEntities : List CounterEntityInit
  snapshotPolicy : SnapshotPolicy
  validationPolicy : ValidationPolicy
  maxAbsValue : Int64
  maxAbsVelocity : Int64
  maxAbsPendingDelta : Int64
  deriving DecidableEq, Repr

instance : Debug CounterEntityInit where
  debug e := debugFields "CounterEntityInit"
    [("value", debug e.value), ("velocity", debug e.velocity)]
/- A `DeterministicList` shows its inner vector. -/
instance : Debug CounterSimulationConfig where
  debug c := debugFields "CounterSimulationConfig" [("initial_value", debug c.initialValue),
    ("initial_velocity", debug c.initialVelocity),
    ("initial_entities", debugFields "DeterministicList" [("inner", debug c.initialEntities)]),
    ("snapshot_policy", debug c.snapshotPolicy), ("validation_policy", debug c.validationPolicy),
    ("max_abs_value", debug c.maxAbsValue), ("max_abs_velocity", debug c.maxAbsVelocity),
    ("max_abs_pending_delta", debug c.maxAbsPendingDelta)]

namespace CounterSimulationConfig

def default : CounterSimulationConfig :=
  ⟨0, 0, [], .every 1, .tickBoundary, Int64.ofInt (2 ^ 63 - 1), Int64.ofInt (2 ^ 63 - 1),
    Int64.ofInt (2 ^ 63 - 1)⟩

def validateEntityValue (config : CounterSimulationConfig) (label : String) (value : Int64) :
    Except EngineError Unit :=
  let limit :=
    if "velocity".toList <:+ label.toList then config.maxAbsVelocity else config.maxAbsValue
  rejectIf ((value.toInt.natAbs : ℤ) > limit.toInt) (.configMismatch
    s!"{label} exceeds deterministic limit: value={value}, limit={limit}")

def validate (config : CounterSimulationConfig) : Except EngineError Unit := do
  rejectIf (config.maxAbsValue < 0) (.configMismatch
    s!"counter config max_abs_value must be non-negative, got {config.maxAbsValue}")
  rejectIf (config.maxAbsVelocity < 0) (.configMismatch
    s!"counter config max_abs_velocity must be non-negative, got {config.maxAbsVelocity}")
  rejectIf (config.maxAbsPendingDelta < 0) (.configMismatch
    s!"counter config max_abs_pending_delta must be non-negative, got {config.maxAbsPendingDelta}")
  config.validateEntityValue "initial_value" config.initialValue
  config.validateEntityValue "initial_velocity" config.initialVelocity
  config.initialEntities.zipIdx.forM fun (entity, index) => do
    config.validateEntityValue s!"initial_entities[{index}].value" entity.value
    config.validateEntityValue s!"initial_entities[{index}].velocity" entity.velocity

end CounterSimulationConfig

/-! ### Snapshots -/

structure EntityId where
  id : UInt64
  deriving DecidableEq, Repr

structure CounterEntitySnapshot where
  id : EntityId
  value : Int64
  velocity : Int64
  deriving DecidableEq, Repr

structure CounterSnapshot where
  tick : Tick
  nextEntityId : UInt64
  primaryEntity : EntityId
  entities : List CounterEntitySnapshot
  pendingDelta : Int64
  pendingEntropy : UInt64
  entropyBudget : UInt64
  finalizeMarker : UInt64
  deriving DecidableEq, Repr

instance : Debug EntityId := ⟨fun e => "EntityId(" ++ debug e.id ++ ")"⟩
instance : Debug CounterEntitySnapshot where
  debug e := debugFields "CounterEntitySnapshot"
    [("id", debug e.id), ("value", debug e.value), ("velocity", debug e.velocity)]
instance : Debug CounterSnapshot where
  debug s := debugFields "CounterSnapshot" [("tick", debug s.tick),
    ("next_entity_id", debug s.nextEntityId), ("primary_entity", debug s.primaryEntity),
    ("entities", debugFields "DeterministicList" [("inner", debug s.entities)]),
    ("pending_delta", debug s.pendingDelta), ("pending_entropy", debug s.pendingEntropy),
    ("entropy_budget", debug s.entropyBudget), ("finalize_marker", debug s.finalizeMarker)]

namespace CounterSnapshot

/-- The loop over the entities: the ids seen and the greatest of them. -/
def scanEntities : List CounterEntitySnapshot → DeterministicMap EntityId Unit → UInt64 →
    Except String (DeterministicMap EntityId Unit × UInt64)
  | [], seen, maxEntityId => .ok (seen, maxEntityId)
  | entity :: rest, seen, maxEntityId =>
    if seen.containsKey entity.id then
      .error s!"duplicate entity id {debug entity.id} in counter snapshot"
    else scanEntities rest (seen.insert entity.id ()) (max maxEntityId entity.id.id)

def validate (snapshot : CounterSnapshot) : Except String Unit := do
  rejectIf snapshot.entities.isEmpty "counter snapshot must contain at least one entity"
  rejectIf (snapshot.entities.head?.map (·.id) ≠ some snapshot.primaryEntity)
    s!"counter snapshot primary entity {debug snapshot.primaryEntity} must be first in insertion order"
  let (seen, maxEntityId) ← scanEntities snapshot.entities .new 0
  rejectIf (¬ seen.containsKey snapshot.primaryEntity)
    s!"counter snapshot primary entity {debug snapshot.primaryEntity} missing from entity payload"
  rejectIf (snapshot.nextEntityId ≤ maxEntityId)
    s!"counter snapshot next_entity_id {snapshot.nextEntityId} must be greater than max entity id {maxEntityId}"

theorem scanEntities_eq_ok {entities : List CounterEntitySnapshot}
    {seen seen' : DeterministicMap EntityId Unit} {m m' : UInt64}
    (h : scanEntities entities seen m = .ok (seen', m')) :
    (entities.map (·.id)).Nodup ∧ (∀ e ∈ entities, seen.containsKey e.id = false) ∧
      (∀ id, seen'.containsKey id ↔ id ∈ entities.map (·.id) ∨ seen.containsKey id) ∧
      m' = entities.foldl (fun m e => max m e.id.id) m := by
  induction entities generalizing seen m with
  | nil =>
    simp only [scanEntities, Except.ok.injEq, Prod.mk.injEq] at h
    obtain ⟨rfl, rfl⟩ := h
    simp
  | cons e es ih =>
    unfold scanEntities at h
    split at h
    · cases h
    · rename_i hseen
      obtain ⟨hn, hnew, hall, hm⟩ := ih h
      have hins : ∀ id, (seen.insert e.id ()).containsKey id = true ↔
          id = e.id ∨ seen.containsKey id = true := by
        intro id
        simp only [DeterministicMap.containsKey, DeterministicMap.get_insert]
        split <;> simp_all
      have hes : ∀ x ∈ es, x.id ≠ e.id ∧ seen.containsKey x.id = false := by
        intro x hx
        have hx' := hnew x hx
        rw [← Bool.not_eq_true, hins] at hx'
        exact ⟨fun he => hx' (.inl he), by simpa using fun hs => hx' (.inr hs)⟩
      refine ⟨?_, ?_, ?_, hm⟩
      · rw [List.map_cons, List.nodup_cons]
        refine ⟨?_, hn⟩
        intro hmem
        obtain ⟨x, hx, hxe⟩ := List.mem_map.mp hmem
        exact (hes x hx).1 hxe
      · intro x hx
        rcases List.mem_cons.mp hx with rfl | hx
        · simpa using hseen
        · exact (hes x hx).2
      · intro id
        rw [hall, hins, List.map_cons, List.mem_cons]
        tauto

theorem scanEntities_of_nodup {entities : List CounterEntitySnapshot}
    {seen : DeterministicMap EntityId Unit} {m : UInt64} (hn : (entities.map (·.id)).Nodup)
    (hnew : ∀ e ∈ entities, seen.containsKey e.id = false) :
    ∃ seen', scanEntities entities seen m =
      .ok (seen', entities.foldl (fun m e => max m e.id.id) m) := by
  induction entities generalizing seen m with
  | nil => exact ⟨seen, rfl⟩
  | cons e es ih =>
    rw [List.map_cons, List.nodup_cons] at hn
    unfold scanEntities
    rw [if_neg (by simp [hnew e (List.mem_cons_self ..)])]
    refine ih hn.2 fun x hx => ?_
    have hne : x.id ≠ e.id := fun he => hn.1 (he ▸ List.mem_map_of_mem hx)
    simp only [DeterministicMap.containsKey, DeterministicMap.get_insert, if_neg hne]
    exact hnew x (List.mem_cons_of_mem _ hx)

theorem foldl_max_lt (ids : List UInt64) (m n : UInt64) :
    ids.foldl max m < n ↔ m < n ∧ ∀ id ∈ ids, id < n := by
  induction ids generalizing m with
  | nil => simp
  | cons id ids ih =>
    have hmax : max m id < n ↔ m < n ∧ id < n := by
      change (if m ≤ id then id else m) < n ↔ m < n ∧ id < n
      split
      · rename_i h
        exact ⟨fun hid => ⟨UInt64.lt_of_le_of_lt h hid, hid⟩, fun h => h.2⟩
      · rename_i h
        exact ⟨fun hm => ⟨hm, UInt64.lt_trans (UInt64.not_le.mp h) hm⟩, fun h => h.1⟩
    rw [List.foldl_cons, ih, hmax]
    simp only [List.mem_cons, forall_eq_or_imp]
    tauto

/-- What a valid snapshot is. -/
structure Valid (snapshot : CounterSnapshot) : Prop where
  first : snapshot.entities.head?.map (·.id) = some snapshot.primaryEntity
  nodup : (snapshot.entities.map (·.id)).Nodup
  fresh : ∀ e ∈ snapshot.entities, e.id.id < snapshot.nextEntityId

theorem validate_eq_ok {snapshot : CounterSnapshot} {u : Unit} :
    snapshot.validate = .ok u ↔ snapshot.Valid := by
  have hfold : ∀ entities : List CounterEntitySnapshot,
      entities.foldl (fun m e => max m e.id.id) (0 : UInt64) =
        (entities.map (·.id.id)).foldl max 0 := by
    intro entities
    rw [List.foldl_map]
  constructor
  · intro h
    simp only [validate, bind_eq_ok, rejectIf_eq_ok, exists_const, ne_eq, not_not] at h
    obtain ⟨-, hfirst, ⟨seen, m⟩, hscan, -, hnext⟩ := h
    obtain ⟨hn, -, -, hm⟩ := scanEntities_eq_ok hscan
    refine ⟨hfirst, hn, ?_⟩
    simp only [hm, hfold, UInt64.not_le] at hnext
    have hlt := ((foldl_max_lt _ _ _).mp hnext).2
    intro e he
    exact hlt e.id.id (List.mem_map_of_mem (f := fun e => e.id.id) he)
  · intro h
    obtain ⟨seen, hscan⟩ := @scanEntities_of_nodup _ .new 0 h.nodup (fun _ _ => rfl)
    obtain ⟨-, -, hall, -⟩ := scanEntities_eq_ok hscan
    obtain ⟨first, hhead, hid⟩ := Option.map_eq_some_iff.mp h.first
    have hmem : first ∈ snapshot.entities := List.mem_of_mem_head? hhead
    simp only [validate, bind_eq_ok, rejectIf_eq_ok, exists_const, ne_eq, not_not]
    refine ⟨?_, h.first, _, hscan, ?_, ?_⟩
    · intro hempty
      simp [List.isEmpty_iff.mp hempty] at hmem
    · rw [hall]
      exact .inl (hid ▸ List.mem_map_of_mem hmem)
    · rw [UInt64.not_le, hfold, foldl_max_lt]
      refine ⟨?_, ?_⟩
      · have hlt := h.fresh first hmem
        rw [UInt64.lt_iff_toNat_lt] at hlt ⊢
        exact Nat.lt_of_le_of_lt (Nat.zero_le _) hlt
      · intro id hid'
        obtain ⟨e, he, rfl⟩ := List.mem_map.mp hid'
        exact h.fresh e he

end CounterSnapshot

/-! ### The state -/

structure CounterEntity where
  value : Int64
  velocity : Int64
  deriving DecidableEq, Repr

namespace CounterEntity

def fromInit (init : CounterEntityInit) : CounterEntity := ⟨init.value, init.velocity⟩

def snapshot (entity : CounterEntity) (id : EntityId) : CounterEntitySnapshot :=
  ⟨id, entity.value, entity.velocity⟩

end CounterEntity

structure CounterTransientState where
  pendingDelta : Int64
  pendingEntropy : UInt64
  deriving DecidableEq, Repr

structure CounterState where
  tick : Tick
  nextEntityId : UInt64
  primaryEntity : EntityId
  entityOrder : List EntityId
  entities : DeterministicMap EntityId CounterEntity
  transient : CounterTransientState
  entropyBudget : UInt64
  finalizeMarker : UInt64
  stored : ∀ id, id ∈ entityOrder ↔ (entities.get id).isSome
  primary_stored : primaryEntity ∈ entityOrder

namespace CounterState

def spawnEntity (s : CounterState) (init : CounterEntityInit) : CounterState :=
  { s with
    nextEntityId := s.nextEntityId + 1
    entityOrder := s.entityOrder ++ [⟨s.nextEntityId⟩]
    entities := s.entities.insert ⟨s.nextEntityId⟩ (.fromInit init)
    stored := by
      intro id
      rw [DeterministicMap.get_insert, List.mem_append, s.stored, List.mem_singleton]
      split <;> simp_all
    primary_stored := List.mem_append_left _ s.primary_stored }

def withInitialEntities (value velocity : Int64) (extraEntities : List CounterEntityInit) :
    CounterState :=
  extraEntities.foldl spawnEntity
    { tick := 0, nextEntityId := 2, primaryEntity := ⟨1⟩, entityOrder := [⟨1⟩]
      entities := DeterministicMap.new.insert ⟨1⟩ ⟨value, velocity⟩
      transient := ⟨0, 0⟩, entropyBudget := 0, finalizeMarker := 0
      stored := by
        intro id
        rw [DeterministicMap.get_insert, List.mem_singleton]
        split <;> simp_all [DeterministicMap.new]
      primary_stored := List.mem_singleton_self _ }

def primaryEntityRef (s : CounterState) : CounterEntity :=
  (s.entities.get s.primaryEntity).get ((s.stored s.primaryEntity).mp s.primary_stored)

/-- A write through `primary_entity_mut`. -/
def modifyPrimary (s : CounterState) (f : CounterEntity → CounterEntity) : CounterState :=
  { s with
    entities := s.entities.insert s.primaryEntity (f s.primaryEntityRef)
    stored := by
      intro id
      rw [DeterministicMap.get_insert, s.stored]
      split
      · rename_i h
        simp [h, (s.stored s.primaryEntity).mp s.primary_stored]
      · rfl }

def value (s : CounterState) : Int64 := s.primaryEntityRef.value
def velocity (s : CounterState) : Int64 := s.primaryEntityRef.velocity
def entityCount (s : CounterState) : ℕ := s.entityOrder.length
def entitySnapshot (s : CounterState) (id : EntityId) : Option CounterEntitySnapshot :=
  (s.entities.get id).map fun entity => entity.snapshot id
def entitySnapshots (s : CounterState) : List CounterEntitySnapshot :=
  s.entityOrder.filterMap s.entitySnapshot

def resetFinalizeMarker (s : CounterState) : CounterState := { s with finalizeMarker := 0 }

def stageInput (s : CounterState) (delta : Int64) (entropy : UInt64) : CounterState :=
  { s with transient := ⟨saturatingAddI64 s.transient.pendingDelta delta,
      s.transient.pendingEntropy + entropy⟩ }

def simulate (s : CounterState) : CounterState :=
  s.modifyPrimary fun entity =>
    let velocity := saturatingAddI64 entity.velocity s.transient.pendingDelta
    let entropyImpulse := (s.transient.pendingEntropy &&& 0xff).toInt64
    ⟨saturatingAddI64 (saturatingAddI64 entity.value velocity) entropyImpulse, velocity⟩

def settle (s : CounterState) : CounterState :=
  { s with entropyBudget := s.entropyBudget + s.transient.pendingEntropy, transient := ⟨0, 0⟩ }

def finalize (s : CounterState) (marker : UInt64) : CounterState :=
  { s with finalizeMarker := marker }

def snapshotChecksumWords (snapshot : CounterSnapshot) : List UInt64 :=
  [snapshot.tick, snapshot.nextEntityId, snapshot.primaryEntity.id,
    UInt64.ofNat snapshot.entities.length] ++
  snapshot.entities.flatMap (fun entity =>
    [entity.id.id, entity.value.toUInt64, entity.velocity.toUInt64]) ++
  [snapshot.pendingDelta.toUInt64, snapshot.pendingEntropy, snapshot.entropyBudget,
    snapshot.finalizeMarker]

def snapshot (s : CounterState) : CounterSnapshot :=
  ⟨s.tick, s.nextEntityId, s.primaryEntity, s.entitySnapshots, s.transient.pendingDelta,
    s.transient.pendingEntropy, s.entropyBudget, s.finalizeMarker⟩

def previewFinalizeMarker (s : CounterState) (seed : Seed) (tick : Tick) : UInt64 :=
  let words := snapshotChecksumWords { s.snapshot with finalizeMarker := 0 }
  mix64 (tickSeed seed tick ^^^ checksumWords words ^^^ tick)

/-- What `restore_snapshot` leaves behind; every field is overwritten. -/
def ofSnapshot (snapshot : CounterSnapshot) (h : snapshot.Valid) : CounterState where
  tick := snapshot.tick
  nextEntityId := snapshot.nextEntityId
  primaryEntity := snapshot.primaryEntity
  entityOrder := snapshot.entities.map (·.id)
  entities := .fromIter (snapshot.entities.map fun e => (e.id, ⟨e.value, e.velocity⟩))
  transient := ⟨snapshot.pendingDelta, snapshot.pendingEntropy⟩
  entropyBudget := snapshot.entropyBudget
  finalizeMarker := snapshot.finalizeMarker
  stored := by
    intro id
    rw [DeterministicMap.fromIter, DeterministicMap.isSome_foldl_insert, List.map_map]
    simp [DeterministicMap.new, Function.comp_def]
  primary_stored := by
    obtain ⟨first, hhead, hid⟩ := Option.map_eq_some_iff.mp h.first
    exact hid ▸ List.mem_map_of_mem (List.mem_of_mem_head? hhead)

def restoreSnapshot (_ : CounterState) (snapshot : CounterSnapshot) :
    Except String CounterState :=
  match h : snapshot.validate with
  | .ok _ => .ok (ofSnapshot snapshot (CounterSnapshot.validate_eq_ok.mp h))
  | .error detail =>
    .error ("counter snapshot payload must be validated before restore: " ++ debug detail)

end CounterState

instance : SimulationState CounterState CounterSnapshot where
  tick := CounterState.tick
  setTick s tick := { s with tick := tick }
  checksum s := checksumWords (CounterState.snapshotChecksumWords s.snapshot)
  snapshot := CounterState.snapshot
  restoreSnapshot := CounterState.restoreSnapshot
  snapshotSchemaVersion := 2
  snapshotChecksum snapshot := checksumWords (CounterState.snapshotChecksumWords snapshot)
  snapshotTick := CounterSnapshot.tick

instance : LawfulSimulationState CounterState CounterSnapshot :=
  ⟨fun _ _ => rfl, fun _ => rfl, fun _ => rfl⟩

namespace CounterState

theorem entitySnapshots_ids (s : CounterState) : s.entitySnapshots.map (·.id) = s.entityOrder := by
  have h : ∀ ids : List EntityId, (∀ id ∈ ids, id ∈ s.entityOrder) →
      (ids.filterMap s.entitySnapshot).map (·.id) = ids := by
    intro ids hids
    induction ids with
    | nil => rfl
    | cons id ids ih =>
      obtain ⟨entity, hget⟩ :=
        Option.isSome_iff_exists.mp ((s.stored id).mp (hids id (List.mem_cons_self ..)))
      have hsnap : s.entitySnapshot id = some (entity.snapshot id) := by
        rw [entitySnapshot, hget, Option.map_some]
      rw [List.filterMap_cons_some hsnap, List.map_cons,
        ih fun i hi => hids i (List.mem_cons_of_mem _ hi)]
      rfl
  exact h s.entityOrder fun _ hi => hi

/- A snapshot holds all of the state: restoring one over any state gives it back. -/
theorem restore_snapshot {s : CounterState} (t : CounterState) (h : s.snapshot.Valid) :
    t.restoreSnapshot s.snapshot = .ok s := by
  have hget : (ofSnapshot s.snapshot h).entities = s.entities := by
    ext1
    funext id
    by_cases hid : id ∈ s.entityOrder
    · obtain ⟨entity, he⟩ := Option.isSome_iff_exists.mp ((s.stored id).mp hid)
      have hmem : entity.snapshot id ∈ s.entitySnapshots := by
        refine List.mem_filterMap.mpr ⟨id, hid, ?_⟩
        rw [entitySnapshot, he, Option.map_some]
      rw [he]
      refine DeterministicMap.get_foldl_insert_mem ?_ _ (List.mem_map.mpr ⟨_, hmem, rfl⟩)
      rw [List.map_map]
      exact h.nodup
    · have hnone : s.entities.get id = none := by
        rw [s.stored, Option.isSome_iff_ne_none, ne_eq, not_not] at hid
        exact hid
      rw [hnone]
      refine DeterministicMap.get_foldl_insert _ _ _ ?_
      rw [List.map_map]
      change id ∉ s.entitySnapshots.map (·.id)
      rw [entitySnapshots_ids]
      exact hid
  have hof : ofSnapshot s.snapshot h = s := by
    have horder : (ofSnapshot s.snapshot h).entityOrder = s.entityOrder := entitySnapshots_ids s
    generalize hs' : ofSnapshot s.snapshot h = s' at hget horder
    have hrest : s'.tick = s.tick ∧ s'.nextEntityId = s.nextEntityId ∧
        s'.primaryEntity = s.primaryEntity ∧ s'.transient = s.transient ∧
        s'.entropyBudget = s.entropyBudget ∧ s'.finalizeMarker = s.finalizeMarker := by
      rw [← hs']
      exact ⟨rfl, rfl, rfl, rfl, rfl, rfl⟩
    obtain ⟨h1, h2, h3, h4, h5, h6⟩ := hrest
    cases s
    cases s'
    simp only at h1 h2 h3 h4 h5 h6 hget horder
    subst h1 h2 h3 h4 h5 h6 hget horder
    rfl
  unfold restoreSnapshot
  split
  · simp only [hof]
  · rename_i e he
    rw [CounterSnapshot.validate_eq_ok (u := ()) |>.mpr h] at he
    cases he

/-! ### Ids -/

/-- The ids handed out so far, in order. -/
structure SameEntities (s s' : CounterState) : Prop where
  order : s'.entityOrder = s.entityOrder
  next : s'.nextEntityId = s.nextEntityId
  primary : s'.primaryEntity = s.primaryEntity

theorem finalize_tick (s : CounterState) (marker : UInt64) : (s.finalize marker).tick = s.tick :=
  rfl

theorem finalize_same (s : CounterState) (marker : UInt64) :
    SameEntities s (s.finalize marker) := ⟨rfl, rfl, rfl⟩

/-- Ids count up from 1; `nextEntityId` wraps like the source's. -/
structure Counted (n : ℕ) (s : CounterState) : Prop where
  order : s.entityOrder = (List.range n).map fun i => ⟨UInt64.ofNat (i + 1)⟩
  next : s.nextEntityId = UInt64.ofNat (n + 1)
  primary : s.primaryEntity = ⟨1⟩
  pos : 0 < n

theorem counted_of_same {n : ℕ} {s s' : CounterState} (h : Counted n s)
    (hsame : s.SameEntities s') : Counted n s' where
  order := hsame.order.trans h.order
  next := hsame.next.trans h.next
  primary := hsame.primary.trans h.primary
  pos := h.pos

theorem spawnEntity_counted {n : ℕ} {s : CounterState} (h : Counted n s)
    (init : CounterEntityInit) : Counted (n + 1) (s.spawnEntity init) := by
  refine ⟨?_, ?_, h.primary, by omega⟩
  · change s.entityOrder ++ [⟨s.nextEntityId⟩] = _
    rw [h.order, h.next, List.range_succ, List.map_append]
    rfl
  · change s.nextEntityId + 1 = _
    rw [h.next]
    exact (UInt64.ofNat_add (n + 1) 1).symm

theorem withInitialEntities_counted (value velocity : Int64)
    (extraEntities : List CounterEntityInit) :
    Counted (extraEntities.length + 1) (withInitialEntities value velocity extraEntities) := by
  have h : ∀ (extras : List CounterEntityInit) (n : ℕ) (s : CounterState), Counted n s →
      Counted (extras.length + n) (extras.foldl spawnEntity s) := by
    intro extras
    induction extras with
    | nil =>
      intro n s hs
      simpa using hs
    | cons init extras ih =>
      intro n s hs
      have hlen : (init :: extras).length + n = extras.length + (n + 1) := by
        rw [List.length_cons]
        omega
      rw [List.foldl_cons, hlen]
      exact ih (n + 1) _ (spawnEntity_counted hs init)
  exact h extraEntities 1 _ ⟨rfl, rfl, rfl, by omega⟩

theorem withInitialEntities_tick (value velocity : Int64)
    (extraEntities : List CounterEntityInit) :
    (withInitialEntities value velocity extraEntities).tick = 0 := by
  have h : ∀ (extras : List CounterEntityInit) (s : CounterState),
      (extras.foldl spawnEntity s).tick = s.tick := by
    intro extras
    induction extras with
    | nil => exact fun _ => rfl
    | cons init extras ih => exact fun s => ih (s.spawnEntity init)
  exact h extraEntities _

/- The store check of the validator excludes that the ids have wrapped. -/
theorem counted_lt {n : ℕ} {s : CounterState} (h : Counted n s)
    (hfresh : ∀ id ∈ s.entityOrder, id.id < s.nextEntityId) : n < 2 ^ 64 - 1 := by
  by_contra hge
  have hlast : (⟨UInt64.ofNat (2 ^ 64 - 1)⟩ : EntityId) ∈ s.entityOrder := by
    rw [h.order]
    exact List.mem_map.mpr ⟨2 ^ 64 - 2, List.mem_range.mpr (by omega), rfl⟩
  have hlt := hfresh _ hlast
  rw [UInt64.lt_iff_toNat_lt] at hlt
  have hmax : (UInt64.ofNat (2 ^ 64 - 1)).toNat = 2 ^ 64 - 1 := rfl
  have hnext := s.nextEntityId.toNat_lt
  simp only at hlt
  omega

theorem snapshot_valid {n : ℕ} {s : CounterState} (h : Counted n s)
    (hfresh : ∀ id ∈ s.entityOrder, id.id < s.nextEntityId) : s.snapshot.Valid := by
  have hn := counted_lt h hfresh
  have hids : s.snapshot.entities.map (·.id) = s.entityOrder := entitySnapshots_ids s
  refine ⟨?_, ?_, ?_⟩
  · rw [← List.head?_map, hids, h.order]
    obtain ⟨m, rfl⟩ : ∃ m, n = m + 1 := ⟨n - 1, by have := h.pos; omega⟩
    rw [List.range_succ_eq_map, List.map_cons, List.head?_cons]
    exact congrArg some h.primary.symm
  · rw [hids, h.order]
    refine List.Nodup.map_on ?_ List.nodup_range
    intro i hi j hj hij
    have hi' := List.mem_range.mp hi
    have hj' := List.mem_range.mp hj
    have hnat := congrArg (fun e : EntityId => e.id.toNat) hij
    simp only [UInt64.toNat_ofNat'] at hnat
    omega
  · intro e he
    exact hfresh e.id (hids ▸ List.mem_map_of_mem he)

end CounterState

/-! ### Validator -/

structure CounterCommand where
  delta : Int64
  consumeEntropy : Bool
  deriving DecidableEq, Repr

instance : Debug CounterCommand where
  debug c := debugFields "CounterCommand"
    [("delta", debug c.delta), ("consume_entropy", debug c.consumeEntropy)]

structure CounterStateValidator where
  seed : Seed
  config : CounterSimulationConfig

namespace CounterStateValidator

def expectWithinLimit (context : ValidationContext) (label : String) (value limit : Int64) :
    Except EngineError Unit :=
  rejectIf ((value.toInt.natAbs : ℤ) > limit.toInt) (context.invariantError
    s!"{label} exceeded deterministic limit: value={value}, limit={limit}")

def expectLimits (v : CounterStateValidator) (context : ValidationContext) (s : CounterState) :
    Except EngineError Unit := do
  expectWithinLimit context "value" s.value v.config.maxAbsValue
  expectWithinLimit context "velocity" s.velocity v.config.maxAbsVelocity
  expectWithinLimit context "pending_delta" s.transient.pendingDelta v.config.maxAbsPendingDelta

def expectPendingCleared (context : ValidationContext) (s : CounterState) :
    Except EngineError Unit := do
  rejectIf (s.transient.pendingDelta ≠ 0) (context.invariantError
    s!"pending_delta must be 0, got {s.transient.pendingDelta}")
  rejectIf (s.transient.pendingEntropy ≠ 0) (context.invariantError
    s!"pending_entropy must be 0, got {s.transient.pendingEntropy}")

def expectEntityStore (context : ValidationContext) (s : CounterState) :
    Except EngineError Unit := do
  rejectIf (s.entityCount = 0)
    (context.invariantError "entity store must contain at least one entity")
  rejectIf (s.entitySnapshot s.primaryEntity).isNone (context.invariantError
    s!"primary entity {debug s.primaryEntity} is missing from deterministic store")
  rejectIf (s.entityOrder.head? ≠ some s.primaryEntity) (context.invariantError
    s!"primary entity {debug s.primaryEntity} must remain first in insertion order, got {debug s.entityOrder.head?}")
  let maxEntityId := (s.entityOrder.map (·.id)).foldl max 0
  rejectIf (s.nextEntityId ≤ maxEntityId) (context.invariantError
    s!"next entity id must be greater than all assigned ids: next={s.nextEntityId}, max={maxEntityId}")

def validate (v : CounterStateValidator) (context : ValidationContext) (s : CounterState) :
    Except EngineError Unit := do
  expectTickAlignment context s.tick
  v.expectLimits context s
  expectEntityStore context s
  match context.checkpoint with
  | .beforeTickBegin =>
    expectPendingCleared context s
    expectPreviousMarker context s.tick s.finalizeMarker
  | .afterInputApplied => expectMarkerZero context s.finalizeMarker
  | .afterSimulationGroup => expectMarkerZero context s.finalizeMarker
  | .afterFinalize =>
    expectPendingCleared context s
    expectCurrentMarker context (s.previewFinalizeMarker v.seed context.tick) s.finalizeMarker

end CounterStateValidator

instance : StateValidator CounterStateValidator CounterState := ⟨CounterStateValidator.validate⟩

/- What every checkpoint of the validator makes sure of. -/
theorem counter_validate_ok {v : CounterStateValidator} {context : ValidationContext}
    {s : CounterState} {u : Unit} (h : v.validate context s = .ok u) :
    s.tick = saturatingSubU64 context.tick 1 ∧
      ∀ id ∈ s.entityOrder, id.id < s.nextEntityId := by
  simp only [CounterStateValidator.validate, expectTickAlignment,
    CounterStateValidator.expectEntityStore, bind_eq_ok, rejectIf_eq_ok, exists_const, ne_eq,
    not_not, UInt64.not_le, CounterSnapshot.foldl_max_lt] at h
  obtain ⟨htick, _, -, ⟨-, -, -, -, hids⟩, -⟩ := h
  exact ⟨htick, fun id hid => hids id.id (List.mem_map_of_mem hid)⟩

/-! ### Phases -/

inductive CounterPhase
  | resetFinalizeMarkerPhase
  | applyCounterInputPhase
  | simulateCounterPhase
  | settleCounterPhase
  | finalizeCounterPhase
  deriving DecidableEq, Repr

namespace CounterPhase

def name : CounterPhase → String
  | resetFinalizeMarkerPhase => "reset_finalize_marker"
  | applyCounterInputPhase => "apply_counter_input"
  | simulateCounterPhase => "simulate_counter"
  | settleCounterPhase => "settle_counter"
  | finalizeCounterPhase => "finalize_counter"

def run (phase : CounterPhase) (ctx : TickContext CounterCommand) :
    EStateM EngineError CounterState Unit :=
  match phase with
  | resetFinalizeMarkerPhase => modify (·.resetFinalizeMarker)
  | applyCounterInputPhase =>
    let entropy :=
      if ctx.frame.command.consumeEntropy then (ctx.rngFor phase.name).nextU64.1 &&& 0xff else 0
    modify (·.stageInput ctx.frame.command.delta entropy)
  | simulateCounterPhase => modify (·.simulate)
  | settleCounterPhase => modify (·.settle)
  | finalizeCounterPhase => modify fun s =>
    s.finalize (mix64 (ctx.tickSeed ^^^ SimulationState.checksum s ^^^ ctx.tick))

end CounterPhase

instance : Phase CounterPhase CounterState CounterCommand CounterSnapshot where
  name := CounterPhase.name
  run ctx := Phase.onState CounterPhase.run ctx

instance : PurePhase CounterPhase CounterState CounterCommand CounterSnapshot where
  act := CounterPhase.run
  run_eq := fun _ _ _ _ => rfl

theorem counter_run_ok {phase : CounterPhase} {ctx : TickContext CounterCommand}
    {s s' : CounterState} (h : phase.run ctx s = .ok () s') :
    s'.tick = s.tick ∧ s.SameEntities s' := by
  cases phase with
  | resetFinalizeMarkerPhase =>
    obtain rfl := estate_modify_ok.mp h
    exact ⟨rfl, rfl, rfl, rfl⟩
  | applyCounterInputPhase =>
    obtain rfl := estate_modify_ok.mp h
    exact ⟨rfl, rfl, rfl, rfl⟩
  | simulateCounterPhase =>
    obtain rfl := estate_modify_ok.mp h
    exact ⟨rfl, rfl, rfl, rfl⟩
  | settleCounterPhase =>
    obtain rfl := estate_modify_ok.mp h
    exact ⟨rfl, rfl, rfl, rfl⟩
  | finalizeCounterPhase =>
    obtain rfl := estate_modify_ok.mp h
    exact ⟨CounterState.finalize_tick s _, CounterState.finalize_same s _⟩

theorem counter_run_error {phase : CounterPhase} {ctx : TickContext CounterCommand}
    {s s' : CounterState} {err : EngineError} (h : phase.run ctx s = .error err s') : s' = s := by
  cases phase <;> cases h

instance : QuietPhase CounterPhase CounterState CounterCommand CounterSnapshot :=
  quietPhase_of_act fun _ _ _ _ h => (counter_run_ok h).1

/-! ### Engine -/

abbrev CounterScheduler := FixedScheduler CounterPhase
abbrev CounterEngine :=
  DeterministicEngine CounterState CounterCommand CounterPhase CounterStateValidator
    CounterSnapshot

def defaultCounterScheduler : CounterScheduler :=
  (((((FixedScheduler.new.addPhase .preInput .resetFinalizeMarkerPhase).addPhase
    .input .applyCounterInputPhase).addPhase
    .simulation .simulateCounterPhase).addPhase
    .postSimulation .settleCounterPhase).addPhase
    .finalize .finalizeCounterPhase)

def buildCounterEngineInternal (seed : Seed) (scheduler : CounterScheduler)
    (config : CounterSimulationConfig) : CounterEngine where
  seed := seed
  state := .withInitialEntities config.initialValue config.initialVelocity config.initialEntities
  replayLog := .default
  scheduler := scheduler
  snapshotPolicy := config.snapshotPolicy
  validationPolicy := config.validationPolicy
  validator := ⟨seed, config⟩

def counterEngineWithConfig (seed : Seed) (config : CounterSimulationConfig) :
    Except EngineError CounterEngine := do
  config.validate
  pure (buildCounterEngineInternal seed defaultCounterScheduler config)

theorem counterEngineWithConfig_eq_ok {seed : Seed} {config : CounterSimulationConfig}
    {engine : CounterEngine} : counterEngineWithConfig seed config = .ok engine ↔
      config.validate = .ok () ∧
        engine = buildCounterEngineInternal seed defaultCounterScheduler config :=
  check_pure_eq_ok

theorem defaultCounterScheduler_ordered : defaultCounterScheduler.Ordered := by
  unfold defaultCounterScheduler
  iterate 5 apply FixedScheduler.addPhase_ordered
  exact FixedScheduler.new_ordered

theorem defaultCounterScheduler_plan : defaultCounterScheduler.phasePlan =
    [⟨0, .preInput, "reset_finalize_marker"⟩, ⟨1, .input, "apply_counter_input"⟩,
      ⟨2, .simulation, "simulate_counter"⟩, ⟨3, .postSimulation, "settle_counter"⟩,
      ⟨4, .finalize, "finalize_counter"⟩] := by
  rw [FixedScheduler.phasePlan, FixedScheduler.planOrder_eq defaultCounterScheduler_ordered]
  rfl

/- A tick keeps the ids, and what it leaves behind makes a valid snapshot. -/
theorem counter_tickStep {e : CounterEngine} (hs : e.scheduler.Ordered) {n : ℕ}
    {s s' : CounterState} {frame : InputFrame CounterCommand}
    {record : ReplayTickRecord CounterCommand CounterSnapshot} (hn : s.Counted n)
    (h : e.tickStep s frame = .ok (s', record)) : s'.Counted n ∧ s'.snapshot.Valid := by
  obtain ⟨t, hacts, rfl, -⟩ := DeterministicEngine.tickStep_acts hs h
  have hsame : s.SameEntities t := by
    refine DeterministicEngine.actAll_keeps (fun _ => ⟨rfl, rfl, rfl⟩) ?_ ?_ hacts
    · intro a b c hab hbc
      exact ⟨hbc.order.trans hab.order, hbc.next.trans hab.next, hbc.primary.trans hab.primary⟩
    · intro p ctx a b hact
      exact (counter_run_ok hact).2
  have ht : t.Counted n := CounterState.counted_of_same hn hsame
  have hbefore := (DeterministicEngine.tickStep_spec hs h).before
  have hids : ∀ id ∈ s.entityOrder, id.id < s.nextEntityId := (counter_validate_ok hbefore).2
  have ht' : CounterState.Counted n (SimulationState.setTick t frame.tick) :=
    ⟨ht.order, ht.next, ht.primary, ht.pos⟩
  refine ⟨ht', CounterState.snapshot_valid ht' ?_⟩
  intro id hid
  have hlt := hids id (hsame.order ▸ hid)
  rw [← hsame.next] at hlt
  exact hlt

end XenorEngine.Rust
