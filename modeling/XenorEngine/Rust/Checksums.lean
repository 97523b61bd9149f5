import Mathlib.Data.List.Nodup
import XenorEngine.Rust.Mixing
import XenorEngine.Rust.Counter
import XenorEngine.Rust.Settlement

/-!
# state, settlement: what a state checksum sees

The words of a snapshot name every scalar field of it, each field once and at
its own place. So the words determine the snapshot, and a change of one field
reaches the checksum.
-/

namespace XenorEngine.Rust

/-! ### Settlement snapshots -/

inductive SettlementScalar
  | tick | population | currentFarmers | currentLoggers
  | pendingPresent | pendingFarmers | pendingLoggers | food | wood
  | lastProducedFood | lastProducedWood | lastConsumedFood | lastConsumedWood
  | lastFoodShortage | lastWoodShortage | totalFoodProduced | totalWoodProduced
  | totalFoodConsumed | totalWoodConsumed | totalFoodShortage | totalWoodShortage
  | shortageTicks | lastStatus | finalizeMarker
  deriving DecidableEq, Repr

namespace SettlementScalar

/-- Two snapshots, compared in one field at the type of that field. -/
def Differs (s t : SettlementSnapshot) : SettlementScalar → Prop
  | .tick => s.tick ≠ t.tick
  | .population => s.population ≠ t.population
  | .currentFarmers => s.currentAllocation.farmers ≠ t.currentAllocation.farmers
  | .currentLoggers => s.currentAllocation.loggers ≠ t.currentAllocation.loggers
  | .pendingPresent => s.pendingAllocationPresent ≠ t.pendingAllocationPresent
  | .pendingFarmers => s.pendingAllocation.farmers ≠ t.pendingAllocation.farmers
  | .pendingLoggers => s.pendingAllocation.loggers ≠ t.pendingAllocation.loggers
  | .food => s.food ≠ t.food
  | .wood => s.wood ≠ t.wood
  | .lastProducedFood => s.lastProducedFood ≠ t.lastProducedFood
  | .lastProducedWood => s.lastProducedWood ≠ t.lastProducedWood
  | .lastConsumedFood => s.lastConsumedFood ≠ t.lastConsumedFood
  | .lastConsumedWood => s.lastConsumedWood ≠ t.lastConsumedWood
  | .lastFoodShortage => s.lastFoodShortage ≠ t.lastFoodShortage
  | .lastWoodShortage => s.lastWoodShortage ≠ t.lastWoodShortage
  | .totalFoodProduced => s.totalFoodProduced ≠ t.totalFoodProduced
  | .totalWoodProduced => s.totalWoodProduced ≠ t.totalWoodProduced
  | .totalFoodConsumed => s.totalFoodConsumed ≠ t.totalFoodConsumed
  | .totalWoodConsumed => s.totalWoodConsumed ≠ t.totalWoodConsumed
  | .totalFoodShortage => s.totalFoodShortage ≠ t.totalFoodShortage
  | .totalWoodShortage => s.totalWoodShortage ≠ t.totalWoodShortage
  | .shortageTicks => s.shortageTicks ≠ t.shortageTicks
  | .lastStatus => s.lastStatus ≠ t.lastStatus
  | .finalizeMarker => s.finalizeMarker ≠ t.finalizeMarker

/-- The fields in the order of the words. -/
def inOrder : List SettlementScalar :=
  [.tick, .population, .currentFarmers, .currentLoggers, .pendingPresent, .pendingFarmers,
    .pendingLoggers, .food, .wood, .lastProducedFood, .lastProducedWood, .lastConsumedFood,
    .lastConsumedWood, .lastFoodShortage, .lastWoodShortage, .totalFoodProduced,
    .totalWoodProduced, .totalFoodConsumed, .totalWoodConsumed, .totalFoodShortage,
    .totalWoodShortage, .shortageTicks, .lastStatus, .finalizeMarker]

def word (s : SettlementSnapshot) : SettlementScalar → UInt64
  | .tick => s.tick
  | .population => s.population.toUInt64
  | .currentFarmers => s.currentAllocation.farmers.toUInt64
  | .currentLoggers => s.currentAllocation.loggers.toUInt64
  | .pendingPresent => s.pendingAllocationPresent.toUInt64
  | .pendingFarmers => s.pendingAllocation.farmers.toUInt64
  | .pendingLoggers => s.pendingAllocation.loggers.toUInt64
  | .food => s.food.toUInt64
  | .wood => s.wood.toUInt64
  | .lastProducedFood => s.lastProducedFood.toUInt64
  | .lastProducedWood => s.lastProducedWood.toUInt64
  | .lastConsumedFood => s.lastConsumedFood.toUInt64
  | .lastConsumedWood => s.lastConsumedWood.toUInt64
  | .lastFoodShortage => s.lastFoodShortage.toUInt64
  | .lastWoodShortage => s.lastWoodShortage.toUInt64
  | .totalFoodProduced => s.totalFoodProduced.toUInt64
  | .totalWoodProduced => s.totalWoodProduced.toUInt64
  | .totalFoodConsumed => s.totalFoodConsumed.toUInt64
  | .totalWoodConsumed => s.totalWoodConsumed.toUInt64
  | .totalFoodShortage => s.totalFoodShortage.toUInt64
  | .totalWoodShortage => s.totalWoodShortage.toUInt64
  | .shortageTicks => s.shortageTicks
  | .lastStatus => s.lastStatus.code
  | .finalizeMarker => s.finalizeMarker

theorem nodup_inOrder : inOrder.Nodup := by decide

theorem mem_inOrder (f : SettlementScalar) : f ∈ inOrder := by
  cases f <;> decide

theorem words_eq (s : SettlementSnapshot) :
    SettlementState.snapshotChecksumWords s = inOrder.map (word s) := rfl

end SettlementScalar

theorem flag_inj {a b : Bool} : a.toUInt64 = b.toUInt64 ↔ a = b := by
  cases a <;> cases b <;> decide

theorem code_inj {a b : SettlementStatus} : a.code = b.code ↔ a = b := by
  cases a <;> cases b <;> decide

theorem signed_inj {a b : Int64} : a.toUInt64 = b.toUInt64 ↔ a = b := by
  cases a
  cases b
  simp only [Int64.ofUInt64.injEq]

namespace SettlementScalar

theorem word_eq_iff {s t : SettlementSnapshot} (f : SettlementScalar) :
    word s f = word t f ↔ ¬ Differs s t f := by
  cases f <;>
    simp only [word, Differs, not_not, UInt32.toUInt64_inj, signed_inj, flag_inj, code_inj]

theorem words_injective {s t : SettlementSnapshot}
    (h : SettlementState.snapshotChecksumWords s = SettlementState.snapshotChecksumWords t) :
    s = t := by
  obtain ⟨_, _, ⟨_, _⟩, _, ⟨_, _⟩⟩ := s
  obtain ⟨_, _, ⟨_, _⟩, _, ⟨_, _⟩⟩ := t
  simpa only [SettlementState.snapshotChecksumWords, List.cons.injEq, and_true,
    UInt32.toUInt64_inj, signed_inj, flag_inj, code_inj, SettlementSnapshot.mk.injEq,
    WorkerAllocation.mk.injEq, and_assoc] using h

theorem checksum_changed {s t : SettlementSnapshot} (h : ∃! f, Differs s t f) :
    SettlementState.snapshotChecksum s ≠ SettlementState.snapshotChecksum t := by
  obtain ⟨f, hdiffers, honly⟩ := h
  unfold SettlementState.snapshotChecksum
  rw [words_eq, words_eq]
  apply checksumWords_fields_changed nodup_inOrder (mem_inOrder f)
  · exact fun hword => (word_eq_iff f).mp hword hdiffers
  · intro g hg
    exact (word_eq_iff g).mpr fun hother => hg (honly g hother)

end SettlementScalar

/-! ### Counter snapshots -/

/-- The fields of an entity are named by its place in the list. -/
inductive CounterScalar
  | tick | nextEntityId | primaryEntity
  | entityId (index : Nat) | entityValue (index : Nat) | entityVelocity (index : Nat)
  | pendingDelta | pendingEntropy | entropyBudget | finalizeMarker
  deriving DecidableEq, Repr

namespace CounterScalar

def Differs (s t : CounterSnapshot) : CounterScalar → Prop
  | .tick => s.tick ≠ t.tick
  | .nextEntityId => s.nextEntityId ≠ t.nextEntityId
  | .primaryEntity => s.primaryEntity ≠ t.primaryEntity
  | .entityId i => s.entities[i]?.map (·.id) ≠ t.entities[i]?.map (·.id)
  | .entityValue i => s.entities[i]?.map (·.value) ≠ t.entities[i]?.map (·.value)
  | .entityVelocity i => s.entities[i]?.map (·.velocity) ≠ t.entities[i]?.map (·.velocity)
  | .pendingDelta => s.pendingDelta ≠ t.pendingDelta
  | .pendingEntropy => s.pendingEntropy ≠ t.pendingEntropy
  | .entropyBudget => s.entropyBudget ≠ t.entropyBudget
  | .finalizeMarker => s.finalizeMarker ≠ t.finalizeMarker

/-- The fields in the order of the words; `none` stands for the entity count. -/
def inOrder (count : Nat) : List (Option CounterScalar) :=
  [some .tick, some .nextEntityId, some .primaryEntity, none] ++
  (List.range count).flatMap (fun i =>
    [some (.entityId i), some (.entityValue i), some (.entityVelocity i)]) ++
  [some .pendingDelta, some .pendingEntropy, some .entropyBudget, some .finalizeMarker]

def word (s : CounterSnapshot) : Option CounterScalar → UInt64
  | none => UInt64.ofNat s.entities.length
  | some .tick => s.tick
  | some .nextEntityId => s.nextEntityId
  | some .primaryEntity => s.primaryEntity.id
  | some (.entityId i) => (s.entities[i]?.map (·.id.id)).getD 0
  | some (.entityValue i) => (s.entities[i]?.map (·.value.toUInt64)).getD 0
  | some (.entityVelocity i) => (s.entities[i]?.map (·.velocity.toUInt64)).getD 0
  | some .pendingDelta => s.pendingDelta.toUInt64
  | some .pendingEntropy => s.pendingEntropy
  | some .entropyBudget => s.entropyBudget
  | some .finalizeMarker => s.finalizeMarker

theorem nodup_inOrder (count : Nat) : (inOrder count).Nodup := by
  have hentities : ((List.range count).flatMap fun i =>
      [some (entityId i), some (entityValue i), some (entityVelocity i)]).Nodup := by
    apply List.nodup_flatMap.mpr
    constructor
    · intro i _
      simp
    · apply List.nodup_range.imp
      intro i j hij
      simp [Function.onFun, Ne.symm hij]
  have hends : [some tick, some nextEntityId, some primaryEntity, none].Nodup ∧
      [some pendingDelta, some pendingEntropy, some entropyBudget, some finalizeMarker].Nodup := by
    decide
  unfold inOrder
  apply List.Nodup.append (hends.1.append hentities ?_) hends.2 ?_
  · intro f hfirst hmiddle
    obtain ⟨i, _, hi⟩ := List.mem_flatMap.mp hmiddle
    simp only [List.mem_cons, List.not_mem_nil, or_false] at hfirst hi
    rcases hi with rfl | rfl | rfl <;> simp at hfirst
  · intro f hfront hlast
    simp only [List.mem_append, List.mem_flatMap, List.mem_cons, List.not_mem_nil,
      or_false] at hfront hlast
    rcases hlast with rfl | rfl | rfl | rfl <;> simp at hfront

theorem mem_inOrder {count : Nat} {f : CounterScalar}
    (hf : ∀ i, f = entityId i ∨ f = entityValue i ∨ f = entityVelocity i → i < count) :
    some f ∈ inOrder count := by
  cases f <;> simp_all [inOrder]

theorem entity_words (s : CounterSnapshot) :
    s.entities.flatMap (fun entity =>
      [entity.id.id, entity.value.toUInt64, entity.velocity.toUInt64]) =
    (List.range s.entities.length).flatMap fun i =>
      [word s (some (.entityId i)), word s (some (.entityValue i)),
        word s (some (.entityVelocity i))] := by
  simp only [word]
  induction s.entities with
  | nil => rfl
  | cons entity rest ih =>
    rw [List.flatMap_cons, ih, List.length_cons, List.range_succ_eq_map, List.flatMap_cons,
      List.flatMap_map]
    simp only [List.getElem?_cons_zero, List.getElem?_cons_succ, Option.map_some,
      Option.getD_some]

theorem words_eq (s : CounterSnapshot) :
    CounterState.snapshotChecksumWords s = (inOrder s.entities.length).map (word s) := by
  unfold CounterState.snapshotChecksumWords inOrder
  rw [entity_words, List.map_append, List.map_append, List.map_flatMap]
  rfl

/- A field is read at the same index of both lists, so an index past the end is the same
   there for both. -/
theorem word_eq_iff {s t : CounterSnapshot} (hcount : s.entities.length = t.entities.length)
    (f : CounterScalar) : word s (some f) = word t (some f) ↔ ¬ Differs s t f := by
  have hread : ∀ (i : Nat) {α : Type} (read : CounterEntitySnapshot → α) (code : α → UInt64),
      (∀ {a b}, code a = code b ↔ a = b) →
      (((s.entities[i]?.map fun e => code (read e)).getD 0 =
        (t.entities[i]?.map fun e => code (read e)).getD 0) ↔
      s.entities[i]?.map read = t.entities[i]?.map read) := by
    intro i α read code hcode
    by_cases hi : i < s.entities.length
    · have hi' : i < t.entities.length := hcount ▸ hi
      simp only [List.getElem?_eq_getElem hi, List.getElem?_eq_getElem hi', Option.map_some,
        Option.getD_some, hcode, Option.some.injEq]
    · have hi' : ¬ i < t.entities.length := hcount ▸ hi
      simp only [List.getElem?_eq_none (Nat.le_of_not_lt hi),
        List.getElem?_eq_none (Nat.le_of_not_lt hi'), Option.map_none]
  have hid : ∀ {a b : EntityId}, a.id = b.id ↔ a = b := by
    intro a b
    cases a
    cases b
    simp only [EntityId.mk.injEq]
  cases f with
  | entityId i => simpa only [word, Differs, not_not] using hread i (·.id) (·.id) hid
  | entityValue i =>
    simpa only [word, Differs, not_not] using hread i (·.value) (·.toUInt64) signed_inj
  | entityVelocity i =>
    simpa only [word, Differs, not_not] using hread i (·.velocity) (·.toUInt64) signed_inj
  | _ => simp only [word, Differs, not_not, signed_inj, hid]

theorem differs_bound {s t : CounterSnapshot} (hcount : s.entities.length = t.entities.length)
    {f : CounterScalar} (hdiffers : Differs s t f) :
    ∀ i, f = entityId i ∨ f = entityValue i ∨ f = entityVelocity i → i < s.entities.length := by
  intro i hf
  by_contra hi
  have hs := List.getElem?_eq_none (Nat.le_of_not_lt hi)
  have ht := List.getElem?_eq_none (hcount ▸ Nat.le_of_not_lt hi)
  rcases hf with rfl | rfl | rfl <;> simp [Differs, hs, ht] at hdiffers

theorem entity_ext {a b : CounterEntitySnapshot} (hid : a.id = b.id) (hvalue : a.value = b.value)
    (hvelocity : a.velocity = b.velocity) : a = b := by
  cases a
  cases b
  simp only [CounterEntitySnapshot.mk.injEq]
  exact ⟨hid, hvalue, hvelocity⟩

theorem words_injective {s t : CounterSnapshot}
    (h : CounterState.snapshotChecksumWords s = CounterState.snapshotChecksumWords t) :
    s = t := by
  have hcount : s.entities.length = t.entities.length := by
    have hlength := congrArg List.length h
    simp only [CounterState.snapshotChecksumWords, List.length_append, List.length_cons,
      List.length_nil, List.length_flatMap, List.map_const', List.sum_replicate] at hlength
    simp only [smul_eq_mul] at hlength
    omega
  rw [words_eq, words_eq, ← hcount] at h
  have hwords := List.map_inj_left.mp h
  have hsame : ∀ f, ¬ Differs s t f := by
    intro f hdiffers
    have hmem := mem_inOrder (differs_bound hcount hdiffers)
    exact (word_eq_iff hcount f).mp (hwords _ hmem) hdiffers
  have hentities : s.entities = t.entities := by
    apply List.ext_getElem hcount
    intro i hi hi'
    have hid := not_not.mp (hsame (.entityId i))
    have hvalue := not_not.mp (hsame (.entityValue i))
    have hvelocity := not_not.mp (hsame (.entityVelocity i))
    rw [List.getElem?_eq_getElem hi, List.getElem?_eq_getElem hi'] at hid hvalue hvelocity
    exact entity_ext (Option.some.inj hid) (Option.some.inj hvalue) (Option.some.inj hvelocity)
  cases s
  cases t
  simp only [CounterSnapshot.mk.injEq]
  exact ⟨not_not.mp (hsame .tick), not_not.mp (hsame .nextEntityId),
    not_not.mp (hsame .primaryEntity), hentities, not_not.mp (hsame .pendingDelta),
    not_not.mp (hsame .pendingEntropy), not_not.mp (hsame .entropyBudget),
    not_not.mp (hsame .finalizeMarker)⟩

theorem checksum_changed {s t : CounterSnapshot} (hcount : s.entities.length = t.entities.length)
    (h : ∃! f, Differs s t f) :
    SimulationState.snapshotChecksum CounterState s ≠
      SimulationState.snapshotChecksum CounterState t := by
  obtain ⟨f, hdiffers, honly⟩ := h
  show checksumWords (CounterState.snapshotChecksumWords s) ≠
    checksumWords (CounterState.snapshotChecksumWords t)
  rw [words_eq, words_eq, ← hcount]
  apply checksumWords_fields_changed (nodup_inOrder _)
    (mem_inOrder (differs_bound hcount hdiffers))
  · exact fun hword => (word_eq_iff hcount f).mp hword hdiffers
  · intro g hg
    cases g with
    | none => exact congrArg UInt64.ofNat hcount
    | some g => exact (word_eq_iff hcount g).mpr fun hother => hg (congrArg some (honly g hother))

end CounterScalar

/- No field is left out of the words or shares one, and no change of one field is lost. -/
theorem checksums_see_every_field :
    (∀ s t : CounterSnapshot, s ≠ t →
      CounterState.snapshotChecksumWords s ≠ CounterState.snapshotChecksumWords t) ∧
    (∀ s t : CounterSnapshot, s.entities.length = t.entities.length →
      (∃! f, CounterScalar.Differs s t f) →
      SimulationState.snapshotChecksum CounterState s ≠
        SimulationState.snapshotChecksum CounterState t) ∧
    (∀ s t : SettlementSnapshot, s ≠ t →
      SettlementState.snapshotChecksumWords s ≠ SettlementState.snapshotChecksumWords t) ∧
    ∀ s t : SettlementSnapshot, (∃! f, SettlementScalar.Differs s t f) →
      SimulationState.snapshotChecksum SettlementState s ≠
        SimulationState.snapshotChecksum SettlementState t := by
  refine ⟨?_, ?_, ?_, ?_⟩
  · intro s t hdistinct hwords
    exact hdistinct (CounterScalar.words_injective hwords)
  · intro s t hcount hone
    exact CounterScalar.checksum_changed hcount hone
  · intro s t hdistinct hwords
    exact hdistinct (SettlementScalar.words_injective hwords)
  · intro s t hone
    exact SettlementScalar.checksum_changed hone

/- The value of the second of three entities, and the status of a settlement. -/
theorem checksums_see_every_field_one_changed :
    ∃ (s t : CounterSnapshot) (x : SettlementSnapshot),
      s.entities.map (·.value) = [3, 3, 4] ∧ t.entities.map (·.value) = [3, 5, 4] ∧
      CounterState.snapshotChecksumWords s ≠ CounterState.snapshotChecksumWords t ∧
      SimulationState.snapshotChecksum CounterState s ≠
        SimulationState.snapshotChecksum CounterState t ∧
      SettlementState.snapshotChecksumWords x ≠
        SettlementState.snapshotChecksumWords { x with lastStatus := .foodShortage } ∧
      SimulationState.snapshotChecksum SettlementState x ≠
        SimulationState.snapshotChecksum SettlementState
          { x with lastStatus := .foodShortage } := by
  obtain ⟨hcounterWords, hcounter, hsettlementWords, hsettlement⟩ := checksums_see_every_field
  let s : CounterSnapshot :=
    ⟨2, 4, ⟨1⟩, [⟨⟨1⟩, 3, 1⟩, ⟨⟨2⟩, 3, 1⟩, ⟨⟨3⟩, 4, -1⟩], 0, 0, 9, 7⟩
  let t : CounterSnapshot := { s with entities := [⟨⟨1⟩, 3, 1⟩, ⟨⟨2⟩, 5, 1⟩, ⟨⟨3⟩, 4, -1⟩] }
  let x : SettlementSnapshot := ⟨2, 6, ⟨3, 2⟩, false, ⟨0, 0⟩, 18, 10, 9, 4, 6, 2, 0, 0, 18, 8, 12,
    4, 0, 0, 0, .stable, 7⟩
  have hvalue : ∃! f, CounterScalar.Differs s t f := by
    have hsecond : (some 3 : Option Int64) ≠ some 5 := by decide
    refine ⟨.entityValue 1, hsecond, fun f hf => ?_⟩
    cases f with
    | entityValue i =>
      rcases i with - | - | - | i
      · exact absurd rfl hf
      · rfl
      · exact absurd rfl hf
      · exact absurd rfl hf
    | entityId i => rcases i with - | - | - | i <;> exact absurd rfl hf
    | entityVelocity i => rcases i with - | - | - | i <;> exact absurd rfl hf
    | _ => exact absurd rfl hf
  have hstatus : ∃! f, SettlementScalar.Differs x { x with lastStatus := .foodShortage } f := by
    have hshort : SettlementStatus.stable ≠ .foodShortage := by decide
    refine ⟨.lastStatus, hshort, fun f hf => ?_⟩
    cases f <;> first | rfl | exact absurd rfl hf
  exact ⟨s, t, x, rfl, rfl, hcounterWords s t (by decide), hcounter s t rfl hvalue,
    hsettlementWords x _ (by decide), hsettlement x _ hstatus⟩

end XenorEngine.Rust
