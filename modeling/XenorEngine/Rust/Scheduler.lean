import XenorEngine.Rust.Core
import XenorEngine.Lib.Fallible
import XenorEngine.Lib.Grouping
import Mathlib.Data.List.Sort

/-!
# FixedScheduler (scheduler/mod.rs)

Phases are added to groups and visited group by group, in the order of addition
inside a group. A phase may change its own private state while it runs, so the
visit writes the phase back; `phase_plan` is the order announced beforehand.
-/

namespace XenorEngine.Rust
open XenorEngine.Lib.Fallible XenorEngine.Lib.Grouping

inductive PhaseGroup
  | preInput
  | input
  | simulation
  | postSimulation
  | finalize
  deriving DecidableEq, Repr

namespace PhaseGroup

def ALL : List PhaseGroup := [.preInput, .input, .simulation, .postSimulation, .finalize]

def asStr : PhaseGroup → String
  | .preInput => "PreInput"
  | .input => "Input"
  | .simulation => "Simulation"
  | .postSimulation => "PostSimulation"
  | .finalize => "Finalize"

def parse (value : String) : Option PhaseGroup :=
  if value = "PreInput" then some .preInput
  else if value = "Input" then some .input
  else if value = "Simulation" then some .simulation
  else if value = "PostSimulation" then some .postSimulation
  else if value = "Finalize" then some .finalize
  else none

end PhaseGroup

@[simp] theorem parse_phaseGroup (group : PhaseGroup) :
    PhaseGroup.parse group.asStr = some group := by
  cases group <;> rfl

theorem phaseGroup_of_parse {value : String} {group : PhaseGroup}
    (h : PhaseGroup.parse value = some group) : value = group.asStr := by
  unfold PhaseGroup.parse at h
  split_ifs at h with h1 h2 h3 h4 h5 <;> cases h <;> assumption

structure PhaseDescriptor where
  ordinal : ℕ
  group : PhaseGroup
  name : String
  deriving DecidableEq, Repr

class PhaseName (P : Type) where
  name : P → String

structure PhaseEntry (P : Type) where
  group : PhaseGroup
  insertionOrder : ℕ
  phase : P
  deriving DecidableEq, Repr

structure FixedScheduler (P : Type) where
  phases : List (PhaseEntry P)
  nextInsertionOrder : ℕ
  deriving DecidableEq, Repr

namespace FixedScheduler
variable {P ε σ : Type} [PhaseName P]

def new : FixedScheduler P := ⟨[], 0⟩

def addPhase (s : FixedScheduler P) (group : PhaseGroup) (phase : P) : FixedScheduler P :=
  ⟨s.phases ++ [⟨group, s.nextInsertionOrder, phase⟩], s.nextInsertionOrder + 1⟩

def descriptor (ordinal : ℕ) (entry : PhaseEntry P) : PhaseDescriptor :=
  ⟨ordinal, entry.group, PhaseName.name entry.phase⟩

/-- `for group in PhaseGroup::ALL { members.sort_by_key(|entry| entry.insertion_order) }`. -/
def planOrder (s : FixedScheduler P) : List (PhaseEntry P) :=
  PhaseGroup.ALL.flatMap fun group =>
    (s.phases.filter fun entry => entry.group = group).insertionSort
      fun a b => a.insertionOrder ≤ b.insertionOrder

def phasePlan (s : FixedScheduler P) : List PhaseDescriptor :=
  s.planOrder.mapIdx descriptor

/-- The nested loops of `visit_phases`: every entry with its position, group by group.
No visitor can change an entry's group, so the filter may run beforehand. -/
def visitOrder (s : FixedScheduler P) : List (PhaseEntry P × ℕ) :=
  PhaseGroup.ALL.flatMap fun group => s.phases.zipIdx.filter fun p => p.1.group = group

def setPhase (s : FixedScheduler P) (index : ℕ) (phase : P) : FixedScheduler P :=
  ⟨s.phases.modify index fun entry => ⟨entry.group, entry.insertionOrder, phase⟩,
    s.nextInsertionOrder⟩

def visitEntry (visitor : PhaseDescriptor → EStateM ε (P × σ) Unit) (ordinal index : ℕ) :
    EStateM ε (FixedScheduler P × σ) Unit := fun (s, t) =>
  match s.phases[index]? with
  | none => .ok () (s, t)
  | some entry =>
    match visitor (descriptor ordinal entry) (entry.phase, t) with
    | .ok () (phase, t') => .ok () (s.setPhase index phase, t')
    | .error e (phase, t') => .error e (s.setPhase index phase, t')

def visitFrom (visitor : PhaseDescriptor → EStateM ε (P × σ) Unit) :
    ℕ → List (PhaseEntry P × ℕ) → EStateM ε (FixedScheduler P × σ) Unit
  | _, [] => pure ()
  | ordinal, p :: rest => do
    visitEntry visitor ordinal p.2
    visitFrom visitor (ordinal + 1) rest

def visitPhases (visitor : PhaseDescriptor → EStateM ε (P × σ) Unit) :
    EStateM ε (FixedScheduler P × σ) Unit :=
  fun (s, t) => visitFrom visitor 0 s.visitOrder (s, t)

/-! ### The announced order -/

/-- What `add_phase` maintains: entries stand in the order of their insertion. -/
structure Ordered (s : FixedScheduler P) : Prop where
  sorted : s.phases.Pairwise fun a b => a.insertionOrder ≤ b.insertionOrder
  bounded : ∀ entry ∈ s.phases, entry.insertionOrder < s.nextInsertionOrder

omit [PhaseName P] in
theorem new_ordered : (new : FixedScheduler P).Ordered := ⟨List.Pairwise.nil, by simp [new]⟩

omit [PhaseName P] in
theorem addPhase_ordered {s : FixedScheduler P} (h : s.Ordered) (group : PhaseGroup) (phase : P) :
    (s.addPhase group phase).Ordered := by
  constructor
  · refine List.pairwise_append.mpr ⟨h.sorted, List.pairwise_singleton _ _, ?_⟩
    intro a ha b hb
    rw [List.mem_singleton.mp hb]
    exact Nat.le_of_lt (h.bounded a ha)
  · intro entry hentry
    rcases List.mem_append.mp hentry with hm | hm
    · exact Nat.lt_succ_of_lt (h.bounded entry hm)
    · rw [List.mem_singleton.mp hm]
      exact Nat.lt_succ_self _

/-- The scheduler a sequence of `add_phase` calls builds. -/
def ofPhases (adds : List (PhaseGroup × P)) : FixedScheduler P :=
  adds.foldl (fun s add => s.addPhase add.1 add.2) new

omit [PhaseName P] in
theorem ofPhases_ordered (adds : List (PhaseGroup × P)) : (ofPhases adds).Ordered := by
  have h : ∀ (adds : List (PhaseGroup × P)) (s : FixedScheduler P), s.Ordered →
      (adds.foldl (fun s add => s.addPhase add.1 add.2) s).Ordered := by
    intro adds
    induction adds with
    | nil => exact fun _ hs => hs
    | cons add adds ih => exact fun s hs => ih _ (addPhase_ordered hs add.1 add.2)
  exact h adds new new_ordered

/-- How many phases a group has. -/
def groupCount (s : FixedScheduler P) (group : PhaseGroup) : ℕ :=
  s.phases.countP fun entry => entry.group = group

omit [PhaseName P] in
theorem groupCount_ofPhases (adds : List (PhaseGroup × P)) (group : PhaseGroup) :
    (ofPhases adds).groupCount group = adds.countP fun add => add.1 = group := by
  have h : ∀ (adds : List (PhaseGroup × P)) (s : FixedScheduler P),
      (adds.foldl (fun s add => s.addPhase add.1 add.2) s).groupCount group =
        s.groupCount group + adds.countP fun add => add.1 = group := by
    intro adds
    induction adds with
    | nil => exact fun _ => rfl
    | cons add adds ih =>
      intro s
      rw [List.foldl_cons, ih, groupCount, groupCount, addPhase, List.countP_append,
        List.countP_singleton, List.countP_cons]
      simp only
      omega
  rw [ofPhases, h]
  exact Nat.zero_add _

omit [PhaseName P] in
theorem planOrder_eq {s : FixedScheduler P} (h : s.Ordered) :
    s.planOrder = PhaseGroup.ALL.flatMap fun group =>
      s.phases.filter fun entry => entry.group = group := by
  unfold planOrder
  congr 1
  funext group
  exact (List.Pairwise.filter _ h.sorted).insertionSort_eq

omit [PhaseName P] in
theorem visitOrder_fst {s : FixedScheduler P} (h : s.Ordered) :
    s.visitOrder.map Prod.fst = s.planOrder := by
  have hgroup : ∀ group, (s.phases.zipIdx.filter fun p => p.1.group = group).map Prod.fst
      = s.phases.filter fun entry => entry.group = group := by
    intro group
    conv_rhs => rw [← List.zipIdx_map_fst 0 s.phases, List.filter_map]
    rfl
  rw [planOrder_eq h, visitOrder, List.map_flatMap]
  congr 1
  funext group
  exact hgroup group

omit [PhaseName P] in
theorem mem_visitOrder {s : FixedScheduler P} {p : PhaseEntry P × ℕ} (h : p ∈ s.visitOrder) :
    s.phases[p.2]? = some p.1 := by
  obtain ⟨group, -, hp⟩ := List.mem_flatMap.mp h
  exact List.mem_zipIdx_iff_getElem?.mp (List.mem_filter.mp hp).1

omit [PhaseName P] in
/- Sorting the entries into the five groups moves every one of them once. -/
theorem visitOrder_perm (s : FixedScheduler P) : s.visitOrder.Perm s.phases.zipIdx := by
  have hall : ∀ entry : PhaseEntry P × ℕ, entry.1.group ∈ PhaseGroup.ALL := by
    intro entry
    cases entry.1.group <;> decide
  exact grouped_perm (by decide) fun entry _ => hall entry

omit [PhaseName P] in
theorem visitOrder_nodup (s : FixedScheduler P) : (s.visitOrder.map Prod.snd).Nodup := by
  have h := (visitOrder_perm s).map Prod.snd
  rw [h.nodup_iff, List.zipIdx_map_snd]
  exact List.nodup_range'

/-! ### The visit -/

omit [PhaseName P] in
theorem setPhase_getElem {s : FixedScheduler P} {i j : ℕ} (phase : P) (h : i ≠ j) :
    (s.setPhase i phase).phases[j]? = s.phases[j]? := by
  simp only [setPhase, List.getElem?_modify]
  cases s.phases[j]? with
  | none => rfl
  | some entry => simp [h]

omit [PhaseName P] in
theorem setPhase_self {s : FixedScheduler P} {i : ℕ} {entry : PhaseEntry P}
    (h : s.phases[i]? = some entry) : s.setPhase i entry.phase = s := by
  have hl : s.phases.modify i (fun e => ⟨e.group, e.insertionOrder, entry.phase⟩) = s.phases := by
    apply List.ext_getElem?
    intro j
    rw [List.getElem?_modify]
    by_cases hij : i = j
    · subst hij
      rw [h]
      simp
    · cases s.phases[j]? with
      | none => rfl
      | some e => simp [hij]
  simp only [setPhase, hl]

theorem visitEntry_ok {visitor : PhaseDescriptor → EStateM ε (P × σ) Unit} {ordinal index : ℕ}
    {s s' : FixedScheduler P} {t t' : σ} {entry : PhaseEntry P}
    (hentry : s.phases[index]? = some entry)
    (h : visitEntry visitor ordinal index (s, t) = .ok () (s', t')) :
    ∃ phase, visitor (descriptor ordinal entry) (entry.phase, t) = .ok () (phase, t') ∧
      s' = s.setPhase index phase := by
  simp only [visitEntry, hentry] at h
  cases hv : visitor (descriptor ordinal entry) (entry.phase, t) with
  | error e r => simp [hv] at h
  | ok u r =>
    simp only [hv, EStateM.Result.ok.injEq, Prod.mk.injEq, true_and] at h
    obtain ⟨rfl, rfl⟩ := h
    exact ⟨r.1, rfl, rfl⟩

theorem visitEntry_error {visitor : PhaseDescriptor → EStateM ε (P × σ) Unit} {ordinal index : ℕ}
    {s : FixedScheduler P} {t : σ} {u : FixedScheduler P × σ} {err : ε} {entry : PhaseEntry P}
    (hentry : s.phases[index]? = some entry)
    (h : visitEntry visitor ordinal index (s, t) = .error err u) :
    ∃ phase, visitor (descriptor ordinal entry) (entry.phase, t) = .error err (phase, u.2) := by
  simp only [visitEntry, hentry] at h
  cases hv : visitor (descriptor ordinal entry) (entry.phase, t) with
  | ok v r => simp [hv] at h
  | error e r =>
    simp only [hv, EStateM.Result.error.injEq] at h
    obtain ⟨rfl, rfl⟩ := h
    exact ⟨r.1, rfl⟩

omit [PhaseName P] in
/- Writing back one entry's phase leaves the entries of the others alone. -/
theorem setPhase_rest {s : FixedScheduler P} {p : PhaseEntry P × ℕ}
    {rest : List (PhaseEntry P × ℕ)} (hrest : ∀ q ∈ p :: rest, s.phases[q.2]? = some q.1)
    (hfresh : p.2 ∉ rest.map Prod.snd) (phase : P) :
    ∀ q ∈ rest, (s.setPhase p.2 phase).phases[q.2]? = some q.1 := by
  intro q hq
  rw [setPhase_getElem]
  · exact hrest q (List.mem_cons_of_mem _ hq)
  · rintro he
    exact hfresh (he ▸ List.mem_map.mpr ⟨q, hq, rfl⟩)

/- The rule for the visiting loop. The induction is on the entries still to visit;
they stand in the scheduler as they stood at the start, since an earlier visit only
writes back its own phase. -/
theorem visitFrom_rule {visitor : PhaseDescriptor → EStateM ε (P × σ) Unit} (I : ℕ → σ → Prop)
    {rest : List (PhaseEntry P × ℕ)} {k : ℕ} {s : FixedScheduler P} {t : σ}
    {u : FixedScheduler P × σ} (hrest : ∀ p ∈ rest, s.phases[p.2]? = some p.1)
    (hnodup : (rest.map Prod.snd).Nodup)
    (hstep : ∀ j p, rest[j]? = some p → ∀ r phase r', I (k + j) r →
      visitor (descriptor (k + j) p.1) (p.1.phase, r) = .ok () (phase, r') → I (k + j + 1) r')
    (h0 : I k t) (h : visitFrom visitor k rest (s, t) = .ok () u) : I (k + rest.length) u.2 := by
  induction rest generalizing k s t with
  | nil =>
    obtain ⟨-, rfl⟩ := estate_pure_ok.mp h
    exact h0
  | cons p rest ih =>
    obtain ⟨u', ⟨s', t'⟩, hvisit, hmore⟩ := estate_bind_ok.mp h
    obtain ⟨phase, hv, rfl⟩ := visitEntry_ok (hrest p (List.mem_cons_self ..)) hvisit
    rw [List.map_cons, List.nodup_cons] at hnodup
    have hI := hstep 0 p rfl t phase t' h0 hv
    have hlen : k + (p :: rest).length = k + 1 + rest.length := by
      rw [List.length_cons]
      omega
    rw [hlen]
    refine ih (setPhase_rest hrest hnodup.1 phase) hnodup.2 ?_ hI hmore
    intro j q hq r phase' r' hIr hvr
    have he : k + 1 + j = k + (j + 1) := by omega
    rw [he] at hIr hvr ⊢
    exact hstep (j + 1) q hq r phase' r' hIr hvr

/- A loop that stops does so in one turn, and up to that turn `I` was kept. -/
theorem visitFrom_error_rule {visitor : PhaseDescriptor → EStateM ε (P × σ) Unit}
    (I : ℕ → σ → Prop) {rest : List (PhaseEntry P × ℕ)} {k : ℕ} {s : FixedScheduler P} {t : σ}
    {u : FixedScheduler P × σ} {err : ε} (hrest : ∀ p ∈ rest, s.phases[p.2]? = some p.1)
    (hnodup : (rest.map Prod.snd).Nodup)
    (hstep : ∀ j p, rest[j]? = some p → ∀ r phase r', I (k + j) r →
      visitor (descriptor (k + j) p.1) (p.1.phase, r) = .ok () (phase, r') → I (k + j + 1) r')
    (h0 : I k t) (h : visitFrom visitor k rest (s, t) = .error err u) :
    ∃ j p r phase, rest[j]? = some p ∧ I (k + j) r ∧
      visitor (descriptor (k + j) p.1) (p.1.phase, r) = .error err (phase, u.2) := by
  induction rest generalizing k s t with
  | nil => cases h
  | cons p rest ih =>
    have hp := hrest p (List.mem_cons_self ..)
    rw [List.map_cons, List.nodup_cons] at hnodup
    rcases estate_bind_error.mp h with hstop | ⟨_, ⟨s', t'⟩, hvisit, hmore⟩
    · obtain ⟨phase, hv⟩ := visitEntry_error hp hstop
      exact ⟨0, p, t, phase, rfl, h0, hv⟩
    · obtain ⟨phase, hv, rfl⟩ := visitEntry_ok hp hvisit
      have hnext : ∀ j, k + 1 + j = k + (j + 1) := fun j => by omega
      have hlater := ih (setPhase_rest hrest hnodup.1 phase) hnodup.2
        (fun j q hq r phase' r' hIr hvr => by
          rw [hnext] at hIr hvr ⊢
          exact hstep (j + 1) q hq r phase' r' hIr hvr)
        (hstep 0 p rfl t phase t' h0 hv) hmore
      obtain ⟨j, q, r, phase', hq, hI, hv'⟩ := hlater
      rw [hnext] at hI hv'
      exact ⟨j + 1, q, r, phase', hq, hI, hv'⟩

/-- The first `k` turns of the visiting loop. -/
def visitFirst (visitor : PhaseDescriptor → EStateM ε (P × σ) Unit) (k : ℕ) :
    EStateM ε (FixedScheduler P × σ) Unit :=
  fun (s, t) => visitFrom visitor 0 (s.visitOrder.take k) (s, t)

theorem visitFirst_rule {visitor : PhaseDescriptor → EStateM ε (P × σ) Unit}
    (I : ℕ → σ → Prop) {s : FixedScheduler P} (hs : s.Ordered) {n : ℕ} {t : σ}
    {u : FixedScheduler P × σ}
    (hstep : ∀ k entry, s.planOrder[k]? = some entry → ∀ r phase r', I k r →
      visitor (descriptor k entry) (entry.phase, r) = .ok () (phase, r') → I (k + 1) r')
    (h0 : I 0 t) (h : visitFirst visitor n (s, t) = .ok () u) :
    I (min n s.planOrder.length) u.2 := by
  have hfst := visitOrder_fst hs
  have hlen : min n s.planOrder.length = 0 + (s.visitOrder.take n).length := by
    rw [← hfst, List.length_map, List.length_take, Nat.zero_add]
  rw [hlen]
  refine visitFrom_rule I (fun p hp => mem_visitOrder (List.mem_of_mem_take hp)) ?_ ?_ h0 h
  · rw [List.map_take]
    exact (visitOrder_nodup s).sublist (List.take_sublist ..)
  · intro j p hp
    rw [Nat.zero_add]
    apply hstep
    rw [List.getElem?_take] at hp
    split at hp
    · rw [← hfst, List.getElem?_map, hp]
      rfl
    · cases hp

theorem visitPhases_rule {visitor : PhaseDescriptor → EStateM ε (P × σ) Unit}
    (I : ℕ → σ → Prop) {s : FixedScheduler P} (hs : s.Ordered) {t : σ}
    {u : FixedScheduler P × σ}
    (hstep : ∀ k entry, s.planOrder[k]? = some entry → ∀ r phase r', I k r →
      visitor (descriptor k entry) (entry.phase, r) = .ok () (phase, r') → I (k + 1) r')
    (h0 : I 0 t) (h : visitPhases visitor (s, t) = .ok () u) : I s.planOrder.length u.2 := by
  have hlen : s.visitOrder.length = s.planOrder.length := by
    rw [← visitOrder_fst hs, List.length_map]
  have hall : visitFirst visitor s.visitOrder.length (s, t) = .ok () u := by
    simp only [visitFirst, List.take_length]
    exact h
  have hrule := visitFirst_rule I hs hstep h0 hall
  rwa [hlen, Nat.min_self] at hrule

theorem visitPhases_error_rule {visitor : PhaseDescriptor → EStateM ε (P × σ) Unit}
    (I : ℕ → σ → Prop) {s : FixedScheduler P} (hs : s.Ordered) {t : σ}
    {u : FixedScheduler P × σ} {err : ε}
    (hstep : ∀ k entry, s.planOrder[k]? = some entry → ∀ r phase r', I k r →
      visitor (descriptor k entry) (entry.phase, r) = .ok () (phase, r') → I (k + 1) r')
    (h0 : I 0 t) (h : visitPhases visitor (s, t) = .error err u) :
    ∃ k entry r phase, s.planOrder[k]? = some entry ∧ I k r ∧
      visitor (descriptor k entry) (entry.phase, r) = .error err (phase, u.2) := by
  have hentry : ∀ (j : ℕ) (p : PhaseEntry P × ℕ), s.visitOrder[j]? = some p →
      s.planOrder[j]? = some p.1 := by
    intro j p hp
    rw [← visitOrder_fst hs, List.getElem?_map, hp]
    rfl
  obtain ⟨j, p, r, phase, hp, hI, hv⟩ := visitFrom_error_rule I (fun p hp => mem_visitOrder hp)
    (visitOrder_nodup s) (fun j p hp => by
      rw [Nat.zero_add]
      exact hstep j p.1 (hentry j p hp)) h0 h
  rw [Nat.zero_add] at hI hv
  exact ⟨j, p.1, r, phase, hentry j p hp, hI, hv⟩

/- A visit that succeeds went through all its beginnings. -/
theorem exists_visitFirst {visitor : PhaseDescriptor → EStateM ε (P × σ) Unit}
    {s : FixedScheduler P} {t : σ} {u : FixedScheduler P × σ}
    (h : visitPhases visitor (s, t) = .ok () u) (n : ℕ) :
    ∃ r, visitFirst visitor n (s, t) = .ok () r := by
  have hfrom : ∀ (xs ys : List (PhaseEntry P × ℕ)) (k : ℕ) (r : FixedScheduler P × σ),
      visitFrom visitor k (xs ++ ys) r = .ok () u →
        ∃ r', visitFrom visitor k xs r = .ok () r' := by
    intro xs ys
    induction xs with
    | nil => exact fun _ r _ => ⟨r, rfl⟩
    | cons x xs ih =>
      intro k r hr
      obtain ⟨_, r1, h1, h2⟩ := estate_bind_ok.mp hr
      obtain ⟨r', h3⟩ := ih (k + 1) r1 h2
      exact ⟨r', estate_bind_ok.mpr ⟨_, r1, h1, h3⟩⟩
  refine hfrom (s.visitOrder.take n) (s.visitOrder.drop n) 0 (s, t) ?_
  rw [List.take_append_drop]
  exact h

/- Phases that keep their private state leave the scheduler as it was. -/
theorem visitFrom_scheduler {visitor : PhaseDescriptor → EStateM ε (P × σ) Unit}
    (hkeep : ∀ d phase t, ∀ r, visitor d (phase, t) = .ok () r → r.1 = phase)
    {rest : List (PhaseEntry P × ℕ)} {k : ℕ} {s : FixedScheduler P} {t : σ}
    {u : FixedScheduler P × σ} (h : visitFrom visitor k rest (s, t) = .ok () u) : u.1 = s := by
  induction rest generalizing k t with
  | nil =>
    obtain ⟨-, rfl⟩ := estate_pure_ok.mp h
    rfl
  | cons p rest ih =>
    obtain ⟨u', ⟨s', t'⟩, hvisit, hmore⟩ := estate_bind_ok.mp h
    cases hentry : s.phases[p.2]? with
    | none =>
      simp only [visitEntry, hentry, EStateM.Result.ok.injEq, Prod.mk.injEq] at hvisit
      obtain ⟨-, rfl, rfl⟩ := hvisit
      exact ih hmore
    | some entry =>
      obtain ⟨phase, hv, rfl⟩ := visitEntry_ok hentry hvisit
      have hphase := hkeep _ _ _ _ hv
      simp only at hphase
      rw [hphase, setPhase_self hentry] at hmore
      exact ih hmore

/-- The slots that no visit changes. -/
def slots (s : FixedScheduler P) : List (PhaseGroup × ℕ) × ℕ :=
  (s.phases.map fun entry => (entry.group, entry.insertionOrder), s.nextInsertionOrder)

omit [PhaseName P] in
theorem setPhase_slots (s : FixedScheduler P) (index : ℕ) (phase : P) :
    (s.setPhase index phase).slots = s.slots := by
  simp only [slots, setPhase, Prod.mk.injEq, and_true]
  apply List.ext_getElem?
  intro j
  simp only [List.getElem?_map, List.getElem?_modify]
  cases s.phases[j]? with
  | none => rfl
  | some entry =>
    simp only [Option.map_some, Option.map_eq_map]
    split <;> rfl

omit [PhaseName P] in
theorem ordered_of_slots {s t : FixedScheduler P} (h : t.slots = s.slots) (hs : s.Ordered) :
    t.Ordered := by
  simp only [slots, Prod.mk.injEq] at h
  obtain ⟨hphases, hnext⟩ := h
  have hsorted : ∀ u : FixedScheduler P,
      (u.phases.Pairwise fun a b => a.insertionOrder ≤ b.insertionOrder) ↔
        (u.phases.map fun entry => (entry.group, entry.insertionOrder)).Pairwise
          fun a b => a.2 ≤ b.2 := fun u => by rw [List.pairwise_map]
  have hbounded : ∀ u : FixedScheduler P,
      (∀ entry ∈ u.phases, entry.insertionOrder < s.nextInsertionOrder) ↔
        ∀ slot ∈ u.phases.map (fun entry => (entry.group, entry.insertionOrder)),
          slot.2 < s.nextInsertionOrder := fun u => by rw [List.forall_mem_map]
  constructor
  · rw [hsorted, hphases, ← hsorted]
    exact hs.sorted
  · rw [hnext, hbounded, hphases, ← hbounded]
    exact hs.bounded

omit [PhaseName P] in
theorem groupCount_of_slots {s t : FixedScheduler P} (h : t.slots = s.slots)
    (group : PhaseGroup) : t.groupCount group = s.groupCount group := by
  have hcount : ∀ u : FixedScheduler P, u.groupCount group =
      u.slots.1.countP fun slot => slot.1 = group := by
    intro u
    rw [slots, List.countP_map]
    rfl
  rw [hcount, h, ← hcount]

theorem visitPhases_of_entry {visitor : PhaseDescriptor → EStateM ε (P × σ) Unit}
    {I : FixedScheduler P × σ → Prop}
    (h : ∀ ordinal index, Preserves I (visitEntry visitor ordinal index)) :
    Preserves I (visitPhases visitor) := by
  have hfrom : ∀ (rest : List (PhaseEntry P × ℕ)) (k : ℕ),
      Preserves I (visitFrom visitor k rest) := by
    intro rest
    induction rest with
    | nil => exact fun _ => preserves_pure ()
    | cons p rest ih => exact fun k => preserves_bind (h k p.2) fun _ => ih (k + 1)
  exact fun r hr => hfrom r.1.visitOrder 0 r hr

theorem visitPhases_slots (visitor : PhaseDescriptor → EStateM ε (P × σ) Unit)
    (slots0 : List (PhaseGroup × ℕ) × ℕ) :
    Preserves (fun r : FixedScheduler P × σ => r.1.slots = slots0) (visitPhases visitor) := by
  refine visitPhases_of_entry fun ordinal index => ?_
  rintro ⟨s, t⟩ hs
  cases hentry : s.phases[index]? with
  | none =>
    simp only [visitEntry, hentry]
    exact hs
  | some entry =>
    simp only [visitEntry, hentry]
    split
    · exact (setPhase_slots s index _).trans hs
    · exact (setPhase_slots s index _).trans hs

/- A visitor that keeps the phases and `I`, also when it fails, makes the visit keep the
scheduler and `I`. -/
theorem visitEntry_preserves {visitor : PhaseDescriptor → EStateM ε (P × σ) Unit} {I : σ → Prop}
    (hv : ∀ d phase, Preserves (fun r : P × σ => r.1 = phase ∧ I r.2) (visitor d))
    (s : FixedScheduler P) (ordinal index : ℕ) :
    Preserves (fun r : FixedScheduler P × σ => r.1 = s ∧ I r.2)
      (visitEntry visitor ordinal index) := by
  rintro ⟨s', t⟩ ⟨hs, ht⟩
  simp only at hs ht
  subst hs
  cases hentry : s'.phases[index]? with
  | none =>
    simp only [visitEntry, hentry]
    exact ⟨rfl, ht⟩
  | some entry =>
    have h := hv (descriptor ordinal entry) entry.phase (entry.phase, t) ⟨rfl, ht⟩
    cases hr : visitor (descriptor ordinal entry) (entry.phase, t) with
    | ok u r =>
      simp only [hr, endState_ok] at h
      simp only [visitEntry, hentry, hr, endState_ok]
      exact ⟨by rw [h.1, setPhase_self hentry], h.2⟩
    | error e r =>
      simp only [hr, endState_error] at h
      simp only [visitEntry, hentry, hr, endState_error]
      exact ⟨by rw [h.1, setPhase_self hentry], h.2⟩

theorem visitPhases_preserves {visitor : PhaseDescriptor → EStateM ε (P × σ) Unit}
    {I : σ → Prop}
    (hv : ∀ d phase, Preserves (fun r : P × σ => r.1 = phase ∧ I r.2) (visitor d))
    (s : FixedScheduler P) :
    Preserves (fun r : FixedScheduler P × σ => r.1 = s ∧ I r.2) (visitPhases visitor) :=
  visitPhases_of_entry (visitEntry_preserves hv s)

theorem visitFrom_commutes {visitor : PhaseDescriptor → EStateM ε (P × σ) Unit} {g : σ → σ}
    (hv : ∀ d, Commutes (Prod.map id g) (visitor d)) (k : ℕ)
    (rest : List (PhaseEntry P × ℕ)) :
    Commutes (Prod.map id g) (visitFrom visitor k rest) := by
  induction rest generalizing k with
  | nil => exact commutes_pure _ ()
  | cons p rest ih =>
    refine commutes_bind ?_ (fun _ => ih (k + 1))
    rintro ⟨s, t⟩
    simp only [visitEntry, Prod.map_apply, id_eq]
    cases s.phases[p.2]? with
    | none => rfl
    | some entry =>
      have h := hv (descriptor k entry) (entry.phase, t)
      simp only [Prod.map_apply, id_eq] at h
      simp only [h]
      cases visitor (descriptor k entry) (entry.phase, t) <;> rfl

theorem visitPhases_commutes {visitor : PhaseDescriptor → EStateM ε (P × σ) Unit} {g : σ → σ}
    (hv : ∀ d, Commutes (Prod.map id g) (visitor d)) :
    Commutes (Prod.map id g) (visitPhases (P := P) visitor) :=
  fun p => visitFrom_commutes hv 0 p.1.visitOrder p

end FixedScheduler

end XenorEngine.Rust
