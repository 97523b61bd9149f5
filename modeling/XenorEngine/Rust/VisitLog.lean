import XenorEngine.Rust.Scheduler

/-!
# scheduler: the visits are the plan

A visitor that also writes down each call it gets. The log is not read by the
visit, and after any visit it is a beginning of the announced plan: all of it
when no call fails, up to the call that fails otherwise.
-/

namespace XenorEngine.Rust
open XenorEngine.Lib.Fallible XenorEngine.Lib.Grouping

/-- One call of a visitor: what it was given, and whether it returned `Ok`. -/
structure Visit (P : Type) where
  descriptor : PhaseDescriptor
  phase : P
  succeeded : Bool
  deriving DecidableEq, Repr

namespace FixedScheduler
variable {P ε σ : Type} [PhaseName P]

/-- The order of `PhaseGroup::ALL`. -/
def rank (group : PhaseGroup) : ℕ := PhaseGroup.ALL.idxOf group

/-- What `add_phase` stored of the call with this number. -/
def added (entry : PhaseEntry P) : (PhaseGroup × P) × ℕ :=
  ((entry.group, entry.phase), entry.insertionOrder)

def storedAs (add : (PhaseGroup × P) × ℕ) : PhaseEntry P := ⟨add.1.1, add.2, add.1.2⟩

def recorded (visitor : PhaseDescriptor → EStateM ε (P × σ) Unit) (descriptor : PhaseDescriptor) :
    EStateM ε (P × σ × List (Visit P)) Unit := fun (phase, t, log) =>
  match visitor descriptor (phase, t) with
  | .ok () (phase', t') => .ok () (phase', t', log ++ [⟨descriptor, phase, true⟩])
  | .error e (phase', t') => .error e (phase', t', log ++ [⟨descriptor, phase, false⟩])

/-- The calls of a visit that goes through these entries, from an ordinal on. -/
def visits (ordinal : ℕ) (entries : List (PhaseEntry P)) : List (Visit P) :=
  entries.mapIdx fun i entry => ⟨descriptor (ordinal + i) entry, entry.phase, true⟩

theorem visits_cons (ordinal : ℕ) (entry : PhaseEntry P) (entries : List (PhaseEntry P)) :
    visits ordinal (entry :: entries) =
      ⟨descriptor ordinal entry, entry.phase, true⟩ :: visits (ordinal + 1) entries := by
  rw [visits, List.mapIdx_cons, visits]
  congr 2
  funext i later
  rw [Nat.add_assoc, Nat.add_comm 1 i]

omit [PhaseName P] in
/- An entry not yet visited still stands where it stood. -/
theorem rest_unvisited {p : PhaseEntry P × ℕ} {rest : List (PhaseEntry P × ℕ)}
    {s : FixedScheduler P} (hrest : ∀ q ∈ p :: rest, s.phases[q.2]? = some q.1)
    (hnodup : ((p :: rest).map Prod.snd).Nodup) (phase : P) :
    ∀ q ∈ rest, (s.setPhase p.2 phase).phases[q.2]? = some q.1 := by
  intro q hq
  rw [List.map_cons, List.nodup_cons] at hnodup
  rw [setPhase_getElem]
  · exact hrest q (List.mem_cons_of_mem p hq)
  · rintro hsame
    exact hnodup.1 (hsame ▸ List.mem_map.mpr ⟨q, hq, rfl⟩)

theorem visitFrom_cons {visitor : PhaseDescriptor → EStateM ε (P × σ) Unit} {k : ℕ}
    {p : PhaseEntry P × ℕ} {rest : List (PhaseEntry P × ℕ)} {s : FixedScheduler P} {t : σ}
    (hentry : s.phases[p.2]? = some p.1) :
    visitFrom visitor k (p :: rest) (s, t) =
      match visitor (descriptor k p.1) (p.1.phase, t) with
      | .ok () (phase, t') => visitFrom visitor (k + 1) rest (s.setPhase p.2 phase, t')
      | .error e (phase, t') => .error e (s.setPhase p.2 phase, t') := by
  show EStateM.bind _ _ _ = _
  simp only [EStateM.bind, visitEntry, hentry]
  cases visitor (descriptor k p.1) (p.1.phase, t) <;> rfl

/- The loop, with and without the log; the induction is on the entries still to visit. -/
theorem visitFrom_recorded (visitor : PhaseDescriptor → EStateM ε (P × σ) Unit)
    {rest : List (PhaseEntry P × ℕ)} (k : ℕ) {s : FixedScheduler P} (t : σ) (log : List (Visit P))
    (hrest : ∀ p ∈ rest, s.phases[p.2]? = some p.1) (hnodup : (rest.map Prod.snd).Nodup) :
    match visitFrom visitor k rest (s, t) with
    | .ok () (s', t') => visitFrom (recorded visitor) k rest (s, t, log) =
        .ok () (s', t', log ++ visits k (rest.map Prod.fst))
    | .error e (s', t') => ∃ i entry, (rest.map Prod.fst)[i]? = some entry ∧
        visitFrom (recorded visitor) k rest (s, t, log) =
          .error e (s', t', log ++ visits k ((rest.map Prod.fst).take i) ++
            [⟨descriptor (k + i) entry, entry.phase, false⟩]) := by
  induction rest generalizing k s t log with
  | nil =>
    show visitFrom (recorded visitor) k [] (s, t, log) = _
    rw [List.map_nil, visits, List.mapIdx_nil, List.append_nil]
    rfl
  | cons p rest ih =>
    have hentry := hrest p List.mem_cons_self
    have hlater := (List.nodup_cons.mp (List.map_cons .. ▸ hnodup)).2
    rw [visitFrom_cons hentry, visitFrom_cons hentry]
    simp only [recorded]
    cases visitor (descriptor k p.1) (p.1.phase, t) with
    | error e r => exact ⟨0, p.1, rfl, by simp [visits]⟩
    | ok u r =>
      have hmore := ih (k := k + 1) (t := r.2) (log ++ [⟨descriptor k p.1, p.1.phase, true⟩])
        (rest_unvisited hrest hnodup r.1) hlater
      simp only
      cases hrun : visitFrom visitor (k + 1) rest (s.setPhase p.2 r.1, r.2) with
      | ok u' r' =>
        simp only [hrun] at hmore ⊢
        rw [hmore, List.map_cons, visits_cons, List.append_assoc, List.singleton_append]
      | error e r' =>
        simp only [hrun] at hmore ⊢
        obtain ⟨i, entry, hi, hlog⟩ := hmore
        refine ⟨i + 1, entry, hi, ?_⟩
        rw [hlog, List.map_cons, List.take_succ_cons, visits_cons, List.append_assoc log,
          List.singleton_append, Nat.add_assoc, Nat.add_comm 1 i]

/-! ### The order of the additions -/

omit [PhaseName P] in
theorem phases_ofPhases (adds : List (PhaseGroup × P)) :
    (ofPhases adds).phases = adds.zipIdx.map storedAs := by
  have hfrom : ∀ (adds : List (PhaseGroup × P)) (s : FixedScheduler P),
      (adds.foldl (fun s add => s.addPhase add.1 add.2) s).phases =
        s.phases ++ (adds.zipIdx s.nextInsertionOrder).map storedAs := by
    intro adds
    induction adds with
    | nil => exact fun s => (List.append_nil s.phases).symm
    | cons add adds ih =>
      intro s
      rw [List.foldl_cons, ih, List.zipIdx_cons, List.map_cons, addPhase, List.append_assoc]
      rfl
  exact hfrom adds new

omit [PhaseName P] in
theorem planOrder_sorted (adds : List (PhaseGroup × P)) :
    (ofPhases adds).planOrder.map added =
      adds.zipIdx.insertionSort fun a b => rank a.1.1 ≤ rank b.1.1 := by
  have hkeys : PhaseGroup.ALL.Pairwise fun a b => rank a < rank b := by decide
  have hall : ∀ group : PhaseGroup, group ∈ PhaseGroup.ALL := by
    intro group
    cases group <;> decide
  have hback : (added ∘ storedAs : (PhaseGroup × P) × ℕ → _) = id := rfl
  have hgrouped : (ofPhases adds).planOrder =
      grouped PhaseGroup.ALL (·.group) (adds.zipIdx.map storedAs) := by
    rw [planOrder_eq (ofPhases_ordered adds), phases_ofPhases]
    rfl
  rw [hgrouped, grouped_map, List.map_map, hback, List.map_id]
  exact grouped_eq_insertionSort hkeys fun x _ => hall x.1.1

omit [PhaseName P] in
theorem planOrder_length (adds : List (PhaseGroup × P)) :
    (ofPhases adds).planOrder.length = adds.length := by
  have hlength := congrArg List.length (planOrder_sorted adds)
  rwa [List.length_map, List.length_insertionSort, List.length_zipIdx] at hlength

theorem phasePlan_ordinals (s : FixedScheduler P) :
    s.phasePlan.map (·.ordinal) = List.range s.planOrder.length := by
  apply List.ext_getElem
  · rw [List.length_map, phasePlan, List.length_mapIdx, List.length_range]
  · intro i h1 h2
    rw [List.getElem_map, List.getElem_range]
    simp only [phasePlan, List.getElem_mapIdx]
    rfl

/- What a log says: the calls, the phases that were called, and which of them succeeded. -/
theorem visits_log (ordinal : ℕ) (entries : List (PhaseEntry P)) :
    (visits ordinal entries).map (·.descriptor) =
        entries.mapIdx (fun i entry => descriptor (ordinal + i) entry) ∧
      (visits ordinal entries).map (·.phase) = entries.map (·.phase) ∧
      (visits ordinal entries).map (·.succeeded) = List.replicate entries.length true := by
  induction entries generalizing ordinal with
  | nil => exact ⟨rfl, rfl, rfl⟩
  | cons entry entries ih =>
    obtain ⟨hdescriptors, hphases, hsucceeded⟩ := ih (ordinal + 1)
    rw [visits_cons]
    refine ⟨?_, congrArg _ hphases, congrArg _ hsucceeded⟩
    rw [List.map_cons, hdescriptors, List.mapIdx_cons]
    congr 2
    funext i later
    rw [Nat.add_assoc, Nat.add_comm 1 i]

theorem mapIdx_take {α β : Type} (f : ℕ → α → β) (xs : List α) (n : ℕ) :
    (xs.take n).mapIdx f = (xs.mapIdx f).take n := by
  apply List.ext_getElem?
  intro j
  simp only [List.getElem?_mapIdx, List.getElem?_take]
  split <;> rfl

theorem visitPhases_ok {visitor : PhaseDescriptor → EStateM ε (P × σ) Unit}
    {s s' : FixedScheduler P} {t t' : σ} (hs : s.Ordered)
    (h : visitPhases visitor (s, t) = .ok () (s', t')) :
    visitPhases (recorded visitor) (s, t, []) = .ok () (s', t', visits 0 s.planOrder) := by
  have hlog := visitFrom_recorded visitor 0 t []
    (fun p hp => mem_visitOrder hp) (visitOrder_nodup s)
  unfold visitPhases at h ⊢
  simp only at h ⊢
  rw [h] at hlog
  simp only at hlog
  rw [hlog, List.nil_append, visitOrder_fst hs]

theorem visitPhases_error {visitor : PhaseDescriptor → EStateM ε (P × σ) Unit}
    {s s' : FixedScheduler P} {t t' : σ} {e : ε} (hs : s.Ordered)
    (h : visitPhases visitor (s, t) = .error e (s', t')) :
    ∃ i entry, s.planOrder[i]? = some entry ∧
      visitPhases (recorded visitor) (s, t, []) = .error e (s', t',
        visits 0 (s.planOrder.take i) ++ [⟨descriptor i entry, entry.phase, false⟩]) := by
  have hlog := visitFrom_recorded visitor 0 t []
    (fun p hp => mem_visitOrder hp) (visitOrder_nodup s)
  unfold visitPhases at h ⊢
  simp only at h ⊢
  rw [h] at hlog
  obtain ⟨i, entry, hi, hlog⟩ := hlog
  rw [visitOrder_fst hs] at hi hlog
  rw [List.nil_append, Nat.zero_add] at hlog
  exact ⟨i, entry, hi, hlog⟩

/- Plan and execution agree, also when a call fails. -/
theorem visits_follow_plan (adds : List (PhaseGroup × P))
    (visitor : PhaseDescriptor → EStateM ε (P × σ) Unit) (t : σ) :
    (ofPhases adds).phasePlan.map (·.ordinal) = List.range adds.length ∧
    ((ofPhases adds).planOrder.map added).Perm adds.zipIdx ∧
    (ofPhases adds).planOrder.map added =
      adds.zipIdx.insertionSort (fun a b => rank a.1.1 ≤ rank b.1.1) ∧
    (∀ s' t', visitPhases visitor (ofPhases adds, t) = .ok () (s', t') →
      ∃ log, visitPhases (recorded visitor) (ofPhases adds, t, []) = .ok () (s', t', log) ∧
        log.map (·.descriptor) = (ofPhases adds).phasePlan ∧
        log.map (·.phase) = (ofPhases adds).planOrder.map (·.phase) ∧
        log.map (·.succeeded) = List.replicate adds.length true) ∧
    (∀ e s' t', visitPhases visitor (ofPhases adds, t) = .error e (s', t') →
      ∃ i log, i < adds.length ∧
        visitPhases (recorded visitor) (ofPhases adds, t, []) = .error e (s', t', log) ∧
        log.map (·.descriptor) = (ofPhases adds).phasePlan.take (i + 1) ∧
        log.map (·.phase) = ((ofPhases adds).planOrder.take (i + 1)).map (·.phase) ∧
        log.map (·.succeeded) = List.replicate i true ++ [false]) := by
  have hlength := planOrder_length adds
  refine ⟨?_, ?_, planOrder_sorted adds, ?_, ?_⟩
  · rw [phasePlan_ordinals, hlength]
  · rw [planOrder_sorted]
    exact List.perm_insertionSort _ _
  · intro s' t' hrun
    obtain ⟨hdescriptors, hphases, hsucceeded⟩ := visits_log 0 (ofPhases adds).planOrder
    refine ⟨_, visitPhases_ok (ofPhases_ordered adds) hrun, ?_, hphases, hlength ▸ hsucceeded⟩
    rw [hdescriptors, phasePlan]
    simp only [Nat.zero_add]
  · intro e s' t' hrun
    obtain ⟨i, entry, hentry, hlog⟩ := visitPhases_error (ofPhases_ordered adds) hrun
    obtain ⟨hdescriptors, hphases, hsucceeded⟩ := visits_log 0 ((ofPhases adds).planOrder.take i)
    have hi := (List.getElem?_eq_some_iff.mp hentry).1
    have hnext : (ofPhases adds).planOrder.take (i + 1) =
        (ofPhases adds).planOrder.take i ++ [entry] := by
      rw [List.take_add_one, hentry]
      rfl
    have hcount : ((ofPhases adds).planOrder.take i).length = i := by
      rw [List.length_take]
      omega
    refine ⟨i, _, hlength ▸ hi, hlog, ?_, ?_, ?_⟩
    · rw [List.map_append, hdescriptors, phasePlan, ← mapIdx_take, hnext, List.mapIdx_concat,
        hcount]
      simp only [Nat.zero_add]
      rfl
    · rw [List.map_append, hphases, hnext, List.map_append]
      rfl
    · rw [List.map_append, hsucceeded, hcount]
      rfl

end FixedScheduler
end XenorEngine.Rust
