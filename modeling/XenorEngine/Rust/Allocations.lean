import XenorEngine.Rust.ArtifactGuarantees
import XenorEngine.Rust.LinePattern

/-!
# Allocations while reading (persistence/mod.rs, scenario/mod.rs)

Counts are read from the file and passed to `Vec::with_capacity` before the lines
they count are known to be there. Reading ends without a result exactly when a count
that follows well-formed lines asks for more than is granted, and for no other reason.
-/

namespace XenorEngine.Rust
open XenorEngine.Lib.ByteText XenorEngine.Lib.LineText XenorEngine.Lib.Fallible
open XenorEngine.Lib.PrefixReader XenorEngine.Lib.FieldCodec XenorEngine.Lib.ReaderFaults
open XenorEngine.Lib.TokenPattern XenorEngine.Lib.Decimal
open ReplayArtifactSerializer (orFail_eq_ok orFail_eq_error withCapacity_eq_ok)

/-- A call comes back, with a value or an error. -/
def Returns {α : Type} (x : Outcome α) : Prop := ∃ result : Except EngineError α, x = orFail result

/-- A panic, or the end of the process. -/
def Failure.Fatal (f : Failure) : Prop := ∀ e, f ≠ .error e

theorem error_not_fatal (e : EngineError) : ¬ (Failure.error e).Fatal := fun h => h e rfl

theorem returns_iff {α : Type} {x : Outcome α} :
    Returns x ↔ ¬ ∃ f, x = .error f ∧ f.Fatal := by
  constructor
  · rintro ⟨result, rfl⟩ ⟨f, hf, hfatal⟩
    obtain ⟨e, -, rfl⟩ := orFail_eq_error.mp hf
    exact hfatal e rfl
  · intro h
    cases x with
    | ok a => exact ⟨.ok a, rfl⟩
    | error f =>
      cases f with
      | error e => exact ⟨.error e, rfl⟩
      | panicked message => exact absurd ⟨_, rfl, by rintro e ⟨⟩⟩ h
      | aborted message => exact absurd ⟨_, rfl, by rintro e ⟨⟩⟩ h

theorem orFail_not_fatal {α : Type} {x : Except EngineError α} {f : Failure}
    (h : orFail x = .error f) : ¬ f.Fatal := by
  obtain ⟨e, -, rfl⟩ := orFail_eq_error.mp h
  exact error_not_fatal e

theorem withCapacity_fatal {layout : Layout} {size count : ℕ} :
    (∃ f, withCapacity layout size count = .error f ∧ f.Fatal) ↔ layout.limit < size * count := by
  constructor
  · rintro ⟨f, hf, -⟩
    by_contra hle
    have hok : withCapacity layout size count = .ok () :=
      withCapacity_eq_ok.mpr (Nat.le_of_not_lt hle)
    rw [hok] at hf
    cases hf
  · intro hlt
    by_cases hmax : ISIZE_MAX < size * count
    · refine ⟨.panicked "capacity overflow", ?_, by rintro e ⟨⟩⟩
      rw [withCapacity, rejectIf, if_pos hmax]
      rfl
    · refine ⟨.aborted s!"memory allocation of {size * count} bytes failed", ?_, by rintro e ⟨⟩⟩
      rw [withCapacity, rejectIf, if_neg hmax, pure_bind, rejectIf, if_pos hlt]
      rfl

section Fields
variable {α β : Type} {wrap : CanonicalError → Failure} {label key : String}

theorem faultless_readField {parse : String → Outcome α} (hwrap : ∀ e, ¬ (wrap e).Fatal)
    (hparse : ∀ v f, parse v = .error f → ¬ f.Fatal) :
    Faultless Failure.Fatal (readField wrap label key parse) := by
  have hvalue : Faultless (fun e => (wrap e).Fatal) (readValue key label) :=
    fun c ⟨e, _, hbad⟩ => hwrap e hbad
  exact faultless_bind (faultless_mapError hwrap) fun v => faultless_lift (hparse v)

theorem faultless_expectField {expected : String} (hwrap : ∀ e, ¬ (wrap e).Fatal) :
    Faultless Failure.Fatal (expectField wrap label key expected) := faultless_mapError hwrap

theorem faultless_check (x : Except EngineError Unit) :
    Faultless Failure.Fatal (lift (orFail x) : Reader Line Failure Unit) :=
  faultless_lift fun _ => orFail_not_fatal

/-- A count for which too much is asked, or after which `Q` goes on. -/
def Overflows (layout : Layout) (size : ℕ) (key : String) (Q : ℕ → List Line → Prop)
    (ls : List Line) : Prop :=
  ∃ value rest n, ls = (key, value) :: rest ∧ fromStrUsize value = .ok n ∧
    (layout.limit < size * n ∨ size * n ≤ layout.limit ∧ Q n rest)

theorem faults_counted {layout : Layout} {size : ℕ} {parse : String → Outcome ℕ}
    {f : ℕ → Reader Line Failure β} {Q : ℕ → List Line → Prop}
    (hfield : Faultless Failure.Fatal (readField wrap label key parse))
    (hparse : ∀ v n, parse v = .ok n ↔ fromStrUsize v = .ok n)
    (hf : ∀ n c, Faults Failure.Fatal (f n) c ↔ Q n c.rest) {c : Cursor Line} :
    Faults Failure.Fatal (readField wrap label key parse >>= fun n =>
        lift (withCapacity layout size n) >>= fun _ => f n) c ↔
      Overflows layout size key Q c.rest := by
  unfold Overflows
  rw [faults_after hfield]
  simp only [faults_check, withCapacity_fatal, withCapacity_eq_ok, hf, readField_reads, hparse]
  constructor
  · rintro ⟨_, rest, n, hsplit, ⟨value, rfl, hvalue⟩, h⟩
    exact ⟨value, rest, n, hsplit, hvalue, h⟩
  · rintro ⟨value, rest, n, hsplit, hvalue, h⟩
    exact ⟨[(key, value)], rest, n, hsplit, ⟨value, rfl, hvalue⟩, h⟩

/- A count that follows a pattern overflows by itself, or what follows it does. -/
theorem begins_overflows {layout : Layout} {size : ℕ} {key : String}
    {Q : ℕ → List Line → Prop} {p : Pattern Line} {ls : List Line} :
    (∃ mid, Begins p ls mid ∧ Overflows layout size key Q mid) ↔
      (∃ n, CountAt p key n ls ∧ layout.limit < size * n) ∨
        ∃ n rest, Begins (p ++ [LineOf key (fromStrUsize · = .ok n)]) ls rest ∧ Q n rest := by
  constructor
  · rintro ⟨mid, hbegins, value, rest, n, rfl, hvalue, hlt | ⟨-, hq⟩⟩
    · exact .inl ⟨n, ⟨value, rest, hbegins, hvalue⟩, hlt⟩
    · exact .inr ⟨n, rest, begins_append.mpr ⟨_, hbegins,
        begins_count.mpr ⟨value, rest, rfl, hvalue, begins_nil.mpr rfl⟩⟩, hq⟩
  · rintro (⟨n, ⟨value, rest, hbegins, hvalue⟩, hlt⟩ | ⟨n, rest, hbegins, hq⟩)
    · exact ⟨_, hbegins, value, rest, n, rfl, hvalue, .inl hlt⟩
    · obtain ⟨mid, hp, hcount⟩ := begins_append.mp hbegins
      obtain ⟨value, rest', rfl, hvalue, hnil⟩ := begins_count.mp hcount
      obtain rfl : rest' = rest := begins_nil.mp hnil
      refine ⟨_, hp, value, rest', n, rfl, hvalue, ?_⟩
      rcases Nat.lt_or_ge layout.limit (size * n) with hlt | hfit
      · exact .inl hlt
      · exact .inr ⟨hfit, hq⟩

theorem begins_overflows_last {layout : Layout} {size : ℕ} {key : String} {p : Pattern Line}
    {ls : List Line} :
    (∃ mid, Begins p ls mid ∧ Overflows layout size key (fun _ _ => False) mid) ↔
      ∃ n, CountAt p key n ls ∧ layout.limit < size * n := by
  simp only [begins_overflows, and_false, exists_const, or_false]

/- The line layer reports errors; other faults are those of the fields. -/
theorem readAll_faults {bad : Failure → Prop} {fields : Reader Line Failure α} {bytes : Bytes}
    (hwrap : ∀ e, ¬ bad (wrap e)) :
    (∃ f, readAll bytes label wrap fields = .error f ∧ bad f) ↔ ∃ reader,
      CanonicalLineReader.new bytes label = .ok reader ∧ Faults bad fields reader := by
  cases hnew : CanonicalLineReader.new bytes label with
  | error e =>
    constructor
    · rintro ⟨f, hf, hbad⟩
      rw [readAll, hnew] at hf
      obtain rfl : wrap e = f := Except.error.inj hf
      exact absurd hbad (hwrap e)
    · rintro ⟨reader, h, -⟩
      cases h
  | ok reader =>
    simp only [Except.ok.injEq, exists_eq_left']
    have hread : readAll bytes label wrap fields = (fields.run reader >>= fun result =>
        (CanonicalLineReader.finish result.2 label).mapError wrap >>= fun _ =>
          pure result.1) := by
      rw [readAll, hnew]
      rfl
    constructor
    · rintro ⟨f, hf, hbad⟩
      rw [hread] at hf
      cases hrun : fields.run reader with
      | error f' =>
        rw [hrun] at hf
        obtain rfl : f' = f := Except.error.inj hf
        exact ⟨f', hrun, hbad⟩
      | ok result =>
        rw [hrun, ok_bind] at hf
        cases hfinish : CanonicalLineReader.finish result.2 label with
        | error e =>
          rw [hfinish] at hf
          obtain rfl : wrap e = f := Except.error.inj hf
          exact absurd hbad (hwrap e)
        | ok u =>
          rw [hfinish] at hf
          cases hf
    · rintro ⟨f, hrun, hbad⟩
      refine ⟨f, ?_, hbad⟩
      rw [hread, hrun]
      rfl

end Fields

/-! ### Scenarios -/

namespace SimulationScenarioSerializer
variable {C Config : Type} (s : SimulationScenarioSerializer C Config) (layout : Layout)

theorem faultless_readValue {α : Type} {key : String} {parse : String → Except EngineError α} :
    Faultless Failure.Fatal (reading.readValue key parse) :=
  faultless_readField (fun _ => error_not_fatal _) fun _ _ => orFail_not_fatal

theorem faultless_expectValue {key expected : String} :
    Faultless Failure.Fatal (reading.expectValue key expected) :=
  faultless_expectField fun _ => error_not_fatal _

theorem headFields_faultless : Faultless Failure.Fatal s.headFields := by
  unfold headFields
  refine faultless_bind faultless_expectValue fun _ => ?_
  refine faultless_bind faultless_expectValue fun _ => ?_
  refine faultless_bind faultless_readValue fun version => ?_
  refine faultless_bind (faultless_check _) fun _ => ?_
  refine faultless_bind faultless_readValue fun configArtifact => ?_
  exact faultless_bind faultless_readValue fun baseSeed => faultless_pure _

theorem frameFields_faultless (index : ℕ) : Faultless Failure.Fatal (s.frameFields index) := by
  unfold frameFields
  refine faultless_bind faultless_readValue fun tick => ?_
  exact faultless_bind faultless_readValue fun command => faultless_pure _

theorem summaryFields_faultless (familyLabel pre : String) :
    Faultless Failure.Fatal (reading.summaryFields familyLabel pre) := by
  unfold Reading.summaryFields
  refine faultless_bind faultless_readValue fun family => ?_
  refine faultless_bind faultless_readValue fun seed => ?_
  refine faultless_bind faultless_readValue fun tick => ?_
  refine faultless_bind faultless_readValue fun checksum => ?_
  refine faultless_bind faultless_readValue fun configVersion => ?_
  refine faultless_bind faultless_readValue fun configDigest => ?_
  refine faultless_bind faultless_readValue fun replayVersion => ?_
  refine faultless_bind faultless_readValue fun snapshotVersion => ?_
  refine faultless_bind faultless_readValue fun commandVersion => ?_
  refine faultless_bind faultless_readValue fun payloadVersion => ?_
  refine faultless_bind faultless_readValue fun replayDigest => ?_
  refine faultless_bind faultless_readValue fun snapshotPresent => ?_
  refine faultless_bind (faultless_optionally faultless_readValue _) fun snapshotDigest => ?_
  refine faultless_bind faultless_readValue fun scenarioPresent => ?_
  exact faultless_bind (faultless_optionally faultless_readValue _)
    fun scenarioDigest => faultless_pure _

theorem tailFields_faultless (head : Head Config) (frameCount : ℕ) :
    Faultless Failure.Fatal (s.tailFields head frameCount) := by
  unfold tailFields
  refine faultless_bind (faultless_forRange s.frameFields_faultless 0 _) fun frames => ?_
  refine faultless_bind faultless_readValue fun parityPresent => ?_
  exact faultless_bind (faultless_optionally (summaryFields_faultless _ _) _)
    fun summary => faultless_pure _

theorem fields_faults_iff {ls : List Line} :
    Faults Failure.Fatal (s.fields layout) (Cursor.start ls) ↔ ¬ s.CountsFit layout ls := by
  have hframes : ∀ (head : Head Config) (c : Cursor Line), Faults Failure.Fatal
      (reading.readValue "frame_count" reading.parseUsize >>= fun frameCount =>
        lift (withCapacity layout layout.frame frameCount) >>= fun _ =>
          s.tailFields head frameCount) c ↔
      Overflows layout layout.frame "frame_count" (fun _ _ => False) c.rest := fun head c =>
    faults_counted faultless_readValue (fun v n => by
      simp only [orFail_eq_ok, Reading.parseUsize, parseNumber, mapError_eq_ok])
      fun n c => iff_of_false (s.tailFields_faultless head n c) id
  rw [fields_eq, faults_after_pattern s.headFields_faultless s.headFields_accepts hframes,
    begins_overflows_last]
  simp only [CountsFit, not_forall, Nat.not_le, exists_prop, Cursor.start]

end SimulationScenarioSerializer

/-! ### Replays -/

namespace ReplayArtifactSerializer
variable {C Snapshot : Type} (s : ReplayArtifactSerializer C Snapshot) (layout : Layout)

theorem faultless_readReplay {α : Type} {key : String} {parse : String → Except EngineError α} :
    Faultless Failure.Fatal (readReplay key parse) :=
  faultless_readField (fun _ => error_not_fatal _) fun _ _ => orFail_not_fatal

theorem faultless_expectReplay {key expected : String} :
    Faultless Failure.Fatal (expectReplay key expected) :=
  faultless_expectField fun _ => error_not_fatal _

theorem headFields_faultless : Faultless Failure.Fatal s.headFields := by
  unfold headFields
  refine faultless_bind faultless_expectReplay fun _ => ?_
  refine faultless_bind faultless_expectReplay fun _ => ?_
  refine faultless_bind faultless_readReplay fun version => ?_
  refine faultless_bind (faultless_check _) fun _ => ?_
  refine faultless_bind faultless_readReplay fun family => ?_
  refine faultless_bind (faultless_check _) fun _ => ?_
  refine faultless_bind faultless_readReplay fun baseSeed => ?_
  refine faultless_bind faultless_readReplay fun totalTicks => ?_
  refine faultless_bind faultless_readReplay fun policy => ?_
  refine faultless_bind faultless_readReplay fun configVersion => ?_
  refine faultless_bind faultless_readReplay fun configDigest => ?_
  refine faultless_bind faultless_readReplay fun commandVersion => ?_
  refine faultless_bind (faultless_check _) fun _ => ?_
  refine faultless_bind faultless_readReplay fun payloadVersion => ?_
  exact faultless_bind (faultless_check _) fun _ => faultless_pure _

theorem recordHead_faultless (index : ℕ) : Faultless Failure.Fatal (s.recordHead index) := by
  unfold recordHead
  refine faultless_bind faultless_readReplay fun tick => ?_
  refine faultless_bind faultless_readReplay fun inputTick => ?_
  refine faultless_bind faultless_readReplay fun command => ?_
  exact faultless_bind faultless_readReplay fun tickSeed => faultless_pure _

theorem phaseFields_faultless (index phaseIndex : ℕ) :
    Faultless Failure.Fatal (phaseFields index phaseIndex) := by
  unfold phaseFields
  refine faultless_bind faultless_readReplay fun ordinal => ?_
  refine faultless_bind faultless_readReplay fun group => ?_
  exact faultless_bind faultless_readReplay fun name => faultless_pure _

theorem validationFields_faultless (index validationIndex : ℕ) :
    Faultless Failure.Fatal (validationFields index validationIndex) := by
  unfold validationFields
  refine faultless_bind faultless_readReplay fun checkpoint => ?_
  refine faultless_bind faultless_readReplay fun stateTick => ?_
  exact faultless_bind faultless_readReplay fun stateDigest => faultless_pure _

theorem snapshotFields_faultless (index : ℕ) :
    Faultless Failure.Fatal (s.snapshotFields index) := by
  unfold snapshotFields
  refine faultless_bind faultless_readReplay fun reason => ?_
  refine faultless_bind faultless_readReplay fun version => ?_
  refine faultless_bind faultless_readReplay fun sourceTick => ?_
  refine faultless_bind faultless_readReplay fun checksum => ?_
  exact faultless_bind faultless_readReplay fun payload => faultless_pure _

theorem recordTail_faultless (index : ℕ) (head : RecordHead C) (phaseMarkers : List PhaseMarker)
    (validationCount : ℕ) :
    Faultless Failure.Fatal (s.recordTail index head phaseMarkers validationCount) := by
  unfold recordTail
  refine faultless_bind (faultless_forRange (validationFields_faultless index) 0 _)
    fun summaries => ?_
  refine faultless_bind faultless_readReplay fun checksum => ?_
  refine faultless_bind faultless_readReplay fun snapshotPresent => ?_
  exact faultless_bind (faultless_optionally (s.snapshotFields_faultless index) _)
    fun snapshot => faultless_pure _

/-! ### Where it stops -/

/-- Reading these lines as record `index`, a count overflows. -/
def RecordOverflows (index : ℕ) (ls : List Line) : Prop :=
  ∃ counted, Begins (s.recordHeadPattern index) ls counted ∧
    Overflows layout layout.phaseMarker s!"record.{index}.phase_count" (fun phases rest =>
      ∃ counted', Begins ((List.range' 0 phases).flatMap (phasePattern index)) rest counted' ∧
        Overflows layout layout.validationSummary s!"record.{index}.validation_count"
          (fun _ _ => False) counted') counted

/- The lines before the count that overflows, from the record's first. -/
theorem recordOverflows_iff {index : ℕ} {ls : List Line} :
    s.RecordOverflows layout index ls ↔
      (∃ phases, CountAt (s.recordHeadPattern index) s!"record.{index}.phase_count" phases ls ∧
        layout.limit < layout.phaseMarker * phases) ∨
      ∃ phases validations, CountAt (s.recordHeadPattern index ++ phasesPattern index phases)
          s!"record.{index}.validation_count" validations ls ∧
        layout.limit < layout.validationSummary * validations := by
  have hpattern : ∀ phases, s.recordHeadPattern index ++ phasesPattern index phases =
      (s.recordHeadPattern index ++
        [LineOf s!"record.{index}.phase_count" (fromStrUsize · = .ok phases)]) ++
          (List.range' 0 phases).flatMap (phasePattern index) := fun phases => by
    rw [phasesPattern, List.append_assoc, List.singleton_append]
  unfold RecordOverflows
  rw [begins_overflows]
  refine or_congr_right (exists_congr fun phases => ?_)
  simp only [begins_overflows_last, hpattern, countAt_append (q := List.flatMap _ _)]
  constructor
  · rintro ⟨rest, hbegins, validations, hcount, hlt⟩
    exact ⟨validations, ⟨rest, hbegins, hcount⟩, hlt⟩
  · rintro ⟨validations, ⟨rest, hbegins, hcount⟩, hlt⟩
    exact ⟨rest, hbegins, validations, hcount, hlt⟩

theorem recordFields_faults_iff (index : ℕ) (c : Cursor Line) :
    Faults Failure.Fatal (s.recordFields layout index) c ↔
      s.RecordOverflows layout index c.rest := by
  have hmiddle : ∀ (head : RecordHead C) (phases : ℕ) (c : Cursor Line),
      Faults Failure.Fatal (s.recordMiddle layout index head phases) c ↔
        ∃ counted, Begins ((List.range' 0 phases).flatMap (phasePattern index)) c.rest counted ∧
          Overflows layout layout.validationSummary s!"record.{index}.validation_count"
            (fun _ _ => False) counted := by
    intro head phases c
    refine faults_after_pattern (faultless_forRange (phaseFields_faultless index) 0 phases)
      (accepts_forRange (phaseFields_accepts index) 0 phases) fun markers c => ?_
    exact faults_counted faultless_readReplay
      (fun v n => by simp only [orFail_eq_ok, parseNumber, mapError_eq_ok])
      fun n c => iff_of_false (s.recordTail_faultless index head markers n c) id
  rw [recordFields_eq]
  refine faults_after_pattern (s.recordHead_faultless index) (s.recordHead_accepts index)
    fun head c => ?_
  exact faults_counted faultless_readReplay
    (fun v n => by simp only [orFail_eq_ok, parseNumber, mapError_eq_ok]) (hmiddle head)

theorem readReplay_count {key field : String} {ls : List Line} {count : ℕ} :
    (readReplay key (parseNumber fromStrUsize "replay" field)).Reads ls count ↔
      ∃ value, ls = [(key, value)] ∧ fromStrUsize value = .ok count := by
  simp only [readReplay, readField_reads, orFail_eq_ok, parseNumber, mapError_eq_ok]

theorem recordFields_matches {index : ℕ} {ls : List Line} {record : ReplayTickRecord C Snapshot}
    (h : (s.recordFields layout index).Reads ls record) :
    ∃ shape, Matches (s.recordPattern index shape) ls := by
  rw [recordFields_eq] at h
  obtain ⟨l1, r1, head, rfl, hhead, h1⟩ := bind_reads.mp h
  obtain ⟨l2, r2, phases, rfl, hphases, h2⟩ := bind_reads.mp h1
  obtain ⟨l3, r3, u, rfl, hgranted, h3⟩ := bind_reads.mp h2
  obtain ⟨rfl, -⟩ := lift_reads.mp hgranted
  obtain ⟨l4, r4, markers, rfl, hmarkers, h4⟩ := bind_reads.mp h3
  obtain ⟨l5, r5, validations, rfl, hvalidations, h5⟩ := bind_reads.mp h4
  obtain ⟨l6, r6, u', rfl, hgranted', h6⟩ := bind_reads.mp h5
  obtain ⟨rfl, -⟩ := lift_reads.mp hgranted'
  obtain ⟨value, rfl, hvalue⟩ := readReplay_count.mp hphases
  obtain ⟨value', rfl, hvalue'⟩ := readReplay_count.mp hvalidations
  obtain ⟨present, htail⟩ := (s.recordTail_accepts index head markers phases validations _).mp
    ⟨record, h6⟩
  refine ⟨⟨phases, validations, present⟩, matches_append.mpr ⟨l1, _, rfl,
    (s.recordHead_accepts index l1).mp ⟨head, hhead⟩, ?_⟩⟩
  refine matches_append.mpr ⟨_ :: l4, _, rfl, matches_cons.mpr ⟨_, l4, rfl, ⟨rfl, hvalue⟩, ?_⟩,
    matches_cons.mpr ⟨_, _, rfl, ⟨rfl, hvalue'⟩, htail⟩⟩
  exact (accepts_forRange (phaseFields_accepts index) 0 phases l4).mp ⟨markers, hmarkers⟩

theorem recordFields_reads_or {index : ℕ} {shape : RecordShape} {ls : List Line}
    (h : Matches (s.recordPattern index shape) ls) :
    (∃ record, (s.recordFields layout index).Reads ls record) ∨
      ∀ c : Cursor Line, ∀ rest, c.rest = ls ++ rest →
        Faults Failure.Fatal (s.recordFields layout index) c := by
  obtain ⟨l1, r1, rfl, hhead, h1⟩ := matches_append.mp h
  obtain ⟨l2, r2, rfl, hphases, h2⟩ := matches_append.mp h1
  obtain ⟨⟨k, value⟩, l4, rfl, ⟨hk, hvalue⟩, hmarkers⟩ := matches_cons.mp hphases
  obtain ⟨⟨k', value'⟩, r6, rfl, ⟨hk', hvalue'⟩, htail⟩ := matches_cons.mp h2
  obtain rfl : k = _ := hk
  obtain rfl : k' = _ := hk'
  have hbegins : ∀ (c : Cursor Line) (rest : List Line),
      c.rest = l1 ++ (((s!"record.{index}.phase_count", value) :: l4) ++
        ((s!"record.{index}.validation_count", value') :: r6)) ++ rest →
      Begins (s.recordHeadPattern index) c.rest ((s!"record.{index}.phase_count", value) ::
        (l4 ++ ((s!"record.{index}.validation_count", value') :: (r6 ++ rest)))) := by
    intro c rest hsplit
    refine ⟨l1, ?_, hhead⟩
    simpa only [List.append_assoc, List.cons_append] using hsplit
  rcases Nat.lt_or_ge layout.limit (layout.phaseMarker * shape.phases) with hlt | hphaseFit
  · refine Or.inr fun c rest hsplit => (s.recordFields_faults_iff layout index c).mpr ?_
    exact ⟨_, hbegins c rest hsplit, value, _, shape.phases, rfl, hvalue, Or.inl hlt⟩
  rcases Nat.lt_or_ge layout.limit (layout.validationSummary * shape.validations) with hlt | hfit
  · refine Or.inr fun c rest hsplit => (s.recordFields_faults_iff layout index c).mpr ?_
    exact ⟨_, hbegins c rest hsplit, value, _, shape.phases, rfl, hvalue, Or.inr ⟨hphaseFit, _,
      ⟨l4, rfl, hmarkers⟩, value', _, shape.validations, rfl, hvalue', Or.inl hlt⟩⟩
  obtain ⟨head, hhead⟩ := (s.recordHead_accepts index l1).mpr hhead
  obtain ⟨markers, hmarkers⟩ :=
    (accepts_forRange (phaseFields_accepts index) 0 shape.phases l4).mpr hmarkers
  obtain ⟨record, hrecord⟩ := (s.recordTail_accepts index head markers shape.phases
    shape.validations r6).mpr ⟨shape.snapshot, htail⟩
  refine Or.inl ⟨record, ?_⟩
  rw [recordFields_eq]
  refine bind_reads.mpr ⟨l1, _, head, rfl, hhead, ?_⟩
  refine bind_reads.mpr ⟨[_], _, shape.phases, rfl, readReplay_count.mpr ⟨value, rfl, hvalue⟩, ?_⟩
  refine bind_reads.mpr ⟨[], _, (), rfl, lift_reads.mpr ⟨rfl, withCapacity_eq_ok.mpr hphaseFit⟩, ?_⟩
  refine bind_reads.mpr ⟨l4, _, markers, rfl, hmarkers, ?_⟩
  refine bind_reads.mpr ⟨[_], _, shape.validations, rfl,
    readReplay_count.mpr ⟨value', rfl, hvalue'⟩, ?_⟩
  exact bind_reads.mpr ⟨[], _, (), rfl, lift_reads.mpr ⟨rfl, withCapacity_eq_ok.mpr hfit⟩, hrecord⟩

/- The records end without a result where their count overflows, or one of them does. -/
theorem countedRecords_faults_iff (metadata : ℕ → ReplayArtifactMetadata) (c : Cursor Line) :
    Faults Failure.Fatal (readReplay "record_count"
      (parseNumber fromStrUsize "replay" "record count") >>= fun count =>
        lift (withCapacity layout layout.record count) >>= fun _ =>
          forRange (s.recordFields layout) 0 count >>= fun records =>
            pure (ReplayArtifact.mk (metadata count) records)) c ↔
      Overflows layout layout.record "record_count" (fun count rest =>
        ∃ shapes : List RecordShape, shapes.length < count ∧ ∃ mid,
          Begins (writeFrom s.recordPattern 0 shapes) rest mid ∧
            s.RecordOverflows layout (0 + shapes.length) mid) c.rest := by
  refine faults_counted faultless_readReplay
    (fun v n => by simp only [orFail_eq_ok, parseNumber, mapError_eq_ok]) fun count c => ?_
  rw [faults_before fun records => faultless_pure _]
  exact faults_forRange_pattern (fun _ _ _ h => s.recordFields_matches layout h)
    (fun _ _ _ h => s.recordFields_reads_or layout h) (s.recordFields_faults_iff layout)

theorem begins_recordsPattern {count : ℕ} {shapes : List RecordShape} {ls mid : List Line} :
    Begins (s.recordsPattern count shapes) ls mid ↔
      ∃ rest, Begins (s.headPattern ++ [LineOf "record_count" (fromStrUsize · = .ok count)])
        ls rest ∧ Begins (writeFrom s.recordPattern 0 shapes) rest mid := by
  rw [recordsPattern, ← List.singleton_append, ← List.append_assoc, begins_append]

theorem fields_faults_iff {ls : List Line} :
    Faults Failure.Fatal (s.fields layout) (Cursor.start ls) ↔ ¬ s.CountsFit layout ls := by
  rw [fields_eq, faults_after_pattern s.headFields_faultless s.headFields_accepts
    (s.countedRecords_faults_iff layout), begins_overflows]
  simp only [Nat.zero_add, recordOverflows_iff]
  constructor
  · rintro (⟨count, hcount, hlt⟩ | ⟨count, rest, hrest, shapes, hshapes, mid, hmid, h⟩) hfit
    · exact absurd (hfit.records count hcount) (Nat.not_le.mpr hlt)
    have hbefore : Begins (s.recordsPattern count shapes) ls mid :=
      s.begins_recordsPattern.mpr ⟨rest, hrest, hmid⟩
    rcases h with ⟨phases, hphases, hlt⟩ | ⟨phases, validations, hvalidations, hlt⟩
    · exact absurd (hfit.phases count shapes phases hshapes
        (countAt_append.mpr ⟨mid, hbefore, hphases⟩)) (Nat.not_le.mpr hlt)
    · exact absurd (hfit.validations count shapes phases validations hshapes
        (countAt_append.mpr ⟨mid, hbefore, hvalidations⟩)) (Nat.not_le.mpr hlt)
  · intro hnot
    by_contra hfaultless
    rw [not_or] at hfaultless
    obtain ⟨hcounted, hrecord⟩ := hfaultless
    refine hnot ⟨fun count hcount => ?_, fun count shapes phases hshapes hcount => ?_,
      fun count shapes phases validations hshapes hcount => ?_⟩
    · by_contra hlt
      exact hcounted ⟨count, hcount, Nat.lt_of_not_le hlt⟩
    · obtain ⟨mid, hbefore, hphases⟩ := countAt_append.mp hcount
      obtain ⟨rest, hrest, hmid⟩ := s.begins_recordsPattern.mp hbefore
      by_contra hlt
      exact hrecord ⟨count, rest, hrest, shapes, hshapes, mid, hmid,
        .inl ⟨phases, hphases, Nat.lt_of_not_le hlt⟩⟩
    · obtain ⟨mid, hbefore, hvalidations⟩ := countAt_append.mp hcount
      obtain ⟨rest, hrest, hmid⟩ := s.begins_recordsPattern.mp hbefore
      by_contra hlt
      exact hrecord ⟨count, rest, hrest, shapes, hshapes, mid, hmid,
        .inr ⟨phases, validations, hvalidations, Nat.lt_of_not_le hlt⟩⟩

end ReplayArtifactSerializer

/-! ### Both importers -/

/- A format that stops where its counts do not fit. -/
theorem readAll_returns_iff {α : Type} {fields : Reader Line Failure α} {bytes : Bytes}
    {label : String} {wrap : CanonicalError → Failure} {fit : List Line → Prop}
    (hwrap : ∀ e, ¬ (wrap e).Fatal)
    (hfields : ∀ ls, Faults Failure.Fatal fields (Cursor.start ls) ↔ ¬ fit ls) :
    (¬ ∃ f, readAll bytes label wrap fields = .error f ∧ f.Fatal) ↔
      ∀ reader, CanonicalLineReader.new bytes label = .ok reader → fit reader.rest := by
  have hstart : ∀ reader, CanonicalLineReader.new bytes label = .ok reader →
      (Faults Failure.Fatal fields reader ↔ ¬ fit reader.rest) := by
    intro reader hnew
    obtain ⟨ls, -, -, rfl, -⟩ := reader_new_sound hnew
    exact hfields ls
  rw [readAll_faults hwrap]
  constructor
  · intro h reader hnew
    by_contra hfit
    exact h ⟨reader, hnew, (hstart reader hnew).mpr hfit⟩
  · rintro h ⟨reader, hnew, hfault⟩
    exact (hstart reader hnew).mp hfault (h reader hnew)

/- What is checked after a file has been read reports errors. -/
theorem replay_decode_faults {C Snapshot : Type} {s : ReplayArtifactSerializer C Snapshot}
    {layout : Layout} {bytes : Bytes} {bad : Failure → Prop} (hbad : ∀ e, ¬ bad (.error e)) :
    (∃ f, s.decode layout bytes = .error f ∧ bad f) ↔
      ∃ f, readAll bytes ReplayArtifactSerializer.label ReplayArtifactSerializer.replayCorrupted
        (s.fields layout) = .error f ∧ bad f := by
  unfold ReplayArtifactSerializer.decode
  cases hread : readAll bytes ReplayArtifactSerializer.label
      ReplayArtifactSerializer.replayCorrupted (s.fields layout) with
  | error f => exact Iff.rfl
  | ok artifact =>
    rw [ok_bind]
    constructor
    · rintro ⟨f, hf, hfault⟩
      cases hshape : orFail (validateReplayArtifactShape artifact) with
      | error f' =>
        rw [hshape] at hf
        obtain rfl : f' = f := Except.error.inj hf
        obtain ⟨e, -, rfl⟩ := orFail_eq_error.mp hshape
        exact absurd hfault (hbad e)
      | ok u =>
        rw [hshape] at hf
        cases hf
    · rintro ⟨f, hf, -⟩
      cases hf

/- Reading comes back exactly when every count that follows well-formed lines can be
allocated. -/
theorem importers_return_iff {C Snapshot C' Config : Type}
    (replay : ReplayArtifactSerializer C Snapshot)
    (scenario : SimulationScenarioSerializer C' Config) (layout : Layout) (bytes : Bytes) :
    (Returns (replay.decode layout bytes) ↔
      ∀ reader, CanonicalLineReader.new bytes "replay artifact" = .ok reader →
        replay.CountsFit layout reader.rest) ∧
    (Returns (scenario.decode layout bytes) ↔
      ∀ reader, CanonicalLineReader.new bytes "scenario artifact" = .ok reader →
        scenario.CountsFit layout reader.rest) := by
  constructor
  · rw [returns_iff, replay_decode_faults error_not_fatal]
    exact readAll_returns_iff (fun _ => error_not_fatal _)
      fun _ => replay.fields_faults_iff layout
  · rw [returns_iff]
    exact readAll_returns_iff (fun _ => error_not_fatal _)
      fun _ => scenario.fields_faults_iff layout

/-! ### A count no allocation has -/

theorem headLines_clean (m : ReplayArtifactMetadata) :
    ∀ l ∈ ReplayArtifactSerializer.headLines m, Clean l := by
  have hline : ∀ {kind : FieldKind} {key v : String}, GoodKey kind key → CleanText v →
      Clean (key, v) := fun hk hv => clean_of_goodKey hk hv
  have hpolicy := ReplayArtifactSerializer.spells_replayPolicy.clean m.snapshotPolicy trivial
  simp only [ReplayArtifactSerializer.headLines, List.forall_mem_cons, List.not_mem_nil,
    IsEmpty.forall_iff, implies_true, and_true]
  exact ⟨@hline .text _ _ (by decide) (by decide), @hline .text _ _ (by decide) (by decide),
    @hline .text _ _ (by decide) (cleanText_u32 _), @hline .hex _ _ (by decide) (encodeHex_clean _),
    @hline .text _ _ (by decide) (cleanText_u64 _), @hline .text _ _ (by decide) (cleanText_u64 _),
    @hline .text _ _ (by decide) hpolicy, @hline .text _ _ (by decide) (cleanText_u32 _),
    @hline .text _ _ (by decide) (cleanText_u64 _), @hline .text _ _ (by decide) (cleanText_u32 _),
    @hline .text _ _ (by decide) (cleanText_u32 _), @hline .text _ _ (by decide) (cleanText_nat _)⟩

/- What is written before the records are well-formed lines, then the count. -/
theorem headLines_begin {C Snapshot : Type} {s : ReplayArtifactSerializer C Snapshot}
    {m : ReplayArtifactMetadata} (hown : s.OwnMetadata m) :
    Begins s.headPattern (ReplayArtifactSerializer.headLines m)
      [("record_count", toString m.recordCount)] := by
  have hu32 : ∀ n : UInt32, fromStrU32 (toString n) = .ok n :=
    fun n => spells_u32.parse_print n trivial
  have hu64 : ∀ n : UInt64, Parses fromStrU64 (toString n) :=
    fun n => ⟨n, spells_u64.parse_print n trivial⟩
  refine begins_cons.mpr ⟨_, _, rfl, ⟨rfl, rfl⟩, begins_cons.mpr ⟨_, _, rfl, ⟨rfl, rfl⟩, ?_⟩⟩
  refine begins_cons.mpr ⟨_, _, rfl, ⟨rfl, ?_⟩, begins_cons.mpr ⟨_, _, rfl, ⟨rfl, ?_⟩, ?_⟩⟩
  · rw [hown.version]
    exact hu32 _
  · rw [hown.family]
    exact decodeHexString_encodeHex _ _
  refine begins_cons.mpr ⟨_, _, rfl, ⟨rfl, hu64 _⟩, begins_cons.mpr ⟨_, _, rfl, ⟨rfl, hu64 _⟩, ?_⟩⟩
  refine begins_cons.mpr ⟨_, _, rfl, ⟨rfl, m.snapshotPolicy,
    ReplayArtifactSerializer.spells_replayPolicy.parse_print _ trivial⟩, ?_⟩
  refine begins_cons.mpr ⟨_, _, rfl, ⟨rfl, _, hu32 _⟩,
    begins_cons.mpr ⟨_, _, rfl, ⟨rfl, hu64 _⟩, ?_⟩⟩
  refine begins_cons.mpr ⟨_, _, rfl, ⟨rfl, ?_⟩,
    begins_cons.mpr ⟨_, _, rfl, ⟨rfl, ?_⟩, begins_nil.mpr rfl⟩⟩
  · rw [hown.command]
    exact hu32 _
  · rw [hown.snapshot]
    exact hu32 _

/- A replay of no records that announces `usize::MAX` of them, whatever a record takes and
whatever is granted. -/
theorem oversized_record_count_panics : ∃ bytes : Bytes, ∀ layout : Layout, 0 < layout.record →
    counterReplayArtifactCodec.decode layout bytes = .error (.panicked "capacity overflow") := by
  let m := (miscountedReplay USIZE_MAX).metadata
  refine ⟨CanonicalLineWriter.finish (ReplayArtifactSerializer.headLines m),
    fun layout hsize => ?_⟩
  have hlt : ISIZE_MAX < layout.record * USIZE_MAX :=
    calc ISIZE_MAX < USIZE_MAX := by decide
      _ ≤ layout.record * USIZE_MAX := Nat.le_mul_of_pos_left _ hsize
  have hpanic : withCapacity layout layout.record USIZE_MAX =
      .error (.panicked "capacity overflow") := by
    rw [withCapacity, rejectIf, if_pos hlt]
    rfl
  have hown : counterReplayArtifactCodec.OwnMetadata m := ⟨rfl, rfl, rfl, rfl⟩
  obtain ⟨p, hsplit, hmatch⟩ := headLines_begin hown
  obtain ⟨metadata, hhead⟩ := (counterReplayArtifactCodec.headFields_accepts p).mpr hmatch
  have hcount : (ReplayArtifactSerializer.readReplay "record_count"
      (parseNumber fromStrUsize "replay" "record count")).Reads
        [("record_count", toString USIZE_MAX)] USIZE_MAX :=
    ReplayArtifactSerializer.readReplay_count.mpr
      ⟨_, rfl, spells_usize.parse_print USIZE_MAX (le_refl _)⟩
  have hfault : Faults (· = .panicked "capacity overflow")
      (counterReplayArtifactCodec.fields layout)
      (Cursor.start (ReplayArtifactSerializer.headLines m)) := by
    rw [ReplayArtifactSerializer.fields_eq]
    refine faults_bind.mpr (Or.inr ⟨p, _, metadata, hsplit, hhead, ?_⟩)
    refine faults_bind.mpr (Or.inr ⟨_, [], USIZE_MAX, rfl, hcount, ?_⟩)
    exact faults_check.mpr (Or.inl ⟨_, hpanic, rfl⟩)
  have hnew := reader_new_finish (List.cons_ne_nil _ _) (headLines_clean m)
    ReplayArtifactSerializer.label
  have hread := (@readAll_faults _ ReplayArtifactSerializer.replayCorrupted _ _ _ _
    (by rintro e ⟨⟩)).mpr ⟨_, hnew, hfault⟩
  obtain ⟨_, hdecode, rfl⟩ := (replay_decode_faults (by rintro e ⟨⟩)).mpr hread
  exact hdecode

end XenorEngine.Rust
