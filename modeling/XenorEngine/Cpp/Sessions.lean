import XenorEngine.Cpp.StepGuarantees

/-!
# Several engines, one set of checkpoints

A host runs engines that were built alike, saves their states and puts what it saved
into any of them, in whatever order. What each engine has come to is said by a plain
list: the inputs that a fresh engine would have to run to get there.
-/

namespace XenorEngine.Cpp
open XenorEngine.Lib.Fallible

/-- A saved state, in either form. -/
inductive Checkpoint (Payload Data : Type)
  | snapshot (snapshot : SimulationSnapshot Data)
  | boundary (boundary : SnapshotBoundary Payload)

/-- A call on one of the engines; `restore` takes a checkpoint by its number. -/
inductive SessionCall (Replica Input : Type)
  | enableReplayCapture (replica : Replica)
  | disableReplayCapture (replica : Replica)
  | clearReplayTrace (replica : Replica)
  | runForSequence (replica : Replica) (inputs : List Input)
  | captureSnapshot (replica : Replica)
  | captureSnapshotBoundary (replica : Replica)
  | restore (replica : Replica) (checkpoint : ℕ)

/-! ### The engines -/

/-- `object` is the one adapter object of the host. -/
structure Session (Replica Adapter Payload Data Input : Type) where
  engines : Replica → SimulationEngine Data Input
  object : Adapter
  checkpoints : List (Checkpoint Payload Data)

namespace Session
variable {Replica Adapter Payload Data Input : Type} [DecidableEq Replica]

def new (engine : SimulationEngine Data Input) (object : Adapter) :
    Session Replica Adapter Payload Data Input := ⟨fun _ => engine, object, []⟩

def set (session : Session Replica Adapter Payload Data Input) (replica : Replica)
    (engine : SimulationEngine Data Input) : Session Replica Adapter Payload Data Input :=
  { session with engines := Function.update session.engines replica engine }

def save (session : Session Replica Adapter Payload Data Input)
    (checkpoint : Checkpoint Payload Data) : Session Replica Adapter Payload Data Input :=
  { session with checkpoints := session.checkpoints ++ [checkpoint] }

variable (adapter : SnapshotStateAdapter Adapter Payload Data)

/-- What a call leaves behind, whether it returns or throws. -/
def after (session : Session Replica Adapter Payload Data Input) :
    SessionCall Replica Input → Session Replica Adapter Payload Data Input
  | .enableReplayCapture replica => session.set replica (session.engines replica).enableReplayCapture
  | .disableReplayCapture replica => session.set replica (session.engines replica).disableReplayCapture
  | .clearReplayTrace replica => session.set replica (session.engines replica).clearReplayTrace
  | .runForSequence replica inputs =>
    session.set replica
      (endState (SimulationEngine.runForSequence inputs (session.engines replica)))
  | .captureSnapshot replica =>
    match (session.engines replica).captureSnapshot with
    | .ok snapshot => session.save (.snapshot snapshot)
    | .error _ => session
  | .captureSnapshotBoundary replica =>
    match (session.engines replica).captureSnapshotBoundary adapter session.object with
    | .ok boundary object => { session with object := object }.save (.boundary boundary)
    | .error _ object => { session with object := object }
  | .restore replica checkpoint =>
    match session.checkpoints[checkpoint]? with
    | none => session
    | some (.snapshot snapshot) =>
      session.set replica (endState (SimulationEngine.restoreSnapshot snapshot
        (session.engines replica)))
    | some (.boundary boundary) =>
      let restored := endState (SimulationEngine.restoreSnapshotBoundary boundary adapter
        (session.engines replica, session.object))
      { session with object := restored.2 }.set replica restored.1

def afterAll (session : Session Replica Adapter Payload Data Input)
    (calls : List (SessionCall Replica Input)) : Session Replica Adapter Payload Data Input :=
  calls.foldl (after adapter) session

end Session

/-! ### The histories -/

/-- The inputs that lead to each engine, and to each checkpoint. -/
structure Histories (Replica Input : Type) where
  current : Replica → List Input
  saved : List (List Input)

namespace Histories
variable {Replica Input : Type} [DecidableEq Replica]

def new : Histories Replica Input := ⟨fun _ => [], []⟩

/-- A tick whose elapsed duration does not fit is not run. -/
def extend (config : SimulationConfig) (history : List Input) (input : Input) : List Input :=
  if config.Representable (history.length + 1) then history ++ [input] else history

def set (histories : Histories Replica Input) (replica : Replica) (history : List Input) :
    Histories Replica Input :=
  { histories with current := Function.update histories.current replica history }

def save (histories : Histories Replica Input) (history : List Input) :
    Histories Replica Input := { histories with saved := histories.saved ++ [history] }

def after (config : SimulationConfig) (histories : Histories Replica Input) :
    SessionCall Replica Input → Histories Replica Input
  | .enableReplayCapture _ | .disableReplayCapture _ | .clearReplayTrace _ => histories
  | .runForSequence replica inputs =>
    histories.set replica (inputs.foldl (extend config) (histories.current replica))
  | .captureSnapshot replica | .captureSnapshotBoundary replica =>
    histories.save (histories.current replica)
  | .restore replica checkpoint =>
    match histories.saved[checkpoint]? with
    | none => histories
    | some history => histories.set replica history

def afterAll (config : SimulationConfig) (histories : Histories Replica Input)
    (calls : List (SessionCall Replica Input)) : Histories Replica Input :=
  calls.foldl (after config) histories

end Histories

/-! ### Runs of a history -/

namespace SimulationEngine
variable {Data Input : Type}

/-- `engine` has not run yet and its systems do not throw on an input. -/
structure Fresh (engine : SimulationEngine Data Input) : Prop where
  clock : engine.clock.currentTick = 0
  aligned : engine.Aligned
  quiet : ∀ system ∈ engine.systems, system.ReturnsOnInput

/-- But for its trace, `other` is what `engine` becomes by running `history`. -/
structure Reaches (engine other : SimulationEngine Data Input) (history : List Input) : Prop where
  fits : engine.config.Representable history.length
  run : ∃ last, runForSequence history engine = .ok () last ∧ other.untraced = last.untraced

section Reaches
variable {engine other : SimulationEngine Data Input} {history : List Input}

theorem Fresh.advanced (hfresh : engine.Fresh) (hreaches : engine.Reaches other history) :
    ∃ last, runForSequence history engine = .ok () last ∧ other.untraced = last.untraced ∧
      Advanced history.length engine last := by
  have hzero : engine.clock.currentTick.toNat = 0 := by
    rw [hfresh.clock]
    rfl
  obtain ⟨last, hrun, hlast⟩ := runForSequence_ok_on history hfresh.aligned hfresh.quiet
    (by rw [hzero, Nat.zero_add]; exact hreaches.fits)
  obtain ⟨last', hrun', hsame⟩ := hreaches.run
  rw [hrun] at hrun'
  injection hrun' with _ hlast'
  subst hlast'
  exact ⟨last, hrun, hsame, hlast⟩

theorem Fresh.tick (hfresh : engine.Fresh) (hreaches : engine.Reaches other history) :
    other.clock.currentTick.toNat = history.length := by
  obtain ⟨last, -, hsame, hlast⟩ := hfresh.advanced hreaches
  have hclock : other.clock.currentTick = last.clock.currentTick :=
    congrArg (fun e => e.clock.currentTick) hsame
  rw [hclock, hlast.tick, hfresh.clock]
  exact Nat.zero_add _

/- A step goes on with the history, or leaves engine and history as they are. -/
theorem Fresh.step (hfresh : engine.Fresh) (hreaches : engine.Reaches other history)
    (input : Input) :
    (∃ next, stepImpl (some input) other = .ok () next ∧
        engine.Reaches next (Histories.extend engine.config history input)) ∨
      (∃ exception, stepImpl (some input) other = .error exception other) ∧
        ¬engine.config.Representable (history.length + 1) := by
  have htick := hfresh.tick hreaches
  obtain ⟨last, hrun, hsame, hlast⟩ := hfresh.advanced hreaches
  have htick' : last.clock.currentTick.toNat = history.length := by
    rw [← htick]
    exact congrArg (fun e => e.clock.currentTick.toNat) hsame.symm
  have hconfig : other.config = engine.config :=
    (congrArg (·.config) hsame).trans hlast.setup.1
  have hsystems : other.systems = engine.systems :=
    (congrArg (·.systems) hsame).trans hlast.setup.2
  have hstep {e : SimulationEngine Data Input} (hsetup : engine.SameSetup e)
      (he : e.clock.currentTick.toNat = history.length)
      (hfit : engine.config.Representable (history.length + 1)) :
      ∃ next, stepImpl (some input) e = .ok () next := by
    obtain ⟨next, hnext, -⟩ := stepImpl_ok_at (some input)
      (fun system hsystem => hfresh.quiet system (hsetup.2 ▸ hsystem) _
        (Option.some_ne_none input)) (by rw [he, hsetup.1]; exact hfit)
    exact ⟨next, hnext⟩
  by_cases hfit : engine.config.Representable (history.length + 1)
  · left
    obtain ⟨next, hnext⟩ := hstep ⟨hconfig, hsystems⟩ htick hfit
    obtain ⟨next', hnext'⟩ := hstep hlast.setup htick' hfit
    have huntraced : next.untraced = next'.untraced := by
      have huntraced := stepImpl_untraced (some input) other
      have huntraced' := stepImpl_untraced (some input) last
      rw [hsame, huntraced', hnext, hnext'] at huntraced
      injection huntraced with _ heq
      exact heq.symm
    refine ⟨next, hnext, ?_, next', ?_, huntraced⟩
    · rw [Histories.extend, if_pos hfit, List.length_append]
      exact hfit
    · rw [Histories.extend, if_pos hfit, runForSequence_append]
      exact estate_bind_ok.mpr ⟨(), last, hrun,
        estate_bind_ok.mpr ⟨(), next', hnext', rfl⟩⟩
  · right
    have hrejected : ¬other.config.Representable (other.clock.currentTick.toNat + 1) := by
      rwa [htick, hconfig]
    obtain ⟨what, hthrows⟩ := stepImpl_of_not_representable (some input) hrejected
    exact ⟨⟨_, hthrows⟩, hfit⟩

theorem foldl_extend_of_not {config : SimulationConfig} {history : List Input}
    (hfit : ¬config.Representable (history.length + 1)) (inputs : List Input) :
    inputs.foldl (Histories.extend config) history = history := by
  induction inputs with
  | nil => rfl
  | cons input inputs ih =>
    rw [List.foldl_cons, Histories.extend, if_neg hfit]
    exact ih

/- A run stops at the first tick that does not fit, and so does the history. -/
theorem Fresh.runForSequence (hfresh : engine.Fresh) (hreaches : engine.Reaches other history)
    (inputs : List Input) :
    engine.Reaches (endState (runForSequence inputs other))
      (inputs.foldl (Histories.extend engine.config) history) := by
  induction inputs generalizing other history with
  | nil => exact hreaches
  | cons input inputs ih =>
    rw [List.foldl_cons]
    rcases hfresh.step hreaches input with ⟨next, hnext, hmore⟩ | ⟨⟨exception, hthrows⟩, hfit⟩
    · have hrest := ih hmore
      have hcons : SimulationEngine.runForSequence (input :: inputs) other =
          SimulationEngine.runForSequence inputs next := by
        change EStateM.bind (stepImpl (some input)) _ other = _
        unfold EStateM.bind
        rw [hnext]
        rfl
      rwa [hcons]
    · have hcons : SimulationEngine.runForSequence (input :: inputs) other =
          .error exception other :=
        estate_bind_error.mpr (.inl hthrows)
      rw [hcons, Histories.extend, if_neg hfit, foldl_extend_of_not hfit]
      exact hreaches

end Reaches

theorem Fresh.reaches_nil {engine : SimulationEngine Data Input} (hfresh : engine.Fresh) :
    engine.Reaches engine [] := by
  refine ⟨?_, engine, rfl, rfl⟩
  have hfits := hfresh.aligned.elapsed_fits
  rw [hfresh.clock] at hfits
  exact hfits

theorem reaches_of_untraced {engine other other' : SimulationEngine Data Input}
    {history : List Input} (hreaches : engine.Reaches other history)
    (hsame : other'.untraced = other.untraced) : engine.Reaches other' history := by
  obtain ⟨last, hrun, hlast⟩ := hreaches.run
  exact ⟨hreaches.fits, last, hrun, hsame.trans hlast⟩

/-! ### Checkpoints of a history -/

section Checkpoint
variable {Adapter Payload : Type} {adapter : SnapshotStateAdapter Adapter Payload Data}
  {engine other : SimulationEngine Data Input} {history : List Input}

/-- What was saved of the engine that had run `history`. -/
def Saves (adapter : SnapshotStateAdapter Adapter Payload Data)
    (engine : SimulationEngine Data Input) (history : List Input)
    (checkpoint : Checkpoint Payload Data) : Prop :=
  ∃ source, engine.Reaches source history ∧
    match checkpoint with
    | .snapshot snapshot => source.captureSnapshot = .ok snapshot
    | .boundary boundary =>
      ∃ object object', source.captureSnapshotBoundary adapter object = .ok boundary object'

theorem Fresh.source (hfresh : engine.Fresh) (hreaches : engine.Reaches other history) :
    other.Aligned ∧ engine.SameSetup other := by
  obtain ⟨last, -, hsame, hlast⟩ := hfresh.advanced hreaches
  have hstate : other.untraced.state.lastCompletedTick = other.untraced.clock.currentTick := by
    rw [hsame]
    exact hlast.aligned.state_tick
  have hfits : other.untraced.Fits := by
    rw [hsame]
    exact hlast.aligned.elapsed_fits
  exact ⟨⟨hstate, hfits⟩, (congrArg (·.config) hsame).trans hlast.setup.1,
    (congrArg (·.systems) hsame).trans hlast.setup.2⟩

theorem Fresh.sameSetup {source : SimulationEngine Data Input} {history' : List Input}
    (hfresh : engine.Fresh) (hsource : engine.Reaches source history')
    (hreaches : engine.Reaches other history) : source.SameSetup other := by
  obtain ⟨-, hconfig, hsystems⟩ := hfresh.source hsource
  obtain ⟨-, hconfig', hsystems'⟩ := hfresh.source hreaches
  exact ⟨hconfig'.trans hconfig.symm, hsystems'.trans hsystems.symm⟩

/- A snapshot goes into any of the engines, and brings its history with it. -/
theorem Fresh.restoreSnapshot {snapshot : SimulationSnapshot Data} {history' : List Input}
    (hfresh : engine.Fresh) (hsaves : Saves adapter engine history' (.snapshot snapshot))
    (hreaches : engine.Reaches other history) :
    engine.Reaches (endState (restoreSnapshot snapshot other)) history' := by
  obtain ⟨source, hsource, hcaptured⟩ := hsaves
  obtain ⟨back, hrestore, hback⟩ := restoreSnapshot_captured (hfresh.source hsource).1
    (hfresh.sameSetup hsource hreaches) hcaptured
  rw [hrestore]
  exact reaches_of_untraced hsource hback

theorem Fresh.restoreSnapshotBoundary {boundary : SnapshotBoundary Payload}
    {history' : List Input} (hfresh : engine.Fresh) (hfaithful : adapter.Faithful)
    (hsaves : Saves adapter engine history' (.boundary boundary))
    (hreaches : engine.Reaches other history) (object : Adapter) :
    engine.Reaches (endState (restoreSnapshotBoundary boundary adapter (other, object))).1
      history' := by
  obtain ⟨source, hsource, object', object'', hcaptured⟩ := hsaves
  obtain ⟨boundary', _, hmade, hrestores⟩ :=
    restoreSnapshotBoundary_captured (hfresh.source hsource).1 hfaithful object'
  rw [hcaptured] at hmade
  injection hmade with hsame
  subst hsame
  obtain ⟨back, _, hrestore, hback⟩ :=
    hrestores other object (hfresh.sameSetup hsource hreaches)
  rw [hrestore]
  exact reaches_of_untraced hsource hback

end Checkpoint

end SimulationEngine

/-! ### The engines follow their histories -/

namespace Session
variable {Replica Adapter Payload Data Input : Type} [DecidableEq Replica]
  {adapter : SnapshotStateAdapter Adapter Payload Data} {engine : SimulationEngine Data Input}

structure Follows (adapter : SnapshotStateAdapter Adapter Payload Data)
    (engine : SimulationEngine Data Input)
    (session : Session Replica Adapter Payload Data Input) (histories : Histories Replica Input) :
    Prop where
  engines : ∀ replica, engine.Reaches (session.engines replica) (histories.current replica)
  checkpoints : List.Forall₂ (SimulationEngine.Saves adapter engine) histories.saved
    session.checkpoints

section Follows
variable {session : Session Replica Adapter Payload Data Input}
  {histories : Histories Replica Input}

theorem Follows.set (h : Follows adapter engine session histories) {replica : Replica}
    {other : SimulationEngine Data Input} {history : List Input}
    (hreaches : engine.Reaches other history) :
    Follows adapter engine (session.set replica other) (histories.set replica history) := by
  refine ⟨fun replica' => ?_, h.checkpoints⟩
  change engine.Reaches (Function.update session.engines replica other replica')
    (Function.update histories.current replica history replica')
  by_cases hsame : replica' = replica
  · subst hsame
    rwa [Function.update_self, Function.update_self]
  · rw [Function.update_of_ne hsame, Function.update_of_ne hsame]
    exact h.engines replica'

/- A call that the engine's history does not see. -/
theorem Follows.control (h : Follows adapter engine session histories) {replica : Replica}
    {other : SimulationEngine Data Input}
    (hsame : other.untraced = (session.engines replica).untraced) :
    Follows adapter engine (session.set replica other) histories := by
  have hset : histories.set replica (histories.current replica) = histories := by
    unfold Histories.set
    rw [Function.update_eq_self]
  rw [← hset]
  exact h.set (SimulationEngine.reaches_of_untraced (h.engines replica) hsame)

omit [DecidableEq Replica] in
theorem Follows.save (h : Follows adapter engine session histories)
    {checkpoint : Checkpoint Payload Data} {history : List Input}
    (hsaves : SimulationEngine.Saves adapter engine history checkpoint) :
    Follows adapter engine (session.save checkpoint) (histories.save history) :=
  ⟨h.engines, List.rel_append h.checkpoints (.cons hsaves .nil)⟩

omit [DecidableEq Replica] in
theorem Follows.object (h : Follows adapter engine session histories) (object : Adapter) :
    Follows adapter engine { session with object := object } histories :=
  ⟨h.engines, h.checkpoints⟩

/- Checkpoints and histories are numbered alike. -/
theorem getElem?_of_forall₂ {α β : Type} {R : α → β → Prop} {xs : List α} {ys : List β}
    (h : List.Forall₂ R xs ys) (k : ℕ) : xs[k]? = none ∧ ys[k]? = none ∨
      ∃ x y, xs[k]? = some x ∧ ys[k]? = some y ∧ R x y := by
  induction h generalizing k with
  | nil => exact .inl ⟨rfl, rfl⟩
  | cons hxy _ ih =>
    cases k with
    | zero => exact .inr ⟨_, _, rfl, rfl, hxy⟩
    | succ k => exact ih k

theorem Follows.after (h : Follows adapter engine session histories) (hfresh : engine.Fresh)
    (hfaithful : adapter.Faithful) (call : SessionCall Replica Input) :
    Follows adapter engine (session.after adapter call)
      (histories.after engine.config call) := by
  cases call with
  | enableReplayCapture replica => exact h.control rfl
  | disableReplayCapture replica => exact h.control rfl
  | clearReplayTrace replica => exact h.control rfl
  | runForSequence replica inputs => exact h.set (hfresh.runForSequence (h.engines replica) inputs)
  | captureSnapshot replica =>
    obtain ⟨haligned, -⟩ := hfresh.source (h.engines replica)
    obtain ⟨snapshot, hcaptured⟩ := SimulationEngine.captureSnapshot_of_aligned haligned
    simp only [Session.after, hcaptured]
    exact h.save ⟨_, h.engines replica, hcaptured⟩
  | captureSnapshotBoundary replica =>
    obtain ⟨haligned, -⟩ := hfresh.source (h.engines replica)
    obtain ⟨boundary, object, hcaptured, -⟩ :=
      SimulationEngine.restoreSnapshotBoundary_captured haligned hfaithful session.object
    simp only [Session.after, hcaptured]
    exact (h.object object).save ⟨_, h.engines replica, _, _, hcaptured⟩
  | restore replica checkpoint =>
    rcases getElem?_of_forall₂ h.checkpoints checkpoint with
      ⟨hnone, hnone'⟩ | ⟨history, saved, hhistory, hsaved, hsaves⟩
    · simp only [Session.after, Histories.after, hnone, hnone']
      exact h
    · simp only [Session.after, Histories.after, hhistory, hsaved]
      cases saved with
      | snapshot snapshot => exact h.set (hfresh.restoreSnapshot hsaves (h.engines replica))
      | boundary boundary =>
        exact (h.object _).set
          (hfresh.restoreSnapshotBoundary hfaithful hsaves (h.engines replica) session.object)

theorem Follows.afterAll (hfresh : engine.Fresh) (hfaithful : adapter.Faithful)
    (calls : List (SessionCall Replica Input))
    (h : Follows adapter engine session histories) :
    Follows adapter engine (session.afterAll adapter calls)
      (histories.afterAll engine.config calls) := by
  induction calls generalizing session histories with
  | nil => exact h
  | cons call calls ih => exact ih (h.after hfresh hfaithful call)

end Follows

theorem fresh_of_built {config : SimulationConfig} {initialState : SimulationState Data}
    (hbuilt : engine.Built config initialState)
    (hquiet : ∀ system ∈ engine.systems, system.ReturnsOnInput) : engine.Fresh :=
  ⟨(SimulationEngine.built_tick hbuilt).2.1, SimulationEngine.built_aligned hbuilt, hquiet⟩

omit [DecidableEq Replica] in
theorem Follows.new (hfresh : engine.Fresh) (object : Adapter) :
    Follows adapter engine (Session.new engine object : Session Replica Adapter Payload Data Input)
      Histories.new :=
  ⟨fun _ => hfresh.reaches_nil, .nil⟩

/- Whatever is run, saved and restored, and wherever: each engine is the fresh one after
its history, and each checkpoint is what such an engine saves. -/
theorem session_follows_histories {config : SimulationConfig}
    {initialState : SimulationState Data} (hbuilt : engine.Built config initialState)
    (hquiet : ∀ system ∈ engine.systems, system.ReturnsOnInput) (hfaithful : adapter.Faithful)
    (object : Adapter) (calls : List (SessionCall Replica Input)) :
    let session : Session Replica Adapter Payload Data Input :=
      (new engine object).afterAll adapter calls
    let histories := Histories.new.afterAll config calls
    List.Forall₂ (SimulationEngine.Saves adapter engine) histories.saved session.checkpoints ∧
      ∀ replica, config.Representable (histories.current replica).length ∧
        (session.engines replica).clock.currentTick.toNat = (histories.current replica).length ∧
        ∃ final, engine.RunsTo (histories.current replica) final ∧
          (session.engines replica).captureSnapshot = .ok final := by
  intro session histories
  have hfresh := fresh_of_built hbuilt hquiet
  have hconfig : engine.config = config := (SimulationEngine.built_tick hbuilt).1
  have hfollows : Follows adapter engine session histories := by
    have hnew : Follows adapter engine
        (Session.new engine object : Session Replica Adapter Payload Data Input) Histories.new :=
      Follows.new hfresh object
    have hall := hnew.afterAll hfresh hfaithful calls
    rwa [hconfig] at hall
  refine ⟨hfollows.checkpoints, fun replica => ?_⟩
  have hreaches := hfollows.engines replica
  obtain ⟨last, hrun, hsame, hlast⟩ := hfresh.advanced hreaches
  obtain ⟨final, hfinal⟩ := SimulationEngine.captureSnapshot_of_aligned hlast.aligned
  refine ⟨hconfig ▸ hreaches.fits, hfresh.tick hreaches, final, ⟨last, hrun, hfinal⟩, ?_⟩
  change (session.engines replica).untraced.captureSnapshot = _
  rw [hsame]
  exact hfinal

end Session

/-- The second engine goes on from a boundary of the first. -/
def handover : List (SessionCall Bool UInt64) :=
  [.runForSequence true [3], .captureSnapshotBoundary true, .runForSequence true [7],
    .restore false 0, .runForSequence false [4]]

open SimulationEngine in
theorem session_follows_histories_handover :
    ∃ final, drawing.RunsTo [3, 4] final ∧
      (((Session.new drawing ()).afterAll copying handover).engines false).captureSnapshot =
        .ok final := by
  have hhistory :
      (Histories.new.afterAll oneMillisecond handover).current false = [3, 4] := by
    decide +kernel
  obtain ⟨-, hreplica⟩ :=
    Session.session_follows_histories drawing_built drawing_quiet copying_faithful () handover
  obtain ⟨-, -, final, hruns, hcaptured⟩ := hreplica false
  rw [hhistory] at hruns
  exact ⟨final, hruns, hcaptured⟩

end XenorEngine.Cpp
