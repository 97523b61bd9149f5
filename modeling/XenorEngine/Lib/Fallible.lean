import Mathlib.Tactic

/-!
# Inversion of fallible computations

Peeling a successful `Except` or `EStateM` computation apart, one bind at a
time. `EStateM` keeps the state that was reached when a computation fails.
-/

namespace XenorEngine.Lib.Fallible

variable {ε ε' σ α β : Type}

@[simp] theorem bind_eq_ok {x : Except ε α} {f : α → Except ε β} {b : β} :
    (x >>= f) = .ok b ↔ ∃ a, x = .ok a ∧ f a = .ok b := by
  constructor
  · intro h
    cases x with
    | error e => cases h
    | ok a => exact ⟨a, rfl, h⟩
  · rintro ⟨a, rfl, h⟩
    exact h

@[simp] theorem pure_eq_ok {a b : α} : (pure a : Except ε α) = .ok b ↔ a = b := by
  constructor
  · intro h
    exact Except.ok.inj h
  · rintro rfl
    rfl

@[simp] theorem throw_ne_ok {e : ε} {b : β} : (throw e : Except ε β) ≠ .ok b := by
  intro h
  cases h

@[simp] theorem map_eq_ok {x : Except ε α} {f : α → β} {b : β} :
    (f <$> x) = .ok b ↔ ∃ a, x = .ok a ∧ f a = b := by
  cases x with
  | error e =>
    constructor
    · intro h
      cases h
    · rintro ⟨a, ha, -⟩
      cases ha
  | ok a =>
    constructor
    · intro h
      exact ⟨a, rfl, Except.ok.inj h⟩
    · rintro ⟨a', ha, rfl⟩
      rw [Except.ok.inj ha]
      rfl

@[simp] theorem mapError_eq_ok {x : Except ε α} {f : ε → ε'} {b : α} :
    x.mapError f = .ok b ↔ x = .ok b := by
  cases x <;> simp [Except.mapError]

/-- The early return of a check that fails. -/
def rejectIf (p : Prop) [Decidable p] (e : ε) : Except ε Unit := if p then throw e else pure ()

@[simp] theorem rejectIf_eq_ok {p : Prop} [Decidable p] {e : ε} {u : Unit} :
    rejectIf p e = .ok u ↔ ¬p := by
  unfold rejectIf
  by_cases h : p <;> simp [h]

theorem bind_eq_error {x : Except ε α} {f : α → Except ε β} {e : ε} :
    (x >>= f) = .error e ↔ x = .error e ∨ ∃ a, x = .ok a ∧ f a = .error e := by
  cases x with
  | error e' =>
    change Except.error e' = .error e ↔ _
    simp
  | ok a =>
    change f a = .error e ↔ _
    simp

theorem rejectIf_eq_error {p : Prop} [Decidable p] {e e' : ε} :
    rejectIf p e = .error e' ↔ p ∧ e' = e := by
  unfold rejectIf
  by_cases h : p
  · rw [if_pos h]
    change Except.error e = .error e' ↔ _
    simp [h, eq_comm]
  · rw [if_neg h]
    change Except.ok () = .error e' ↔ _
    simp [h]

/-- `if let Some(a) = x { check(a)?; }` -/
def ifPresent (x : Option α) (check : α → Except ε Unit) : Except ε Unit :=
  match x with
  | none => pure ()
  | some a => check a

@[simp] theorem ifPresent_eq_ok {x : Option α} {check : α → Except ε Unit} {u : Unit} :
    ifPresent x check = .ok u ↔ ∀ a ∈ x, check a = .ok u := by
  cases x <;> simp [ifPresent]

/-- A report that becomes an error. -/
@[simp] theorem ifPresent_throw_eq_ok {x : Option α} {e : α → ε} {u : Unit} :
    ifPresent x (fun a => (throw (e a) : Except ε Unit)) = .ok u ↔ x = none := by
  cases x <;> simp [ifPresent]

/- A check, then the rest. -/
theorem check_bind_eq_ok {x : Except ε Unit} {y : Except ε β} {b : β} :
    (x >>= fun _ => y) = .ok b ↔ x = .ok () ∧ y = .ok b := by
  rw [bind_eq_ok]
  constructor
  · rintro ⟨_, hx, hy⟩
    exact ⟨hx, hy⟩
  · rintro ⟨hx, hy⟩
    exact ⟨(), hx, hy⟩

/- A check, then a value. -/
theorem check_pure_eq_ok {x : Except ε Unit} {a b : α} :
    (x >>= fun _ => pure a) = .ok b ↔ x = .ok () ∧ b = a := by
  rw [bind_eq_ok]
  simp only [pure_eq_ok]
  constructor
  · rintro ⟨_, hx, rfl⟩
    exact ⟨hx, rfl⟩
  · rintro ⟨hx, rfl⟩
    exact ⟨(), hx, rfl⟩

/- A value, then a check on it. -/
theorem checked_eq_ok {x : Except ε α} {check : α → Except ε Unit} {a : α} :
    (x >>= fun a => check a >>= fun _ => pure a) = .ok a ↔ x = .ok a ∧ check a = .ok () := by
  rw [bind_eq_ok]
  constructor
  · rintro ⟨b, hx, hb⟩
    obtain ⟨hc, rfl⟩ := check_pure_eq_ok.mp hb
    exact ⟨hx, hc⟩
  · rintro ⟨hx, hc⟩
    exact ⟨a, hx, check_pure_eq_ok.mpr ⟨hc, rfl⟩⟩

@[simp] theorem forM_eq_ok {ε α : Type} {xs : List α} {f : α → Except ε Unit} {u : Unit} :
    xs.forM f = .ok u ↔ ∀ x ∈ xs, f x = .ok u := by
  induction xs with
  | nil => simp [List.forM, pure_eq_ok]
  | cons x xs ih =>
    change (f x >>= fun _ => xs.forM f) = _ ↔ _
    simp only [bind_eq_ok, ih, List.mem_cons, forall_eq_or_imp]
    constructor
    · rintro ⟨v, hx, hxs⟩
      exact ⟨hx, hxs⟩
    · rintro ⟨hx, hxs⟩
      exact ⟨u, hx, hxs⟩

@[simp] theorem ok_bind (a : α) (f : α → Except ε β) : (Except.ok a >>= f) = f a := rfl

@[simp] theorem error_bind (e : ε) (f : α → Except ε β) :
    (Except.error e >>= f) = .error e := rfl

/-! ### Computations with state -/

theorem estate_bind_ok {m : EStateM ε σ α} {f : α → EStateM ε σ β} {s t : σ} {b : β} :
    (m >>= f) s = .ok b t ↔ ∃ a s', m s = .ok a s' ∧ f a s' = .ok b t := by
  change EStateM.bind m f s = _ ↔ _
  unfold EStateM.bind
  cases hm : m s with
  | ok a s' =>
    simp only [EStateM.Result.ok.injEq]
    constructor
    · intro h
      exact ⟨a, s', ⟨rfl, rfl⟩, h⟩
    · rintro ⟨a', s'', ⟨rfl, rfl⟩, h⟩
      exact h
  | error e s' =>
    constructor
    · intro h
      cases h
    · rintro ⟨a, s'', h, -⟩
      cases h

theorem estate_bind_error {m : EStateM ε σ α} {f : α → EStateM ε σ β} {s t : σ} {e : ε} :
    (m >>= f) s = .error e t ↔
      m s = .error e t ∨ ∃ a s', m s = .ok a s' ∧ f a s' = .error e t := by
  change EStateM.bind m f s = _ ↔ _
  unfold EStateM.bind
  cases m s with
  | ok a s' => simp
  | error e' s' => simp

theorem estate_pure_ok {a b : α} {s t : σ} :
    (pure a : EStateM ε σ α) s = .ok b t ↔ a = b ∧ s = t := by
  change EStateM.Result.ok a s = _ ↔ _
  rw [EStateM.Result.ok.injEq]

theorem estate_get_ok {s t a : σ} :
    (get : EStateM ε σ σ) s = .ok a t ↔ a = s ∧ t = s := by
  change EStateM.Result.ok s s = _ ↔ _
  rw [EStateM.Result.ok.injEq, eq_comm, eq_comm (a := s) (b := t)]

theorem estate_modify_ok {f : σ → σ} {s t : σ} {u : PUnit} :
    (modify f : EStateM ε σ PUnit) s = .ok u t ↔ t = f s := by
  change EStateM.Result.ok PUnit.unit (f s) = _ ↔ _
  rw [EStateM.Result.ok.injEq, eq_comm (a := f s) (b := t)]
  simp

/-- The state a successful run ends in. -/
def okState {α : Type} : EStateM.Result ε σ α → Option σ
  | .ok _ s => some s
  | .error _ _ => none

theorem okState_eq_some {α : Type} {x : EStateM.Result ε σ α} {s : σ} :
    okState x = some s ↔ ∃ a, x = .ok a s := by
  cases x with
  | ok a t => simp [okState]
  | error e t => simp [okState]

theorem okState_isSome {α : Type} {x : EStateM.Result ε σ α} :
    (okState x).isSome = true ↔ ∃ a s, x = .ok a s := by
  rw [Option.isSome_iff_exists, exists_comm]
  simp only [okState_eq_some]

theorem okState_map_eq_some {α κ : Type} {x : EStateM.Result ε σ α} {f : σ → κ} {k : κ} :
    (okState x).map f = some k ↔ ∃ a s, x = .ok a s ∧ f s = k := by
  rw [Option.map_eq_some_iff, exists_comm]
  simp only [okState_eq_some, exists_and_right]

theorem toOption_eq_some {ε α : Type} {x : Except ε α} {a : α} :
    x.toOption = some a ↔ x = .ok a := by
  cases x <;> simp [Except.toOption]

/-- A computation that, when it succeeds, leaves what `f` reads of the state alone. -/
def Keeps {κ : Type} (f : σ → κ) (m : EStateM ε σ α) : Prop :=
  ∀ s a t, m s = .ok a t → f t = f s

/-- The state a run ends in, whether it succeeds or fails. -/
def endState {α : Type} : EStateM.Result ε σ α → σ
  | .ok _ s => s
  | .error _ s => s

@[simp] theorem endState_ok {α : Type} (a : α) (s : σ) :
    endState (.ok a s : EStateM.Result ε σ α) = s := rfl

@[simp] theorem endState_error {α : Type} (e : ε) (s : σ) :
    endState (.error e s : EStateM.Result ε σ α) = s := rfl

/-- What holds before the computation holds after it, also when it fails. -/
def Preserves (I : σ → Prop) (m : EStateM ε σ α) : Prop := ∀ s, I s → I (endState (m s))

/-- The same, asked only of the runs that fail. -/
def FailKeeps (I : σ → Prop) (m : EStateM ε σ α) : Prop :=
  ∀ s e t, I s → m s = .error e t → I t

section Preserves
variable {I : σ → Prop} {m : EStateM ε σ α} {f : α → EStateM ε σ β}

theorem preserves_pure (a : α) : Preserves I (pure a : EStateM ε σ α) := fun _ h => h

theorem preserves_get : Preserves I (get : EStateM ε σ σ) := fun _ h => h

theorem preserves_ok {s t : σ} {a : α} (hm : Preserves I m) (hs : I s) (h : m s = .ok a t) :
    I t := by
  have ht := hm s hs
  rwa [h] at ht

theorem preserves_error {s t : σ} {e : ε} (hm : Preserves I m) (hs : I s)
    (h : m s = .error e t) : I t := by
  have ht := hm s hs
  rwa [h] at ht

theorem preserves_bind (hm : Preserves I m) (hf : ∀ a, Preserves I (f a)) :
    Preserves I (m >>= f) := by
  intro s hs
  have h1 := hm s hs
  change I (endState (EStateM.bind m f s))
  unfold EStateM.bind
  cases hms : m s with
  | ok a s' =>
    rw [hms] at h1
    exact hf a s' h1
  | error e s' =>
    rw [hms] at h1
    exact h1

theorem preserves_modify {g : σ → σ} (hg : ∀ s, I s → I (g s)) :
    Preserves I (modify g : EStateM ε σ PUnit) := hg

theorem preserves_forM {xs : List α} {act : α → EStateM ε σ PUnit}
    (hact : ∀ x ∈ xs, Preserves I (act x)) : Preserves I (xs.forM act) := by
  induction xs with
  | nil => exact preserves_pure _
  | cons x xs ih =>
    have hx := hact x List.mem_cons_self
    have hxs := ih fun y hy => hact y (List.mem_cons_of_mem x hy)
    exact preserves_bind hx fun _ => hxs

theorem failKeeps_bind (hm : Preserves I m) (hf : ∀ a, FailKeeps I (f a)) :
    FailKeeps I (m >>= f) := by
  intro s e t hs h
  rcases estate_bind_error.mp h with h | ⟨a, s', h1, h2⟩
  · exact preserves_error hm hs h
  · exact hf a s' e t (preserves_ok hm hs h1) h2

end Preserves

/-- A computation that cannot fail. -/
def Total (m : EStateM ε σ α) : Prop := ∀ s, ∃ a t, m s = .ok a t

/- Nothing that fails comes after `m`. -/
theorem failKeeps_bind_total {I : σ → Prop} {m : EStateM ε σ α} {f : α → EStateM ε σ β}
    (hm : FailKeeps I m) (hf : ∀ a, Total (f a)) : FailKeeps I (m >>= f) := by
  intro s e t hs h
  rcases estate_bind_error.mp h with h | ⟨a, s', -, h⟩
  · exact hm s e t hs h
  · obtain ⟨b, t', hok⟩ := hf a s'
    rw [hok] at h
    cases h

theorem total_bind {m : EStateM ε σ α} {f : α → EStateM ε σ β} (hm : Total m)
    (hf : ∀ a, Total (f a)) : Total (m >>= f) := by
  intro s
  obtain ⟨a, s', h1⟩ := hm s
  obtain ⟨b, t, h2⟩ := hf a s'
  exact ⟨b, t, estate_bind_ok.mpr ⟨a, s', h1, h2⟩⟩

theorem total_modify (g : σ → σ) : Total (modify g : EStateM ε σ PUnit) :=
  fun s => ⟨_, g s, rfl⟩

theorem total_forM {xs : List α} {act : α → EStateM ε σ PUnit}
    (hact : ∀ x ∈ xs, Total (act x)) : Total (xs.forM act) := by
  induction xs with
  | nil => exact fun s => ⟨_, s, rfl⟩
  | cons x xs ih =>
    have hx := hact x List.mem_cons_self
    have hxs := ih fun y hy => hact y (List.mem_cons_of_mem x hy)
    exact total_bind hx fun _ => hxs

/-! ### Calls on less than the whole state -/

/- A call that neither reads nor writes the state. -/
theorem liftExcept_ok {x : Except ε α} {s t : σ} {a : α} :
    (liftExcept x : EStateM ε σ α) s = .ok a t ↔ x = .ok a ∧ t = s := by
  cases x with
  | ok b =>
    change EStateM.Result.ok b s = .ok a t ↔ _
    simp [eq_comm]
  | error e =>
    change EStateM.Result.error e s = .ok a t ↔ _
    simp

theorem liftExcept_error {x : Except ε α} {s t : σ} {e : ε} :
    (liftExcept x : EStateM ε σ α) s = .error e t ↔ x = .error e ∧ t = s := by
  cases x with
  | ok b =>
    change EStateM.Result.ok b s = .error e t ↔ _
    simp
  | error e' =>
    change EStateM.Result.error e' s = .error e t ↔ _
    simp [eq_comm]

theorem preserves_liftExcept {I : σ → Prop} (x : Except ε α) :
    Preserves I (liftExcept x : EStateM ε σ α) := by
  intro s hs
  cases x <;> exact hs

/-- A call on the second component. -/
def onSnd (m : EStateM ε β α) : EStateM ε (σ × β) α := fun s =>
  match m s.2 with
  | .ok a b => .ok a (s.1, b)
  | .error e b => .error e (s.1, b)

theorem onSnd_ok {m : EStateM ε β α} {s t : σ × β} {a : α} :
    onSnd m s = .ok a t ↔ m s.2 = .ok a t.2 ∧ t.1 = s.1 := by
  obtain ⟨t1, t2⟩ := t
  unfold onSnd
  cases m s.2 with
  | ok a' b => simp [and_left_comm, and_comm, eq_comm]
  | error e b => simp

theorem onSnd_error {m : EStateM ε β α} {s t : σ × β} {e : ε} :
    onSnd m s = .error e t ↔ m s.2 = .error e t.2 ∧ t.1 = s.1 := by
  obtain ⟨t1, t2⟩ := t
  unfold onSnd
  cases m s.2 with
  | ok a b => simp
  | error e' b => simp [and_left_comm, and_comm, eq_comm]

theorem preserves_onSnd {I : σ → Prop} (m : EStateM ε β α) :
    Preserves (fun s => I s.1) (onSnd m : EStateM ε (σ × β) α) := by
  intro s hs
  unfold onSnd
  cases m s.2 <;> exact hs

/-- A call on the first component. -/
def onFst (m : EStateM ε σ α) : EStateM ε (σ × β) α := fun s =>
  match m s.1 with
  | .ok a t => .ok a (t, s.2)
  | .error e t => .error e (t, s.2)

theorem onFst_ok {m : EStateM ε σ α} {s t : σ × β} {a : α} :
    onFst m s = .ok a t ↔ m s.1 = .ok a t.1 ∧ t.2 = s.2 := by
  obtain ⟨t1, t2⟩ := t
  unfold onFst
  cases m s.1 with
  | ok a' b => simp [and_assoc, eq_comm]
  | error e b => simp

theorem onFst_error {m : EStateM ε σ α} {s t : σ × β} {e : ε} :
    onFst m s = .error e t ↔ m s.1 = .error e t.1 ∧ t.2 = s.2 := by
  obtain ⟨t1, t2⟩ := t
  unfold onFst
  cases m s.1 with
  | ok a b => simp
  | error e' b => simp [and_assoc, eq_comm]

theorem failKeeps_onFst {I : σ → Prop} {m : EStateM ε σ α} (hm : FailKeeps I m) :
    FailKeeps (fun s => I s.1) (onFst m : EStateM ε (σ × β) α) := by
  intro s e t hs h
  exact hm s.1 e t.1 hs (onFst_error.mp h).1

/-- A `try` all of whose handlers throw. -/
def rethrow (handler : ε → ε) (m : EStateM ε σ α) : EStateM ε σ α := fun s =>
  match m s with
  | .ok a t => .ok a t
  | .error e t => .error (handler e) t

@[simp] theorem rethrow_ok {handler : ε → ε} {m : EStateM ε σ α} {s t : σ} {a : α} :
    rethrow handler m s = .ok a t ↔ m s = .ok a t := by
  unfold rethrow
  cases m s <;> simp

theorem rethrow_error {handler : ε → ε} {m : EStateM ε σ α} {s t : σ} {e : ε} :
    rethrow handler m s = .error e t ↔ ∃ e', m s = .error e' t ∧ handler e' = e := by
  unfold rethrow
  cases m s with
  | ok a s' => simp
  | error e' s' =>
    simp only [EStateM.Result.error.injEq]
    constructor
    · rintro ⟨rfl, rfl⟩
      exact ⟨e', ⟨rfl, rfl⟩, rfl⟩
    · rintro ⟨e'', ⟨rfl, rfl⟩, rfl⟩
      exact ⟨rfl, rfl⟩

/-- Map the state a computation ends in, whether it succeeds or fails. -/
def mapState (g : σ → σ) : EStateM.Result ε σ α → EStateM.Result ε σ α
  | .ok a s => .ok a (g s)
  | .error e s => .error e (g s)

/-- A computation that does not look at what `g` changes. -/
def Commutes (g : σ → σ) (m : EStateM ε σ α) : Prop := ∀ s, m (g s) = mapState g (m s)

theorem commutes_pure (g : σ → σ) (a : α) : Commutes g (pure a : EStateM ε σ α) :=
  fun _ => rfl

theorem commutes_bind {g : σ → σ} {m : EStateM ε σ α} {f : α → EStateM ε σ β}
    (hm : Commutes g m) (hf : ∀ a, Commutes g (f a)) : Commutes g (m >>= f) := by
  intro s
  change EStateM.bind m f (g s) = mapState g (EStateM.bind m f s)
  unfold EStateM.bind
  rw [hm s]
  cases m s with
  | ok a s' => exact hf a s'
  | error e s' => rfl

theorem commutes_modify {g h : σ → σ} (hgh : ∀ s, h (g s) = g (h s)) :
    Commutes g (modify h : EStateM ε σ PUnit) := by
  intro s
  exact congrArg (EStateM.Result.ok PUnit.unit) (hgh s)

theorem commutes_liftExcept (g : σ → σ) (x : Except ε α) :
    Commutes g (liftExcept x : EStateM ε σ α) := by
  intro s
  cases x <;> rfl

theorem commutes_forM {g : σ → σ} {xs : List α} {act : α → EStateM ε σ PUnit}
    (hact : ∀ x ∈ xs, Commutes g (act x)) : Commutes g (xs.forM act) := by
  induction xs with
  | nil => exact commutes_pure _ _
  | cons x xs ih =>
    have hx := hact x List.mem_cons_self
    have hxs := ih fun y hy => hact y (List.mem_cons_of_mem x hy)
    exact commutes_bind hx fun _ => hxs

/- Reading the state is harmless when the rest does not see what `g` changes. -/
theorem commutes_get_bind_at {g : σ → σ} {f : σ → EStateM ε σ β} {s : σ}
    (hsame : f (g s) = f s) (hf : ∀ a, Commutes g (f a)) :
    (get >>= f) (g s) = mapState g ((get >>= f) s) := by
  change f (g s) (g s) = mapState g (f s s)
  rw [hsame]
  exact hf s s

theorem commutes_get_bind {g : σ → σ} {f : σ → EStateM ε σ β} (hsame : ∀ s, f (g s) = f s)
    (hf : ∀ a, Commutes g (f a)) : Commutes g (get >>= f) :=
  fun s => commutes_get_bind_at (hsame s) hf

theorem commutes_onFst {g : σ → σ} {m : EStateM ε σ α} (hm : Commutes g m) :
    Commutes (Prod.map g id) (onFst m : EStateM ε (σ × β) α) := by
  rintro ⟨s, b⟩
  simp only [onFst, Prod.map_apply, hm s]
  cases m s <;> rfl

theorem commutes_onSnd {g : σ → σ} (m : EStateM ε β α) :
    Commutes (Prod.map g id) (onSnd m : EStateM ε (σ × β) α) := by
  rintro ⟨s, b⟩
  simp only [onSnd, Prod.map_apply, id_eq]
  cases m b <;> rfl

@[simp] theorem endState_mapState (g : σ → σ) (r : EStateM.Result ε σ α) :
    endState (mapState g r) = g (endState r) := by
  cases r <;> rfl

theorem endState_commutes {g : σ → σ} {m : EStateM ε σ α} (hm : Commutes g m) (s : σ) :
    endState (m (g s)) = g (endState (m s)) := by
  rw [hm s, endState_mapState]

theorem mapState_ok {g : σ → σ} {r : EStateM.Result ε σ α} {a : α} {t : σ} :
    mapState g r = .ok a t ↔ ∃ s, r = .ok a s ∧ t = g s := by
  cases r with
  | ok b s =>
    simp only [mapState, EStateM.Result.ok.injEq]
    constructor
    · rintro ⟨rfl, rfl⟩
      exact ⟨s, ⟨rfl, rfl⟩, rfl⟩
    · rintro ⟨s', ⟨rfl, rfl⟩, rfl⟩
      exact ⟨rfl, rfl⟩
  | error e s => simp [mapState]

end XenorEngine.Lib.Fallible
