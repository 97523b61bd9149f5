import XenorEngine.Lib.Fallible

/-!
# Readers of a token sequence

A reader consumes a prefix of the tokens that are left, and what it returns
depends on that prefix alone. The second half is a field of the structure, so a
reader that peeks further cannot be built; `Reads` then speaks about the prefix
only, and distributes over sequencing in both directions.
-/

namespace XenorEngine.Lib.PrefixReader
open XenorEngine.Lib.Fallible

structure Cursor (τ : Type) where
  rest : List τ
  seen : List τ
  deriving DecidableEq, Repr

def Cursor.start {τ : Type} (tokens : List τ) : Cursor τ := ⟨tokens, []⟩

structure Reader (τ ε α : Type) where
  run : Cursor τ → Except ε (α × Cursor τ)
  consumes_front : ∀ {s a s'}, run s = .ok (a, s') → ∃ ls, s.rest = ls ++ s'.rest ∧
    s'.seen = ls.reverse ++ s.seen ∧
    ∀ rest seen, run ⟨ls ++ rest, seen⟩ = .ok (a, ⟨rest, ls.reverse ++ seen⟩)

variable {τ ε ε' α β : Type}

def Reader.Reads (m : Reader τ ε α) (ls : List τ) (a : α) : Prop :=
  ∀ rest seen, m.run ⟨ls ++ rest, seen⟩ = .ok (a, ⟨rest, ls.reverse ++ seen⟩)

theorem reads_of_run {m : Reader τ ε α} {s s' : Cursor τ} {a : α} (h : m.run s = .ok (a, s')) :
    ∃ ls, s.rest = ls ++ s'.rest ∧ s'.seen = ls.reverse ++ s.seen ∧ m.Reads ls a :=
  m.consumes_front h

theorem run_of_reads {m : Reader τ ε α} {ls : List τ} {a : α} (h : m.Reads ls a) :
    m.run (Cursor.start ls) = .ok (a, ⟨[], ls.reverse⟩) := by
  have hr := h [] []
  rwa [List.append_nil, List.append_nil] at hr

/-! ### Sequencing -/

def Reader.pure (a : α) : Reader τ ε α where
  run s := .ok (a, s)
  consumes_front := by
    intro s b s' h
    cases h
    exact ⟨[], rfl, rfl, fun _ _ => rfl⟩

def Reader.bind (m : Reader τ ε α) (f : α → Reader τ ε β) : Reader τ ε β where
  run s := m.run s >>= fun p => (f p.1).run p.2
  consumes_front := by
    intro s b s' h
    obtain ⟨⟨a, s1⟩, hm, hf⟩ := bind_eq_ok.mp h
    obtain ⟨l1, hr1, hs1, hl1⟩ := m.consumes_front hm
    obtain ⟨l2, hr2, hs2, hl2⟩ := (f a).consumes_front hf
    refine ⟨l1 ++ l2, ?_, ?_, ?_⟩
    · rw [hr1, List.append_assoc, ← hr2]
    · rw [hs2, hs1, List.reverse_append, List.append_assoc]
    · intro rest seen
      rw [List.append_assoc, hl1, ok_bind, hl2, List.reverse_append, List.append_assoc]

instance : Monad (Reader τ ε) where
  pure := Reader.pure
  bind := Reader.bind

theorem Reader.ext {m m' : Reader τ ε α} (h : ∀ s, m.run s = m'.run s) : m = m' := by
  cases m with
  | mk run _ =>
    cases m' with
    | mk run' _ =>
      obtain rfl : run = run' := funext h
      rfl

instance : LawfulMonad (Reader τ ε) := by
  refine LawfulMonad.mk' _ ?_ ?_ ?_
  · intro α x
    refine Reader.ext fun s => ?_
    change (x.run s >>= fun p => Except.ok (p.1, p.2)) = x.run s
    cases x.run s <;> rfl
  · exact fun _ _ => rfl
  · intro α β γ x f g
    refine Reader.ext fun s => ?_
    change ((x.run s >>= fun p => (f p.1).run p.2) >>= fun q => (g q.1).run q.2) =
      (x.run s >>= fun p => (f p.1).run p.2 >>= fun q => (g q.1).run q.2)
    cases x.run s <;> rfl

/-- A computation that reads nothing. -/
def lift (x : Except ε α) : Reader τ ε α where
  run s := x.map fun a => (a, s)
  consumes_front := by
    intro s b s' h
    cases x with
    | error e => cases h
    | ok a =>
      cases h
      exact ⟨[], rfl, rfl, fun _ _ => rfl⟩

def mapError (f : ε → ε') (m : Reader τ ε α) : Reader τ ε' α where
  run s := (m.run s).mapError f
  consumes_front := by
    intro s b s' h
    obtain ⟨ls, hr, hs, hl⟩ := m.consumes_front (mapError_eq_ok.mp h)
    exact ⟨ls, hr, hs, fun rest seen => mapError_eq_ok.mpr (hl rest seen)⟩

/-- One token: its value, or an error that may name what was seen before. -/
def token (value : τ → Option α) (missing : ε) (reject : List τ → τ → ε) : Reader τ ε α where
  run
    | ⟨[], _⟩ => .error missing
    | ⟨t :: rest, seen⟩ =>
      match value t with
      | none => .error (reject seen t)
      | some a => .ok (a, ⟨rest, t :: seen⟩)
  consumes_front := by
    intro s b s' h
    cases s with
    | mk rest seen =>
      cases rest with
      | nil => cases h
      | cons t rest =>
        cases hv : value t with
        | none =>
          simp only [hv] at h
          cases h
        | some a =>
          simp only [hv, Except.ok.injEq, Prod.mk.injEq] at h
          obtain ⟨rfl, rfl⟩ := h
          exact ⟨[t], rfl, rfl, fun r s => by simp [hv]⟩

/-- The loop `for index in start..start + count`, its results in order. -/
def forRange (f : ℕ → Reader τ ε α) : ℕ → ℕ → Reader τ ε (List α)
  | _, 0 => Reader.pure []
  | start, count + 1 => do
    let a ← f start
    let as ← forRange f (start + 1) count
    Pure.pure (a :: as)

@[simp] theorem pure_reads {a b : α} {ls : List τ} :
    (pure a : Reader τ ε α).Reads ls b ↔ ls = [] ∧ a = b := by
  constructor
  · intro h
    have hr := run_of_reads h
    change Except.ok (a, Cursor.start ls) = _ at hr
    simp only [Cursor.start, Except.ok.injEq, Prod.mk.injEq, Cursor.mk.injEq] at hr
    exact ⟨hr.2.1, hr.1⟩
  · rintro ⟨rfl, rfl⟩
    exact fun _ _ => rfl

@[simp] theorem bind_reads {m : Reader τ ε α} {f : α → Reader τ ε β} {ls : List τ} {b : β} :
    (m >>= f).Reads ls b ↔
      ∃ l1 l2 a, ls = l1 ++ l2 ∧ m.Reads l1 a ∧ (f a).Reads l2 b := by
  constructor
  · intro h
    have hr := run_of_reads h
    change (m.run (Cursor.start ls) >>= fun p => (f p.1).run p.2) = _ at hr
    obtain ⟨⟨a, s1⟩, hm, hf⟩ := bind_eq_ok.mp hr
    obtain ⟨l1, hr1, -, hl1⟩ := reads_of_run hm
    obtain ⟨l2, hr2, -, hl2⟩ := reads_of_run hf
    simp only [Cursor.start] at hr1
    simp only [List.append_nil] at hr2
    exact ⟨l1, l2, a, by rw [hr1, hr2], hl1, hl2⟩
  · rintro ⟨l1, l2, a, rfl, hm, hf⟩ rest seen
    change (m.run _ >>= fun p => (f p.1).run p.2) = _
    rw [List.append_assoc, hm, ok_bind, hf, List.reverse_append, List.append_assoc]

@[simp] theorem lift_reads {x : Except ε α} {ls : List τ} {a : α} :
    (lift x : Reader τ ε α).Reads ls a ↔ ls = [] ∧ x = .ok a := by
  constructor
  · intro h
    have hr := run_of_reads h
    cases x with
    | error e => cases hr
    | ok b =>
      change Except.ok (b, Cursor.start ls) = _ at hr
      simp only [Cursor.start, Except.ok.injEq, Prod.mk.injEq, Cursor.mk.injEq] at hr
      exact ⟨hr.2.1, by rw [hr.1]⟩
  · rintro ⟨rfl, rfl⟩
    exact fun _ _ => rfl

@[simp] theorem mapError_reads {m : Reader τ ε α} {f : ε → ε'} {ls : List τ} {a : α} :
    (mapError f m).Reads ls a ↔ m.Reads ls a := by
  unfold Reader.Reads
  simp only [mapError, mapError_eq_ok]

@[simp] theorem token_reads {value : τ → Option α} {missing : ε} {reject : List τ → τ → ε}
    {ls : List τ} {a : α} :
    (token value missing reject).Reads ls a ↔ ∃ t, ls = [t] ∧ value t = some a := by
  constructor
  · intro h
    have hr := run_of_reads h
    cases ls with
    | nil => cases hr
    | cons t rest =>
      cases hv : value t with
      | none =>
        simp only [token, Cursor.start, hv] at hr
        cases hr
      | some b =>
        simp only [token, Cursor.start, hv, Except.ok.injEq, Prod.mk.injEq, Cursor.mk.injEq] at hr
        exact ⟨t, by rw [hr.2.1], by rw [hv, hr.1]⟩
  · rintro ⟨t, rfl, hv⟩ rest seen
    simp [token, hv]

/-! ### Loops -/

theorem forRange_zero_reads {f : ℕ → Reader τ ε α} {start : ℕ} {ls : List τ} {as : List α} :
    (forRange f start 0).Reads ls as ↔ ls = [] ∧ as = [] := by
  change (pure [] : Reader τ ε (List α)).Reads ls as ↔ _
  rw [pure_reads]
  exact and_congr_right fun _ => eq_comm

theorem forRange_succ_reads {f : ℕ → Reader τ ε α} {start count : ℕ} {ls : List τ}
    {as : List α} :
    (forRange f start (count + 1)).Reads ls as ↔
      ∃ l1 l2 a as', ls = l1 ++ l2 ∧ as = a :: as' ∧ (f start).Reads l1 a ∧
        (forRange f (start + 1) count).Reads l2 as' := by
  simp only [forRange, bind_reads, pure_reads]
  constructor
  · rintro ⟨l1, l2, a, rfl, h1, l3, l4, as', rfl, h2, rfl, rfl⟩
    exact ⟨l1, l3, a, as', by rw [List.append_nil], rfl, h1, h2⟩
  · rintro ⟨l1, l2, a, as', rfl, rfl, h1, h2⟩
    exact ⟨l1, l2, a, rfl, h1, l2, [], as', by rw [List.append_nil], h2, rfl, rfl⟩

/-- What the writing side of such a loop emits. -/
def writeFrom (out : ℕ → α → List τ) : ℕ → List α → List τ
  | _, [] => []
  | index, a :: as => out index a ++ writeFrom out (index + 1) as

theorem forRange_reads_writeFrom {f : ℕ → Reader τ ε α} {out : ℕ → α → List τ} (as : List α)
    (start : ℕ) (h : ∀ i, ∀ a ∈ as, (f i).Reads (out i a) a) :
    (forRange f start as.length).Reads (writeFrom out start as) as := by
  induction as generalizing start with
  | nil => exact forRange_zero_reads.mpr ⟨rfl, rfl⟩
  | cons a as ih =>
    exact forRange_succ_reads.mpr ⟨_, _, a, as, rfl, rfl, h start a (List.mem_cons_self ..),
      ih (start + 1) (fun i x hx => h i x (List.mem_cons_of_mem _ hx))⟩

theorem forRange_reads_length {f : ℕ → Reader τ ε α} {start count : ℕ} {ls : List τ}
    {as : List α} (h : (forRange f start count).Reads ls as) : as.length = count := by
  induction count generalizing start ls as with
  | zero => rw [(forRange_zero_reads.mp h).2]; rfl
  | succ count ih =>
    obtain ⟨l1, l2, a, as', -, rfl, -, h2⟩ := forRange_succ_reads.mp h
    rw [List.length_cons, ih h2]

/- The loop reads only what its body reads, index by index: a property of each
part is one of the whole. -/
theorem forRange_reads_induct {f : ℕ → Reader τ ε α} {P : ℕ → List τ → List α → Prop}
    (hnil : ∀ start, P start [] [])
    (hcons : ∀ start l1 l2 a as, (f start).Reads l1 a → P (start + 1) l2 as →
      P start (l1 ++ l2) (a :: as))
    {start count : ℕ} {ls : List τ} {as : List α} (h : (forRange f start count).Reads ls as) :
    P start ls as := by
  induction count generalizing start ls as with
  | zero =>
    obtain ⟨rfl, rfl⟩ := forRange_zero_reads.mp h
    exact hnil start
  | succ count ih =>
    obtain ⟨l1, l2, a, as', rfl, rfl, h1, h2⟩ := forRange_succ_reads.mp h
    exact hcons start l1 l2 a as' h1 (ih h2)

/- The tokens of one round are among those of the loop. -/
theorem forRange_reads_get {f : ℕ → Reader τ ε α} {start count : ℕ} {ls : List τ} {as : List α}
    (h : (forRange f start count).Reads ls as) {i : ℕ} {a : α} (hi : as[i]? = some a) :
    ∃ part, (f (start + i)).Reads part a ∧ ∀ t ∈ part, t ∈ ls := by
  induction count generalizing start ls as i with
  | zero =>
    rw [(forRange_zero_reads.mp h).2] at hi
    cases hi
  | succ count ih =>
    obtain ⟨l1, l2, b, bs, rfl, rfl, h1, h2⟩ := forRange_succ_reads.mp h
    cases i with
    | zero =>
      obtain rfl := Option.some.inj hi
      exact ⟨l1, h1, fun t ht => List.mem_append_left l2 ht⟩
    | succ i =>
      obtain ⟨part, hpart, hsub⟩ := ih h2 hi
      have hindex : start + (i + 1) = start + 1 + i := by omega
      rw [hindex]
      exact ⟨part, hpart, fun t ht => List.mem_append_right l1 (hsub t ht)⟩

end XenorEngine.Lib.PrefixReader
