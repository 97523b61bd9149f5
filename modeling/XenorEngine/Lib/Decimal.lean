import Mathlib.Tactic

/-!
# Decimal spellings of bounded integers

The usual lenient integer reader: an optional sign, then digits accumulated
left to right with an overflow test on every step. It accepts more spellings
than the printer emits (a `+`, leading zeros, `-0`); `plain` names, by the
first two characters alone, the spellings for which reading and printing agree.
-/

namespace XenorEngine.Lib.Decimal

inductive NumberFault
  | empty
  | invalidDigit
  | posOverflow
  | negOverflow
  deriving DecidableEq, Repr

def digitOf (c : Char) : ℕ := c.toNat - '0'.toNat

def readDigits (limit : ℕ) (overflow : NumberFault) : ℕ → List Char → Except NumberFault ℕ
  | acc, [] => .ok acc
  | acc, c :: cs =>
    if c.isDigit then
      if limit < acc * 10 + digitOf c then .error overflow
      else readDigits limit overflow (acc * 10 + digitOf c) cs
    else .error .invalidDigit

def parseUnsigned (limit : ℕ) : List Char → Except NumberFault ℕ
  | [] => .error .empty
  | ['+'] => .error .invalidDigit
  | '+' :: cs => readDigits limit .posOverflow 0 cs
  | cs => readDigits limit .posOverflow 0 cs

/-- A signed type holds one more negative value than positive ones. -/
def parseSigned (limit : ℕ) : List Char → Except NumberFault ℤ
  | [] => .error .empty
  | ['+'] => .error .invalidDigit
  | ['-'] => .error .invalidDigit
  | '+' :: cs => (readDigits limit .posOverflow 0 cs).map Int.ofNat
  | '-' :: cs => (readDigits (limit + 1) .negOverflow 0 cs).map Int.negOfNat
  | cs => (readDigits limit .posOverflow 0 cs).map Int.ofNat

def natChars (n : ℕ) : List Char := Nat.toDigits 10 n
def intChars : ℤ → List Char
  | .ofNat n => natChars n
  | .negSucc n => '-' :: natChars (n + 1)

def plain : List Char → Bool
  | '+' :: _ => false
  | '0' :: _ :: _ => false
  | '-' :: '0' :: _ => false
  | _ => true

theorem isDigit_bounds {c : Char} (h : c.isDigit = true) : 48 ≤ c.toNat ∧ c.toNat ≤ 57 := by
  simp only [Char.isDigit, Bool.and_eq_true, decide_eq_true_eq] at h
  exact ⟨h.1, h.2⟩

theorem digitOf_lt {c : Char} (h : c.isDigit = true) : digitOf c < 10 := by
  have hb := isDigit_bounds h
  have hz : '0'.toNat = 48 := rfl
  simp only [digitOf, hz]
  omega

theorem digitChar_digitOf {c : Char} (h : c.isDigit = true) : (digitOf c).digitChar = c := by
  have hb := isDigit_bounds h
  have hz : '0'.toNat = 48 := rfl
  apply Char.toNat_inj.mp
  rw [Nat.toNat_digitChar_of_lt_ten (digitOf_lt h), digitOf, hz]
  omega

theorem readDigits_ok {limit acc n : ℕ} {o : NumberFault} {cs : List Char}
    (h : readDigits limit o acc cs = .ok n) :
    (∀ c ∈ cs, c.isDigit = true) ∧ n = Nat.ofDigitChars 10 cs acc ∧ (acc ≤ limit → n ≤ limit) := by
  induction cs generalizing acc with
  | nil =>
    simp only [readDigits, Except.ok.injEq] at h
    subst h
    exact ⟨by simp, rfl, id⟩
  | cons c cs ih =>
    simp only [readDigits] at h
    split at h
    · rename_i hc
      split at h
      · cases h
      · rename_i hl
        obtain ⟨hd, hn, hb⟩ := ih h
        refine ⟨by simpa [hc] using hd, ?_, fun _ => hb (by omega)⟩
        rw [hn, Nat.ofDigitChars_cons, digitOf, Nat.mul_comm]
    · cases h

theorem acc_le_ofDigitChars (cs : List Char) (acc : ℕ) : acc ≤ Nat.ofDigitChars 10 cs acc := by
  induction cs generalizing acc with
  | nil => simp
  | cons c cs ih =>
    rw [Nat.ofDigitChars_cons]
    have h := ih (10 * acc + (c.toNat - '0'.toNat))
    omega

theorem readDigits_of_digits {limit acc : ℕ} {o : NumberFault} {cs : List Char}
    (hd : ∀ c ∈ cs, c.isDigit = true) (hl : Nat.ofDigitChars 10 cs acc ≤ limit) :
    readDigits limit o acc cs = .ok (Nat.ofDigitChars 10 cs acc) := by
  induction cs generalizing acc with
  | nil => simp [readDigits]
  | cons c cs ih =>
    have hc : c.isDigit = true := hd c (List.mem_cons_self ..)
    have hstep : acc * 10 + digitOf c = 10 * acc + (c.toNat - '0'.toNat) := by
      rw [digitOf, Nat.mul_comm]
    rw [Nat.ofDigitChars_cons] at hl ⊢
    have hle := acc_le_ofDigitChars cs (10 * acc + (c.toNat - '0'.toNat))
    simp only [readDigits, hc, if_true, hstep]
    rw [if_neg (by omega)]
    exact ih (fun x hx => hd x (List.mem_cons_of_mem _ hx)) hl

theorem natChars_isDigit {n : ℕ} {c : Char} (h : c ∈ natChars n) : c.isDigit = true :=
  Nat.isDigit_of_mem_toDigits (by decide) (by decide) h

theorem natChars_ne_nil (n : ℕ) : natChars n ≠ [] := Nat.toDigits_ne_nil

theorem readDigits_natChars {limit n : ℕ} {o : NumberFault} (h : n ≤ limit) :
    readDigits limit o 0 (natChars n) = .ok n := by
  have hv : Nat.ofDigitChars 10 (natChars n) 0 = n := Nat.ofDigitChars_ten_toDigits
  have hr : readDigits limit o 0 (natChars n) = .ok (Nat.ofDigitChars 10 (natChars n) 0) :=
    readDigits_of_digits (fun c hc => natChars_isDigit hc) (by rw [hv]; exact h)
  rw [hr, hv]

/- Uniqueness of the printed form, by induction on the last digit. -/
theorem natChars_ofDigitChars (cs : List Char) (hne : cs ≠ []) (hd : ∀ c ∈ cs, c.isDigit = true)
    (hz : ∀ c rest, cs = '0' :: c :: rest → False) :
    natChars (Nat.ofDigitChars 10 cs 0) = cs := by
  induction cs using List.reverseRecOn with
  | nil => exact absurd rfl hne
  | append_singleton ds c ih =>
    have hc : c.isDigit = true := hd c (by simp)
    have hlt := digitOf_lt hc
    have hval : Nat.ofDigitChars 10 (ds ++ [c]) 0 = 10 * Nat.ofDigitChars 10 ds 0 + digitOf c := by
      rw [Nat.ofDigitChars_append, Nat.ofDigitChars_cons, Nat.ofDigitChars_nil, digitOf]
    rcases List.eq_nil_or_concat ds with hnil | ⟨es, e, hes⟩
    · subst hnil
      simp only [List.nil_append] at hval ⊢
      rw [hval, Nat.ofDigitChars_nil, Nat.mul_zero, Nat.zero_add, natChars,
        Nat.toDigits_of_lt_base hlt, digitChar_digitOf hc]
    · have hdsne : ds ≠ [] := by rw [hes]; simp
      have hdd : ∀ x ∈ ds, x.isDigit = true := fun x hx => hd x (by simp [hx])
      have hdz : ∀ x rest, ds = '0' :: x :: rest → False := by
        intro x rest hx
        exact hz x (rest ++ [c]) (by rw [hx]; simp)
      have ih' := ih hdsne hdd hdz
      have hpos : 0 < Nat.ofDigitChars 10 ds 0 := by
        by_contra h0
        have h0' : Nat.ofDigitChars 10 ds 0 = 0 := by omega
        rw [h0'] at ih'
        have hzero : natChars 0 = ['0'] := rfl
        rw [hzero] at ih'
        exact hz c [] (by rw [← ih']; simp)
      rw [hval, natChars, ← Nat.toDigits_append_toDigits (by decide) hpos hlt,
        Nat.toDigits_of_lt_base hlt, digitChar_digitOf hc]
      change natChars (Nat.ofDigitChars 10 ds 0) ++ [c] = ds ++ [c]
      rw [ih']

theorem natChars_cons_digit (n : ℕ) : ∃ c cs, natChars n = c :: cs ∧ c.isDigit = true := by
  cases h : natChars n with
  | nil => exact absurd h (natChars_ne_nil n)
  | cons c cs => exact ⟨c, cs, rfl, natChars_isDigit (by rw [h]; simp)⟩

/- A printed number longer than one digit does not start with a zero. -/
theorem natChars_no_leading_zero {n : ℕ} {c : Char} {cs : List Char}
    (h : natChars n = '0' :: c :: cs) : False := by
  have hn : 10 ≤ n := by
    by_contra hlt
    rw [natChars, Nat.toDigits_of_lt_base (by omega)] at h
    simp at h
  induction n using Nat.strong_induction_on generalizing c cs with
  | _ n ih =>
    rw [natChars, Nat.toDigits_of_base_le (by decide) hn] at h
    by_cases hlt : n / 10 < 10
    · rw [Nat.toDigits_of_lt_base hlt] at h
      simp only [List.singleton_append, List.cons.injEq] at h
      have hz := Nat.digitChar_eq_zero.mp h.1
      omega
    · obtain ⟨d, ds, hds⟩ : ∃ d ds, natChars (n / 10) = '0' :: d :: ds := by
        have hlen : 2 ≤ (natChars (n / 10)).length := by
          by_contra hl
          have hle := (Nat.length_toDigits_le_iff (n := n / 10) (b := 10) (k := 1)
            (by decide) (by decide)).mp (by rw [natChars] at hl; omega)
          omega
        cases hq : natChars (n / 10) with
        | nil => simp [hq] at hlen
        | cons x xs =>
          cases xs with
          | nil => simp [hq] at hlen
          | cons y ys =>
            change natChars (n / 10) ++ _ = _ at h
            rw [hq] at h
            simp only [List.cons_append, List.cons.injEq] at h
            exact ⟨y, ys, by rw [h.1]⟩
      exact ih (n / 10) (by omega) hds (by omega)

theorem plain_natChars (n : ℕ) : plain (natChars n) = true := by
  obtain ⟨c, cs, hcs, hc⟩ := natChars_cons_digit n
  have hb := isDigit_bounds hc
  unfold plain
  split
  · rename_i h
    rw [hcs, List.cons.injEq] at h
    rw [h.1] at hc
    exact absurd hc (by decide)
  · rename_i h
    exact absurd h (fun h => natChars_no_leading_zero h)
  · rename_i h
    rw [hcs, List.cons.injEq] at h
    rw [h.1] at hc
    exact absurd hc (by decide)
  · rfl

theorem plain_intChars (i : ℤ) : plain (intChars i) = true := by
  cases i with
  | ofNat n => exact plain_natChars n
  | negSucc n =>
    obtain ⟨c, cs, hcs, hc⟩ := natChars_cons_digit (n + 1)
    simp only [intChars]
    unfold plain
    split
    · rename_i h
      simp at h
    · rename_i h
      simp at h
    · rename_i rest h
      have hz : natChars (n + 1) = '0' :: rest := by simpa using h
      cases rest with
      | nil =>
        have hv : Nat.ofDigitChars 10 (natChars (n + 1)) 0 = n + 1 := Nat.ofDigitChars_ten_toDigits
        rw [hz] at hv
        simp [Nat.ofDigitChars_cons] at hv
      | cons d ds => exact absurd hz (fun h => natChars_no_leading_zero h)
    · rfl

theorem natChars_head (n : ℕ) (c : Char) (cs : List Char) (h : natChars n = c :: cs) :
    c ≠ '+' ∧ c ≠ '-' := by
  have hc : c.isDigit = true := natChars_isDigit (n := n) (by rw [h]; simp)
  constructor <;> (rintro rfl; exact absurd hc (by decide))

theorem parseUnsigned_natChars {limit n : ℕ} (h : n ≤ limit) :
    parseUnsigned limit (natChars n) = .ok n := by
  have hr := readDigits_natChars (o := .posOverflow) h
  cases hcs : natChars n with
  | nil => exact absurd hcs (natChars_ne_nil n)
  | cons c cs =>
    have hh := natChars_head n c cs hcs
    rw [hcs] at hr
    unfold parseUnsigned
    split
    · rename_i h0
      cases h0
    · rename_i h0
      exact absurd (List.cons.inj h0).1 hh.1
    · rename_i h0
      exact absurd (List.cons.inj h0).1 hh.1
    · exact hr

/- Digits that read back and start with no superfluous zero are the printed form. -/
theorem natChars_injective {m n : ℕ} (h : natChars m = natChars n) : m = n := by
  have hm := parseUnsigned_natChars (Nat.le_max_left m n)
  rw [h, parseUnsigned_natChars (Nat.le_max_right m n)] at hm
  exact (Except.ok.inj hm).symm

theorem eq_natChars_of_readDigits {limit n : ℕ} {o : NumberFault} {cs : List Char}
    (h : readDigits limit o 0 cs = .ok n) (hne : cs ≠ [])
    (hz : ∀ c rest, cs = '0' :: c :: rest → False) : cs = natChars n := by
  obtain ⟨hd, hn, -⟩ := readDigits_ok h
  rw [hn]
  exact (natChars_ofDigitChars cs hne hd hz).symm

theorem plain_no_zero {cs : List Char} (h : plain cs = true) (c : Char) (rest : List Char)
    (he : cs = '0' :: c :: rest) : False := by
  subst he
  simp [plain] at h

theorem parseUnsigned_le {limit n : ℕ} {cs : List Char} (h : parseUnsigned limit cs = .ok n) :
    n ≤ limit := by
  unfold parseUnsigned at h
  split at h
  · cases h
  · cases h
  · exact (readDigits_ok h).2.2 (Nat.zero_le _)
  · exact (readDigits_ok h).2.2 (Nat.zero_le _)

theorem parseUnsigned_plain {limit n : ℕ} {cs : List Char} (h : parseUnsigned limit cs = .ok n) :
    plain cs = true ↔ cs = natChars n := by
  constructor
  · intro hp
    unfold parseUnsigned at h
    split at h
    · cases h
    · cases h
    · simp [plain] at hp
    · rename_i hne _ _
      exact eq_natChars_of_readDigits h (fun he => hne he) (plain_no_zero hp)
  · intro he
    rw [he]
    exact plain_natChars n

theorem parseSigned_intChars {limit : ℕ} {i : ℤ} (hlo : -(limit + 1 : ℤ) ≤ i) (hhi : i ≤ limit) :
    parseSigned limit (intChars i) = .ok i := by
  cases i with
  | ofNat n =>
    have hr : readDigits limit .posOverflow 0 (natChars n) = .ok n := readDigits_natChars
      (by simp only [Int.ofNat_eq_natCast] at hhi; omega)
    simp only [intChars]
    cases hcs : natChars n with
    | nil => exact absurd hcs (natChars_ne_nil n)
    | cons c cs =>
      have hh := natChars_head n c cs hcs
      rw [hcs] at hr
      unfold parseSigned
      split
      · rename_i h0
        cases h0
      · rename_i h0
        exact absurd (List.cons.inj h0).1 hh.1
      · rename_i h0
        exact absurd (List.cons.inj h0).1 hh.2
      · rename_i h0
        exact absurd (List.cons.inj h0).1 hh.1
      · rename_i h0
        exact absurd (List.cons.inj h0).1 hh.2
      · rw [hr]
        rfl
  | negSucc n =>
    have hr : readDigits (limit + 1) .negOverflow 0 (natChars (n + 1)) = .ok (n + 1) :=
      readDigits_natChars (by omega)
    simp only [intChars]
    cases hcs : natChars (n + 1) with
    | nil => exact absurd hcs (natChars_ne_nil _)
    | cons c cs =>
      rw [hcs] at hr
      simp only [parseSigned, hr, Except.map, Int.negOfNat]

theorem parseSigned_bounds {limit : ℕ} {i : ℤ} {cs : List Char}
    (h : parseSigned limit cs = .ok i) : -(limit + 1 : ℤ) ≤ i ∧ i ≤ limit := by
  have lift : ∀ {o : NumberFault} {bound : ℕ} {f : ℕ → ℤ} {ds : List Char},
      (readDigits bound o 0 ds).map f = .ok i → ∃ n, n ≤ bound ∧ f n = i := by
    intro o bound f ds hm
    cases hr : readDigits bound o 0 ds with
    | error e => rw [hr] at hm; cases hm
    | ok n =>
      rw [hr] at hm
      exact ⟨n, (readDigits_ok hr).2.2 (Nat.zero_le _), Except.ok.inj hm⟩
  unfold parseSigned at h
  split at h
  · cases h
  · cases h
  · cases h
  all_goals
    obtain ⟨n, hn, rfl⟩ := lift h
    simp only [Int.ofNat_eq_natCast, Int.negOfNat_eq]
    omega

theorem parseSigned_plain {limit : ℕ} {i : ℤ} {cs : List Char}
    (h : parseSigned limit cs = .ok i) : plain cs = true ↔ cs = intChars i := by
  constructor
  · intro hp
    unfold parseSigned at h
    split at h
    · cases h
    · cases h
    · cases h
    · simp [plain] at hp
    · rename_i ds hne
      cases hr : readDigits (limit + 1) .negOverflow 0 ds with
      | error e => rw [hr] at h; cases h
      | ok n =>
        rw [hr] at h
        have hi : Int.negOfNat n = i := Except.ok.inj h
        have hds : ds = natChars n := eq_natChars_of_readDigits hr (fun he => hne (by rw [he]))
          (fun c rest he => by subst he; simp [plain] at hp)
        cases n with
        | zero =>
          have hz : natChars 0 = ['0'] := rfl
          rw [hds, hz] at hp
          simp [plain] at hp
        | succ n =>
          rw [← hi, hds]
          rfl
    · rename_i hne _ _ _ _
      cases hr : readDigits limit .posOverflow 0 cs with
      | error e => rw [hr] at h; cases h
      | ok n =>
        rw [hr] at h
        have hi : Int.ofNat n = i := Except.ok.inj h
        subst hi
        exact eq_natChars_of_readDigits hr (fun he => hne he) (plain_no_zero hp)
  · intro he
    rw [he]
    exact plain_intChars i

theorem mem_intChars {i : ℤ} {c : Char} (h : c ∈ intChars i) : c.isDigit = true ∨ c = '-' := by
  cases i with
  | ofNat n => exact Or.inl (natChars_isDigit h)
  | negSucc n =>
    simp only [intChars, List.mem_cons] at h
    exact h.symm.imp natChars_isDigit id

theorem toList_toString_nat (n : ℕ) : (toString n).toList = natChars n := by
  rw [Nat.toString_eq_repr, Nat.toList_repr, natChars]

theorem toList_toString_int (i : ℤ) : (toString i).toList = intChars i := by
  cases i with
  | ofNat n => exact toList_toString_nat n
  | negSucc n =>
    change ("-" ++ Nat.repr (n + 1)).toList = _
    rw [String.toList_append, Nat.toList_repr]
    rfl

end XenorEngine.Lib.Decimal
