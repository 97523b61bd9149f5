import XenorEngine.Lib.Decimal
import XenorEngine.Lib.LineText
import XenorEngine.Lib.Fallible

/-!
# Scalars: saturating arithmetic and text

The saturating operations of the integer types, then `Display` and `FromStr` of
the integer types the formats use. `usize` is 64 bits wide and modelled by `ℕ`,
bounded where a text is read. Reading accepts more than printing writes; on a
`plain` spelling the two are inverse.
-/

namespace XenorEngine.Rust
open XenorEngine.Lib.Decimal XenorEngine.Lib.LineText XenorEngine.Lib.Fallible

/-! ### Saturating arithmetic -/

def saturatingAddU32 (a b : UInt32) : UInt32 :=
  if a.toNat + b.toNat < 2 ^ 32 then a + b else UInt32.ofNat (2 ^ 32 - 1)
def saturatingSubU32 (a b : UInt32) : UInt32 := if b ≤ a then a - b else 0
def saturatingAddU64 (a b : UInt64) : UInt64 :=
  if a.toNat + b.toNat < 2 ^ 64 then a + b else UInt64.ofNat (2 ^ 64 - 1)
def saturatingSubU64 (a b : UInt64) : UInt64 := if b ≤ a then a - b else 0

def saturateI64 (n : ℤ) : Int64 := Int64.ofInt (max (-2 ^ 63) (min n (2 ^ 63 - 1)))
def saturatingAddI64 (a b : Int64) : Int64 := saturateI64 (a.toInt + b.toInt)
def saturatingSubI64 (a b : Int64) : Int64 := saturateI64 (a.toInt - b.toInt)
def saturatingMulI64 (a b : Int64) : Int64 := saturateI64 (a.toInt * b.toInt)

theorem toInt_saturateI64 (n : ℤ) :
    (saturateI64 n).toInt = max (-2 ^ 63) (min n (2 ^ 63 - 1)) :=
  Int64.toInt_ofInt_of_le (by omega) (by omega)

theorem toNat_saturatingAddU64 (a b : UInt64) :
    (saturatingAddU64 a b).toNat = min (a.toNat + b.toNat) (2 ^ 64 - 1) := by
  unfold saturatingAddU64
  split
  · rename_i h
    rw [UInt64.toNat_add, Nat.mod_eq_of_lt h]
    omega
  · have hmax : (UInt64.ofNat (2 ^ 64 - 1)).toNat = 2 ^ 64 - 1 := rfl
    omega

/-! ### Text -/

def USIZE_MAX : ℕ := 2 ^ 64 - 1

/-- `Display` of `std::num::ParseIntError`. -/
def parseIntErrorText : NumberFault → String
  | .empty => "cannot parse integer from empty string"
  | .invalidDigit => "invalid digit found in string"
  | .posOverflow => "number too large to fit in target type"
  | .negOverflow => "number too small to fit in target type"

def fromStrU32 (value : String) : Except NumberFault UInt32 :=
  (parseUnsigned (2 ^ 32 - 1) value.toList).map UInt32.ofNat
def fromStrU64 (value : String) : Except NumberFault UInt64 :=
  (parseUnsigned (2 ^ 64 - 1) value.toList).map UInt64.ofNat
def fromStrUsize (value : String) : Except NumberFault ℕ :=
  parseUnsigned USIZE_MAX value.toList
def fromStrI64 (value : String) : Except NumberFault Int64 :=
  (parseSigned (2 ^ 63 - 1) value.toList).map Int64.ofInt

def plainText (value : String) : Bool := plain value.toList

theorem map_ok_inv {ε α β : Type} {x : Except ε α} {f : α → β} {b : β} (h : x.map f = .ok b) :
    ∃ a, x = .ok a ∧ f a = b := by
  cases x with
  | error e => cases h
  | ok a => exact ⟨a, rfl, Except.ok.inj h⟩

theorem toString_eq_iff {s : String} {cs : List Char} (h : s.toList = cs) (value : String) :
    value.toList = cs ↔ value = s := by
  rw [← h]
  exact String.toList_inj

theorem toList_toString_u32 (n : UInt32) : (toString n).toList = natChars n.toNat :=
  toList_toString_nat n.toNat
theorem toList_toString_u64 (n : UInt64) : (toString n).toList = natChars n.toNat :=
  toList_toString_nat n.toNat
theorem toList_toString_i64 (n : Int64) : (toString n).toList = intChars n.toInt :=
  toList_toString_int n.toInt

@[simp] theorem fromStrU32_toString (n : UInt32) : fromStrU32 (toString n) = .ok n := by
  have hn := n.toNat_lt
  rw [fromStrU32, toList_toString_u32, parseUnsigned_natChars (by omega)]
  simp [Except.map]

@[simp] theorem fromStrU64_toString (n : UInt64) : fromStrU64 (toString n) = .ok n := by
  have hn := n.toNat_lt
  rw [fromStrU64, toList_toString_u64, parseUnsigned_natChars (by omega)]
  simp [Except.map]

theorem fromStrUsize_toString {n : ℕ} (h : n ≤ USIZE_MAX) :
    fromStrUsize (toString n) = .ok n := by
  rw [fromStrUsize, toList_toString_nat, parseUnsigned_natChars h]

@[simp] theorem fromStrI64_toString (n : Int64) : fromStrI64 (toString n) = .ok n := by
  have hlo := n.le_toInt
  have hhi := n.toInt_lt
  rw [fromStrI64, toList_toString_i64, parseSigned_intChars (by omega) (by omega)]
  simp [Except.map]

theorem fromStrU32_plain {value : String} {n : UInt32} (h : fromStrU32 value = .ok n) :
    plainText value = true ↔ value = toString n := by
  obtain ⟨m, hm, rfl⟩ := map_ok_inv h
  have hle := parseUnsigned_le hm
  have hsize : UInt32.size = 2 ^ 32 := rfl
  rw [plainText, parseUnsigned_plain hm]
  apply toString_eq_iff
  rw [toList_toString_u32, UInt32.toNat_ofNat_of_lt' (by omega)]

theorem fromStrU64_plain {value : String} {n : UInt64} (h : fromStrU64 value = .ok n) :
    plainText value = true ↔ value = toString n := by
  obtain ⟨m, hm, rfl⟩ := map_ok_inv h
  have hle := parseUnsigned_le hm
  have hsize : UInt64.size = 2 ^ 64 := rfl
  rw [plainText, parseUnsigned_plain hm]
  apply toString_eq_iff
  rw [toList_toString_u64, UInt64.toNat_ofNat_of_lt' (by omega)]

theorem fromStrUsize_plain {value : String} {n : ℕ} (h : fromStrUsize value = .ok n) :
    plainText value = true ↔ value = toString n := by
  rw [plainText, parseUnsigned_plain h]
  exact toString_eq_iff (toList_toString_nat n) value

theorem fromStrUsize_le {value : String} {n : ℕ} (h : fromStrUsize value = .ok n) :
    n ≤ USIZE_MAX := parseUnsigned_le h

theorem fromStrI64_plain {value : String} {n : Int64} (h : fromStrI64 value = .ok n) :
    plainText value = true ↔ value = toString n := by
  obtain ⟨i, hi, rfl⟩ := map_ok_inv h
  have hb := parseSigned_bounds hi
  rw [plainText, parseSigned_plain hi]
  apply toString_eq_iff
  rw [toList_toString_i64, Int64.toInt_ofInt_of_le (by omega) (by omega)]

/-! ### Scalars as line values -/

def CleanText (value : String) : Prop := ∀ c ∈ value.toList, cleanChar c = true

instance (value : String) : Decidable (CleanText value) :=
  List.decidableBAll (fun c => cleanChar c = true) value.toList

theorem digit_clean {c : Char} (h : c.isDigit = true) : cleanChar c = true := by
  have hb := isDigit_bounds h
  rw [cleanChar_iff]
  refine ⟨?_, ?_, ?_⟩ <;> (rintro rfl; exact absurd h (by decide))

theorem natChars_clean (n : ℕ) : ∀ c ∈ natChars n, cleanChar c = true :=
  fun _ hc => digit_clean (natChars_isDigit hc)

@[simp] theorem cleanText_nat (n : ℕ) : CleanText (toString n) := by
  intro c hc
  rw [toList_toString_nat] at hc
  exact natChars_clean n c hc

@[simp] theorem cleanText_u32 (n : UInt32) : CleanText (toString n) := cleanText_nat n.toNat
@[simp] theorem cleanText_u64 (n : UInt64) : CleanText (toString n) := cleanText_nat n.toNat

@[simp] theorem cleanText_i64 (n : Int64) : CleanText (toString n) := by
  intro c hc
  rw [toList_toString_i64] at hc
  rcases mem_intChars hc with h | rfl
  · exact digit_clean h
  · rfl

theorem cleanText_append {s t : String} (hs : CleanText s) (ht : CleanText t) :
    CleanText (s ++ t) := by
  intro c hc
  rw [String.toList_append, List.mem_append] at hc
  exact hc.elim (hs c) (ht c)

end XenorEngine.Rust
