import Mathlib.Tactic

/-!
# Text as bytes

UTF-8 bytes of a string as a plain list, and the hexadecimal spelling of a byte
list. The hexadecimal reader accepts both cases, the printer writes the lower
one, so `lowerCase` separates the spellings that print back unchanged.
-/

namespace XenorEngine.Lib.ByteText

abbrev Bytes := List UInt8

/-! ### UTF-8 -/

def utf8 (s : String) : Bytes := s.toByteArray.data.toList
def fromUtf8 (bytes : Bytes) : Option String := String.fromUTF8? ⟨bytes.toArray⟩

theorem fromUtf8_utf8 (s : String) : fromUtf8 (utf8 s) = some s := by
  have harr : (⟨(utf8 s).toArray⟩ : ByteArray) = s.toByteArray := by
    simp only [utf8, Array.toArray_toList]
  rw [fromUtf8, harr, String.fromUTF8?, dif_pos s.isValidUTF8]
  rfl

theorem utf8_of_fromUtf8 {bytes : Bytes} {s : String} (h : fromUtf8 bytes = some s) :
    utf8 s = bytes := by
  unfold fromUtf8 String.fromUTF8? at h
  split at h
  · cases h
    simp [utf8, String.fromUTF8]
  · cases h

theorem utf8_injective {s t : String} (h : utf8 s = utf8 t) : s = t := by
  have hs := fromUtf8_utf8 s
  rw [h, fromUtf8_utf8] at hs
  exact (Option.some.inj hs).symm

theorem utf8_ofList (cs : List Char) :
    utf8 (String.ofList cs) = cs.flatMap String.utf8EncodeChar := by
  simp only [utf8, String.toByteArray_ofList, List.utf8Encode, List.data_toByteArray]

theorem utf8_eq_flatMap (s : String) : utf8 s = s.toList.flatMap String.utf8EncodeChar := by
  rw [← utf8_ofList, String.ofList_toList]

theorem utf8_append (s t : String) : utf8 (s ++ t) = utf8 s ++ utf8 t := by
  simp only [utf8_eq_flatMap, String.toList_append, List.flatMap_append]

theorem utf8EncodeChar_ascii {c : Char} (h : c.toNat < 128) :
    String.utf8EncodeChar c = [c.toUInt8] := by
  apply String.utf8EncodeChar_eq_singleton
  rw [Char.utf8Size_eq_one_iff, UInt32.le_iff_toNat_le]
  have hn : c.toNat = c.val.toNat := rfl
  have hb : (127 : UInt32).toNat = 127 := rfl
  omega

/- Every byte of a character outside ASCII has its top bit set, so a byte below
128 is a character of its own. -/
theorem mem_byte_ascii {c : Char} {b : UInt8} (hb : b.toNat < 128)
    (h : b ∈ String.utf8EncodeChar c) : c.toUInt8 = b ∧ c.toNat < 128 := by
  have high : ∀ x k : UInt8, 128 ≤ k.toNat → b ≠ x ||| k := by
    rintro x k hk rfl
    rw [UInt8.toNat_or] at hb
    have hle : k.toNat ≤ x.toNat ||| k.toNat := Nat.right_le_or
    omega
  rcases Char.utf8Size_eq c with hs | hs | hs | hs
  · rw [String.utf8EncodeChar_eq_singleton hs, List.mem_singleton] at h
    have hle := Char.utf8Size_eq_one_iff.mp hs
    rw [UInt32.le_iff_toNat_le] at hle
    have hn : c.toNat = c.val.toNat := rfl
    have hk : (127 : UInt32).toNat = 127 := rfl
    exact ⟨h.symm, by omega⟩
  · rw [String.utf8EncodeChar_eq_cons_cons hs] at h
    simp only [List.mem_cons, List.not_mem_nil, or_false] at h
    rcases h with h | h
    · exact absurd h (high _ _ (by decide))
    · exact absurd h (high _ _ (by decide))
  · rw [String.utf8EncodeChar_eq_cons_cons_cons hs] at h
    simp only [List.mem_cons, List.not_mem_nil, or_false] at h
    rcases h with h | h | h
    · exact absurd h (high _ _ (by decide))
    · exact absurd h (high _ _ (by decide))
    · exact absurd h (high _ _ (by decide))
  · rw [String.utf8EncodeChar_eq_cons_cons_cons_cons hs] at h
    simp only [List.mem_cons, List.not_mem_nil, or_false] at h
    rcases h with h | h | h | h
    · exact absurd h (high _ _ (by decide))
    · exact absurd h (high _ _ (by decide))
    · exact absurd h (high _ _ (by decide))
    · exact absurd h (high _ _ (by decide))

theorem newline_of_mem {c : Char} (h : 10 ∈ String.utf8EncodeChar c) : c = '\n' := by
  obtain ⟨hb, hlt⟩ := mem_byte_ascii (by decide) h
  apply Char.toNat_inj.mp
  have hn := congrArg UInt8.toNat hb
  have hten : (10 : UInt8).toNat = 10 := rfl
  have hnl : '\n'.toNat = 10 := rfl
  rw [Char.toUInt8, UInt32.toNat_toUInt8, hten] at hn
  have hv : c.toNat = c.val.toNat := rfl
  omega

theorem utf8_ends_newline {s : String} (h : (utf8 s).getLast? = some 10) :
    ∃ t, s = t ++ "\n" := by
  rcases List.eq_nil_or_concat s.toList with hnil | ⟨cs, c, hcs⟩
  · rw [utf8_eq_flatMap, hnil] at h
    cases h
  · rw [List.concat_eq_append] at hcs
    rw [utf8_eq_flatMap, hcs, List.flatMap_append, List.flatMap_singleton,
      List.getLast?_append_of_ne_nil _ String.utf8EncodeChar_ne_nil] at h
    have hc : c = '\n' := newline_of_mem (List.mem_of_getLast? h)
    refine ⟨String.ofList cs, ?_⟩
    apply String.toList_inj.mp
    rw [hcs, hc, String.toList_append, String.toList_ofList]
    rfl

theorem utf8_newline (s : String) : utf8 (s ++ "\n") = utf8 s ++ [10] := by
  rw [utf8_append]
  rfl

theorem newline_not_mem {s : String} (h : '\n' ∉ s.toList) : 10 ∉ utf8 s := by
  rw [utf8_eq_flatMap, List.mem_flatMap]
  rintro ⟨c, hc, hten⟩
  exact h (newline_of_mem hten ▸ hc)

/-! ### Where text ends

The scan by which a byte string is found not to be text: `validUpTo` bytes are text, and the
`errorLen` bytes after them begin no character, or the input ends within one. -/

structure Utf8Error where
  validUpTo : ℕ
  errorLen : Option ℕ
  deriving DecidableEq, Repr

def Utf8Error.display : Utf8Error → String
  | ⟨validUpTo, some errorLen⟩ =>
    s!"invalid utf-8 sequence of {errorLen} bytes from index {validUpTo}"
  | ⟨validUpTo, none⟩ => s!"incomplete utf-8 byte sequence from index {validUpTo}"

/-- The length of the character that begins with this byte. -/
def utf8CharWidth (first : UInt8) : ℕ :=
  if first < 0x80 then 1
  else if first < 0xC2 then 0
  else if first < 0xE0 then 2
  else if first < 0xF0 then 3
  else if first < 0xF5 then 4
  else 0

def isContinuation (byte : UInt8) : Bool := 0x80 ≤ byte && byte ≤ 0xBF

/-- No overlong spelling, no surrogate and nothing above the last code point. -/
def secondByteAllowed (first second : UInt8) : Bool :=
  if first = 0xE0 then 0xA0 ≤ second && second ≤ 0xBF
  else if first = 0xED then 0x80 ≤ second && second ≤ 0x9F
  else if first = 0xF0 then 0x90 ≤ second && second ≤ 0xBF
  else if first = 0xF4 then 0x80 ≤ second && second ≤ 0x8F
  else isContinuation second

def utf8ErrorFrom : ℕ → Bytes → Utf8Error
  | index, [] => ⟨index, none⟩
  | index, first :: rest =>
    match utf8CharWidth first, rest with
    | 0, _ => ⟨index, some 1⟩
    | 1, rest => utf8ErrorFrom (index + 1) rest
    | _, [] => ⟨index, none⟩
    | width, second :: rest =>
      if secondByteAllowed first second then
        match width, rest with
        | 2, rest => utf8ErrorFrom (index + 2) rest
        | _, [] => ⟨index, none⟩
        | width, third :: rest =>
          if isContinuation third then
            match width, rest with
            | 3, rest => utf8ErrorFrom (index + 3) rest
            | _, [] => ⟨index, none⟩
            | _, fourth :: rest =>
              if isContinuation fourth then utf8ErrorFrom (index + 4) rest
              else ⟨index, some 3⟩
          else ⟨index, some 2⟩
      else ⟨index, some 1⟩

def utf8Error (bytes : Bytes) : Utf8Error := utf8ErrorFrom 0 bytes

example : utf8Error [97, 0xE0, 0x80, 10] = ⟨1, some 1⟩ ∧ utf8Error [97, 0xE2, 0x82] = ⟨1, none⟩ :=
  by decide

/-! ### Lines of bytes -/

def joinByteLines (ls : List Bytes) : Bytes := ls.flatMap (· ++ [10])

/-- The lines of bytes that end with a newline. -/
def byteLines (bytes : Bytes) : List Bytes := (bytes.splitOn 10).dropLast

theorem byteLines_join {ls : List Bytes} (h : ∀ l ∈ ls, 10 ∉ l) :
    byteLines (joinByteLines ls) = ls := by
  have hsplit : (joinByteLines ls).splitOn 10 = ls ++ [[]] := by
    induction ls with
    | nil => rfl
    | cons l ls ih =>
      have hl := h l (List.mem_cons_self ..)
      have hls := ih fun x hx => h x (List.mem_cons_of_mem _ hx)
      have hcons : joinByteLines (l :: ls) = l ++ 10 :: joinByteLines ls := by
        simp [joinByteLines]
      rw [hcons, List.splitOn_append_cons_self_of_not_mem hl, hls]
      rfl
  rw [byteLines, hsplit, List.dropLast_concat]

/-! ### Hexadecimal -/

def hexDigit (nibble : ℕ) : Char :=
  if nibble < 10 then Char.ofNat (48 + nibble) else Char.ofNat (87 + nibble)

def hexChars : Bytes → List Char
  | [] => []
  | b :: bs => hexDigit (b.toNat / 16) :: hexDigit (b.toNat % 16) :: hexChars bs

def hexNibble (b : UInt8) : Option ℕ :=
  if 48 ≤ b.toNat ∧ b.toNat ≤ 57 then some (b.toNat - 48)
  else if 97 ≤ b.toNat ∧ b.toNat ≤ 102 then some (b.toNat - 97 + 10)
  else if 65 ≤ b.toNat ∧ b.toNat ≤ 70 then some (b.toNat - 65 + 10)
  else none

def lowerCase (bs : Bytes) : Bool := bs.all fun b => !(65 ≤ b.toNat && b.toNat ≤ 70)

theorem hexNibble_lt {b : UInt8} {n : ℕ} (h : hexNibble b = some n) : n < 16 := by
  unfold hexNibble at h
  split at h
  · cases h; omega
  · split at h
    · cases h; omega
    · split at h
      · cases h; omega
      · cases h

theorem hexDigit_toNat {n : ℕ} (h : n < 16) :
    (hexDigit n).toNat = if n < 10 then 48 + n else 87 + n := by
  interval_cases n <;> rfl

theorem hexDigit_ascii {n : ℕ} (h : n < 16) : (hexDigit n).toNat < 128 := by
  rw [hexDigit_toNat h]
  split <;> omega

theorem toUInt8_toNat {c : Char} (h : c.toNat < 128) : c.toUInt8.toNat = c.toNat := by
  rw [Char.toUInt8, UInt32.toNat_toUInt8]
  exact Nat.mod_eq_of_lt (by change c.toNat < 256; omega)

theorem hexDigit_byte {n : ℕ} (h : n < 16) :
    (hexDigit n).toUInt8.toNat = if n < 10 then 48 + n else 87 + n := by
  rw [toUInt8_toNat (hexDigit_ascii h), hexDigit_toNat h]

theorem hexNibble_hexDigit {n : ℕ} (h : n < 16) : hexNibble (hexDigit n).toUInt8 = some n := by
  unfold hexNibble
  rw [hexDigit_byte h]
  by_cases h10 : n < 10
  · rw [if_pos h10, if_pos (by omega)]
    congr 1
    omega
  · rw [if_neg h10, if_neg (by omega), if_pos (by omega)]
    congr 1
    omega

/- A lower-case hexadecimal byte is the printed digit of its value. -/
theorem hexDigit_hexNibble {b : UInt8} {n : ℕ} (h : hexNibble b = some n)
    (hl : ¬(65 ≤ b.toNat ∧ b.toNat ≤ 70)) : (hexDigit n).toUInt8 = b := by
  apply UInt8.toNat_inj.mp
  rw [hexDigit_byte (hexNibble_lt h)]
  unfold hexNibble at h
  split at h
  · cases h
    rw [if_pos (by omega)]
    omega
  · split at h
    · cases h
      rw [if_neg (by omega)]
      omega
    · cases h

theorem hexChars_ascii {bs : Bytes} {c : Char} (h : c ∈ hexChars bs) :
    ∃ n, n < 16 ∧ c = hexDigit n := by
  induction bs with
  | nil => cases h
  | cons b bs ih =>
    have hb := b.toNat_lt
    simp only [hexChars, List.mem_cons] at h
    rcases h with h | h | h
    · exact ⟨_, by omega, h⟩
    · exact ⟨_, by omega, h⟩
    · exact ih h

theorem utf8_hexChars (bs : Bytes) :
    utf8 (String.ofList (hexChars bs)) = (hexChars bs).map Char.toUInt8 := by
  rw [utf8_ofList]
  have hall : ∀ c ∈ hexChars bs, String.utf8EncodeChar c = [c.toUInt8] := by
    intro c hc
    obtain ⟨n, hn, rfl⟩ := hexChars_ascii hc
    exact utf8EncodeChar_ascii (hexDigit_ascii hn)
  generalize hexChars bs = cs at hall
  induction cs with
  | nil => rfl
  | cons c cs ih =>
    rw [List.flatMap_cons, hall c (List.mem_cons_self ..), List.map_cons,
      ih (fun d hd => hall d (List.mem_cons_of_mem _ hd))]
    rfl

theorem lowerCase_hexChars (bs : Bytes) : lowerCase (utf8 (String.ofList (hexChars bs))) = true := by
  rw [utf8_hexChars, lowerCase, List.all_eq_true]
  intro b hb
  obtain ⟨c, hc, rfl⟩ := List.mem_map.mp hb
  obtain ⟨n, hn, rfl⟩ := hexChars_ascii hc
  rw [hexDigit_byte hn]
  simp only [Bool.not_eq_true', Bool.and_eq_false_iff, decide_eq_false_iff_not]
  split <;> omega

theorem hexChars_length (bs : Bytes) : (hexChars bs).length = 2 * bs.length := by
  induction bs with
  | nil => rfl
  | cons b bs ih =>
    simp only [hexChars, List.length_cons, ih]
    omega

end XenorEngine.Lib.ByteText
