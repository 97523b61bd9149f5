import XenorEngine.Lib.LineText
import XenorEngine.Lib.PrefixReader
import XenorEngine.Rust.Core

/-!
# canonical (canonical/mod.rs)

The line writer and reader shared by every payload and artifact format, and the
hexadecimal fields in which one format carries the bytes of another. A reader
that accepts a byte string holds exactly the lines the writer would turn into
that byte string.
-/

namespace XenorEngine.Rust
open XenorEngine.Lib.ByteText XenorEngine.Lib.LineText XenorEngine.Lib.Fallible
open XenorEngine.Lib.PrefixReader

def CANONICAL_TEXT_ENCODING : String := "xenor-canonical-text/v1"

structure CanonicalError where
  detail : String
  deriving DecidableEq, Repr

/-- `CanonicalLineWriter`: the pushed `key=value` pairs in order, joined by `finish`. -/
abbrev CanonicalLineWriter := List Line

def CanonicalLineWriter.finish (lines : CanonicalLineWriter) : Bytes := utf8 (joinLines lines)

def encodeHex (bytes : Bytes) : String := String.ofList (hexChars bytes)

/-- `CanonicalLineReader`: `lines[..index]` are the tokens seen, `lines[index..]` the
rest. `consumed_keys` holds the keys of the seen part. -/
abbrev CanonicalLineReader := Cursor Line

def CanonicalLineReader.consumedKeys (seen : List Line) : List String := seen.map Prod.fst

def parseLine (label : String) (index : ℕ) (line : List Char) : Except CanonicalError Line := do
  rejectIf (line = []) ⟨s!"{label}: blank line at position {index + 1}"⟩
  match splitOnce '=' line with
  | none => throw ⟨s!"{label}: invalid line `{String.ofList line}`"⟩
  | some (key, value) => do
    rejectIf (key = []) ⟨s!"{label}: empty key in line `{String.ofList line}`"⟩
    rejectIf ('=' ∈ value) ⟨s!"{label}: unescaped delimiter in line `{String.ofList line}`"⟩
    pure (String.ofList key, String.ofList value)

def parseLines (label : String) : ℕ → List (List Char) → Except CanonicalError (List Line)
  | _, [] => pure []
  | index, line :: rest => do
    let l ← parseLine label index line
    let ls ← parseLines label (index + 1) rest
    pure (l :: ls)

def CanonicalLineReader.new (bytes : Bytes) (label : String) :
    Except CanonicalError CanonicalLineReader := do
  rejectIf (bytes = []) ⟨s!"{label}: empty canonical payload"⟩
  rejectIf (bytes.getLast? ≠ some 10) ⟨s!"{label}: missing terminal newline"⟩
  match fromUtf8 bytes with
  | none => throw ⟨s!"{label}: invalid utf8: {(utf8Error bytes).display}"⟩
  | some text => do
    rejectIf ('\r' ∈ text.toList) ⟨s!"{label}: carriage returns are not allowed"⟩
    let lines ← parseLines label 0 (splitTerminator '\n' text.toList)
    pure (Cursor.start lines)

def readValue (key label : String) : Reader Line CanonicalError String :=
  token (fun l => if l.1 = key then some l.2 else none)
    ⟨s!"{label}: missing required key `{key}`"⟩
    (fun seen l =>
      if l.1 ∈ CanonicalLineReader.consumedKeys seen then
        ⟨s!"{label}: duplicate key `{l.1}`"⟩
      else ⟨s!"{label}: invalid field order, expected `{key}`, got `{l.1}`"⟩)

def expectValue (key expected label : String) : Reader Line CanonicalError Unit := do
  let value ← readValue key label
  lift (rejectIf (value ≠ expected) ⟨s!"{label}: expected `{key}={expected}`, got `{value}`"⟩)

def CanonicalLineReader.finish (reader : CanonicalLineReader) (label : String) :
    Except CanonicalError Unit :=
  match reader.rest with
  | [] => pure ()
  | l :: _ =>
    if l.1 ∈ CanonicalLineReader.consumedKeys reader.seen then
      throw ⟨s!"{label}: duplicate key `{l.1}`"⟩
    else throw ⟨s!"{label}: unexpected trailing key `{l.1}`"⟩

def canonicalDigest (bytes : Bytes) : UInt64 := checksumBytes bytes

def hexValue (byte : UInt8) (label : String) : Except CanonicalError UInt8 :=
  match hexNibble byte with
  | some nibble => pure (UInt8.ofNat nibble)
  | none => throw ⟨s!"{label}: invalid hex byte `{Char.ofNat byte.toNat}`"⟩

def decodePairs (label : String) : Bytes → Except CanonicalError Bytes
  | hi :: lo :: rest => do
    let h ← hexValue hi label
    let l ← hexValue lo label
    let bytes ← decodePairs label rest
    pure ((h <<< 4 ||| l) :: bytes)
  | _ => pure []

def decodeHex (value label : String) : Except CanonicalError Bytes := do
  rejectIf ((utf8 value).length % 2 ≠ 0)
    ⟨s!"{label}: invalid hex length {(utf8 value).length}"⟩
  decodePairs label (utf8 value)

def decodeHexString (value label : String) : Except CanonicalError String := do
  let bytes ← decodeHex value label
  match fromUtf8 bytes with
  | some text => pure text
  | none => throw ⟨s!"{label}: invalid utf8 string: {(utf8Error bytes).display}"⟩

/-- The frame around every decoder: open the reader, read the fields, expect the end. -/
def readAll {ε α : Type} (bytes : Bytes) (label : String) (wrap : CanonicalError → ε)
    (fields : Reader Line ε α) : Except ε α := do
  let reader ← (CanonicalLineReader.new bytes label).mapError wrap
  let result ← fields.run reader
  (CanonicalLineReader.finish result.2 label).mapError wrap
  pure result.1

/-! ### Lines -/

theorem parseLine_eq_ok {label : String} {index : ℕ} {line : List Char} {l : Line} :
    parseLine label index line = .ok l ↔
      line = joinChars l ∧ l.1 ≠ "" ∧ '=' ∉ l.1.toList ∧ '=' ∉ l.2.toList := by
  unfold parseLine
  constructor
  · intro h
    simp only [bind_eq_ok, rejectIf_eq_ok, exists_const] at h
    obtain ⟨-, h⟩ := h
    cases hs : splitOnce '=' line with
    | none => simp [hs] at h
    | some p =>
      obtain ⟨key, value⟩ := p
      simp only [hs, bind_eq_ok, rejectIf_eq_ok, pure_eq_ok, exists_const] at h
      obtain ⟨hk, hv, rfl⟩ := h
      obtain ⟨hline, hnot⟩ := splitOnce_some hs
      refine ⟨?_, ?_, ?_, ?_⟩
      · simpa only [joinChars, String.toList_ofList] using hline
      · intro he
        apply hk
        have ht := congrArg String.toList he
        rwa [String.toList_ofList] at ht
      · simpa only [String.toList_ofList] using hnot
      · simpa only [String.toList_ofList] using hv
  · rintro ⟨rfl, hne, hk, hv⟩
    have hs : splitOnce '=' (joinChars l) = some (l.1.toList, l.2.toList) :=
      splitOnce_append l.1.toList l.2.toList hk
    have hl : joinChars l ≠ [] := by simp [joinChars]
    have hkey : l.1.toList ≠ [] := by
      intro he
      exact hne (String.toList_inj.mp he)
    simp only [bind_eq_ok, rejectIf_eq_ok, exists_const, hs, pure_eq_ok, String.ofList_toList]
    exact ⟨hl, hkey, hv, trivial⟩

theorem parseLines_eq_ok {label : String} {index : ℕ} {pieces : List (List Char)}
    {ls : List Line} :
    parseLines label index pieces = .ok ls ↔
      pieces = ls.map joinChars ∧
        ∀ l ∈ ls, l.1 ≠ "" ∧ '=' ∉ l.1.toList ∧ '=' ∉ l.2.toList := by
  induction pieces generalizing index ls with
  | nil =>
    simp only [parseLines, pure_eq_ok]
    constructor
    · rintro rfl
      simp
    · rintro ⟨h, -⟩
      simpa using h
  | cons piece rest ih =>
    simp only [parseLines, bind_eq_ok, pure_eq_ok, parseLine_eq_ok, ih]
    constructor
    · rintro ⟨l, ⟨rfl, hl⟩, ls', ⟨rfl, hls⟩, rfl⟩
      exact ⟨rfl, List.forall_mem_cons.mpr ⟨hl, hls⟩⟩
    · rintro ⟨hmap, hall⟩
      cases ls with
      | nil => simp at hmap
      | cons l ls =>
        simp only [List.map_cons, List.cons.injEq] at hmap
        obtain ⟨hl, hls⟩ := List.forall_mem_cons.mp hall
        exact ⟨l, ⟨hmap.1, hl⟩, ls, ⟨hmap.2, hls⟩, rfl⟩

theorem joinChars_clean {l : Line} (h : Clean l) :
    '\n' ∉ joinChars l ∧ '\r' ∉ joinChars l ∧ '=' ∉ l.1.toList ∧ '=' ∉ l.2.toList := by
  have hk : ∀ c ∈ l.1.toList, c ≠ '=' ∧ c ≠ '\n' ∧ c ≠ '\r' :=
    fun c hc => cleanChar_iff.mp (h.key c hc)
  have hv : ∀ c ∈ l.2.toList, c ≠ '=' ∧ c ≠ '\n' ∧ c ≠ '\r' :=
    fun c hc => cleanChar_iff.mp (h.value c hc)
  refine ⟨?_, ?_, fun hm => (hk _ hm).1 rfl, fun hm => (hv _ hm).1 rfl⟩
  · simp only [joinChars, List.mem_append, List.mem_cons, not_or]
    exact ⟨fun hm => (hk _ hm).2.1 rfl, by decide, fun hm => (hv _ hm).2.1 rfl⟩
  · simp only [joinChars, List.mem_append, List.mem_cons, not_or]
    exact ⟨fun hm => (hk _ hm).2.2 rfl, by decide, fun hm => (hv _ hm).2.2 rfl⟩

/- The line layer is a bijection between clean line lists and accepted bytes. -/
theorem reader_new_finish {ls : List Line} (hne : ls ≠ []) (hclean : ∀ l ∈ ls, Clean l)
    (label : String) :
    CanonicalLineReader.new (CanonicalLineWriter.finish ls) label = .ok (Cursor.start ls) := by
  have htext : joinLines ls = "\n".intercalate (ls.map joinLine) ++ "\n" := rfl
  have hbytes : CanonicalLineWriter.finish ls =
      utf8 ("\n".intercalate (ls.map joinLine)) ++ [10] := by
    rw [CanonicalLineWriter.finish, htext, utf8_newline]
  have hsplit : splitTerminator '\n' (joinLines ls).toList = ls.map joinChars := by
    rw [joinLines_toList]
    apply splitTerminator_intercalate
    · simpa using hne
    · intro cs hcs
      obtain ⟨l, hl, rfl⟩ := List.mem_map.mp hcs
      exact (joinChars_clean (hclean l hl)).1
  have hcr : '\r' ∉ (joinLines ls).toList := by
    intro hm
    rw [joinLines_toList, List.mem_append] at hm
    rcases hm with hm | hm
    · have hall : ∀ cs ∈ ls.map joinChars, '\r' ∉ cs := by
        intro cs hcs
        obtain ⟨l, hl, rfl⟩ := List.mem_map.mp hcs
        exact (joinChars_clean (hclean l hl)).2.1
      exact not_mem_intercalate (by decide) hall hm
    · exact absurd hm (by decide)
  unfold CanonicalLineReader.new
  simp only [bind_eq_ok, rejectIf_eq_ok, exists_const]
  refine ⟨?_, ?_, ?_⟩
  · rw [hbytes]
    simp
  · rw [hbytes]
    simp
  · simp only [CanonicalLineWriter.finish, fromUtf8_utf8, bind_eq_ok, rejectIf_eq_ok,
      exists_const, pure_eq_ok]
    refine ⟨hcr, ls, ?_, rfl⟩
    rw [hsplit, parseLines_eq_ok]
    refine ⟨rfl, fun l hl => ?_⟩
    obtain ⟨-, -, hk, hv⟩ := joinChars_clean (hclean l hl)
    exact ⟨(hclean l hl).key_ne, hk, hv⟩

theorem reader_new_sound {bytes : Bytes} {label : String} {reader : CanonicalLineReader}
    (h : CanonicalLineReader.new bytes label = .ok reader) :
    ∃ ls, ls ≠ [] ∧ (∀ l ∈ ls, Clean l) ∧ reader = Cursor.start ls ∧
      bytes = CanonicalLineWriter.finish ls := by
  unfold CanonicalLineReader.new at h
  simp only [bind_eq_ok, rejectIf_eq_ok, exists_const] at h
  obtain ⟨-, hlast, h⟩ := h
  cases htext : fromUtf8 bytes with
  | none => simp [htext] at h
  | some text =>
    simp only [htext, bind_eq_ok, rejectIf_eq_ok, exists_const, pure_eq_ok] at h
    obtain ⟨hcr, ls, hls, rfl⟩ := h
    have hutf := utf8_of_fromUtf8 htext
    rw [ne_eq, not_not, ← hutf] at hlast
    obtain ⟨body, rfl⟩ := utf8_ends_newline hlast
    rw [String.toList_append] at hls hcr
    obtain ⟨hjoin, hpne, hnl⟩ := @intercalate_splitTerminator '\n' body.toList
    obtain ⟨hmap, hall⟩ := parseLines_eq_ok.mp hls
    have hnlc : "\n".toList = ['\n'] := rfl
    rw [hnlc] at hmap hcr
    rw [hmap] at hjoin hpne hnl
    have hchars : ∀ l ∈ ls, ∀ c ∈ joinChars l, c ≠ '\n' ∧ c ≠ '\r' := by
      intro l hl c hc
      refine ⟨fun he => hnl _ (List.mem_map.mpr ⟨l, hl, rfl⟩) (he ▸ hc), fun he => hcr ?_⟩
      rw [← hjoin, List.mem_append]
      exact Or.inl (mem_intercalate (List.mem_map.mpr ⟨l, hl, rfl⟩) (he ▸ hc))
    refine ⟨ls, by simpa using hpne, ?_, rfl, ?_⟩
    · intro l hl
      obtain ⟨hkne, hk, hv⟩ := hall l hl
      refine ⟨hkne, fun c hc => cleanChar_iff.mpr ⟨?_, ?_⟩, fun c hc => cleanChar_iff.mpr ⟨?_, ?_⟩⟩
      · exact fun he => hk (he ▸ hc)
      · exact hchars l hl c (List.mem_append.mpr (Or.inl hc))
      · exact fun he => hv (he ▸ hc)
      · exact hchars l hl c (List.mem_append.mpr (Or.inr (List.mem_cons_of_mem _ hc)))
    · rw [← hutf, CanonicalLineWriter.finish]
      congr 1
      apply String.toList_inj.mp
      rw [String.toList_append, joinLines_toList, hjoin]
      rfl

@[simp] theorem readValue_reads {key label value : String} {ls : List Line} :
    (readValue key label).Reads ls value ↔ ls = [(key, value)] := by
  rw [readValue, token_reads]
  constructor
  · rintro ⟨⟨k, v⟩, rfl, h⟩
    split at h
    · rename_i hk
      rw [← hk, ← Option.some.inj h]
    · cases h
  · rintro rfl
    exact ⟨(key, value), rfl, by simp⟩

@[simp] theorem expectValue_reads {key expected label : String} {u : Unit} {ls : List Line} :
    (expectValue key expected label).Reads ls u ↔ ls = [(key, expected)] := by
  simp only [expectValue, bind_reads, readValue_reads, lift_reads, rejectIf_eq_ok, not_not]
  constructor
  · rintro ⟨l1, l2, value, rfl, rfl, rfl, rfl⟩
    rfl
  · rintro rfl
    exact ⟨_, [], expected, rfl, rfl, rfl, rfl⟩

theorem finish_eq_ok {reader : CanonicalLineReader} {label : String} {u : Unit} :
    CanonicalLineReader.finish reader label = .ok u ↔ reader.rest = [] := by
  unfold CanonicalLineReader.finish
  cases hr : reader.rest with
  | nil => simp
  | cons l rest =>
    simp only [reduceCtorEq, iff_false]
    split <;> simp

theorem readAll_eq_ok {ε α : Type} {bytes : Bytes} {label : String} {wrap : CanonicalError → ε}
    {fields : Reader Line ε α} {a : α} :
    readAll bytes label wrap fields = .ok a ↔
      ∃ ls, ls ≠ [] ∧ (∀ l ∈ ls, Clean l) ∧ bytes = CanonicalLineWriter.finish ls ∧
        fields.Reads ls a := by
  simp only [readAll, bind_eq_ok, mapError_eq_ok, finish_eq_ok, pure_eq_ok, exists_const]
  constructor
  · rintro ⟨reader, hnew, ⟨b, rest⟩, hrun, hfin, rfl⟩
    obtain ⟨ls, hne, hclean, rfl, hbytes⟩ := reader_new_sound hnew
    obtain ⟨ls', hls', -, hreads⟩ := reads_of_run hrun
    have hend : rest.rest = [] := hfin
    have hall : ls = ls' := by
      rw [hend, List.append_nil] at hls'
      exact hls'
    rw [← hall] at hreads
    exact ⟨ls, hne, hclean, hbytes, hreads⟩
  · rintro ⟨ls, hne, hclean, rfl, hreads⟩
    exact ⟨_, reader_new_finish hne hclean label, _, run_of_reads hreads, rfl, rfl⟩

theorem finish_injective {ls ms : List Line} (hls : ls ≠ []) (hms : ms ≠ [])
    (cls : ∀ l ∈ ls, Clean l) (cms : ∀ l ∈ ms, Clean l)
    (h : CanonicalLineWriter.finish ls = CanonicalLineWriter.finish ms) : ls = ms := by
  have h1 := reader_new_finish hls cls ""
  rw [h, reader_new_finish hms cms ""] at h1
  exact (congrArg Cursor.rest (Except.ok.inj h1)).symm

/-! ### Hexadecimal fields -/

theorem hexValue_eq_ok {byte v : UInt8} {label : String} :
    hexValue byte label = .ok v ↔ hexNibble byte = some v.toNat := by
  unfold hexValue
  cases h : hexNibble byte with
  | none => simp
  | some n =>
    have hn := hexNibble_lt h
    simp only [pure_eq_ok, Option.some.injEq]
    constructor
    · rintro rfl
      simp only [UInt8.toNat_ofNat']
      omega
    · rintro rfl
      simp

theorem joinNibbles {h l : UInt8} (hh : h.toNat < 16) (hl : l.toNat < 16) :
    (h <<< 4 ||| l).toNat = 16 * h.toNat + l.toNat := by
  have hall : ∀ a < 16, ∀ b < 16,
      (UInt8.ofNat a <<< 4 ||| UInt8.ofNat b).toNat = 16 * a + b := by decide
  have := hall h.toNat hh l.toNat hl
  rwa [UInt8.ofNat_toNat, UInt8.ofNat_toNat] at this

theorem decodePairs_hexChars (bs : Bytes) (label : String) :
    decodePairs label ((hexChars bs).map Char.toUInt8) = .ok bs := by
  induction bs with
  | nil => rfl
  | cons b bs ih =>
    have hb := b.toNat_lt
    have hhi : hexValue (hexDigit (b.toNat / 16)).toUInt8 label
        = .ok (UInt8.ofNat (b.toNat / 16)) := by
      rw [hexValue_eq_ok, hexNibble_hexDigit (by omega), UInt8.toNat_ofNat']
      congr 1
      omega
    have hlo : hexValue (hexDigit (b.toNat % 16)).toUInt8 label
        = .ok (UInt8.ofNat (b.toNat % 16)) := by
      rw [hexValue_eq_ok, hexNibble_hexDigit (by omega), UInt8.toNat_ofNat']
      congr 1
      omega
    simp only [hexChars, List.map_cons, decodePairs, hhi, hlo, ih, ok_bind, pure_eq_ok,
      List.cons.injEq, and_true]
    apply UInt8.toNat_inj.mp
    rw [joinNibbles (by rw [UInt8.toNat_ofNat']; omega) (by rw [UInt8.toNat_ofNat']; omega),
      UInt8.toNat_ofNat', UInt8.toNat_ofNat']
    omega

theorem decodeHex_encodeHex (bs : Bytes) (label : String) :
    decodeHex (encodeHex bs) label = .ok bs := by
  simp only [decodeHex, encodeHex, utf8_hexChars, bind_eq_ok, rejectIf_eq_ok, exists_const,
    List.length_map, hexChars_length, decodePairs_hexChars]
  exact ⟨by omega, trivial⟩

/- Read in pairs, a lower-case text is the spelling of the bytes it denotes. -/
theorem decodePairs_lower {text bs : Bytes} {label : String} (heven : text.length % 2 = 0)
    (h : decodePairs label text = .ok bs) (hl : lowerCase text = true) :
    text = (hexChars bs).map Char.toUInt8 := by
  induction text using decodePairs.induct generalizing bs with
  | case1 hi lo rest ih =>
    simp only [decodePairs, bind_eq_ok, pure_eq_ok] at h
    obtain ⟨x, hx, y, hy, tail, ht, rfl⟩ := h
    rw [hexValue_eq_ok] at hx hy
    simp only [lowerCase, List.all_cons, Bool.and_eq_true, Bool.not_eq_true',
      Bool.and_eq_false_iff, decide_eq_false_iff_not] at hl
    simp only [List.length_cons] at heven
    have hrest := ih (by omega) ht hl.2.2
    have hx16 := hexNibble_lt hx
    have hy16 := hexNibble_lt hy
    have hv := joinNibbles hx16 hy16
    simp only [hexChars, List.map_cons, hv, ← hrest]
    have hd : (16 * x.toNat + y.toNat) / 16 = x.toNat := by omega
    have hm : (16 * x.toNat + y.toNat) % 16 = y.toNat := by omega
    rw [hd, hm, hexDigit_hexNibble hx (by omega), hexDigit_hexNibble hy (by omega)]
  | case2 text hnot =>
    have hnil : text = [] := by
      cases text with
      | nil => rfl
      | cons a as =>
        cases as with
        | nil => simp at heven
        | cons b bs => exact absurd rfl (hnot a b bs)
    subst hnil
    simp only [decodePairs, pure_eq_ok] at h
    subst h
    rfl

theorem decodeHex_lower {value label : String} {bs : Bytes}
    (h : decodeHex value label = .ok bs) :
    lowerCase (utf8 value) = true ↔ value = encodeHex bs := by
  simp only [decodeHex, bind_eq_ok, rejectIf_eq_ok, exists_const, not_not] at h
  constructor
  · intro hl
    apply utf8_injective
    rw [encodeHex, utf8_hexChars]
    exact decodePairs_lower h.1 h.2 hl
  · rintro rfl
    exact lowerCase_hexChars bs

theorem decodeHexString_encodeHex (text label : String) :
    decodeHexString (encodeHex (utf8 text)) label = .ok text := by
  simp only [decodeHexString, decodeHex_encodeHex, ok_bind, fromUtf8_utf8]
  rfl

theorem decodeHexString_lower {value label text : String}
    (h : decodeHexString value label = .ok text) :
    lowerCase (utf8 value) = true ↔ value = encodeHex (utf8 text) := by
  simp only [decodeHexString, bind_eq_ok] at h
  obtain ⟨bs, hbs, htext⟩ := h
  cases hf : fromUtf8 bs with
  | none => simp [hf] at htext
  | some t =>
    simp only [hf, pure_eq_ok] at htext
    subst htext
    rw [utf8_of_fromUtf8 hf]
    exact decodeHex_lower hbs

theorem encodeHex_clean (bs : Bytes) : ∀ c ∈ (encodeHex bs).toList, cleanChar c = true := by
  intro c hc
  rw [encodeHex, String.toList_ofList] at hc
  obtain ⟨n, hn, rfl⟩ := hexChars_ascii hc
  interval_cases n <;> rfl

end XenorEngine.Rust
