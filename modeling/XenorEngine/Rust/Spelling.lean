import XenorEngine.Lib.FieldCodec
import XenorEngine.Rust.Canonical
import XenorEngine.Rust.Policy

/-!
# Plain spellings

Decoders read numbers with the general parser of the integer type and accept
hexadecimal digits of either case, so a value has more accepted spellings than
the one its encoder writes. `plainSpelling` recognises the latter on the bytes
alone, through every format nested in a hexadecimal field.
-/

namespace XenorEngine.Rust
open XenorEngine.Lib.Decimal XenorEngine.Lib.ByteText XenorEngine.Lib.LineText
open XenorEngine.Lib.Fallible XenorEngine.Lib.PrefixReader XenorEngine.Lib.FieldCodec

inductive FieldKind
  | text
  | hex
  | nested
  deriving DecidableEq, Repr

/-- Key endings of the fields that carry the bytes of another format. -/
def nestedEndings : List String := ["command_hex", "payload_hex", "artifact_hex"]
def hexEnding : String := "_hex"

def endsWith (key ending : String) : Bool := ending.toList.isSuffixOf key.toList

def fieldKind (key : String) : FieldKind :=
  if nestedEndings.any (endsWith key) then .nested
  else if endsWith key hexEnding then .hex
  else .text

/-- A number, a name, or a name and a number with a colon between. -/
def plainScalar (value : String) : Bool :=
  plainText value && (splitOnce ':' value.toList).all fun p => plain p.2

def plainHex (value : String) : Bool := lowerCase (utf8 value)

def plainNested (nested : Bytes → Bool) (value : String) : Bool :=
  plainHex value &&
    match decodeHex value "" with
    | .ok bytes => nested bytes
    | .error _ => false

def plainField (nested : Bytes → Bool) : FieldKind → String → Bool
  | .text => plainScalar
  | .hex => plainHex
  | .nested => plainNested nested

def plainLine (nested : Bytes → Bool) (l : Line) : Bool := plainField nested (fieldKind l.1) l.2

/-- `depth` bounds how many formats are nested in each other. -/
def plainSpelling : ℕ → Bytes → Bool
  | 0, _ => false
  | depth + 1, bytes =>
    match CanonicalLineReader.new bytes "" with
    | .ok reader => reader.rest.all (plainLine (plainSpelling depth))
    | .error _ => false

def lineSpelling (nested : Bytes → Bool) : Spelling Line := ⟨plainLine nested, Clean⟩

theorem plainSpelling_finish {ls : List Line} (hne : ls ≠ []) (hclean : ∀ l ∈ ls, Clean l)
    (depth : ℕ) : plainSpelling (depth + 1) (CanonicalLineWriter.finish ls) =
      ls.all (plainLine (plainSpelling depth)) := by
  rw [plainSpelling, reader_new_finish hne hclean]
  rfl

/- The label is for error texts only. -/
theorem decodePairs_label {text bs : Bytes} {label label' : String}
    (h : decodePairs label text = .ok bs) : decodePairs label' text = .ok bs := by
  induction text using decodePairs.induct generalizing bs with
  | case1 hi lo rest ih =>
    simp only [decodePairs, bind_eq_ok, pure_eq_ok, hexValue_eq_ok] at h ⊢
    obtain ⟨x, hx, y, hy, tail, ht, hbs⟩ := h
    exact ⟨x, hx, y, hy, tail, ih ht, hbs⟩
  | case2 text hnot =>
    cases text with
    | nil => exact h
    | cons a as =>
      cases as with
      | nil => exact h
      | cons b bs => exact absurd rfl (hnot a b bs)

/-! ### Keys -/

def GoodKey (kind : FieldKind) (key : String) : Prop :=
  key ≠ "" ∧ CleanText key ∧ fieldKind key = kind

instance (kind : FieldKind) (key : String) : Decidable (GoodKey kind key) :=
  inferInstanceAs (Decidable (_ ∧ _ ∧ _))

/-- What precedes such a tail does not change the kind of a key. -/
def DecisiveTail (tail : String) : Prop :=
  ∀ ending ∈ hexEnding :: nestedEndings, endsWith ending tail = true → tail = ending

instance (tail : String) : Decidable (DecisiveTail tail) :=
  inferInstanceAs (Decidable (∀ ending ∈ hexEnding :: nestedEndings, _))

theorem endsWith_append {pre tail ending : String}
    (h : endsWith ending tail = true → tail = ending) :
    endsWith (pre ++ tail) ending = endsWith tail ending := by
  have hiff : ∀ key e : String, endsWith key e = true ↔ e.toList <:+ key.toList := by
    intro key e
    rw [endsWith, List.isSuffixOf_iff_suffix]
  apply Bool.eq_iff_iff.mpr
  rw [hiff, hiff, String.toList_append]
  constructor
  · intro hs
    have htail : tail.toList <:+ pre.toList ++ tail.toList := List.suffix_append _ _
    rcases List.suffix_or_suffix_of_suffix hs htail with hs | hs
    · exact hs
    · rw [h ((hiff _ _).mpr hs)]
  · intro hs
    exact hs.trans (List.suffix_append _ _)

theorem fieldKind_append {pre tail : String} (h : DecisiveTail tail) :
    fieldKind (pre ++ tail) = fieldKind tail := by
  have hany : nestedEndings.any (endsWith (pre ++ tail)) = nestedEndings.any (endsWith tail) := by
    rw [Bool.eq_iff_iff, List.any_eq_true, List.any_eq_true]
    refine exists_congr fun e => and_congr_right fun he => ?_
    rw [endsWith_append (h e (List.mem_cons_of_mem _ he))]
  unfold fieldKind
  rw [hany, endsWith_append (h hexEnding (List.mem_cons_self ..))]

theorem goodKey_append {kind : FieldKind} {pre tail : String} (hpre : CleanText pre)
    (htail : GoodKey kind tail) (hd : DecisiveTail tail) : GoodKey kind (pre ++ tail) := by
  obtain ⟨hne, hclean, hkind⟩ := htail
  refine ⟨?_, cleanText_append hpre hclean, by rw [fieldKind_append hd, hkind]⟩
  intro he
  have hl := congrArg String.toList he
  rw [String.toList_append] at hl
  exact hne (String.toList_inj.mp (List.append_eq_nil_iff.mp hl).2)

/-! ### Values -/

/-- `parse` reads back what `print` writes, and of its other spellings none is plain. -/
structure Spells {ε α : Type} (plainValue : String → Bool) (parse : String → Except ε α)
    (print : α → String) (dom : α → Prop) : Prop where
  parse_print : ∀ a, dom a → parse (print a) = .ok a
  clean : ∀ a, dom a → CleanText (print a)
  sound : ∀ v a, parse v = .ok a → dom a ∧ (plainValue v = true ↔ v = print a)

variable {ε ε' α : Type} {plainValue : String → Bool} {print : α → String} {dom : α → Prop}

theorem spells_congr {parse : String → Except ε α} {parse' : String → Except ε' α}
    (h : Spells plainValue parse print dom) (hp : ∀ v a, parse' v = .ok a ↔ parse v = .ok a) :
    Spells plainValue parse' print dom where
  parse_print a ha := (hp _ _).mpr (h.parse_print a ha)
  clean := h.clean
  sound v a hv := h.sound v a ((hp v a).mp hv)

theorem not_colon_plain {value : String} (h : ':' ∉ value.toList) :
    plainScalar value = plainText value := by
  unfold plainScalar
  cases hs : splitOnce ':' value.toList with
  | none => simp
  | some p =>
    obtain ⟨key, rest⟩ := p
    have hmem := (splitOnce_some hs).1
    exact absurd (by rw [hmem]; simp) h

/- Numbers: `plainText` settles the spelling, and the printed text holds no colon. -/
theorem spells_number {parse : String → Except ε α} (hpp : ∀ a, dom a → parse (print a) = .ok a)
    (hclean : ∀ a, CleanText (print a)) (hcolon : ∀ a, ':' ∉ (print a).toList)
    (hdom : ∀ v a, parse v = .ok a → dom a)
    (hplain : ∀ v a, parse v = .ok a → (plainText v = true ↔ v = print a)) :
    Spells plainScalar parse print dom where
  parse_print := hpp
  clean a _ := hclean a
  sound v a hv := by
    refine ⟨hdom v a hv, ?_⟩
    constructor
    · intro h
      rw [plainScalar, Bool.and_eq_true] at h
      exact (hplain v a hv).mp h.1
    · intro h
      rw [h, not_colon_plain (hcolon a), ← h]
      exact (hplain v a hv).mpr h

theorem colon_not_digits (n : ℕ) : ':' ∉ natChars n := by
  intro h
  exact absurd (natChars_isDigit h) (by decide)

theorem spells_u32 : Spells plainScalar fromStrU32 toString fun _ => True :=
  spells_number (fun a _ => fromStrU32_toString a) cleanText_u32
    (fun a => by rw [toList_toString_u32]; exact colon_not_digits _)
    (fun _ _ _ => trivial) (fun _ _ h => fromStrU32_plain h)

theorem spells_u64 : Spells plainScalar fromStrU64 toString fun _ => True :=
  spells_number (fun a _ => fromStrU64_toString a) cleanText_u64
    (fun a => by rw [toList_toString_u64]; exact colon_not_digits _)
    (fun _ _ _ => trivial) (fun _ _ h => fromStrU64_plain h)

theorem spells_usize : Spells plainScalar fromStrUsize toString fun n => n ≤ USIZE_MAX :=
  spells_number (fun _ h => fromStrUsize_toString h) cleanText_nat
    (fun a => by rw [toList_toString_nat]; exact colon_not_digits _)
    (fun _ _ h => fromStrUsize_le h) (fun _ _ h => fromStrUsize_plain h)

theorem spells_i64 : Spells plainScalar fromStrI64 toString fun _ => True := by
  refine spells_number (fun a _ => fromStrI64_toString a) cleanText_i64 (fun a => ?_)
    (fun _ _ _ => trivial) (fun _ _ h => fromStrI64_plain h)
  rw [toList_toString_i64]
  intro h
  rcases mem_intChars h with h | h
  · exact absurd h (by decide)
  · exact absurd h (by decide)

/- Enumerations: each name has one spelling. -/
theorem spells_name {parse : String → Except ε α} (hpp : ∀ a, parse (print a) = .ok a)
    (hof : ∀ v a, parse v = .ok a → v = print a) (hclean : ∀ a, CleanText (print a))
    (hplain : ∀ a, plainScalar (print a) = true) :
    Spells plainScalar parse print fun _ => True where
  parse_print a _ := hpp a
  clean a _ := hclean a
  sound v a hv := by
    have he := hof v a hv
    exact ⟨trivial, fun _ => he, fun _ => by rw [he]; exact hplain a⟩

/- A name, a colon and a number. -/
theorem plainScalar_colon {name text : String} (hname : ':' ∉ name.toList)
    (hp : ∀ cs, plain (name.toList ++ ':' :: cs) = true) :
    plainScalar (name ++ ":" ++ text) = plainText text := by
  have hl : (name ++ ":" ++ text).toList = name.toList ++ ':' :: text.toList := by
    rw [String.toList_append, String.toList_append, List.append_assoc]
    rfl
  rw [plainScalar, plainText, hl, hp, splitOnce_append _ _ hname]
  rfl

theorem interval_plain (name : String) {text : String} {interval : UInt64} (hname : ':' ∉ name.toList)
    (hp : ∀ cs, plain (name.toList ++ ':' :: cs) = true) (h : fromStrU64 text = .ok interval) :
    plainScalar (name ++ ":" ++ text) = true ↔
      name ++ ":" ++ text = name ++ ":" ++ toString interval := by
  rw [plainScalar_colon hname hp, fromStrU64_plain h, String.append_right_inj]

/- Hexadecimal text of a string. -/
theorem spells_hexString (label : String) :
    Spells plainHex (fun v => decodeHexString v label) (fun s => encodeHex (utf8 s))
      fun _ => True where
  parse_print a _ := decodeHexString_encodeHex a label
  clean a _ := encodeHex_clean (utf8 a)
  sound _ _ h := ⟨trivial, decodeHexString_lower h⟩

/-! ### Fields -/

/-- `parse(reader.read_value(key, label)?)?` -/
def readField (wrap : CanonicalError → ε) (label key : String) (parse : String → Except ε α) :
    Reader Line ε α := do
  let value ← mapError wrap (readValue key label)
  lift (parse value)

def expectField (wrap : CanonicalError → ε) (label key expected : String) : Reader Line ε Unit :=
  mapError wrap (expectValue key expected label)

section Fields
variable {β : Type} {wrap : CanonicalError → ε} {label key : String} {nested : Bytes → Bool}
  {kind : FieldKind} {domb : β → Prop} {outk : β → List Line}

@[simp] theorem readField_reads {parse : String → Except ε α} {ls : List Line} {a : α} :
    (readField wrap label key parse).Reads ls a ↔ ∃ v, ls = [(key, v)] ∧ parse v = .ok a := by
  simp only [readField, bind_reads, mapError_reads, readValue_reads, lift_reads]
  constructor
  · rintro ⟨l1, l2, v, rfl, rfl, rfl, hv⟩
    exact ⟨v, rfl, hv⟩
  · rintro ⟨v, rfl, hv⟩
    exact ⟨[(key, v)], [], v, rfl, rfl, rfl, hv⟩

@[simp] theorem expectField_reads {expected : String} {ls : List Line} {u : Unit} :
    (expectField wrap label key expected).Reads ls u ↔ ls = [(key, expected)] := by
  simp only [expectField, mapError_reads, expectValue_reads]

theorem clean_of_goodKey (hk : GoodKey kind key) {v : String} (hv : CleanText v) :
    Clean (key, v) := ⟨hk.1, hk.2.1, hv⟩

theorem readField_codec {parse : String → Except ε α} (hk : GoodKey kind key)
    (hs : Spells (plainField nested kind) parse print dom) :
    CodecOn (lineSpelling nested) dom (readField wrap label key parse)
      (fun a => [(key, print a)]) where
  writes a ha := readField_reads.mpr ⟨_, rfl, hs.parse_print a ha⟩
  legal a ha t ht := by
    rw [List.mem_singleton] at ht
    rw [ht]
    exact clean_of_goodKey hk (hs.clean a ha)
  sound ls a hr := by
    obtain ⟨v, rfl, hv⟩ := readField_reads.mp hr
    obtain ⟨ha, hp⟩ := hs.sound v a hv
    refine ⟨ha, List.Forall₂.cons ?_ List.Forall₂.nil⟩
    change plainField nested (fieldKind key) v = true ↔ _
    rw [hk.2.2, hp, Prod.mk.injEq]
    simp

/- One field, then the rest. -/
theorem codec_field {parse : String → Except ε α} {k : α → Reader Line ε β} (kind : FieldKind)
    (g : β → α) (hk : GoodKey kind key) (hs : Spells (plainField nested kind) parse print dom)
    (hdom : ∀ b, domb b → dom (g b))
    (hrest : ∀ a, dom a → CodecOn (lineSpelling nested) (fun b => domb b ∧ g b = a) (k a) outk) :
    CodecOn (lineSpelling nested) domb (readField wrap label key parse >>= k)
      (fun b => (key, print (g b)) :: outk b) :=
  codec_bind g (readField_codec hk hs) hdom hrest

/- A field that can be written whatever its value. -/
theorem codec_value {parse : String → Except ε α} {k : α → Reader Line ε β} (kind : FieldKind)
    (g : β → α) (hk : GoodKey kind key)
    (hs : Spells (plainField nested kind) parse print fun _ => True)
    (hrest : ∀ a, CodecOn (lineSpelling nested) (fun b => domb b ∧ g b = a) (k a) outk) :
    CodecOn (lineSpelling nested) domb (readField wrap label key parse >>= k)
      (fun b => (key, print (g b)) :: outk b) :=
  codec_field kind g hk hs (fun _ _ => trivial) fun a _ => hrest a

theorem codec_expect {k : Unit → Reader Line ε β} {expected : String} (hk : GoodKey .text key)
    (hclean : CleanText expected) (hplain : plainScalar expected = true)
    (hrest : CodecOn (lineSpelling nested) domb (k ()) outk) :
    CodecOn (lineSpelling nested) domb (expectField wrap label key expected >>= k)
      (fun b => (key, expected) :: outk b) where
  writes b hb :=
    bind_reads.mpr ⟨[(key, expected)], outk b, (), rfl, expectField_reads.mpr rfl,
      hrest.writes b hb⟩
  legal b hb t ht := by
    rcases List.mem_cons.mp ht with rfl | ht
    · exact clean_of_goodKey hk hclean
    · exact hrest.legal b hb t ht
  sound ls b hr := by
    obtain ⟨l1, l2, u, rfl, h1, h2⟩ := bind_reads.mp hr
    rw [expectField_reads] at h1
    obtain ⟨hb, hs⟩ := hrest.sound l2 b h2
    have hp : plainLine nested (key, expected) = true := by
      change plainField nested (fieldKind key) expected = true
      rw [hk.2.2]
      exact hplain
    rw [h1]
    exact ⟨hb, respells_append (respells_self hp) hs⟩

/- A schema version: read, then refused unless it is the one supported. -/
theorem codec_version {parse : String → Except ε UInt32} {k : UInt32 → Reader Line ε β}
    {version : UInt32} {e : UInt32 → ε} (hk : GoodKey .text key)
    (hs : Spells plainScalar parse toString fun _ => True)
    (hrest : CodecOn (lineSpelling nested) domb (k version) outk) :
    CodecOn (lineSpelling nested) domb
      (readField wrap label key parse >>= fun v => lift (rejectIf (v ≠ version) (e v)) >>= fun _ =>
        k v)
      (fun b => (key, toString version) :: outk b) := by
  refine codec_field .text (fun _ => version) hk hs (fun _ _ => trivial) fun a _ => codec_check ?_ ?_
  · rintro b ⟨-, rfl⟩
    rw [rejectIf_eq_ok, not_not]
  · intro h
    rw [rejectIf_eq_ok, not_not] at h
    subst h
    exact codec_congr hrest (fun b => by simp) fun _ _ => rfl

/- A text that is kept as it stands until the end decides about it. -/
theorem codec_raw {k : String → Reader Line ε β} (g : β → String) (hk : GoodKey .text key)
    (hclean : ∀ b, domb b → CleanText (g b)) (hplain : ∀ b, domb b → plainScalar (g b) = true)
    (hrest : ∀ v, CodecOn (lineSpelling nested) (fun b => domb b ∧ g b = v) (k v) outk) :
    CodecOn (lineSpelling nested) domb (mapError wrap (readValue key label) >>= k)
      (fun b => (key, g b) :: outk b) where
  writes b hb :=
    bind_reads.mpr ⟨[(key, g b)], outk b, g b, rfl,
      mapError_reads.mpr (readValue_reads.mpr rfl), (hrest (g b)).writes b ⟨hb, rfl⟩⟩
  legal b hb t ht := by
    rcases List.mem_cons.mp ht with rfl | ht
    · exact clean_of_goodKey hk (hclean b hb)
    · exact (hrest (g b)).legal b ⟨hb, rfl⟩ t ht
  sound ls b hr := by
    obtain ⟨l1, l2, v, rfl, h1, h2⟩ := bind_reads.mp hr
    rw [mapError_reads, readValue_reads] at h1
    obtain ⟨⟨hb, rfl⟩, hs⟩ := (hrest v).sound l2 b h2
    have hp : plainLine nested (key, g b) = true := by
      change plainField nested (fieldKind key) (g b) = true
      rw [hk.2.2]
      exact hplain b hb
    rw [h1]
    exact ⟨hb, respells_append (respells_self hp) hs⟩

end Fields

/-! ### Codecs -/

/-- What holds between an encoder and its decoder. `fits` are the values the decoder
can return; the bytes it accepts for `a` are `encode a` iff they are plainly spelled. -/
structure CodecLaw {T : Type} (encode : T → Except ε Bytes) (decode : Bytes → Except ε' T)
    (fits : T → Prop) (depth : ℕ) : Prop where
  roundTrip : ∀ {a b}, encode a = .ok b → fits a → decode b = .ok a
  sound : ∀ {b a}, decode b = .ok a →
    fits a ∧ ∃ b', encode a = .ok b' ∧ ∀ n, depth ≤ n → (plainSpelling n b = true ↔ b = b')

/- A codec whose encoder writes `lines` and whose decoder reads `fields` and checks `post`. -/
theorem codecLaw_of_fields {T : Type} {encode : T → Except ε Bytes}
    {decode : Bytes → Except ε' T} {fits dom : T → Prop} {depth : ℕ}
    {lines : T → List Line} {fields : Reader Line ε' T}
    (hfields : ∀ n, depth ≤ n → CodecOn (lineSpelling (plainSpelling n)) dom fields lines)
    (label : String) (wrap : CanonicalError → ε') (valid post : T → Prop)
    (henc : ∀ a b, encode a = .ok b ↔ valid a ∧ b = CanonicalLineWriter.finish (lines a))
    (hdec : ∀ b a, decode b = .ok a ↔ readAll b label wrap fields = .ok a ∧ post a)
    (hdom : ∀ a, dom a ∧ post a ↔ valid a ∧ fits a) (hne : ∀ a, lines a ≠ []) :
    CodecLaw encode decode fits (depth + 1) where
  roundTrip := by
    intro a b hb hf
    obtain ⟨hv, rfl⟩ := (henc a b).mp hb
    obtain ⟨hd, hp⟩ := (hdom a).mpr ⟨hv, hf⟩
    have hc := hfields depth (Nat.le_refl _)
    exact (hdec _ _).mpr
      ⟨readAll_eq_ok.mpr ⟨_, hne a, hc.legal a hd, rfl, hc.writes a hd⟩, hp⟩
  sound := by
    intro b a h
    obtain ⟨hr, hp⟩ := (hdec b a).mp h
    obtain ⟨ls, hls, hclean, rfl, hreads⟩ := readAll_eq_ok.mp hr
    obtain ⟨hd, -⟩ := (hfields depth (Nat.le_refl _)).sound ls a hreads
    obtain ⟨hv, hf⟩ := (hdom a).mp ⟨hd, hp⟩
    refine ⟨hf, _, (henc a _).mpr ⟨hv, rfl⟩, ?_⟩
    intro n hn
    obtain ⟨m, rfl⟩ : ∃ m, n = m + 1 := ⟨n - 1, by omega⟩
    have hc := hfields m (by omega)
    have hall : ls.all (plainLine (plainSpelling m)) = true ↔ ls = lines a :=
      respells_all (hc.sound ls a hreads).2
    rw [plainSpelling_finish hls hclean, hall]
    constructor
    · intro h
      rw [h]
    · intro h
      exact finish_injective hls (hne a) hclean (hc.legal a hd) h

/-- The bytes of a value that can be encoded. -/
def encoded {T : Type} (encode : T → Except ε Bytes) (a : T) : Bytes :=
  match encode a with
  | .ok bytes => bytes
  | .error _ => []

theorem encode_eq_ok {T : Type} {encode : T → Except ε Bytes} {a : T} {b : Bytes} :
    encode a = .ok b ↔ (∃ b', encode a = .ok b') ∧ b = encoded encode a := by
  unfold encoded
  cases h : encode a with
  | error e => simp
  | ok b' => simp [eq_comm]

theorem exists_encode {T : Type} {encode : T → Except ε Bytes} {a : T} {P : Bytes → Prop} :
    (∃ b, encode a = .ok b ∧ P b) ↔ (∃ b, encode a = .ok b) ∧ P (encoded encode a) := by
  constructor
  · rintro ⟨b, hb, hp⟩
    rw [← (encode_eq_ok.mp hb).2]
    exact ⟨⟨b, hb⟩, hp⟩
  · rintro ⟨⟨b, hb⟩, hp⟩
    rw [← (encode_eq_ok.mp hb).2] at hp
    exact ⟨b, hb, hp⟩

/- The bytes of a value in a hexadecimal field. -/
theorem spells_nested {ε'' T : Type} {encode : T → Except ε Bytes} {decode : Bytes → Except ε' T}
    {fits : T → Prop} {depth n : ℕ} (label : String) (h : CodecLaw encode decode fits depth)
    (hn : depth ≤ n) {parse : String → Except ε'' T}
    (hp : ∀ v a, parse v = .ok a ↔ ∃ bs, decodeHex v label = .ok bs ∧ decode bs = .ok a) :
    Spells (plainNested (plainSpelling n)) parse (fun a => encodeHex (encoded encode a))
      (fun a => (∃ b, encode a = .ok b) ∧ fits a) where
  parse_print a ha := by
    obtain ⟨⟨b, hb⟩, hf⟩ := ha
    rw [hp]
    refine ⟨b, ?_, h.roundTrip hb hf⟩
    rw [(encode_eq_ok.mp hb).2, decodeHex_encodeHex]
  clean a _ := encodeHex_clean _
  sound v a hv := by
    obtain ⟨bs, hbs, hdec⟩ := (hp v a).mp hv
    obtain ⟨hf, b', hb', hplain⟩ := h.sound hdec
    refine ⟨⟨⟨b', hb'⟩, hf⟩, ?_⟩
    have hany : decodeHex v "" = .ok bs := by
      simp only [decodeHex, bind_eq_ok, rejectIf_eq_ok, exists_const] at hbs ⊢
      exact ⟨hbs.1, decodePairs_label hbs.2⟩
    rw [plainNested, hany, Bool.and_eq_true, plainHex, decodeHex_lower hbs]
    change _ ∧ plainSpelling n bs = true ↔ _
    rw [hplain n hn, ← (encode_eq_ok.mp hb').2]
    constructor
    · rintro ⟨hv, rfl⟩
      exact hv
    · intro hv
      have hback : decodeHex v label = .ok b' := by rw [hv, decodeHex_encodeHex]
      have hsame := Except.ok.inj (hbs.symm.trans hback)
      exact ⟨by rw [hsame]; exact hv, hsame⟩

end XenorEngine.Rust
