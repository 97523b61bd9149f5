import XenorEngine.Lib.PrefixReader

/-!
# Readers against writers, field by field

A writer turns a value into tokens, a reader takes them back. The reader may
accept other spellings of a token than the one the writer emits; `plain` tells
them apart. `CodecOn` states all three facts at once, and the rules below follow
the shape of a reader: one rule for a sequence, a check, a loop and the end.
-/

namespace XenorEngine.Lib.FieldCodec
open XenorEngine.Lib.Fallible XenorEngine.Lib.PrefixReader

variable {τ ε α β : Type}

/-- `plain`: the spelling a writer chooses. `legal`: what a token may hold at all. -/
structure Spelling (τ : Type) where
  plain : τ → Bool
  legal : τ → Prop

/-- Token by token, `ls` says what `out` says, and a token is plain iff it is the same. -/
def Respells (plain : τ → Bool) (ls out : List τ) : Prop :=
  List.Forall₂ (fun l o => plain l = true ↔ l = o) ls out

theorem respells_nil (plain : τ → Bool) : Respells plain [] [] := List.Forall₂.nil

theorem respells_self {plain : τ → Bool} {t : τ} (h : plain t = true) : Respells plain [t] [t] :=
  List.Forall₂.cons ⟨fun _ => rfl, fun _ => h⟩ List.Forall₂.nil

theorem respells_append {plain : τ → Bool} {l1 l2 o1 o2 : List τ} (h1 : Respells plain l1 o1)
    (h2 : Respells plain l2 o2) : Respells plain (l1 ++ l2) (o1 ++ o2) :=
  List.rel_append h1 h2

theorem respells_all {plain : τ → Bool} {ls out : List τ} (h : Respells plain ls out) :
    ls.all plain = true ↔ ls = out := by
  induction h with
  | nil => simp
  | cons h _ ih => rw [List.all_cons, Bool.and_eq_true, ih, h, List.cons.injEq]

/-- The values with `dom` are exactly those `m` can read; from `out b` it reads `b`, and
whatever else it reads as `b` respells `out b`. -/
structure CodecOn (sp : Spelling τ) (dom : β → Prop) (m : Reader τ ε β) (out : β → List τ) :
    Prop where
  writes : ∀ b, dom b → m.Reads (out b) b
  legal : ∀ b, dom b → ∀ t ∈ out b, sp.legal t
  sound : ∀ ls b, m.Reads ls b → dom b ∧ Respells sp.plain ls (out b)

variable {sp : Spelling τ} {dom : β → Prop}

theorem codec_pure {b0 : β} (h : ∀ b, dom b ↔ b = b0) :
    CodecOn sp dom (pure b0 : Reader τ ε β) (fun _ => []) where
  writes b hb := pure_reads.mpr ⟨rfl, ((h b).mp hb).symm⟩
  legal _ _ t ht := by cases ht
  sound ls b hr := by
    obtain ⟨rfl, rfl⟩ := pure_reads.mp hr
    exact ⟨(h b0).mpr rfl, respells_nil _⟩

/- The end of a reader that still has something to compute. -/
theorem codec_lift {x : Except ε β} (h : ∀ b, dom b ↔ x = .ok b) :
    CodecOn sp dom (lift x : Reader τ ε β) (fun _ => []) where
  writes b hb := lift_reads.mpr ⟨rfl, (h b).mp hb⟩
  legal _ _ t ht := by cases ht
  sound ls b hr := by
    obtain ⟨rfl, hx⟩ := lift_reads.mp hr
    exact ⟨(h b).mpr hx, respells_nil _⟩

/- A part `g b` of the value is read first; the rest is read knowing it. -/
theorem codec_bind {part : α → Prop} {m : Reader τ ε α} {k : α → Reader τ ε β}
    {outm : α → List τ} {outk : β → List τ} (g : β → α) (hm : CodecOn sp part m outm)
    (hpart : ∀ b, dom b → part (g b))
    (hk : ∀ a, part a → CodecOn sp (fun b => dom b ∧ g b = a) (k a) outk) :
    CodecOn sp dom (m >>= k) (fun b => outm (g b) ++ outk b) where
  writes b hb :=
    bind_reads.mpr ⟨_, _, g b, rfl, hm.writes _ (hpart b hb),
      (hk _ (hpart b hb)).writes b ⟨hb, rfl⟩⟩
  legal b hb t ht := by
    rcases List.mem_append.mp ht with ht | ht
    · exact hm.legal _ (hpart b hb) t ht
    · exact (hk _ (hpart b hb)).legal b ⟨hb, rfl⟩ t ht
  sound ls b hr := by
    obtain ⟨l1, l2, a, rfl, h1, h2⟩ := bind_reads.mp hr
    obtain ⟨ha, hs1⟩ := hm.sound l1 a h1
    obtain ⟨⟨hb, rfl⟩, hs2⟩ := (hk a ha).sound l2 b h2
    exact ⟨hb, respells_append hs1 hs2⟩

theorem codec_check {x : Except ε Unit} {k : Unit → Reader τ ε β} {out : β → List τ}
    (hx : ∀ b, dom b → x = .ok ()) (hk : x = .ok () → CodecOn sp dom (k ()) out) :
    CodecOn sp dom (lift x >>= k) out where
  writes b hb :=
    bind_reads.mpr ⟨[], out b, (), rfl, lift_reads.mpr ⟨rfl, hx b hb⟩,
      (hk (hx b hb)).writes b hb⟩
  legal b hb := (hk (hx b hb)).legal b hb
  sound ls b hr := by
    obtain ⟨l1, l2, u, rfl, h1, h2⟩ := bind_reads.mp hr
    obtain ⟨rfl, hu⟩ := lift_reads.mp h1
    exact (hk hu).sound l2 b h2

theorem codec_congr {m : Reader τ ε β} {dom' : β → Prop} {out out' : β → List τ}
    (h : CodecOn sp dom m out) (hdom : ∀ b, dom' b ↔ dom b) (hout : ∀ b, dom b → out' b = out b) :
    CodecOn sp dom' m out' where
  writes b hb := by
    rw [hout b ((hdom b).mp hb)]
    exact h.writes b ((hdom b).mp hb)
  legal b hb := by
    rw [hout b ((hdom b).mp hb)]
    exact h.legal b ((hdom b).mp hb)
  sound ls b hr := by
    obtain ⟨hb, hs⟩ := h.sound ls b hr
    rw [hout b hb]
    exact ⟨(hdom b).mpr hb, hs⟩

/- The last part of a value. -/
theorem codec_last {part : α → Prop} {m : Reader τ ε α} {f : α → β} {outm : α → List τ}
    (g : β → α) (hm : CodecOn sp part m outm) (hpart : ∀ b, dom b → part (g b))
    (h : ∀ a, part a → ∀ b, dom b ∧ g b = a ↔ b = f a) :
    CodecOn sp dom (m >>= fun a => pure (f a)) (fun b => outm (g b)) :=
  codec_congr (codec_bind g hm hpart fun a ha => codec_pure (h a ha)) (fun _ => Iff.rfl)
    fun _ _ => (List.append_nil _).symm

/- The loop: every round reads one element. -/
theorem codec_forRange {part : α → Prop} {f : ℕ → Reader τ ε α} {outf : ℕ → α → List τ}
    (h : ∀ i, CodecOn sp part (f i) (outf i)) (start count : ℕ) :
    CodecOn sp (fun as => as.length = count ∧ ∀ a ∈ as, part a) (forRange f start count)
      (writeFrom outf start) where
  writes as has := by
    obtain ⟨rfl, hall⟩ := has
    exact forRange_reads_writeFrom as start fun i a ha => (h i).writes a (hall a ha)
  legal as has := by
    obtain ⟨-, hall⟩ := has
    clear count
    induction as generalizing start with
    | nil =>
      intro t ht
      cases ht
    | cons a as ih =>
      intro t ht
      rcases List.mem_append.mp ht with ht | ht
      · exact (h start).legal a (hall a (List.mem_cons_self ..)) t ht
      · exact ih (start + 1) (fun x hx => hall x (List.mem_cons_of_mem _ hx)) t ht
  sound ls as hr := by
    have hlen := forRange_reads_length hr
    have hall : (∀ a ∈ as, part a) ∧ Respells sp.plain ls (writeFrom outf start as) := by
      clear hlen
      refine forRange_reads_induct (P := fun start ls as =>
        (∀ a ∈ as, part a) ∧ Respells sp.plain ls (writeFrom outf start as)) ?_ ?_ hr
      · exact fun _ => ⟨fun _ ha => (List.not_mem_nil ha).elim, respells_nil _⟩
      · intro start l1 l2 a as h1 ⟨hall, hs2⟩
        obtain ⟨ha, hs1⟩ := (h start).sound l1 a h1
        exact ⟨List.forall_mem_cons.mpr ⟨ha, hall⟩, respells_append hs1 hs2⟩
    exact ⟨⟨hlen, hall.1⟩, hall.2⟩

/-! ### Optional parts -/

def optionally (present : Bool) (m : Reader τ ε α) : Reader τ ε (Option α) :=
  if present then do
    let a ← m
    pure (some a)
  else pure none

def writeOption (out : α → List τ) : Option α → List τ
  | some a => out a
  | none => []

theorem writeOption_map (out : α → List τ) (f : β → α) (o : Option β) :
    writeOption out (o.map f) = writeOption (fun b => out (f b)) o := by
  cases o <;> rfl

theorem optionally_reads {m : Reader τ ε α} {present : Bool} {ls : List τ} {o : Option α}
    (h : (optionally present m).Reads ls o) :
    o.isSome = present ∧ ∀ a ∈ o, m.Reads ls a := by
  cases present with
  | false =>
    obtain ⟨-, rfl⟩ := pure_reads.mp h
    exact ⟨rfl, fun _ ha => absurd ha (by simp)⟩
  | true =>
    obtain ⟨l1, l2, a, rfl, h1, h2⟩ := bind_reads.mp h
    obtain ⟨rfl, rfl⟩ := pure_reads.mp h2
    rw [List.append_nil]
    refine ⟨rfl, fun b hb => ?_⟩
    rwa [← Option.some.inj hb]

theorem codec_optionally {part : α → Prop} {m : Reader τ ε α} {outm : α → List τ}
    (h : CodecOn sp part m outm) (present : Bool) :
    CodecOn sp (fun o => o.isSome = present ∧ ∀ a ∈ o, part a) (optionally present m)
      (writeOption outm) where
  writes o ho := by
    cases o with
    | none =>
      obtain ⟨rfl, -⟩ := ho
      exact pure_reads.mpr ⟨rfl, rfl⟩
    | some a =>
      obtain ⟨rfl, ha⟩ := ho
      exact bind_reads.mpr ⟨_, [], a, (List.append_nil _).symm, h.writes a (ha a rfl),
        pure_reads.mpr ⟨rfl, rfl⟩⟩
  legal o ho := by
    cases o with
    | none =>
      intro t ht
      cases ht
    | some a => exact h.legal a (ho.2 a rfl)
  sound ls o hr := by
    cases present with
    | false =>
      obtain ⟨rfl, rfl⟩ := pure_reads.mp hr
      exact ⟨⟨rfl, fun _ h => absurd h (by simp)⟩, respells_nil _⟩
    | true =>
      obtain ⟨l1, l2, a, rfl, h1, h2⟩ := bind_reads.mp hr
      obtain ⟨rfl, rfl⟩ := pure_reads.mp h2
      obtain ⟨ha, hs⟩ := h.sound l1 a h1
      rw [List.append_nil]
      refine ⟨⟨rfl, ?_⟩, hs⟩
      rintro b hb
      rwa [← Option.some.inj hb]

end XenorEngine.Lib.FieldCodec
