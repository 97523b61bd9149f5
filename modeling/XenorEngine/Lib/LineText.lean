import Mathlib.Tactic

/-!
# Key/value lines

A text of `key=value` lines, each ended by a newline. `splitTerminator` and
`splitOnce` take it apart; `joinLines` puts it together. For lines whose keys
and values hold no delimiter the two are inverse to each other.
-/

namespace XenorEngine.Lib.LineText

abbrev Line := String × String

def splitTerminator (sep : Char) (cs : List Char) : List (List Char) :=
  let pieces := cs.splitOn sep
  if pieces.getLast? = some [] then pieces.dropLast else pieces

def splitOnce (sep : Char) : List Char → Option (List Char × List Char)
  | [] => none
  | c :: cs =>
    if c = sep then some ([], cs)
    else (splitOnce sep cs).map fun p => (c :: p.1, p.2)

def joinLine (l : Line) : String := l.1 ++ "=" ++ l.2
def joinLines (ls : List Line) : String := "\n".intercalate (ls.map joinLine) ++ "\n"

def joinChars (l : Line) : List Char := l.1.toList ++ '=' :: l.2.toList

/-- Characters a key or a value may hold. -/
def cleanChar (c : Char) : Bool := c != '=' && c != '\n' && c != '\r'

structure Clean (l : Line) : Prop where
  key_ne : l.1 ≠ ""
  key : ∀ c ∈ l.1.toList, cleanChar c = true
  value : ∀ c ∈ l.2.toList, cleanChar c = true

theorem joinLine_toList (l : Line) : (joinLine l).toList = joinChars l := by
  simp only [joinLine, joinChars, String.toList_append, List.append_assoc]
  rfl

theorem cleanChar_iff {c : Char} : cleanChar c = true ↔ c ≠ '=' ∧ c ≠ '\n' ∧ c ≠ '\r' := by
  simp only [cleanChar, Bool.and_eq_true, bne_iff_ne, and_assoc]

theorem splitOnce_append {sep : Char} (key value : List Char) (h : sep ∉ key) :
    splitOnce sep (key ++ sep :: value) = some (key, value) := by
  induction key with
  | nil => simp [splitOnce]
  | cons c cs ih =>
    simp only [List.mem_cons, not_or] at h
    simp only [List.cons_append, splitOnce, if_neg (Ne.symm h.1), ih h.2, Option.map_some]

theorem splitOnce_some {sep : Char} {cs key value : List Char}
    (h : splitOnce sep cs = some (key, value)) : cs = key ++ sep :: value ∧ sep ∉ key := by
  induction cs generalizing key with
  | nil => cases h
  | cons c cs ih =>
    simp only [splitOnce] at h
    split at h
    · rename_i hc
      cases h
      exact ⟨by rw [hc]; rfl, List.not_mem_nil⟩
    · rename_i hc
      obtain ⟨p, hp, hpair⟩ := Option.map_eq_some_iff.mp h
      obtain ⟨hk, hv⟩ := Prod.mk.inj hpair
      subst hk hv
      obtain ⟨hcs, hnot⟩ := ih hp
      refine ⟨by rw [hcs]; rfl, ?_⟩
      simp only [List.mem_cons, not_or]
      exact ⟨Ne.symm hc, hnot⟩

theorem splitOn_ne_nil (sep : Char) (cs : List Char) : cs.splitOn sep ≠ [] := by
  intro h
  have hi : [sep].intercalate (cs.splitOn sep) = cs := List.intercalate_splitOn sep
  rw [h] at hi
  subst hi
  simp at h

theorem splitTerminator_intercalate {sep : Char} {ls : List (List Char)} (hne : ls ≠ [])
    (hsep : ∀ l ∈ ls, sep ∉ l) :
    splitTerminator sep ([sep].intercalate ls ++ [sep]) = ls := by
  have hjoin : [sep].intercalate ls ++ [sep] = [sep].intercalate (ls ++ [[]]) := by
    induction ls with
    | nil => exact absurd rfl hne
    | cons l ls ih =>
      cases ls with
      | nil => simp [List.intercalate_cons_cons]
      | cons m ms =>
        have h := ih (by simp) (fun x hx => hsep x (List.mem_cons_of_mem _ hx))
        rw [List.cons_append, List.intercalate_cons_cons, List.cons_append,
          List.intercalate_cons_cons, List.append_assoc, h]
        rfl
  have hsplit : ([sep].intercalate ls ++ [sep]).splitOn sep = ls ++ [[]] := by
    rw [hjoin]
    apply List.splitOn_intercalate
    · intro l hl
      rcases List.mem_append.mp hl with hl | hl
      · exact hsep l hl
      · rw [List.mem_singleton.mp hl]
        exact List.not_mem_nil
    · simp
  simp only [splitTerminator, hsplit, List.getLast?_append, List.getLast?_singleton,
    Option.some_or, if_true, List.dropLast_concat]

theorem not_mem_splitOn {sep : Char} {cs : List Char} {l : List Char}
    (h : l ∈ cs.splitOn sep) : sep ∉ l := by
  induction cs generalizing l with
  | nil =>
    rw [List.splitOn_nil, List.mem_singleton] at h
    rw [h]
    exact List.not_mem_nil
  | cons c cs ih =>
    obtain ⟨r, rs, hr⟩ := List.exists_cons_of_ne_nil (splitOn_ne_nil sep cs)
    rw [List.splitOn_cons_eq_if_modifyHead] at h
    split at h
    · rcases List.mem_cons.mp h with h | h
      · rw [h]
        exact List.not_mem_nil
      · exact ih h
    · rename_i hc
      rw [hr, List.modifyHead_cons] at h
      rcases List.mem_cons.mp h with h | h
      · rw [h, List.mem_cons, not_or]
        refine ⟨?_, ih (by rw [hr]; exact List.mem_cons_self ..)⟩
        intro he
        exact hc (by simp [he])
      · exact ih (by rw [hr]; exact List.mem_cons_of_mem _ h)

/- A text that ends with the separator is its pieces, each followed by it. -/
theorem intercalate_splitTerminator {sep : Char} (cs : List Char) :
    [sep].intercalate (splitTerminator sep (cs ++ [sep])) ++ [sep] = cs ++ [sep]
      ∧ splitTerminator sep (cs ++ [sep]) ≠ []
      ∧ ∀ l ∈ splitTerminator sep (cs ++ [sep]), sep ∉ l := by
  have hs : splitTerminator sep (cs ++ [sep]) = cs.splitOn sep := by
    have h := splitTerminator_intercalate (splitOn_ne_nil sep cs) (fun l hl => not_mem_splitOn hl)
    rwa [List.intercalate_splitOn] at h
  rw [hs, List.intercalate_splitOn]
  exact ⟨rfl, splitOn_ne_nil sep cs, fun l hl => not_mem_splitOn hl⟩

theorem not_mem_intercalate {sep c : Char} {ls : List (List Char)} (hsep : c ≠ sep)
    (h : ∀ l ∈ ls, c ∉ l) : c ∉ [sep].intercalate ls := by
  induction ls with
  | nil => exact List.not_mem_nil
  | cons l ls ih =>
    have hl := h l (List.mem_cons_self ..)
    have ih' := ih (fun x hx => h x (List.mem_cons_of_mem _ hx))
    cases ls with
    | nil => simpa using hl
    | cons m ms =>
      rw [List.intercalate_cons_cons, List.mem_append, List.mem_append, List.mem_singleton]
      simp only [hl, hsep, ih', or_self, not_false_eq_true]

theorem mem_intercalate {sep c : Char} {ls : List (List Char)} {l : List Char} (hl : l ∈ ls)
    (hc : c ∈ l) : c ∈ [sep].intercalate ls := by
  induction ls with
  | nil => cases hl
  | cons m ms ih =>
    cases ms with
    | nil =>
      rw [List.mem_singleton] at hl
      simpa [hl] using hc
    | cons n ns =>
      rw [List.intercalate_cons_cons, List.mem_append, List.mem_append]
      rcases List.mem_cons.mp hl with hl | hl
      · exact Or.inl (Or.inl (hl ▸ hc))
      · exact Or.inr (ih hl)

theorem toList_intercalate (ls : List String) :
    ("\n".intercalate ls).toList = ['\n'].intercalate (ls.map String.toList) := by
  induction ls with
  | nil => rfl
  | cons l ls ih =>
    cases ls with
    | nil => simp
    | cons m ms =>
      rw [String.intercalate_cons_cons, List.map_cons, List.map_cons, List.intercalate_cons_cons,
        ← List.map_cons, ← ih, String.toList_append, String.toList_append]
      rfl

theorem joinLines_toList (ls : List Line) :
    (joinLines ls).toList = ['\n'].intercalate (ls.map joinChars) ++ ['\n'] := by
  rw [joinLines, String.toList_append, toList_intercalate, List.map_map]
  have hf : String.toList ∘ joinLine = joinChars := funext joinLine_toList
  rw [hf]
  rfl

end XenorEngine.Lib.LineText
