import XenorEngine.Rust.Canonical
import XenorEngine.Rust.Scalar

/-!
# canonical: the line layer as a bijection

What any code on top of the line reader can do: open it, ask for keys one after
the other, finish it. On the bytes of a writer exactly the keys that were written
may be asked for, in their order; and the reader opens no other bytes.
-/

namespace XenorEngine.Rust
open XenorEngine.Lib.ByteText XenorEngine.Lib.LineText XenorEngine.Lib.Fallible
open XenorEngine.Lib.PrefixReader

/-- `read_value` for every pair of a key and the label of that call. -/
def readValues : List (String × String) → Reader Line CanonicalError (List String)
  | [] => pure []
  | (key, label) :: calls => do
    let value ← readValue key label
    let values ← readValues calls
    pure (value :: values)

def readThrough (bytes : Bytes) (label : String) (calls : List (String × String))
    (finishLabel : String) : Except CanonicalError (List String) := do
  let reader ← CanonicalLineReader.new bytes label
  let result ← (readValues calls).run reader
  CanonicalLineReader.finish result.2 finishLabel
  pure result.1

theorem readValues_reads {calls : List (String × String)} {ls : List Line}
    {values : List String} :
    (readValues calls).Reads ls values ↔
      calls.map Prod.fst = ls.map Prod.fst ∧ values = ls.map Prod.snd := by
  induction calls generalizing ls values with
  | nil =>
    simp only [readValues, pure_reads, List.map_nil]
    constructor
    · rintro ⟨rfl, rfl⟩
      exact ⟨rfl, rfl⟩
    · rintro ⟨hkeys, rfl⟩
      obtain rfl := List.map_eq_nil_iff.mp hkeys.symm
      exact ⟨rfl, rfl⟩
  | cons call calls ih =>
    obtain ⟨key, label⟩ := call
    simp only [readValues, bind_reads, readValue_reads, pure_reads, ih]
    constructor
    · rintro ⟨_, _, value, rfl, rfl, ls, _, values, rfl, ⟨hkeys, rfl⟩, rfl, rfl⟩
      rw [List.append_nil, List.map_cons, hkeys]
      exact ⟨rfl, rfl⟩
    · rintro ⟨hkeys, rfl⟩
      cases ls with
      | nil => cases hkeys
      | cons l ls =>
        obtain ⟨hkey, htail⟩ := List.cons.inj hkeys
        obtain ⟨k, value⟩ := l
        obtain rfl : key = k := hkey
        exact ⟨[(key, value)], ls, value, rfl, rfl, ls, [], ls.map Prod.snd,
          (List.append_nil ls).symm, ⟨htail, rfl⟩, rfl, rfl⟩

theorem readThrough_eq_ok {ls : List Line} (hne : ls ≠ []) (hclean : ∀ l ∈ ls, Clean l)
    {label finishLabel : String} {calls : List (String × String)} {values : List String} :
    readThrough (CanonicalLineWriter.finish ls) label calls finishLabel = .ok values ↔
      calls.map Prod.fst = ls.map Prod.fst ∧ values = ls.map Prod.snd := by
  rw [← readValues_reads]
  simp only [readThrough, reader_new_finish hne hclean, ok_bind, bind_eq_ok, finish_eq_ok,
    exists_const, pure_eq_ok]
  constructor
  · rintro ⟨⟨_, reader⟩, hrun, hend, rfl⟩
    obtain ⟨read, hread, -, hreads⟩ := reads_of_run hrun
    have hall : ls = read := by
      rw [show reader.rest = [] from hend, List.append_nil] at hread
      exact hread
    rwa [hall]
  · intro hreads
    exact ⟨_, run_of_reads hreads, rfl, rfl⟩

/- Clean lines and accepted bytes are in bijection, and a walk through the keys is the only
way to the end of a reader. -/
theorem line_layer_bijective :
    (∀ ls : List Line, ls ≠ [] → (∀ l ∈ ls, Clean l) → ∀ label,
      CanonicalLineReader.new (CanonicalLineWriter.finish ls) label = .ok (Cursor.start ls) ∧
      ∀ calls finishLabel values,
        readThrough (CanonicalLineWriter.finish ls) label calls finishLabel = .ok values ↔
          calls.map Prod.fst = ls.map Prod.fst ∧ values = ls.map Prod.snd) ∧
    ∀ bytes label reader, CanonicalLineReader.new bytes label = .ok reader →
      reader.seen = [] ∧ reader.rest ≠ [] ∧ (∀ l ∈ reader.rest, Clean l) ∧
        CanonicalLineWriter.finish reader.rest = bytes := by
  constructor
  · intro ls hne hclean label
    refine ⟨reader_new_finish hne hclean label, ?_⟩
    intro calls finishLabel values
    exact readThrough_eq_ok hne hclean
  · intro bytes label reader h
    obtain ⟨ls, hne, hclean, rfl, rfl⟩ := reader_new_sound h
    exact ⟨rfl, hne, hclean, rfl⟩

/- The two lines read in their order, and not in the other one. -/
theorem line_layer_bijective_two_lines : ∃ reader,
    CanonicalLineReader.new (CanonicalLineWriter.finish [("tick", "3"), ("seed", "7")]) "replay" =
      .ok reader ∧
    reader.rest = [("tick", "3"), ("seed", "7")] ∧
    CanonicalLineWriter.finish reader.rest =
      CanonicalLineWriter.finish [("tick", "3"), ("seed", "7")] ∧
    readThrough (CanonicalLineWriter.finish [("tick", "3"), ("seed", "7")]) "replay"
      [("tick", "replay"), ("seed", "replay")] "replay" = .ok ["3", "7"] ∧
    readThrough (CanonicalLineWriter.finish [("tick", "3"), ("seed", "7")]) "replay"
      [("seed", "replay"), ("tick", "replay")] "replay" ≠ .ok ["7", "3"] := by
  have hclean : ∀ l ∈ [("tick", "3"), ("seed", "7")], Clean l := by
    simp only [List.forall_mem_cons]
    exact ⟨⟨by decide, (by decide : CleanText "tick"), (by decide : CleanText "3")⟩,
      ⟨by decide, (by decide : CleanText "seed"), (by decide : CleanText "7")⟩,
      List.forall_mem_nil _⟩
  obtain ⟨hwritten, haccepted⟩ := line_layer_bijective
  obtain ⟨hnew, hread⟩ := hwritten _ (by decide) hclean "replay"
  obtain ⟨-, -, -, hback⟩ := haccepted _ _ _ hnew
  exact ⟨_, hnew, rfl, hback, (hread _ _ _).mpr ⟨rfl, rfl⟩,
    fun h => absurd ((hread _ _ _).mp h).1 (by decide)⟩

end XenorEngine.Rust
