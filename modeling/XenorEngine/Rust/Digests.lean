import Mathlib.Data.Nat.Digits.Defs
import XenorEngine.Lib.Chunks
import XenorEngine.Rust.Mixing
import XenorEngine.Rust.Canonical

/-!
# core, canonical: what a digest of bytes sees

`checksum_bytes` is the checksum of the words of its chunks. A chunk of at most
eight bytes, padded with zeros, is read as the digits of a number, so chunks of
one length have different words; and a word that changes changes the checksum,
whatever is mixed in after it.
-/

namespace XenorEngine.Rust
open XenorEngine.Lib.ByteText XenorEngine.Lib.Chunks

/-! ### The word of a chunk -/

theorem leWord_toNat_mod (part : Bytes) :
    (leWord part).toNat = Nat.ofDigits 256 (part.map UInt8.toNat) % 2 ^ 64 := by
  induction part with
  | nil => rfl
  | cons byte part ih =>
    have hword : leWord (byte :: part) = byte.toUInt64 + leWord part * 256 := rfl
    have hbyte : (256 : UInt64).toNat = 256 := rfl
    rw [hword, List.map_cons, Nat.ofDigits_cons, UInt64.toNat_add, UInt64.toNat_mul,
      UInt8.toNat_toUInt64, ih, hbyte]
    omega

theorem digits_lt (bytes : Bytes) : ∀ digit ∈ bytes.map UInt8.toNat, digit < 256 := by
  intro digit hdigit
  obtain ⟨byte, _, rfl⟩ := List.mem_map.mp hdigit
  exact byte.toNat_lt

theorem digits_lt_word {part : Bytes} (hpart : part.length ≤ 8) :
    Nat.ofDigits 256 (part.map UInt8.toNat) < 2 ^ 64 := by
  have hbelow : Nat.ofDigits 256 (part.map UInt8.toNat) < 256 ^ (part.map UInt8.toNat).length :=
    Nat.ofDigits_lt_base_pow_length (by decide) (digits_lt part)
  rw [List.length_map] at hbelow
  calc Nat.ofDigits 256 (part.map UInt8.toNat) < 256 ^ part.length := hbelow
    _ ≤ 256 ^ 8 := Nat.pow_le_pow_right (by decide) hpart
    _ = 2 ^ 64 := by decide

theorem leWord_toNat {part : Bytes} (hpart : part.length ≤ 8) :
    (leWord part).toNat = Nat.ofDigits 256 (part.map UInt8.toNat) := by
  rw [leWord_toNat_mod, Nat.mod_eq_of_lt (digits_lt_word hpart)]

/- At a fixed length the padding of a short chunk takes nothing away. -/
theorem leWord_injective {part part' : Bytes} (hlength : part.length = part'.length)
    (hpart : part.length ≤ 8) (hword : leWord part = leWord part') : part = part' := by
  have hdigits : Nat.ofDigits 256 (part.map UInt8.toNat) =
      Nat.ofDigits 256 (part'.map UInt8.toNat) := by
    rw [← leWord_toNat hpart, ← leWord_toNat (hlength ▸ hpart), hword]
  have hmap : part.map UInt8.toNat = part'.map UInt8.toNat := by
    apply Nat.ofDigits_inj_of_len_eq (by decide) _ (digits_lt part) (digits_lt part') hdigits
    rw [List.length_map, List.length_map, hlength]
  exact List.map_injective_iff.mpr (fun _ _ h => UInt8.toNat_inj.mp h) hmap

theorem leWord_zeros (n : Nat) : leWord (List.replicate n 0) = 0 := by
  induction n with
  | zero => rfl
  | succ n ih =>
    show (0 : UInt8).toUInt64 + leWord (List.replicate n 0) * 256 = 0
    rw [ih]
    rfl

/- The buffer is filled with zeros before a chunk is copied in. -/
theorem leWord_padded (part : Bytes) (n : Nat) :
    leWord (part ++ List.replicate n 0) = leWord part := by
  rw [leWord, List.foldr_append]
  show part.foldr _ (leWord (List.replicate n 0)) = _
  rw [leWord_zeros]
  rfl

/-! ### The chunks of a string -/

theorem checksumChunks_step (checksum : UInt64) {bytes : Bytes} (hbytes : bytes ≠ []) :
    checksumChunks checksum bytes =
      checksumChunks (mix64 (checksum ^^^ leWord (bytes.take 8))) (bytes.drop 8) := by
  match bytes, hbytes with
  | [_], _ => rfl
  | [_, _], _ => rfl
  | [_, _, _], _ => rfl
  | [_, _, _, _], _ => rfl
  | [_, _, _, _, _], _ => rfl
  | [_, _, _, _, _, _], _ => rfl
  | [_, _, _, _, _, _, _], _ => rfl
  | _ :: _ :: _ :: _ :: _ :: _ :: _ :: _ :: _, _ => rfl

theorem checksumChunks_words (checksum : UInt64) (bytes : Bytes) :
    checksumChunks checksum bytes = ((chunks 8 bytes).map leWord).foldl
      (fun checksum word => mix64 (checksum ^^^ word)) checksum := by
  have hsize : 0 < 8 := by decide
  induction bytes using chunk_induction hsize generalizing checksum with
  | nil =>
    rw [chunks_nil hsize]
    rfl
  | cut bytes hbytes ih =>
    rw [checksumChunks_step checksum hbytes, chunks_step hsize hbytes, ih]
    rfl

theorem checksumBytes_words (bytes : Bytes) :
    checksumBytes bytes = checksumWords ((chunks 8 bytes).map leWord) :=
  checksumChunks_words checksumInit bytes

theorem checksumBytes_windows (bytes : Bytes) :
    checksumBytes bytes = checksumWords
      ((List.range (chunkCount 8 bytes.length)).map fun j => leWord (window 8 j bytes)) := by
  rw [checksumBytes_words, chunks, List.map_map]
  rfl

/- A zero byte where the padding was goes unseen: digests compare strings of one length. -/
theorem checksumChunks_zero_extended (checksum : UInt64) {bytes : Bytes}
    (hunfilled : bytes.length % 8 ≠ 0) :
    checksumChunks checksum (bytes ++ [0]) = checksumChunks checksum bytes := by
  have hsize : 0 < 8 := by decide
  induction bytes using chunk_induction hsize generalizing checksum with
  | nil => exact absurd rfl hunfilled
  | cut bytes hbytes ih =>
    have hextended : bytes ++ [0] ≠ [] := by
      intro h
      exact hbytes (List.append_eq_nil_iff.mp h).1
    rw [checksumChunks_step checksum hbytes, checksumChunks_step checksum hextended]
    by_cases hshort : bytes.length < 8
    · have htake : (bytes ++ [0]).take 8 = bytes ++ List.replicate 1 0 := by
        apply List.take_of_length_le
        rw [List.length_append, List.length_singleton]
        omega
      have hdrop : (bytes ++ [0]).drop 8 = [] := by
        apply List.drop_of_length_le
        rw [List.length_append, List.length_singleton]
        omega
      have hwhole : bytes.take 8 = bytes := List.take_of_length_le (by omega)
      have hnone : bytes.drop 8 = [] := List.drop_of_length_le (by omega)
      rw [htake, hdrop, hwhole, hnone, leWord_padded]
    · rw [List.take_append_of_le_length (by omega), List.drop_append_of_le_length (by omega)]
      apply ih
      rw [List.length_drop]
      omega

theorem checksumBytes_zero_extended {bytes : Bytes} (hunfilled : bytes.length % 8 ≠ 0) :
    checksumBytes (bytes ++ [0]) = checksumBytes bytes :=
  checksumChunks_zero_extended checksumInit hunfilled

/-! ### A change inside one chunk -/

theorem window_word_ne {bytes bytes' : Bytes} {k : Nat} (hlength : bytes.length = bytes'.length)
    (hwindow : window 8 k bytes ≠ window 8 k bytes') :
    leWord (window 8 k bytes) ≠ leWord (window 8 k bytes') := by
  intro hword
  apply hwindow
  exact leWord_injective (window_length_congr 8 k hlength) (window_length_le 8 k bytes) hword

theorem digest_sees_chunk_change {bytes bytes' : Bytes} {k : Nat}
    (hlength : bytes.length = bytes'.length) (hagree : AgreeOutside 8 k bytes bytes')
    (hne : bytes ≠ bytes') :
    checksumBytes bytes ≠ checksumBytes bytes' ∧
      canonicalDigest bytes ≠ canonicalDigest bytes' := by
  have hchecksum : checksumBytes bytes ≠ checksumBytes bytes' := by
    obtain ⟨hk, hwindow⟩ := hagree.window_ne (by decide) hlength hne
    have hsame : ∀ j, j ≠ k → leWord (window 8 j bytes) = leWord (window 8 j bytes') := by
      intro j hj
      rw [hagree.window_eq hj]
    rw [checksumBytes_windows, checksumBytes_windows, ← hlength]
    exact checksumWords_fields_changed List.nodup_range (List.mem_range.mpr hk)
      (window_word_ne hlength hwindow) hsame
  exact ⟨hchecksum, hchecksum⟩

/- A change in the short last chunk, behind one whole chunk. -/
theorem digest_sees_last_byte :
    checksumBytes (utf8 "seed=7\nx=1") ≠ checksumBytes (utf8 "seed=7\nx=2") := by
  have hfirst : utf8 "seed=7\nx=1" = utf8 "seed=7\nx" ++ (utf8 "=1" ++ []) := rfl
  have hsecond : utf8 "seed=7\nx=2" = utf8 "seed=7\nx" ++ (utf8 "=2" ++ []) := rfl
  have hagree : AgreeOutside 8 1 (utf8 "seed=7\nx=1") (utf8 "seed=7\nx=2") := by
    rw [hfirst, hsecond]
    exact agreeOutside_replaced rfl rfl (by decide)
  exact (digest_sees_chunk_change (by decide) hagree (by decide)).1

end XenorEngine.Rust
