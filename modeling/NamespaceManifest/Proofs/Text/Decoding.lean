import NamespaceManifest.Text.Utf8
import Mathlib.Data.List.Basic

/-!
# The lossy reading of encoded text

The lossy reading accepts every sequence of bytes.  On the bytes of a text it loses nothing: the bytes of
one character read as that character, and what follows is read as if it stood alone.

The number of bytes of a character depends on its value, so there is one lemma for every length.  Only
the first two bytes need care: the ranges of the second byte leave out overlong forms, surrogates and
values that are too large.

**Results.**
* `readLossy_toUTF8`: the lossy reading of the bytes of a string is its list of characters.
* `toNat_eq_of_mem_encoded`: a byte below 128 is a character of its own.
-/

namespace NamespaceManifest
namespace Text
namespace Utf8

/-- A number below 256 is the value of its byte. -/
theorem toNat_byte
    {n : Nat}
    (h : n < 256) :
    (UInt8.ofNat n).toNat = n := by
  simp [Nat.mod_eq_of_lt h]

/-- A continuation byte lies in every range that holds its value. -/
theorem within_continuation
    {n lo hi : Nat}
    (hlo : lo ≤ n % 64 + 128)
    (hhi : n % 64 + 128 ≤ hi) :
    within lo hi (UInt8.ofNat (n % 64 + 128)) = true := by
  have hn : n % 64 + 128 < 256 := by omega
  rw [within, toNat_byte hn]
  simp [hlo, hhi]

/-- The value bits of a continuation byte. -/
theorem payload_continuation
    (n : Nat) :
    payload (UInt8.ofNat (n % 64 + 128)) = n % 64 := by
  have hn : n % 64 + 128 < 256 := by omega
  rw [payload, toNat_byte hn]
  omega

/-- The bytes of a character after the first one, for two bytes. -/
theorem two_encoded
    {v : Nat}
    (h : v ≤ 0x7FF)
    (bytes : List UInt8) :
    two (v / 64 % 32) (UInt8.ofNat (v % 64 + 128) :: bytes) = (Char.ofNat v, 1) := by
  have hv : v / 64 % 32 * 64 + v % 64 = v := by omega
  have h1 : within 0x80 0xBF (UInt8.ofNat (v % 64 + 128)) = true :=
    within_continuation (by omega) (by omega)
  simp only [two, h1, payload_continuation, hv, if_true]

/-- The bytes of a character after the first one, for three bytes. -/
theorem three_encoded
    {v lo hi : Nat}
    (h : v ≤ 0xFFFF)
    (hlo : lo ≤ v / 64 % 64 + 128)
    (hhi : v / 64 % 64 + 128 ≤ hi)
    (bytes : List UInt8) :
    three (v / 4096 % 16) lo hi
      (UInt8.ofNat (v / 64 % 64 + 128) :: UInt8.ofNat (v % 64 + 128) :: bytes) =
      (Char.ofNat v, 2) := by
  have hv : (v / 4096 % 16 * 64 + v / 64 % 64) * 64 + v % 64 = v := by omega
  have h2 : within 0x80 0xBF (UInt8.ofNat (v % 64 + 128)) = true :=
    within_continuation (by omega) (by omega)
  simp only [three, third, within_continuation hlo hhi, h2, payload_continuation, hv, if_true]

/-- The bytes of a character after the first one, for four bytes. -/
theorem four_encoded
    {v lo hi : Nat}
    (h : v < 0x110000)
    (hlo : lo ≤ v / 4096 % 64 + 128)
    (hhi : v / 4096 % 64 + 128 ≤ hi)
    (bytes : List UInt8) :
    four (v / 262144 % 8) lo hi
      (UInt8.ofNat (v / 4096 % 64 + 128) :: UInt8.ofNat (v / 64 % 64 + 128) ::
        UInt8.ofNat (v % 64 + 128) :: bytes) =
      (Char.ofNat v, 3) := by
  have hv :
      ((v / 262144 % 8 * 64 + v / 4096 % 64) * 64 + v / 64 % 64) * 64 + v % 64 = v := by
    omega
  have h2 : within 0x80 0xBF (UInt8.ofNat (v / 64 % 64 + 128)) = true :=
    within_continuation (by omega) (by omega)
  have h3 : within 0x80 0xBF (UInt8.ofNat (v % 64 + 128)) = true :=
    within_continuation (by omega) (by omega)
  simp only [four, thirdAndFourth, within_continuation hlo hhi, h2, h3, payload_continuation, hv,
    if_true]

/-- A value of seven bits. -/
theorem leading_one
    {v : Nat}
    (h : v ≤ 0x7F)
    (bytes : List UInt8) :
    leading (UInt8.ofNat v) bytes = (Char.ofNat v, 0) := by
  have hn : (UInt8.ofNat v).toNat = v := toNat_byte (by omega)
  have hlt : v < 0x80 := by omega
  simp only [leading, hn, hlt, if_true]

/-- A value of eleven bits. -/
theorem leading_two
    {v : Nat}
    (hlo : 0x7F < v)
    (hhi : v ≤ 0x7FF)
    (bytes : List UInt8) :
    leading (UInt8.ofNat (v / 64 % 32 + 0xC0)) (UInt8.ofNat (v % 64 + 128) :: bytes) =
      (Char.ofNat v, 1) := by
  have hn : (UInt8.ofNat (v / 64 % 32 + 0xC0)).toNat = v / 64 % 32 + 0xC0 :=
    toNat_byte (by omega)
  simp only [leading, hn]
  rw [if_neg (by omega), if_neg (by omega), if_pos (by omega), Nat.add_sub_cancel]
  exact two_encoded hhi bytes

/-- A value of sixteen bits that is no surrogate. -/
theorem leading_three
    {v : Nat}
    (hlo : 0x7FF < v)
    (hhi : v ≤ 0xFFFF)
    (hs : v < 0xD800 ∨ 0xDFFF < v)
    (bytes : List UInt8) :
    leading (UInt8.ofNat (v / 4096 % 16 + 0xE0))
      (UInt8.ofNat (v / 64 % 64 + 128) :: UInt8.ofNat (v % 64 + 128) :: bytes) =
      (Char.ofNat v, 2) := by
  have hn : (UInt8.ofNat (v / 4096 % 16 + 0xE0)).toNat = v / 4096 % 16 + 0xE0 :=
    toNat_byte (by omega)
  simp only [leading, hn, beq_iff_eq]
  rw [if_neg (by omega), if_neg (by omega), if_neg (by omega)]
  by_cases he : v / 4096 % 16 = 0
  · rw [if_pos (by omega), ← he]
    exact three_encoded hhi (by omega) (by omega) bytes
  · rw [if_neg (by omega)]
    by_cases hd : v / 4096 % 16 = 13
    · rw [if_pos (by omega), ← hd]
      exact three_encoded hhi (by omega) (by omega) bytes
    · rw [if_neg (by omega), if_pos (by omega), Nat.add_sub_cancel]
      exact three_encoded hhi (by omega) (by omega) bytes

/-- A value of more than sixteen bits. -/
theorem leading_four
    {v : Nat}
    (hlo : 0xFFFF < v)
    (hhi : v < 0x110000)
    (bytes : List UInt8) :
    leading (UInt8.ofNat (v / 262144 % 8 + 0xF0))
      (UInt8.ofNat (v / 4096 % 64 + 128) :: UInt8.ofNat (v / 64 % 64 + 128) ::
        UInt8.ofNat (v % 64 + 128) :: bytes) =
      (Char.ofNat v, 3) := by
  have hn : (UInt8.ofNat (v / 262144 % 8 + 0xF0)).toNat = v / 262144 % 8 + 0xF0 :=
    toNat_byte (by omega)
  simp only [leading, hn, beq_iff_eq]
  rw [if_neg (by omega), if_neg (by omega), if_neg (by omega), if_neg (by omega),
    if_neg (by omega), if_neg (by omega)]
  by_cases h0 : v / 262144 % 8 = 0
  · rw [if_pos (by omega), ← h0]
    exact four_encoded hhi (by omega) (by omega) bytes
  · rw [if_neg (by omega)]
    by_cases h4 : v / 262144 % 8 = 4
    · rw [if_neg (by omega), if_pos (by omega), ← h4]
      exact four_encoded hhi (by omega) (by omega) bytes
    · rw [if_pos (by omega), Nat.add_sub_cancel]
      exact four_encoded hhi (by omega) (by omega) bytes

/-- The bytes of a character start with a byte that announces the others. -/
theorem leading_encoded
    (c : Char)
    (rest : List UInt8) :
    ∃ b bytes,
      String.utf8EncodeChar c = b :: bytes ∧
      leading b (bytes ++ rest) = (c, bytes.length) := by
  have hvalid : c.val.toNat < 0xD800 ∨ (0xDFFF < c.val.toNat ∧ c.val.toNat < 0x110000) :=
    c.valid
  have hc : Char.ofNat c.val.toNat = c := Char.ofNat_toNat c
  unfold String.utf8EncodeChar
  dsimp only
  generalize c.val.toNat = v at hvalid hc
  subst hc
  split_ifs with h1 h2 h3
  · exact ⟨_, _, rfl, leading_one h1 rest⟩
  · exact ⟨_, _, rfl, leading_two (by omega) h2 rest⟩
  · exact ⟨_, _, rfl, leading_three (by omega) h3 (by omega) rest⟩
  · exact ⟨_, _, rfl, leading_four (by omega) (by omega) rest⟩

/-- Bytes that were read already are passed over. -/
theorem readAfter_length_append
    (bytes rest : List UInt8) :
    readAfter bytes.length (bytes ++ rest) = readAfter 0 rest := by
  induction bytes with
  | nil =>
      rfl
  | cons b bytes ih =>
      simpa [readAfter] using ih

/-- The bytes of characters read as these characters. -/
theorem readAfter_encoded
    (s : List Char) :
    readAfter 0 (s.flatMap String.utf8EncodeChar) = s := by
  induction s with
  | nil =>
      rfl
  | cons c s ih =>
      obtain ⟨b, bytes, henc, hlead⟩ :=
        leading_encoded c (s.flatMap String.utf8EncodeChar)
      rw [List.flatMap_cons, henc, List.cons_append, readAfter, hlead]
      simp only [readAfter_length_append, ih]

/-- The bytes of a string are those of its characters. -/
theorem toList_data_toUTF8
    (s : String) :
    s.toUTF8.data.toList = s.toList.flatMap String.utf8EncodeChar := by
  have h : s.toUTF8 = s.toList.utf8Encode := by
    simp
  rw [h, List.utf8Encode]
  simp

/-- The lossy reading of the bytes of a string loses nothing. -/
theorem readLossy_toUTF8
    (s : String) :
    readLossy s.toUTF8 = s.toList := by
  rw [readLossy, toList_data_toUTF8, readAfter_encoded]

/-- A byte of the lower half stands for the character of its value and is part of no other. -/
theorem toNat_eq_of_mem_encoded
    {c : Char} {b : UInt8}
    (hb : b.toNat < 128)
    (h : b ∈ String.utf8EncodeChar c) :
    c.toNat = b.toNat := by
  have hhigh : ∀ n, 128 ≤ n → n < 256 → b ≠ UInt8.ofNat n := by
    rintro n hlo hhi rfl
    rw [toNat_byte hhi] at hb
    omega
  unfold String.utf8EncodeChar at h
  dsimp only at h
  split_ifs at h with h1 h2 h3
  · obtain rfl := List.mem_singleton.mp h
    exact (toNat_byte (n := c.val.toNat) (by omega)).symm
  all_goals
    simp only [List.mem_cons, List.not_mem_nil, or_false] at h
  · rcases h with h | h <;> exact absurd h (hhigh _ (by omega) (by omega))
  · rcases h with h | h | h <;> exact absurd h (hhigh _ (by omega) (by omega))
  · rcases h with h | h | h | h <;> exact absurd h (hhigh _ (by omega) (by omega))

end Utf8
end Text
end NamespaceManifest
