import DatagramShell.Proofs.Text.Decimal
import Mathlib.Tactic

/-!
# Text as bytes

A text is as long on the wire as its characters are in UTF-8.  An ASCII character is one byte below
128, and every byte of any other character is above that, so a text starts with some ASCII
characters exactly if its bytes start with theirs.
-/

namespace DatagramShell

namespace Utf8

theorem le_of_mem_utf8EncodeChar {character : Char} (hbeyond : 128 ≤ character.toNat) {byte : UInt8}
    (hmem : byte ∈ String.utf8EncodeChar character) : 128 ≤ byte.toNat := by
  have hvalue : ¬ character.val.toNat ≤ 0x7f := Nat.not_le.mpr hbeyond
  revert hmem
  fun_cases String.utf8EncodeChar character
  · contradiction
  all_goals
    simp only [List.mem_cons, List.not_mem_nil, or_false]
    intro hcases
    rcases hcases with rfl | rfl | rfl | rfl
    all_goals
      simp only [UInt8.toNat_ofNat']
      omega

theorem zero_mem_utf8EncodeChar_iff {character : Char} :
    0 ∈ String.utf8EncodeChar character ↔ character = '\x00' := by
  constructor
  · intro hmem
    by_cases hascii : character.toNat < 128
    · rw [utf8EncodeChar_of_ascii hascii, List.mem_singleton] at hmem
      have hzero : character.toNat = 0 := by
        have hvalue := congrArg UInt8.toNat hmem
        simp only [UInt8.toNat_ofNat', UInt8.toNat_zero] at hvalue
        omega
      exact Char.toNat_inj.mp hzero
    · exact absurd (le_of_mem_utf8EncodeChar (Nat.not_lt.mp hascii) hmem) (by decide)
  · rintro rfl
    decide

/-- Behind an ASCII character the bytes go on as the text does. -/
theorem encode_prefix_cons_iff {first character : Char} (hascii : first.toNat < 128)
    {front behind : Bytes} :
    String.utf8EncodeChar first ++ front <+: String.utf8EncodeChar character ++ behind ↔
      first = character ∧ front <+: behind := by
  rw [utf8EncodeChar_of_ascii hascii]
  by_cases hother : character.toNat < 128
  · rw [utf8EncodeChar_of_ascii hother, List.singleton_append, List.singleton_append,
      List.cons_prefix_cons, ← UInt8.toNat_inj]
    have hsame : (UInt8.ofNat first.toNat).toNat = (UInt8.ofNat character.toNat).toNat ↔
        first = character := by
      rw [← Char.toNat_inj]
      simp only [UInt8.toNat_ofNat']
      omega
    rw [hsame]
  · have hdistinct : first ≠ character := by
      rintro rfl
      exact hother hascii
    simp only [hdistinct, false_and, iff_false]
    cases hencoded : String.utf8EncodeChar character with
    | nil => exact absurd hencoded String.utf8EncodeChar_ne_nil
    | cons byte bytes =>
        have hbyte : 128 ≤ byte.toNat := by
          apply le_of_mem_utf8EncodeChar (Nat.not_lt.mp hother)
          rw [hencoded]
          exact List.mem_cons_self
        rw [List.singleton_append, List.cons_append, List.cons_prefix_cons]
        intro hprefix
        have hvalue := congrArg UInt8.toNat hprefix.1
        simp only [UInt8.toNat_ofNat'] at hvalue
        omega

theorem encode_prefix_iff {front text : List Char}
    (hascii : ∀ character ∈ front, character.toNat < 128) :
    front.flatMap String.utf8EncodeChar <+: text.flatMap String.utf8EncodeChar ↔
      front <+: text := by
  induction front generalizing text with
  | nil => exact iff_of_true List.nil_prefix List.nil_prefix
  | cons first front ih =>
      cases text with
      | nil =>
          rw [List.flatMap_cons, List.flatMap_nil, List.prefix_nil, List.prefix_nil]
          simp [String.utf8EncodeChar_ne_nil]
      | cons character text =>
          rw [List.flatMap_cons, List.flatMap_cons,
            encode_prefix_cons_iff (hascii first List.mem_cons_self),
            ih fun other hmem => hascii other (List.mem_cons_of_mem _ hmem), List.cons_prefix_cons]

end Utf8

namespace Bytes

theorem length_ofString (text : String) : (ofString text).length = text.utf8ByteSize := by
  have hbytes : text.toByteArray = (ofString text).toByteArray := by
    rw [ofString, ← List.utf8Encode, ← String.toByteArray_ofList, String.ofList_toList]
  rw [← String.size_toByteArray, hbytes, List.size_toByteArray]

theorem zero_mem_ofString_iff {text : String} : 0 ∈ ofString text ↔ '\x00' ∈ text.toList := by
  simp only [ofString, List.mem_flatMap, Utf8.zero_mem_utf8EncodeChar_iff, exists_eq_right]

theorem ofString_prefix_iff {front text : String}
    (hascii : ∀ character ∈ front.toList, character.toNat < 128) :
    ofString front <+: ofString text ↔ front.toList <+: text.toList :=
  Utf8.encode_prefix_iff hascii

end Bytes

end DatagramShell
