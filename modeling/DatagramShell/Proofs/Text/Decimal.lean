import DatagramShell.Text.Numeral
import DatagramShell.Text.Utf8
import Mathlib.Tactic

/-!
# Decimal spellings are read back

A whole number is spelled with ASCII digits and at most one minus sign.  ASCII text survives the way
through UTF-8 byte for character, and the reader of signed numerals takes the spelling back to the
number.  Every 32-bit number lies in the range that the reader admits, the least one included.
-/

namespace DatagramShell

namespace Numeral

theorem isDigit_of_mem_ofNat {number : Nat} {character : Char}
    (hmem : character ∈ ofNat number) : isDigit character = true := by
  have hdigit : character.isDigit = true :=
    Nat.isDigit_of_mem_toDigits (by decide) (by decide) hmem
  simpa [isDigit, Char.isDigit, Char.le_def] using hdigit

theorem isDigit_bounds {character : Char} (hdigit : isDigit character = true) :
    48 ≤ character.toNat ∧ character.toNat ≤ 57 := by
  simp only [isDigit, Bool.and_eq_true, decide_eq_true_eq, Char.le_def, UInt32.le_iff_toNat_le]
    at hdigit
  exact hdigit

theorem value_eq_ofDigitChars (digits : List Char) :
    value digits = Nat.ofDigitChars 10 digits 0 := by
  rw [Nat.ofDigitChars_eq_foldl, value]
  congr 1
  funext total digit
  rw [digitValue, Nat.mul_comm]

theorem natural?_ofNat (number : Nat) : natural? (ofNat number) = some number := by
  have hdigits : (ofNat number).all isDigit = true :=
    List.all_eq_true.mpr fun _ hmem => isDigit_of_mem_ofNat hmem
  have hvalue : value (ofNat number) = number := by
    rw [value_eq_ofDigitChars, ofNat, Nat.ofDigitChars_ten_toDigits]
  rw [natural?, if_pos ⟨Nat.toDigits_ne_nil, hdigits⟩, hvalue]

/-- A spelling without a sign starts with a digit, so neither sign is taken off it. -/
theorem signed?_ofNat (number : Nat) : signed? (ofNat number) = some (number : Int) := by
  have hread := natural?_ofNat number
  have hfirst : ∀ character ∈ ofNat number, isDigit character = true :=
    fun _ hmem => isDigit_of_mem_ofNat hmem
  cases hspelling : ofNat number with
  | nil => exact absurd hspelling Nat.toDigits_ne_nil
  | cons first rest =>
      rw [hspelling] at hread hfirst
      have hdigit := hfirst first List.mem_cons_self
      have hminus : first ≠ '-' := by
        intro heq
        rw [heq] at hdigit
        exact absurd hdigit (by decide)
      have hplus : first ≠ '+' := by
        intro heq
        rw [heq] at hdigit
        exact absurd hdigit (by decide)
      have hunsigned : unsigned? (first :: rest) = natural? (first :: rest) := by
        unfold unsigned?
        split
        · next heq => exact absurd (List.cons.inj heq).1 hplus
        · rfl
      unfold signed?
      split
      · next heq => exact absurd (List.cons.inj heq).1 hminus
      · rw [hunsigned, hread]
        rfl

theorem signed?_ofInt (number : Int) : signed? (ofInt number) = some number := by
  cases number with
  | ofNat magnitude => exact signed?_ofNat magnitude
  | negSucc predecessor =>
      rw [ofInt, signed?, natural?_ofNat, Int.negSucc_eq]
      rfl

theorem int32?_ofInt (code : Int32) : int32? (ofInt code.toInt) = some code := by
  have hlow := code.le_toInt
  have hhigh := code.toInt_lt
  have hrange : ((-2147483648 : Int) ≤ code.toInt && code.toInt ≤ 2147483647) = true := by
    simp only [Bool.and_eq_true, decide_eq_true_eq]
    omega
  rw [int32?, between?, signed?_ofInt, Option.filter_some, if_pos hrange, Option.map_some,
    Int32.ofInt_toInt]

/-- A spelling holds digits and the minus sign, all below 128 and none of them a line feed. -/
theorem mem_ofInt_bounds {number : Int} {character : Char} (hmem : character ∈ ofInt number) :
    45 ≤ character.toNat ∧ character.toNat ≤ 57 := by
  have hdigits : ∀ {magnitude : Nat}, character ∈ ofNat magnitude →
      45 ≤ character.toNat ∧ character.toNat ≤ 57 := by
    intro magnitude hdigit
    have hbounds := isDigit_bounds (isDigit_of_mem_ofNat hdigit)
    omega
  cases number with
  | ofNat magnitude => exact hdigits hmem
  | negSucc predecessor =>
      rcases List.mem_cons.mp hmem with rfl | hmem
      · decide
      · exact hdigits hmem

end Numeral

namespace Utf8

theorem utf8EncodeChar_of_ascii {character : Char} (hascii : character.toNat < 128) :
    String.utf8EncodeChar character = [UInt8.ofNat character.toNat] := by
  have hsize : character.utf8Size = 1 := by
    rw [Char.utf8Size_eq_one_iff, UInt32.le_iff_toNat_le]
    exact Nat.le_of_lt_succ hascii
  exact String.utf8EncodeChar_eq_singleton hsize

/-- An ASCII byte is a character by itself, whatever stands behind it. -/
theorem takeCharacter_of_ascii {character : Char} (hascii : character.toNat < 128)
    (bytes : Bytes) :
    takeCharacter (UInt8.ofNat character.toNat) bytes = (character, bytes) := by
  have hvalue : (UInt8.ofNat character.toNat).toNat = character.toNat := by
    simp only [UInt8.toNat_ofNat']
    omega
  have hlead : lead? (UInt8.ofNat character.toNat) = some ⟨0, character.toNat, 0x80, 0xBF⟩ := by
    simp only [lead?, hvalue, hascii, if_true]
  simp only [takeCharacter, hlead, takeContinuation, Char.ofNat_toNat]

theorem decodeOnto_ascii {text : List Char} (hascii : ∀ character ∈ text, character.toNat < 128)
    (reversed : List Char) :
    decodeOnto reversed (text.flatMap String.utf8EncodeChar) = reversed.reverse ++ text := by
  induction text generalizing reversed with
  | nil => simp [decodeOnto]
  | cons first rest ih =>
      have hfirst := hascii first List.mem_cons_self
      rw [List.flatMap_cons, utf8EncodeChar_of_ascii hfirst, List.singleton_append, decodeOnto]
      simp only [takeCharacter_of_ascii hfirst]
      rw [ih fun character hmem => hascii character (List.mem_cons_of_mem _ hmem)]
      simp

/-- ASCII text is read from its bytes as it was written. -/
theorem decode_ofString {text : List Char} (hascii : ∀ character ∈ text, character.toNat < 128) :
    decode (Bytes.ofString (String.ofList text)) = text := by
  rw [Bytes.ofString, String.toList_ofList, decode, decodeOnto_ascii hascii]
  rfl

end Utf8

end DatagramShell
