import DatagramShell.Proofs.Text.Encoded
import Mathlib

/-!
# Which bytes are read as a number

A byte above 127 is read as a character beyond ASCII or, together with those behind it, as the
replacement character; the zero character is the only other one that broken input could give.  So
text of signs and digits has been read from just these signs and digits, byte for byte, and a number
is read from the bytes that spell it in the usual way and from no others.
-/

namespace DatagramShell

namespace Utf8

/-- Every byte is also the code of a character. -/
def charOf (byte : UInt8) : Char :=
  Char.ofNat byte.toNat

theorem toNat_charOf (byte : UInt8) : (charOf byte).toNat = byte.toNat := by
  have hvalid : byte.toNat.isValidChar := by
    have hbyte := byte.toNat_lt
    exact .inl (by omega)
  rw [charOf, Char.toNat_ofNat, if_pos hvalid]

theorem decodeOnto_eq (reversed : List Char) (bytes : Bytes) :
    decodeOnto reversed bytes = reversed.reverse ++ decode bytes := by
  unfold decode
  induction hlength : bytes.length using Nat.strongRecOn generalizing reversed bytes with
  | ind length ih =>
      subst hlength
      cases bytes with
      | nil => simp [decodeOnto]
      | cons byte bytes =>
          have hshorter : (takeCharacter byte bytes).2.length < (byte :: bytes).length :=
            Nat.lt_succ_of_le (length_takeCharacter_le byte bytes)
          rw [decodeOnto, decodeOnto, ih _ hshorter _ _ rfl, ih _ hshorter [_] _ rfl]
          simp

theorem decode_cons (byte : UInt8) (bytes : Bytes) :
    decode (byte :: bytes) =
      (takeCharacter byte bytes).1 :: decode (takeCharacter byte bytes).2 := by
  rw [decode, decodeOnto, decodeOnto_eq]
  simp

theorem takeCharacter_of_lt {byte : UInt8} (hascii : byte.toNat < 128) (bytes : Bytes) :
    takeCharacter byte bytes = (charOf byte, bytes) := by
  have hcharacter : (charOf byte).toNat < 128 := by
    rw [toNat_charOf]
    exact hascii
  have htake := takeCharacter_of_ascii hcharacter bytes
  rw [toNat_charOf, UInt8.ofNat_toNat] at htake
  exact htake

theorem decode_of_lt {bytes : Bytes} (hascii : ∀ byte ∈ bytes, byte.toNat < 128) :
    decode bytes = bytes.map charOf := by
  induction bytes with
  | nil => rw [decode, decodeOnto, List.reverse_nil, List.map_nil]
  | cons byte bytes ih =>
      have hfirst := hascii byte List.mem_cons_self
      have hrest : ∀ other ∈ bytes, other.toNat < 128 := fun other hmem =>
        hascii other (List.mem_cons_of_mem _ hmem)
      rw [decode_cons, takeCharacter_of_lt hfirst, List.map_cons, ih hrest]

/-- Every continuation byte moves what has been read by six bits, and the first one adds at least
what the leading byte asks of it. -/
theorem le_of_takeContinuation {following value low high : ℕ} {bytes rest : Bytes} {result : ℕ}
    (htake : takeContinuation (following + 1) value low high bytes = (some result, rest)) :
    (value * 64 + (low - 0x80)) * 64 ^ following ≤ result := by
  induction following generalizing value low high bytes with
  | zero =>
      cases bytes with
      | nil => simp [takeContinuation] at htake
      | cons byte bytes =>
          by_cases hrange : low ≤ byte.toNat ∧ byte.toNat ≤ high
          · simp only [takeContinuation, if_pos hrange, Prod.mk.injEq, Option.some.injEq] at htake
            omega
          · simp [takeContinuation, hrange] at htake
  | succ following ih =>
      cases bytes with
      | nil => simp [takeContinuation] at htake
      | cons byte bytes =>
          by_cases hrange : low ≤ byte.toNat ∧ byte.toNat ≤ high
          · rw [takeContinuation, if_pos hrange] at htake
            have hlater := ih htake
            have hfirst : value * 64 + (low - 0x80) ≤ value * 64 + (byte.toNat - 0x80) := by omega
            calc (value * 64 + (low - 0x80)) * 64 ^ (following + 1)
                = (value * 64 + (low - 0x80)) * 64 * 64 ^ following := by ring
              _ ≤ (value * 64 + (byte.toNat - 0x80)) * 64 * 64 ^ following := by gcongr
              _ ≤ result := by simpa using hlater
          · simp [takeContinuation, hrange] at htake

/-- A leading byte beyond ASCII asks for enough bytes to go beyond ASCII itself. -/
theorem lead?_of_le {byte : UInt8} (hbeyond : 128 ≤ byte.toNat) {lead : Lead}
    (hlead : lead? byte = some lead) :
    ∃ following, lead.following = following + 1 ∧
      128 ≤ (lead.bits * 64 + (lead.low - 0x80)) * 64 ^ following := by
  unfold lead? at hlead
  simp only [Nat.not_lt.mpr hbeyond, if_false] at hlead
  split at hlead
  · cases hlead
  · split at hlead
    · cases hlead
      exact ⟨0, rfl, by simp only; omega⟩
    · split at hlead
      · cases hlead
        refine ⟨1, rfl, ?_⟩
        simp only
        split <;> omega
      · split at hlead
        · cases hlead
          refine ⟨2, rfl, ?_⟩
          simp only
          split <;> omega
        · cases hlead

theorem le_toNat_replacement : 128 ≤ replacement.toNat := by
  decide

theorem takeCharacter_of_le {byte : UInt8} (hbeyond : 128 ≤ byte.toNat) (bytes : Bytes) :
    (takeCharacter byte bytes).1.toNat = 0 ∨ 128 ≤ (takeCharacter byte bytes).1.toNat := by
  unfold takeCharacter
  cases hlead : lead? byte with
  | none => exact .inr le_toNat_replacement
  | some lead =>
      obtain ⟨following, hfollowing, hlarge⟩ := lead?_of_le hbeyond hlead
      simp only [hfollowing]
      cases htake : takeContinuation (following + 1) lead.bits lead.low lead.high bytes with
      | mk value rest =>
          cases value with
          | none => exact .inr le_toNat_replacement
          | some value =>
              have hvalue := hlarge.trans (le_of_takeContinuation htake)
              simp only [Char.toNat_ofNat]
              split
              · exact .inr hvalue
              · exact .inl rfl

/-- Text within ASCII, without the zero character, has been read from bytes within ASCII. -/
theorem forall_lt_of_decode {bytes : Bytes}
    (hascii : ∀ character ∈ decode bytes, 0 < character.toNat ∧ character.toNat < 128) :
    ∀ byte ∈ bytes, byte.toNat < 128 := by
  induction bytes with
  | nil => simp
  | cons byte bytes ih =>
      rw [decode_cons] at hascii
      have hfirst := hascii _ List.mem_cons_self
      have hbyte : byte.toNat < 128 := by
        by_contra hbeyond
        have hcases := takeCharacter_of_le (Nat.le_of_not_lt hbeyond) bytes
        omega
      rw [takeCharacter_of_lt hbyte] at hascii
      have hrest : ∀ other ∈ bytes, other.toNat < 128 := ih fun character hmem =>
        hascii character (List.mem_cons_of_mem _ hmem)
      intro other hmem
      rcases List.mem_cons.mp hmem with rfl | hmem
      · exact hbyte
      · exact hrest other hmem

end Utf8

namespace Numeral

open Utf8

/-- A row of ASCII digits. -/
def IsDigits (digits : Bytes) : Prop :=
  digits ≠ [] ∧ ∀ digit ∈ digits, 48 ≤ digit.toNat ∧ digit.toNat ≤ 57

/-- The number that a row of ASCII digits stands for, the most significant one first. -/
def numberOf (digits : Bytes) : ℕ :=
  Nat.ofDigits 10 (digits.reverse.map fun digit => digit.toNat - 48)

/-- At most one sign, and behind it a row of digits. -/
inductive Spells : Bytes → ℤ → Prop
  | bare {digits : Bytes} (hdigits : IsDigits digits) : Spells digits (numberOf digits)
  | plus {digits : Bytes} (hdigits : IsDigits digits) : Spells (43 :: digits) (numberOf digits)
  | minus {digits : Bytes} (hdigits : IsDigits digits) : Spells (45 :: digits) (-numberOf digits)

theorem Spells.mem_bounds {text : Bytes} {number : ℤ} (hspells : Spells text number) {byte : UInt8}
    (hmem : byte ∈ text) : 43 ≤ byte.toNat ∧ byte.toNat ≤ 57 := by
  have hdigits : ∀ {digits : Bytes}, IsDigits digits → byte ∈ digits →
      43 ≤ byte.toNat ∧ byte.toNat ≤ 57 := by
    intro digits hdigits hdigit
    have hbounds := hdigits.2 byte hdigit
    omega
  cases hspells with
  | bare hall => exact hdigits hall hmem
  | plus hall =>
      rcases List.mem_cons.mp hmem with rfl | hmem
      · decide
      · exact hdigits hall hmem
  | minus hall =>
      rcases List.mem_cons.mp hmem with rfl | hmem
      · decide
      · exact hdigits hall hmem

theorem isDigit_charOf (byte : UInt8) :
    isDigit (charOf byte) = true ↔ 48 ≤ byte.toNat ∧ byte.toNat ≤ 57 := by
  rw [← toNat_charOf byte]
  simp only [isDigit, Bool.and_eq_true, decide_eq_true_eq, Char.le_def, UInt32.le_iff_toNat_le]
  rfl

theorem value_map_charOf (digits : Bytes) : value (digits.map charOf) = numberOf digits := by
  induction digits using List.reverseRecOn with
  | nil => rfl
  | append_singleton digits digit ih =>
      have hdigit : digitValue (charOf digit) = digit.toNat - 48 := by
        rw [digitValue, toNat_charOf]
        rfl
      calc
        value ((digits ++ [digit]).map charOf) =
            value (digits.map charOf) * 10 + digitValue (charOf digit) := by
          rw [value, List.map_append, List.foldl_append, value]
          rfl
        _ = numberOf digits * 10 + (digit.toNat - 48) := by rw [ih, hdigit]
        _ = numberOf (digits ++ [digit]) := by
          simp only [numberOf, List.reverse_append, List.reverse_singleton, List.singleton_append,
            List.map_cons, Nat.ofDigits_cons]
          omega

theorem natural?_map_charOf {digits : Bytes} {number : ℕ} :
    natural? (digits.map charOf) = some number ↔ IsDigits digits ∧ numberOf digits = number := by
  have hrow : (digits.map charOf ≠ [] ∧ (digits.map charOf).all isDigit = true) ↔
      IsDigits digits := by
    simp [IsDigits, isDigit_charOf]
  unfold natural?
  by_cases hdigits : IsDigits digits
  · rw [if_pos (hrow.mpr hdigits), value_map_charOf]
    simp [hdigits]
  · rw [if_neg (mt hrow.mp hdigits)]
    simp [hdigits]

/-! ## Signs -/

theorem signed?_minus (text : List Char) :
    signed? ('-' :: text) = (natural? text).map fun magnitude : ℕ => -(magnitude : ℤ) := by
  cases hread : natural? text <;> simp [signed?, hread]

theorem signed?_plus (text : List Char) :
    signed? ('+' :: text) = (natural? text).map fun magnitude : ℕ => (magnitude : ℤ) := by
  cases hread : natural? text <;> simp [signed?, unsigned?, hread]

theorem signed?_of_unsigned {first : Char} (hminus : first ≠ '-') (hplus : first ≠ '+')
    (text : List Char) :
    signed? (first :: text) =
      (natural? (first :: text)).map fun magnitude : ℕ => (magnitude : ℤ) := by
  cases hread : natural? (first :: text) <;> simp [signed?, unsigned?, hminus, hplus, hread]

theorem spells_minus_iff {text : Bytes} {number : ℤ} :
    Spells (45 :: text) number ↔ IsDigits text ∧ -(numberOf text : ℤ) = number := by
  constructor
  · intro hspells
    cases hspells with
    | bare hdigits =>
        have hbounds := hdigits.2 45 List.mem_cons_self
        exact absurd hbounds.1 (by decide)
    | minus hdigits => exact ⟨hdigits, rfl⟩
  · rintro ⟨hdigits, rfl⟩
    exact .minus hdigits

theorem spells_plus_iff {text : Bytes} {number : ℤ} :
    Spells (43 :: text) number ↔ IsDigits text ∧ (numberOf text : ℤ) = number := by
  constructor
  · intro hspells
    cases hspells with
    | bare hdigits =>
        have hbounds := hdigits.2 43 List.mem_cons_self
        exact absurd hbounds.1 (by decide)
    | plus hdigits => exact ⟨hdigits, rfl⟩
  · rintro ⟨hdigits, rfl⟩
    exact .plus hdigits

theorem spells_unsigned_iff {text : Bytes} (hminus : text.head? ≠ some 45)
    (hplus : text.head? ≠ some 43) {number : ℤ} :
    Spells text number ↔ IsDigits text ∧ (numberOf text : ℤ) = number := by
  constructor
  · intro hspells
    cases hspells with
    | bare hdigits => exact ⟨hdigits, rfl⟩
    | plus hdigits => exact absurd rfl hplus
    | minus hdigits => exact absurd rfl hminus
  · rintro ⟨hdigits, rfl⟩
    exact .bare hdigits

theorem signed?_map_charOf {text : Bytes} {number : ℤ} :
    signed? (text.map charOf) = some number ↔ Spells text number := by
  have hread : ∀ (digits : Bytes) (f : ℕ → ℤ),
      (natural? (digits.map charOf)).map f = some number ↔
        IsDigits digits ∧ f (numberOf digits) = number := by
    intro digits f
    simp only [Option.map_eq_some_iff, natural?_map_charOf, and_assoc]
    simp
  have hminusSign : charOf 45 = '-' := rfl
  have hplusSign : charOf 43 = '+' := rfl
  cases text with
  | nil =>
      rw [spells_unsigned_iff (by simp) (by simp)]
      simp [signed?, unsigned?, natural?, IsDigits]
  | cons byte text =>
      by_cases hminus : byte = 45
      · subst hminus
        rw [List.map_cons, hminusSign, signed?_minus, spells_minus_iff]
        exact hread text _
      · by_cases hplus : byte = 43
        · subst hplus
          rw [List.map_cons, hplusSign, signed?_plus, spells_plus_iff]
          exact hread text _
        · have hother : ∀ sign : UInt8, byte ≠ sign → charOf byte ≠ charOf sign := by
            intro sign hne heq
            have hvalue := congrArg Char.toNat heq
            rw [toNat_charOf, toNat_charOf, UInt8.toNat_inj] at hvalue
            exact hne hvalue
          rw [spells_unsigned_iff (by simpa using hminus) (by simpa using hplus), List.map_cons,
            signed?_of_unsigned (hother 45 hminus) (hother 43 hplus)]
          exact hread (byte :: text) _

theorem forall_bounds_of_natural? {text : List Char} {magnitude : ℕ}
    (hread : natural? text = some magnitude) :
    ∀ character ∈ text, 0 < character.toNat ∧ character.toNat < 128 := by
  intro character hmem
  unfold natural? at hread
  split at hread
  · next hrow =>
      have hbounds := isDigit_bounds (List.all_eq_true.mp hrow.2 character hmem)
      omega
  · cases hread

/-- Text that is read as a number holds signs and digits only. -/
theorem forall_bounds_of_signed? {text : List Char} {number : ℤ}
    (hread : signed? text = some number) :
    ∀ character ∈ text, 0 < character.toNat ∧ character.toNat < 128 := by
  cases text with
  | nil => simp
  | cons first text =>
      by_cases hminus : first = '-'
      · subst hminus
        rw [signed?_minus] at hread
        rcases Option.map_eq_some_iff.mp hread with ⟨magnitude, hnatural, _⟩
        rw [List.forall_mem_cons]
        exact ⟨by decide, forall_bounds_of_natural? hnatural⟩
      · by_cases hplus : first = '+'
        · subst hplus
          rw [signed?_plus] at hread
          rcases Option.map_eq_some_iff.mp hread with ⟨magnitude, hnatural, _⟩
          rw [List.forall_mem_cons]
          exact ⟨by decide, forall_bounds_of_natural? hnatural⟩
        · rw [signed?_of_unsigned hminus hplus] at hread
          rcases Option.map_eq_some_iff.mp hread with ⟨magnitude, hnatural, _⟩
          exact forall_bounds_of_natural? hnatural

theorem signed?_decode {line : Bytes} {number : ℤ} :
    signed? (decode line) = some number ↔ Spells line number := by
  constructor
  · intro hread
    have hascii := forall_lt_of_decode (forall_bounds_of_signed? hread)
    rw [decode_of_lt hascii] at hread
    exact signed?_map_charOf.mp hread
  · intro hspells
    have hascii : ∀ byte ∈ line, byte.toNat < 128 := by
      intro byte hmem
      have hbounds := hspells.mem_bounds hmem
      omega
    rw [decode_of_lt hascii]
    exact signed?_map_charOf.mpr hspells

/-- A 32-bit number is read from its spellings, and every spelling of a number in the range is read.
-/
theorem int32?_decode {line : Bytes} {code : Int32} :
    int32? (decode line) = some code ↔ Spells line code.toInt := by
  rw [← signed?_decode]
  unfold int32? between?
  constructor
  · intro hread
    rcases Option.map_eq_some_iff.mp hread with ⟨number, hfilter, hcode⟩
    rcases Option.filter_eq_some_iff.mp hfilter with ⟨hsigned, hrange⟩
    simp only [Bool.and_eq_true, decide_eq_true_eq] at hrange
    rw [hsigned, ← hcode, Int32.toInt_ofInt_of_le hrange.1 (by omega)]
  · intro hsigned
    have hlow := code.le_toInt
    have hhigh := code.toInt_lt
    have hrange : ((-2147483648 : ℤ) ≤ code.toInt && code.toInt ≤ 2147483647) = true := by
      simp only [Bool.and_eq_true, decide_eq_true_eq]
      omega
    rw [hsigned, Option.filter_some, if_pos hrange, Option.map_some, Int32.ofInt_toInt]

/-! ## Texts -/

/-- Only the bytes of a text within ASCII spell a number. -/
theorem Spells.toNat_lt {text : String} {number : ℤ}
    (hspells : Spells (Bytes.ofString text) number) :
    ∀ character ∈ text.toList, character.toNat < 128 := by
  intro character hmem
  by_contra hbeyond
  obtain ⟨byte, hbyte⟩ :=
    List.exists_mem_of_ne_nil _ (String.utf8EncodeChar_ne_nil (c := character))
  have hlarge := le_of_mem_utf8EncodeChar (Nat.not_lt.mp hbeyond) hbyte
  have hsmall := hspells.mem_bounds (List.mem_flatMap.mpr ⟨character, hmem, hbyte⟩)
  omega

theorem signed?_toList {text : String} {number : ℤ} :
    signed? text.toList = some number ↔ Spells (Bytes.ofString text) number := by
  have hdecode : (∀ character ∈ text.toList, character.toNat < 128) →
      decode (Bytes.ofString text) = text.toList := by
    intro hascii
    have hread := decode_ofString hascii
    rwa [String.ofList_toList] at hread
  constructor
  · intro hread
    have hascii : ∀ character ∈ text.toList, character.toNat < 128 :=
      fun character hmem => (forall_bounds_of_signed? hread character hmem).2
    rw [← hdecode hascii] at hread
    exact signed?_decode.mp hread
  · intro hspells
    rw [← hdecode hspells.toNat_lt]
    exact signed?_decode.mpr hspells

theorem signed?_of_notMem {text : List Char} (hminus : '-' ∉ text) :
    signed? text = (unsigned? text).map fun magnitude : ℕ => (magnitude : ℤ) := by
  unfold signed?
  split
  · exact absurd List.mem_cons_self hminus
  · cases unsigned? text <;> rfl

theorem minus_notMem_of_unsigned? {text : List Char} {number : ℕ}
    (hread : unsigned? text = some number) : '-' ∉ text := by
  have hnatural : ∀ {digits : List Char}, natural? digits = some number → '-' ∉ digits := by
    intro digits hdigits hmem
    unfold natural? at hdigits
    split at hdigits
    · next hrow => exact absurd (List.all_eq_true.mp hrow.2 '-' hmem) (by decide)
    · cases hdigits
  unfold unsigned? at hread
  split at hread
  · simpa using hnatural hread
  · exact hnatural hread

/-- Where no minus sign is meant, none may stand. -/
theorem unsigned?_toList {text : String} {number : ℕ} :
    unsigned? text.toList = some number ↔
      Spells (Bytes.ofString text) number ∧ '-' ∉ text.toList := by
  rw [← signed?_toList]
  constructor
  · intro hread
    have hminus := minus_notMem_of_unsigned? hread
    rw [signed?_of_notMem hminus, hread]
    exact ⟨rfl, hminus⟩
  · rintro ⟨hread, hminus⟩
    rw [signed?_of_notMem hminus] at hread
    obtain ⟨magnitude, hmagnitude, hnumber⟩ := Option.map_eq_some_iff.mp hread
    rw [hmagnitude, Int.ofNat_inj.mp hnumber]

end Numeral

end DatagramShell
