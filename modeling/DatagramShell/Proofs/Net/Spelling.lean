import DatagramShell.Net.Address
import DatagramShell.Proofs.Text.Decimal
import Mathlib.Data.List.TakeWhile
import Mathlib.Tactic

/-!
# Which texts are addresses

An IPv4 address is written in one way only.  An IPv6 address is a row of eight groups, or two
shorter rows with a double colon between them, and a row may end in an IPv4 address.  Reading a
group takes as many digits as there are, so a reader finds out what a text spells without ever going
back, and it accepts the texts of this grammar and no others.
-/

namespace DatagramShell

/-! ## Digits -/

/-- The digits end in front of this text. -/
def Stops (isDigit : Char → Bool) (rest : List Char) : Prop :=
  ∀ character ∈ rest.head?, isDigit character = false

theorem takeDigits_eq_iff {isDigit : Char → Bool} {text digits rest : List Char} :
    takeDigits isDigit text = (digits, rest) ↔
      text = digits ++ rest ∧ (∀ digit ∈ digits, isDigit digit = true) ∧ Stops isDigit rest := by
  rw [takeDigits, Prod.mk.injEq]
  constructor
  · rintro ⟨rfl, rfl⟩
    refine ⟨List.takeWhile_append_dropWhile.symm, fun digit => List.mem_takeWhile_imp, ?_⟩
    intro character hmem
    have hhead := List.head?_dropWhile_not isDigit text
    rw [Option.mem_def.mp hmem] at hhead
    simpa using hhead
  · rintro ⟨rfl, hdigits, hstops⟩
    rw [List.takeWhile_append_of_pos hdigits, List.dropWhile_append_of_pos hdigits]
    cases rest with
    | nil => simp
    | cons character rest =>
        have hother : ¬ isDigit character = true := by
          rw [hstops character rfl]
          exact Bool.false_ne_true
        rw [List.takeWhile_cons_of_neg hother, List.dropWhile_cons_of_neg hother, List.append_nil]
        exact ⟨rfl, rfl⟩

theorem takeMark_eq_some_iff {mark : Char} {text rest : List Char} :
    takeMark mark text = some rest ↔ text = mark :: rest := by
  cases text with
  | nil => simp [takeMark]
  | cons character text =>
      by_cases hmark : character = mark <;> simp [takeMark, hmark]

theorem atEnd_eq_some_iff {α : Type} {found : Option (α × List Char)} {value : α} :
    atEnd found = some value ↔ found = some (value, []) := by
  unfold atEnd
  split <;> simp_all

namespace Numeral

theorem digitChar_digitValue {digit : Char} (hdigit : isDigit digit = true) :
    digitValue digit < 10 ∧ (digitValue digit).digitChar = digit := by
  have hbounds := isDigit_bounds hdigit
  have hvalue : digitValue digit = digit.toNat - 48 := rfl
  refine ⟨by omega, ?_⟩
  rw [← Char.toNat_inj, hvalue]
  generalize digit.toNat = code at *
  obtain ⟨hlow, hhigh⟩ := hbounds
  interval_cases code <;> decide

theorem head?_ofNat {number : ℕ} (hpos : 0 < number) : (ofNat number).head? ≠ some '0' := by
  induction number using Nat.strongRecOn with
  | ind number ih =>
      unfold ofNat at ih ⊢
      by_cases hsmall : number < 10
      · rw [Nat.toDigits_of_lt_base hsmall]
        interval_cases number <;> decide
      · rw [Nat.toDigits_of_base_le (by decide) (Nat.le_of_not_lt hsmall),
          List.head?_append_of_ne_nil _ Nat.toDigits_ne_nil]
        exact ih (number / 10) (by omega) (by omega)

/-- Digits behind the spelling of a number carry it on. -/
theorem toDigits_append_eq {digits : List Char} (hdigits : ∀ digit ∈ digits, isDigit digit = true)
    {total : ℕ} (hpos : 0 < total) :
    Nat.toDigits 10 total ++ digits =
      Nat.toDigits 10 (digits.foldl (fun total digit => total * 10 + digitValue digit) total) := by
  induction digits generalizing total with
  | nil => exact List.append_nil _
  | cons digit digits ih =>
      obtain ⟨hsmall, hcharacter⟩ := digitChar_digitValue (hdigits digit List.mem_cons_self)
      have hone : Nat.toDigits 10 total ++ [digit] =
          Nat.toDigits 10 (total * 10 + digitValue digit) := by
        have happend := Nat.toDigits_append_toDigits (b := 10) (by decide) hpos hsmall
        rwa [Nat.toDigits_of_lt_base hsmall, hcharacter, Nat.mul_comm] at happend
      calc Nat.toDigits 10 total ++ digit :: digits
          = (Nat.toDigits 10 total ++ [digit]) ++ digits := by simp
        _ = Nat.toDigits 10 (total * 10 + digitValue digit) ++ digits := by rw [hone]
        _ = _ := ih (fun later hmem => hdigits later (List.mem_cons_of_mem _ hmem)) (by omega)

/-- Digits without a needless zero in front are the canonical spelling of their value. -/
theorem ofNat_value {digits : List Char} (hsome : digits ≠ [])
    (hdigits : ∀ digit ∈ digits, isDigit digit = true)
    (hzero : ¬ (1 < digits.length ∧ digits.head? = some '0')) : ofNat (value digits) = digits := by
  obtain ⟨first, later, rfl⟩ := List.exists_cons_of_ne_nil hsome
  obtain ⟨hsmall, hcharacter⟩ := digitChar_digitValue (hdigits first List.mem_cons_self)
  have hvalue : value (first :: later) =
      later.foldl (fun total digit => total * 10 + digitValue digit) (digitValue first) := by
    simp [value]
  have hfirst : Nat.toDigits 10 (digitValue first) = [first] := by
    rw [Nat.toDigits_of_lt_base hsmall, hcharacter]
  rw [ofNat, hvalue]
  by_cases hlone : later = []
  · rw [hlone]
    exact hfirst
  · have hpos : 0 < digitValue first := by
      by_contra hnone
      rw [Nat.eq_zero_of_not_pos hnone] at hcharacter
      exact hzero ⟨by simpa using List.length_pos_iff.mpr hlone, congrArg some hcharacter.symm⟩
    rw [← toDigits_append_eq (fun digit hmem => hdigits digit (List.mem_cons_of_mem _ hmem)) hpos,
      hfirst]
    rfl

end Numeral

/-! ## IPv4 -/

namespace Ipv4

/-- Four decimal numbers with points between them. -/
def spelling (address : Ipv4) : List Char :=
  Nat.toDigits 10 address.first.toNat ++ '.' :: (Nat.toDigits 10 address.second.toNat ++
    '.' :: (Nat.toDigits 10 address.third.toNat ++ '.' :: Nat.toDigits 10 address.fourth.toNat))

theorem readOctet_eq_some_iff {text rest : List Char} {octet : UInt8} :
    readOctet text = some (octet, rest) ↔
      text = Nat.toDigits 10 octet.toNat ++ rest ∧ Stops Numeral.isDigit rest := by
  obtain ⟨digits, behind, htake⟩ : ∃ digits behind,
      takeDigits Numeral.isDigit text = (digits, behind) := ⟨_, _, rfl⟩
  have hfound := takeDigits_eq_iff.mp htake
  simp only [readOctet, htake]
  constructor
  · intro hread
    split at hread
    · cases hread
    · next hlimits =>
        simp only [not_or] at hlimits
        obtain ⟨hsome, _, hzero, hsmall⟩ := hlimits
        obtain ⟨hvalue, rfl⟩ : UInt8.ofNat (Numeral.value digits) = octet ∧ behind = rest := by
          simpa using hread
        have hoctet : octet.toNat = Numeral.value digits := by
          rw [← hvalue, UInt8.toNat_ofNat']
          omega
        rw [hoctet, ← Numeral.ofNat, Numeral.ofNat_value hsome hfound.2.1 hzero]
        exact ⟨hfound.1, hfound.2.2⟩
  · rintro ⟨htext, hstops⟩
    have hlimit := octet.toNat_lt
    have hdigits : takeDigits Numeral.isDigit text = (Numeral.ofNat octet.toNat, rest) :=
      takeDigits_eq_iff.mpr ⟨htext, fun _ hmem => Numeral.isDigit_of_mem_ofNat hmem, hstops⟩
    have hvalue : Numeral.value (Numeral.ofNat octet.toNat) = octet.toNat := by
      rw [Numeral.value_eq_ofDigitChars, Numeral.ofNat, Nat.ofDigitChars_ten_toDigits]
    have hlength : (Numeral.ofNat octet.toNat).length ≤ 3 :=
      (Nat.length_toDigits_le_iff (by decide) (by decide)).mpr (by omega)
    have hzero : ¬ (1 < (Numeral.ofNat octet.toNat).length ∧
        (Numeral.ofNat octet.toNat).head? = some '0') := by
      rintro ⟨hlong, hhead⟩
      by_cases hpos : 0 < octet.toNat
      · exact Numeral.head?_ofNat hpos hhead
      · rw [Nat.eq_zero_of_not_pos hpos] at hlong
        exact absurd hlong (by decide)
    rw [hdigits, Prod.mk.injEq] at htake
    obtain ⟨rfl, rfl⟩ := htake
    rw [if_neg, hvalue, UInt8.ofNat_toNat]
    simp only [not_or, hvalue]
    exact ⟨Nat.toDigits_ne_nil, Nat.not_lt.mpr hlength, hzero, by omega⟩

theorem readNextOctet_eq_some_iff {text rest : List Char} {octet : UInt8} :
    readNextOctet text = some (octet, rest) ↔
      text = '.' :: (Nat.toDigits 10 octet.toNat ++ rest) ∧ Stops Numeral.isDigit rest := by
  rw [readNextOctet, Option.bind_eq_some_iff]
  simp only [takeMark_eq_some_iff, readOctet_eq_some_iff]
  constructor
  · rintro ⟨_, rfl, rfl, hstops⟩
    exact ⟨rfl, hstops⟩
  · rintro ⟨rfl, hstops⟩
    exact ⟨_, rfl, rfl, hstops⟩

theorem stops_of_mark {isDigit : Char → Bool} {mark : Char} (hmark : isDigit mark = false)
    (rest : List Char) : Stops isDigit (mark :: rest) := by
  intro character hmem
  cases hmem
  exact hmark

theorem read_eq_some_iff {text rest : List Char} {address : Ipv4} :
    read text = some (address, rest) ↔
      text = address.spelling ++ rest ∧ Stops Numeral.isDigit rest := by
  have hpoint : ∀ behind, Stops Numeral.isDigit ('.' :: behind) := stops_of_mark rfl
  simp only [read, bind, Option.bind_eq_some_iff, Prod.exists, pure, Option.some.injEq,
    Prod.mk.injEq, readOctet_eq_some_iff, readNextOctet_eq_some_iff]
  constructor
  · rintro ⟨first, _, ⟨rfl, _⟩, second, _, ⟨rfl, _⟩, third, _, ⟨rfl, _⟩, fourth, _, ⟨rfl, hstops⟩,
      rfl, rfl⟩
    exact ⟨by simp [spelling], hstops⟩
  · rintro ⟨rfl, hstops⟩
    refine ⟨address.first, _, ⟨?_, hpoint _⟩, address.second, _, ⟨rfl, hpoint _⟩, address.third, _,
      ⟨rfl, hpoint _⟩, address.fourth, _, ⟨rfl, hstops⟩, rfl, rfl⟩
    simp [spelling]

end Ipv4

/-! ## IPv6 -/

namespace Ipv6

/-- A hexadecimal digit, small or capital, and what it counts. -/
def HexDigit (digit : Char) (count : ℕ) : Prop :=
  "0123456789abcdef".toList[count]? = some digit ∨ "0123456789ABCDEF".toList[count]? = some digit

/-- One to four hexadecimal digits, the most significant one first. -/
structure SpellsGroup (text : List Char) (group : UInt16) : Prop where
  pos : 0 < text.length
  length_le : text.length ≤ 4
  value : ∃ counts, List.Forall₂ HexDigit text counts ∧
    group.toNat = Nat.ofDigits 16 counts.reverse

/-- Groups with colons between them.  An IPv4 address at the end stands for two groups. -/
inductive Row : (endsInIpv4 : Bool) → List Char → List UInt16 → Prop
  | last {text : List Char} {group : UInt16} (hgroup : SpellsGroup text group) :
      Row false text [group]
  | ipv4 (address : Ipv4) {high low : UInt16}
      (hhigh : high.toNat = address.first.toNat * 256 + address.second.toNat)
      (hlow : low.toNat = address.third.toNat * 256 + address.fourth.toNat) :
      Row true address.spelling [high, low]
  | next {text rest : List Char} {group : UInt16} {groups : List UInt16} {endsInIpv4 : Bool}
      (hgroup : SpellsGroup text group) (hrow : Row endsInIpv4 rest groups) :
      Row endsInIpv4 (text ++ ':' :: rest) (group :: groups)

/-- A row, or nothing at all. -/
def SpellsRow (endsInIpv4 : Bool) (text : List Char) (groups : List UInt16) : Prop :=
  text = [] ∧ groups = [] ∧ endsInIpv4 = false ∨ Row endsInIpv4 text groups

/-- All eight groups, or a double colon for at least one group of zeros. -/
inductive Spells : List Char → List UInt16 → Prop
  | full {text : List Char} {groups : List UInt16} {endsInIpv4 : Bool}
      (hrow : Row endsInIpv4 text groups) (hlength : groups.length = 8) : Spells text groups
  | short {frontText backText : List Char} {front back : List UInt16} {endsInIpv4 : Bool}
      (hfront : SpellsRow false frontText front) (hback : SpellsRow endsInIpv4 backText back)
      (hlength : front.length + back.length ≤ 7) :
      Spells (frontText ++ ':' :: ':' :: backText)
        (front ++ List.replicate (8 - front.length - back.length) 0 ++ back)

theorem HexDigit.lt {digit : Char} {count : ℕ} (hdigit : HexDigit digit count) : count < 16 := by
  rcases hdigit with hsmall | hcapital
  · exact (List.getElem?_eq_some_iff.mp hsmall).1
  · exact (List.getElem?_eq_some_iff.mp hcapital).1

theorem hexDigit_iff {digit : Char} {count : ℕ} :
    HexDigit digit count ↔ isHexDigit digit = true ∧ hexValue digit = count := by
  constructor
  · intro hdigit
    have hbound := hdigit.lt
    unfold HexDigit at hdigit
    interval_cases count
    all_goals
      rcases hdigit with hsmall | hcapital
      · cases hsmall
        decide
      · cases hcapital
        decide
  · rintro ⟨hdigit, rfl⟩
    have hranges : 48 ≤ digit.toNat ∧ digit.toNat ≤ 57 ∨ 97 ≤ digit.toNat ∧ digit.toNat ≤ 102 ∨
        65 ≤ digit.toNat ∧ digit.toNat ≤ 70 := by
      simp only [isHexDigit, Numeral.isDigit, Bool.or_eq_true, Bool.and_eq_true,
        decide_eq_true_eq, Char.le_def, UInt32.le_iff_toNat_le] at hdigit
      exact or_assoc.mp hdigit
    obtain ⟨code, hcode⟩ : ∃ code, digit.toNat = code := ⟨_, rfl⟩
    have hcharacter : digit = Char.ofNat code := by
      rw [← hcode, Char.ofNat_toNat]
    rw [hcode] at hranges
    rcases hranges with ⟨hlow, hhigh⟩ | ⟨hlow, hhigh⟩ | ⟨hlow, hhigh⟩
    all_goals
      clear hcode
      subst hcharacter
      interval_cases code
    all_goals first | exact .inl rfl | exact .inr rfl

theorem forall₂_hexDigit_iff {text : List Char} {counts : List ℕ} :
    List.Forall₂ HexDigit text counts ↔
      (∀ digit ∈ text, isHexDigit digit = true) ∧ text.map hexValue = counts := by
  induction text generalizing counts with
  | nil =>
      rw [List.forall₂_nil_left_iff, List.map_nil]
      exact ⟨fun hnil => ⟨List.forall_mem_nil _, hnil.symm⟩, fun hnil => hnil.2.symm⟩
  | cons digit text ih =>
      cases counts with
      | nil => simp
      | cons count counts =>
          rw [List.forall₂_cons, ih, hexDigit_iff, List.forall_mem_cons, List.map_cons,
            List.cons_eq_cons]
          tauto

/-- Reading digit by digit, the most significant one first, is the usual value. -/
theorem foldl_hexValue_eq (digits : List Char) :
    digits.foldl (fun total digit => total * 16 + hexValue digit) 0 =
      Nat.ofDigits 16 (digits.map hexValue).reverse := by
  induction digits using List.reverseRecOn with
  | nil => rfl
  | append_singleton digits digit ih =>
      rw [List.foldl_append, ih, List.map_append, List.reverse_append]
      simp only [List.foldl_cons, List.foldl_nil, List.map_cons, List.map_nil,
        List.reverse_singleton, List.singleton_append, Nat.ofDigits_cons]
      ring

theorem ofDigits_hexValue_lt {digits : List Char}
    (hdigits : ∀ digit ∈ digits, isHexDigit digit = true) (hlength : digits.length ≤ 4) :
    Nat.ofDigits 16 (digits.map hexValue).reverse < 65536 := by
  have hcounts : ∀ count ∈ (digits.map hexValue).reverse, count < 16 := by
    intro count hmem
    rcases List.mem_map.mp (List.mem_reverse.mp hmem) with ⟨digit, hdigit, rfl⟩
    exact (hexDigit_iff.mpr ⟨hdigits digit hdigit, rfl⟩).lt
  calc Nat.ofDigits 16 (digits.map hexValue).reverse
      < 16 ^ (digits.map hexValue).reverse.length :=
        Nat.ofDigits_lt_base_pow_length (by decide) hcounts
    _ ≤ 16 ^ 4 := Nat.pow_le_pow_right (by decide) (by simpa using hlength)

theorem readGroup_eq_some_iff {text rest : List Char} {group : UInt16} :
    readGroup text = some (group, rest) ↔
      ∃ digits, text = digits ++ rest ∧ SpellsGroup digits group ∧ Stops isHexDigit rest := by
  obtain ⟨digits, behind, htake⟩ : ∃ digits behind,
      takeDigits isHexDigit text = (digits, behind) := ⟨_, _, rfl⟩
  obtain ⟨htext, hdigits, hstops⟩ := takeDigits_eq_iff.mp htake
  simp only [readGroup, htake, foldl_hexValue_eq]
  constructor
  · intro hread
    split at hread
    · cases hread
    · next hlimits =>
        simp only [not_or, Nat.not_lt] at hlimits
        obtain ⟨hvalue, rfl⟩ := Prod.mk.inj (Option.some.inj hread)
        refine ⟨digits, htext, ⟨List.length_pos_iff.mpr hlimits.1, hlimits.2, ?_⟩, hstops⟩
        refine ⟨_, forall₂_hexDigit_iff.mpr ⟨hdigits, rfl⟩, ?_⟩
        rw [← hvalue, UInt16.toNat_ofNat', Nat.mod_eq_of_lt]
        exact ofDigits_hexValue_lt hdigits hlimits.2
  · rintro ⟨others, hother, ⟨hpos, hlength, counts, hcounts, hvalue⟩, hends⟩
    obtain ⟨hhex, rfl⟩ := forall₂_hexDigit_iff.mp hcounts
    rw [takeDigits_eq_iff.mpr ⟨hother, hhex, hends⟩, Prod.mk.injEq] at htake
    obtain ⟨rfl, rfl⟩ := htake
    rw [if_neg, ← hvalue, UInt16.ofNat_toNat]
    simp only [not_or, Nat.not_lt]
    exact ⟨List.length_pos_iff.mp hpos, hlength⟩

theorem readGroup_eq_none {text : List Char} (hstops : Stops isHexDigit text) :
    readGroup text = none := by
  rw [readGroup, takeDigits_eq_iff.mpr ⟨(List.nil_append text).symm, by simp, hstops⟩]
  simp

/-- No IPv4 address stands where hexadecimal digits end without a point behind them. -/
theorem ipv4Read_eq_none {digits rest : List Char}
    (hdigits : ∀ digit ∈ digits, isHexDigit digit = true) (hstops : Stops isHexDigit rest)
    (hpoint : rest.head? ≠ some '.') : Ipv4.read (digits ++ rest) = none := by
  cases hread : Ipv4.read (digits ++ rest) with
  | none => rfl
  | some found =>
      obtain ⟨address, behind⟩ := found
      obtain ⟨htext, _⟩ := Ipv4.read_eq_some_iff.mp hread
      -- The text starts with the digits of the first octet, which a point ends.
      have hoctet : ∀ digit ∈ Nat.toDigits 10 address.first.toNat, isHexDigit digit = true := by
        intro digit hmem
        rw [isHexDigit, Numeral.isDigit_of_mem_ofNat hmem]
        rfl
      have hthere := takeDigits_eq_iff.mpr ⟨rfl, hdigits, hstops⟩
      rw [htext, Ipv4.spelling, List.append_assoc, List.cons_append] at hthere
      have hmark : isHexDigit '.' = false := rfl
      rw [takeDigits_eq_iff.mpr ⟨rfl, hoctet, Ipv4.stops_of_mark hmark _⟩, Prod.mk.injEq] at hthere
      rw [← hthere.2] at hpoint
      exact absurd rfl hpoint

theorem SpellsGroup.isHexDigit {text : List Char} {group : UInt16}
    (hgroup : SpellsGroup text group) : ∀ digit ∈ text, isHexDigit digit = true := by
  obtain ⟨counts, hcounts, _⟩ := hgroup.value
  exact (forall₂_hexDigit_iff.mp hcounts).1

theorem toNat_joined (high low : UInt8) :
    (high.toUInt16 * 256 + low.toUInt16).toNat = high.toNat * 256 + low.toNat := by
  have hhigh := high.toNat_lt
  have hlow := low.toNat_lt
  simp only [UInt16.toNat_add, UInt16.toNat_mul, UInt8.toNat_toUInt16, UInt16.toNat_ofNat]
  omega

theorem row_spelling (address : Ipv4) : Row true address.spelling (groupsOfIpv4 address) :=
  .ipv4 address (toNat_joined _ _) (toNat_joined _ _)

theorem groupsOfIpv4_eq {address : Ipv4} {high low : UInt16}
    (hhigh : high.toNat = address.first.toNat * 256 + address.second.toNat)
    (hlow : low.toNat = address.third.toNat * 256 + address.fourth.toNat) :
    groupsOfIpv4 address = [high, low] := by
  rw [← toNat_joined, UInt16.toNat_inj] at hhigh hlow
  rw [groupsOfIpv4, hhigh, hlow]

/-- A text with the colon in front that parts it from an earlier group. -/
def behindGroup (isFirst : Bool) (text : List Char) : List Char :=
  if isFirst then text else ':' :: text

theorem enter_eq_some_iff {isFirst : Bool} {text body : List Char} :
    (if isFirst then some text else takeMark ':' text) = some body ↔
      text = behindGroup isFirst body := by
  cases isFirst with
  | true => simp [behindGroup]
  | false => simp [behindGroup, takeMark_eq_some_iff]

theorem readGroups_of_ipv4 {room : ℕ} (hroom : 0 < room) {body rest : List Char} {address : Ipv4}
    (hread : Ipv4.read body = some (address, rest)) (isFirst : Bool) :
    readGroups (room + 1) isFirst (behindGroup isFirst body) =
      (groupsOfIpv4 address, true, rest) := by
  have henter : (if isFirst then some (behindGroup isFirst body)
      else takeMark ':' (behindGroup isFirst body)) = some body := enter_eq_some_iff.mpr rfl
  simp only [readGroups, henter, if_pos hroom, hread]

theorem readGroups_of_group {room : ℕ} {body behind rest : List Char} {group : UInt16}
    {groups : List UInt16} {endsInIpv4 : Bool} (hipv4 : Ipv4.read body = none)
    (hread : readGroup body = some (group, behind))
    (hlater : readGroups room false behind = (groups, endsInIpv4, rest)) (isFirst : Bool) :
    readGroups (room + 1) isFirst (behindGroup isFirst body) =
      (group :: groups, endsInIpv4, rest) := by
  have henter : (if isFirst then some (behindGroup isFirst body)
      else takeMark ':' (behindGroup isFirst body)) = some body := enter_eq_some_iff.mpr rfl
  simp only [readGroups, henter, hipv4, ite_self, hread, hlater]

/-- Where there is room the reader stops, or takes an IPv4 address at the end, or takes one group
and goes on behind it. -/
theorem readGroups_cases {room : ℕ} {isFirst endsInIpv4 : Bool} {text rest : List Char}
    {groups : List UInt16}
    (hread : readGroups (room + 1) isFirst text = (groups, endsInIpv4, rest)) :
    (groups = [] ∧ endsInIpv4 = false ∧ rest = text) ∨
      ∃ body, text = behindGroup isFirst body ∧
        ((∃ address, 0 < room ∧ Ipv4.read body = some (address, rest) ∧
            groups = groupsOfIpv4 address ∧ endsInIpv4 = true) ∨
          ∃ group behind later, readGroup body = some (group, behind) ∧
            readGroups room false behind = (later, endsInIpv4, rest) ∧
            groups = group :: later) := by
  rw [readGroups] at hread
  split at hread
  · cases hread
    exact .inl ⟨rfl, rfl, rfl⟩
  · next body hbody =>
      rw [enter_eq_some_iff] at hbody
      split at hread
      · next address behind hipv4 =>
          cases hread
          split at hipv4
          · next hroom => exact .inr ⟨body, hbody, .inl ⟨address, hroom, hipv4, rfl, rfl⟩⟩
          · cases hipv4
      · split at hread
        · cases hread
          exact .inl ⟨rfl, rfl, rfl⟩
        · next group behind hgroup =>
            obtain ⟨later, ends, behindAll, hlater⟩ : ∃ later ends behindAll,
                readGroups room false behind = (later, ends, behindAll) := ⟨_, _, _, rfl⟩
            rw [hlater] at hread
            cases hread
            exact .inr ⟨body, hbody, .inr ⟨group, behind, later, hgroup, hlater, rfl⟩⟩

/-- The groups that are read are a row, and what is not read of the text is left as it is. -/
theorem row_of_readGroups {room : ℕ} {isFirst endsInIpv4 : Bool} {text rest : List Char}
    {groups : List UInt16} (hread : readGroups room isFirst text = (groups, endsInIpv4, rest)) :
    groups.length ≤ room ∧
      (groups = [] ∧ endsInIpv4 = false ∧ rest = text ∨
        ∃ consumed, Row endsInIpv4 consumed groups ∧
          text = behindGroup isFirst (consumed ++ rest)) := by
  induction room generalizing isFirst text groups with
  | zero =>
      cases hread
      exact ⟨le_rfl, .inl ⟨rfl, rfl, rfl⟩⟩
  | succ room ih =>
      rcases readGroups_cases hread with ⟨rfl, rfl, rfl⟩ | ⟨body, rfl, hbody⟩
      · exact ⟨Nat.zero_le _, .inl ⟨rfl, rfl, rfl⟩⟩
      rcases hbody with ⟨address, hroom, hipv4, rfl, rfl⟩ | hgroup
      · obtain ⟨rfl, _⟩ := Ipv4.read_eq_some_iff.mp hipv4
        exact ⟨Nat.succ_le_succ hroom, .inr ⟨_, row_spelling address, rfl⟩⟩
      obtain ⟨group, behind, later, hgroup, hlater, rfl⟩ := hgroup
      obtain ⟨digits, rfl, hspells, _⟩ := readGroup_eq_some_iff.mp hgroup
      -- A group behind which the reader stops is the last one of the row.
      obtain ⟨hlength, hnothing | ⟨consumed, hrow, hbehind⟩⟩ := ih hlater
      · obtain ⟨rfl, rfl, rfl⟩ := hnothing
        exact ⟨Nat.succ_le_succ hlength, .inr ⟨_, .last hspells, rfl⟩⟩
      · refine ⟨Nat.succ_le_succ hlength, .inr ⟨_, .next hspells hrow, ?_⟩⟩
        rw [hbehind]
        simp [behindGroup]

/-- A row ends where the text does, or in front of a double colon. -/
inductive EndsRow : List Char → Prop
  | atEnd : EndsRow []
  | atGap (text : List Char) : EndsRow (':' :: ':' :: text)

namespace EndsRow

variable {rest : List Char}

theorem stops (hends : EndsRow rest) {isDigit : Char → Bool} (hmark : isDigit ':' = false) :
    Stops isDigit rest := by
  cases hends with
  | atEnd => exact fun _ hmem => by cases hmem
  | atGap text => exact Ipv4.stops_of_mark hmark _

theorem head?_ne (hends : EndsRow rest) : rest.head? ≠ some '.' := by
  cases hends <;> simp

theorem readGroups_eq (hends : EndsRow rest) (room : ℕ) :
    readGroups room false rest = ([], false, rest) := by
  cases room with
  | zero => rfl
  | succ room =>
      cases hends with
      | atEnd => rfl
      | atGap text =>
          have hstops : Stops isHexDigit (':' :: text) := Ipv4.stops_of_mark rfl text
          have hipv4 : Ipv4.read (':' :: text) = none :=
            ipv4Read_eq_none (List.forall_mem_nil _) hstops (by simp)
          simp [readGroups, takeMark, hipv4, readGroup_eq_none hstops]

theorem readGroups_true_eq (hends : EndsRow rest) (room : ℕ) :
    readGroups room true rest = ([], false, rest) := by
  have hstops : Stops isHexDigit rest := hends.stops rfl
  have hipv4 : Ipv4.read rest = none :=
    ipv4Read_eq_none (List.forall_mem_nil _) hstops hends.head?_ne
  cases room <;> simp [readGroups, hipv4, readGroup_eq_none hstops]

end EndsRow

/-- A row is read to its end. -/
theorem Row.readGroups_eq {endsInIpv4 : Bool} {text rest : List Char} {groups : List UInt16}
    (hrow : Row endsInIpv4 text groups) (hends : EndsRow rest) {room : ℕ}
    (hroom : groups.length ≤ room) (isFirst : Bool) :
    readGroups room isFirst (behindGroup isFirst (text ++ rest)) =
      (groups, endsInIpv4, rest) := by
  induction hrow generalizing room isFirst with
  | @last text group hgroup =>
      obtain ⟨room, rfl⟩ := Nat.exists_eq_add_of_le' hroom
      have hstops : Stops isHexDigit rest := hends.stops rfl
      have hread : readGroup (text ++ rest) = some (group, rest) :=
        readGroup_eq_some_iff.mpr ⟨text, rfl, hgroup, hstops⟩
      have hipv4 := ipv4Read_eq_none hgroup.isHexDigit hstops hends.head?_ne
      exact readGroups_of_group hipv4 hread (hends.readGroups_eq room) isFirst
  | ipv4 address hhigh hlow =>
      obtain ⟨room, rfl⟩ : ∃ later, room = later + 1 + 1 := Nat.exists_eq_add_of_le' hroom
      have hread : Ipv4.read (address.spelling ++ rest) = some (address, rest) :=
        Ipv4.read_eq_some_iff.mpr ⟨rfl, hends.stops rfl⟩
      rw [← groupsOfIpv4_eq hhigh hlow]
      exact readGroups_of_ipv4 (Nat.succ_pos room) hread isFirst
  | @next text behind group groups _ hgroup _ ih =>
      obtain ⟨room, rfl⟩ : ∃ later, room = later + groups.length + 1 :=
        Nat.exists_eq_add_of_le' hroom
      have hstops : Stops isHexDigit (':' :: (behind ++ rest)) := Ipv4.stops_of_mark rfl _
      have hread : readGroup (text ++ ':' :: (behind ++ rest)) =
          some (group, behindGroup false (behind ++ rest)) :=
        readGroup_eq_some_iff.mpr ⟨text, rfl, hgroup, hstops⟩
      have hipv4 := ipv4Read_eq_none hgroup.isHexDigit hstops (by simp)
      rw [List.append_assoc, List.cons_append]
      exact readGroups_of_group hipv4 hread (ih (Nat.le_add_left _ room) false) isFirst

theorem SpellsRow.readGroups_eq {endsInIpv4 : Bool} {text rest : List Char} {groups : List UInt16}
    (hspells : SpellsRow endsInIpv4 text groups) (hends : EndsRow rest) {room : ℕ}
    (hroom : groups.length ≤ room) :
    readGroups room true (text ++ rest) = (groups, endsInIpv4, rest) := by
  rcases hspells with ⟨rfl, rfl, rfl⟩ | hrow
  · exact hends.readGroups_true_eq room
  · exact hrow.readGroups_eq hends hroom true

theorem spellsRow_of_readGroups {room : ℕ} {endsInIpv4 : Bool} {text rest : List Char}
    {groups : List UInt16} (hread : readGroups room true text = (groups, endsInIpv4, rest)) :
    groups.length ≤ room ∧
      ∃ consumed, SpellsRow endsInIpv4 consumed groups ∧ text = consumed ++ rest := by
  obtain ⟨hlength, ⟨rfl, rfl, rfl⟩ | ⟨consumed, hrow, htext⟩⟩ := row_of_readGroups hread
  · exact ⟨hlength, [], .inl ⟨rfl, rfl, rfl⟩, rfl⟩
  · exact ⟨hlength, consumed, .inr hrow, htext⟩

theorem ofGroups?_eq_some_iff {groups : List UInt16} {address : Ipv6} :
    ofGroups? groups = some address ↔ address.groups = groups := by
  unfold ofGroups?
  split
  · next hlength =>
      rw [Option.some.injEq]
      constructor
      · rintro rfl
        rfl
      · rintro rfl
        rfl
  · next hlength =>
      refine iff_of_false (by simp) ?_
      rintro rfl
      exact hlength address.length_groups

theorem spells_of_read {text : List Char} {address : Ipv6}
    (hread : read text = some (address, [])) : Spells text address.groups := by
  obtain ⟨front, endsInIpv4, rest, hfront⟩ : ∃ front endsInIpv4 rest,
      readGroups 8 true text = (front, endsInIpv4, rest) := ⟨_, _, _, rfl⟩
  obtain ⟨hroom, frontText, hspells, rfl⟩ := spellsRow_of_readGroups hfront
  simp only [read, hfront] at hread
  split at hread
  · next hlength =>
      obtain ⟨_, hgroups, hfound⟩ := Option.map_eq_some_iff.mp hread
      obtain ⟨rfl, rfl⟩ := Prod.mk.inj hfound
      rw [ofGroups?_eq_some_iff.mp hgroups, List.append_nil]
      rcases hspells with ⟨_, rfl, _⟩ | hrow
      · cases hlength
      · exact .full hrow hlength
  · next hlength =>
      split at hread
      -- Nothing may follow an IPv4 address, not even a double colon.
      · cases hread
      · next hends =>
          simp only [bind, Option.bind_eq_some_iff, takeMark_eq_some_iff] at hread
          obtain ⟨_, rfl, behind, rfl, hread⟩ := hread
          obtain ⟨back, backEnds, rest, hback⟩ : ∃ back backEnds rest,
              readGroups (7 - front.length) true behind = (back, backEnds, rest) := ⟨_, _, _, rfl⟩
          simp only [hback, pure, Option.some.injEq] at hread
          obtain ⟨_, hgroups, hfound⟩ := hread
          obtain ⟨rfl, rfl⟩ := Prod.mk.inj hfound
          obtain ⟨hbackRoom, backText, hbackSpells, rfl⟩ := spellsRow_of_readGroups hback
          rw [ofGroups?_eq_some_iff.mp hgroups, List.append_nil]
          rw [Bool.not_eq_true] at hends
          rw [hends] at hspells
          exact .short hspells hbackSpells (by omega)

theorem Spells.read_eq {text : List Char} {address : Ipv6} (hspells : Spells text address.groups) :
    read text = some (address, []) := by
  have hgroups : ofGroups? address.groups = some address := ofGroups?_eq_some_iff.mpr rfl
  generalize hall : address.groups = groups at hspells hgroups
  cases hspells with
  | full hrow hlength =>
      have hread := hrow.readGroups_eq .atEnd hlength.le true
      rw [List.append_nil] at hread
      change readGroups 8 true text = _ at hread
      simp only [read, hread, hlength, if_true, hgroups, Option.map_some]
  | @short frontText backText front back backEnds hfront hback hlength =>
      have hroom : front.length ≤ 8 := by omega
      have hbackRoom : back.length ≤ 7 - front.length := by omega
      have hreadFront := hfront.readGroups_eq (.atGap backText) hroom
      have hreadBack := hback.readGroups_eq .atEnd hbackRoom
      have hother : front.length ≠ 8 := by omega
      rw [List.append_nil] at hreadBack
      simp only [read, hreadFront, hother, if_false, Bool.false_eq_true, takeMark, if_true, bind,
        Option.bind_some, hreadBack, hgroups, pure]

/-- A text that spells an IPv6 address is not also read as an IPv4 address and more behind it. -/
theorem Spells.ipv4Read_eq_none {text : List Char} {groups : List UInt16}
    (hspells : Spells text groups) : Ipv4.read text = none := by
  have hcolon : ∀ {digits : List Char}, (∀ digit ∈ digits, isHexDigit digit = true) →
      ∀ rest, Ipv4.read (digits ++ ':' :: rest) = none :=
    fun hdigits rest => Ipv6.ipv4Read_eq_none hdigits (Ipv4.stops_of_mark rfl rest) (by simp)
  cases hspells with
  | full hrow hlength =>
      -- Eight groups do not begin with an IPv4 address, which stands for two and is the last.
      cases hrow with
      | last => cases hlength
      | ipv4 => cases hlength
      | next hgroup => exact hcolon hgroup.isHexDigit _
  | @short _ backText _ _ _ hfront =>
      rcases hfront with ⟨rfl, _⟩ | hrow
      · exact hcolon (List.forall_mem_nil _) _
      · cases hrow with
        | last hgroup => exact hcolon hgroup.isHexDigit _
        | next hgroup =>
            rw [List.append_assoc, List.cons_append]
            exact hcolon hgroup.isHexDigit _

end Ipv6

/-! ## Both families -/

namespace Address

/-- What a text says that is an address. -/
def Spells (text : String) : Address → Prop
  | .v4 address => text.toList = address.spelling
  | .v6 address => Ipv6.Spells text.toList address.groups

/-- Exactly the texts that spell an address are read, as the address that they spell. -/
theorem ofText?_eq_some_iff {text : String} {address : Address} :
    ofText? text = some address ↔ Spells text address := by
  unfold ofText?
  constructor
  · intro hread
    cases hipv4 : Ipv4.read text.toList with
    | some found =>
        obtain ⟨found, rest⟩ := found
        obtain ⟨htext, _⟩ := Ipv4.read_eq_some_iff.mp hipv4
        rw [hipv4] at hread
        obtain ⟨rfl, rfl⟩ := atEnd_eq_some_iff.mp hread
        rw [List.append_nil] at htext
        exact htext
    | none =>
        rw [hipv4] at hread
        obtain ⟨found, hipv6, hfound⟩ := Option.map_eq_some_iff.mp (atEnd_eq_some_iff.mp hread)
        obtain ⟨rfl, hrest⟩ := Prod.mk.inj hfound
        exact Ipv6.spells_of_read (by rw [hipv6, ← hrest])
  · intro hspells
    apply atEnd_eq_some_iff.mpr
    cases address with
    | v4 address =>
        have hread : Ipv4.read text.toList = some (address, []) :=
          Ipv4.read_eq_some_iff.mpr ⟨by rw [List.append_nil]; exact hspells, by simp [Stops]⟩
        rw [hread]
        rfl
    | v6 address =>
        have hspells : Ipv6.Spells text.toList address.groups := hspells
        rw [hspells.ipv4Read_eq_none, hspells.read_eq]
        rfl

end Address

end DatagramShell
