import DatagramShell.Bytes

/-!
# Reading bytes as text

Every byte string can be shown as text.  A well formed UTF-8 sequence becomes its character; a
sequence that breaks off or cannot begin becomes one replacement character for each longest part
that a well formed sequence could have started with.
-/

namespace DatagramShell
namespace Utf8

def replacement : Char := '\uFFFD'

/-- What a leading byte announces: how many bytes follow it, the bits that it carries itself and
the range in which the byte after it must lie. -/
structure Lead where
  following : Nat
  bits : Nat
  low : Nat
  high : Nat
  deriving DecidableEq, Repr

/-- The ranges leave out overlong forms, surrogates and everything above U+10FFFF. -/
def lead? (byte : UInt8) : Option Lead :=
  let value := byte.toNat
  if value < 0x80 then some ⟨0, value, 0x80, 0xBF⟩
  else if value < 0xC2 then none
  else if value < 0xE0 then some ⟨1, value - 0xC0, 0x80, 0xBF⟩
  else if value < 0xF0 then
    some ⟨2, value - 0xE0, if value = 0xE0 then 0xA0 else 0x80, if value = 0xED then 0x9F else 0xBF⟩
  else if value < 0xF5 then
    some ⟨3, value - 0xF0, if value = 0xF0 then 0x90 else 0x80, if value = 0xF4 then 0x8F else 0xBF⟩
  else none

/-- Takes `following` continuation bytes and stops before the first one that is out of range. -/
def takeContinuation : (following value low high : Nat) → Bytes → Option Nat × Bytes
  | 0, value, _, _, bytes => (some value, bytes)
  | _ + 1, _, _, _, [] => (none, [])
  | following + 1, value, low, high, byte :: bytes =>
    if low ≤ byte.toNat ∧ byte.toNat ≤ high then
      takeContinuation following (value * 64 + (byte.toNat - 0x80)) 0x80 0xBF bytes
    else (none, byte :: bytes)

theorem length_takeContinuation_le (following value low high : Nat) (bytes : Bytes) :
    (takeContinuation following value low high bytes).2.length ≤ bytes.length := by
  fun_induction takeContinuation <;> simp_all
  omega

/-- The character at the front and the bytes behind it. -/
def takeCharacter (byte : UInt8) (bytes : Bytes) : Char × Bytes :=
  match lead? byte with
  | none => (replacement, bytes)
  | some lead =>
    match takeContinuation lead.following lead.bits lead.low lead.high bytes with
    | (some value, rest) => (Char.ofNat value, rest)
    | (none, rest) => (replacement, rest)

theorem length_takeCharacter_le (byte : UInt8) (bytes : Bytes) :
    (takeCharacter byte bytes).2.length ≤ bytes.length := by
  unfold takeCharacter
  split
  · simp
  · next lead _ =>
    have := length_takeContinuation_le lead.following lead.bits lead.low lead.high bytes
    split <;> simp_all

/-- Characters read so far are kept in reverse. -/
def decodeOnto (reversed : List Char) : Bytes → List Char
  | [] => reversed.reverse
  | byte :: bytes =>
    let taken := takeCharacter byte bytes
    decodeOnto (taken.1 :: reversed) taken.2
termination_by bytes => bytes.length
decreasing_by
  have := length_takeCharacter_le byte bytes
  simp only [List.length_cons]
  omega

def decode (bytes : Bytes) : List Char :=
  decodeOnto [] bytes

end Utf8
end DatagramShell
