/-!
# Byte strings

Datagrams, command lines and captured output are finite lists of bytes.  This module holds the few
searches the wire formats need: the first line of a text, the first place where a marker occurs, and
the two readings of a 32-bit word, most significant byte first.
-/

namespace DatagramShell

abbrev Bytes := List UInt8

namespace Bytes

def lineFeed : UInt8 := 10

/-- Text is written to the wire in UTF-8. -/
def ofString (text : String) : Bytes :=
  text.toList.flatMap String.utf8EncodeChar

/-- The first line and what follows its line feed; a text without a line feed has no first line. -/
def splitLine? (bytes : Bytes) : Option (Bytes × Bytes) :=
  match bytes.dropWhile (· != lineFeed) with
  | [] => none
  | _ :: rest => some (bytes.takeWhile (· != lineFeed), rest)

def findFrom (pattern : Bytes) : Nat → Bytes → Option Nat
  | start, [] => if pattern.isEmpty then some start else none
  | start, bytes@(_ :: rest) =>
    if pattern.isPrefixOf bytes then some start else findFrom pattern (start + 1) rest

def find? (pattern bytes : Bytes) : Option Nat :=
  findFrom pattern 0 bytes

/-- What stands before and after the first occurrence of `pattern`. -/
def splitAt? (pattern bytes : Bytes) : Option (Bytes × Bytes) :=
  (find? pattern bytes).map fun position =>
    (bytes.take position, bytes.drop (position + pattern.length))

def dropPrefix? : Bytes → Bytes → Option Bytes
  | [], bytes => some bytes
  | _ :: _, [] => none
  | expected :: lead, byte :: bytes =>
    if byte = expected then dropPrefix? lead bytes else none

/-- One line feed is taken off the end, if there is one. -/
def dropFinalLineFeed (bytes : Bytes) : Bytes :=
  if bytes.getLast? = some lineFeed then bytes.dropLast else bytes

/-- Keeps what stands before the first zero byte. -/
def untilZero (bytes : Bytes) : Bytes :=
  bytes.takeWhile (· != 0)

/-- The four bytes of a word, most significant first. -/
def ofWord (word : UInt32) : Bytes :=
  [UInt8.ofNat (word.toNat / 16777216), UInt8.ofNat (word.toNat / 65536),
    UInt8.ofNat (word.toNat / 256), UInt8.ofNat word.toNat]

/-- The word written by four bytes, most significant first. -/
def toWord (first second third fourth : UInt8) : UInt32 :=
  UInt32.ofNat (((first.toNat * 256 + second.toNat) * 256 + third.toNat) * 256 + fourth.toNat)

@[simp] theorem length_ofWord (word : UInt32) : (ofWord word).length = 4 := rfl

theorem toNat_toWord (first second third fourth : UInt8) :
    (toWord first second third fourth).toNat =
      ((first.toNat * 256 + second.toNat) * 256 + third.toNat) * 256 + fourth.toNat := by
  have h₁ := first.toNat_lt
  have h₂ := second.toNat_lt
  have h₃ := third.toNat_lt
  have h₄ := fourth.toNat_lt
  simp only [toWord, UInt32.toNat_ofNat']
  omega

theorem toWord_ofWord (word : UInt32) :
    toWord (UInt8.ofNat (word.toNat / 16777216)) (UInt8.ofNat (word.toNat / 65536))
      (UInt8.ofNat (word.toNat / 256)) (UInt8.ofNat word.toNat) = word := by
  apply UInt32.toNat_inj.mp
  have h := word.toNat_lt
  rw [toNat_toWord]
  simp only [UInt8.toNat_ofNat']
  omega

theorem ofWord_toWord (first second third fourth : UInt8) :
    ofWord (toWord first second third fourth) = [first, second, third, fourth] := by
  have h₁ := first.toNat_lt
  have h₂ := second.toNat_lt
  have h₃ := third.toNat_lt
  have h₄ := fourth.toNat_lt
  simp only [ofWord, toNat_toWord, List.cons.injEq, and_true]
  refine ⟨?_, ?_, ?_, ?_⟩ <;> apply UInt8.toNat_inj.mp <;> simp only [UInt8.toNat_ofNat'] <;> omega

end Bytes

end DatagramShell
