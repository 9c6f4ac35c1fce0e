import DatagramShell.Text.Numeral

/-!
# Addresses

Internet addresses of both families and the end points made of an address and a port.  An IPv4
address is four decimal octets.  An IPv6 address is eight groups of up to four hexadecimal digits;
one row of zero groups may be left out, and the last two groups may be written as an IPv4 address.
Every address has one canonical text.
-/

namespace DatagramShell

structure Ipv4 where
  first : UInt8
  second : UInt8
  third : UInt8
  fourth : UInt8
  deriving DecidableEq, Repr

structure Ipv6 where
  groups : List UInt16
  length_groups : groups.length = 8
  deriving DecidableEq, Repr

inductive Address where
  | v4 (address : Ipv4)
  | v6 (address : Ipv6)
  deriving DecidableEq, Repr

/-- An address and a port; an IPv6 end point may also name the interface that its address belongs
to. -/
structure Endpoint where
  address : Address
  port : UInt16
  scope : UInt32 := 0
  deriving DecidableEq, Repr

def takeMark (mark : Char) : List Char → Option (List Char)
  | [] => none
  | character :: text => if character = mark then some text else none

/-- Takes digits off the front, as many as there are. -/
def takeDigits (isDigit : Char → Bool) (text : List Char) : List Char × List Char :=
  (text.takeWhile isDigit, text.dropWhile isDigit)

def atEnd {α : Type} : Option (α × List Char) → Option α
  | some (found, []) => some found
  | _ => none

namespace Ipv4

/-- An octet has one to three digits and no needless zero in front. -/
def readOctet (text : List Char) : Option (UInt8 × List Char) :=
  let (digits, rest) := takeDigits Numeral.isDigit text
  if digits = [] ∨ 3 < digits.length ∨ (1 < digits.length ∧ digits.head? = some '0') ∨
      255 < Numeral.value digits then none
  else some (UInt8.ofNat (Numeral.value digits), rest)

def readNextOctet (text : List Char) : Option (UInt8 × List Char) :=
  (takeMark '.' text).bind readOctet

def read (text : List Char) : Option (Ipv4 × List Char) := do
  let (first, text) ← readOctet text
  let (second, text) ← readNextOctet text
  let (third, text) ← readNextOctet text
  let (fourth, text) ← readNextOctet text
  return (⟨first, second, third, fourth⟩, text)

def octets (address : Ipv4) : List UInt8 :=
  [address.first, address.second, address.third, address.fourth]

def text (address : Ipv4) : String :=
  ".".intercalate (address.octets.map fun octet => toString octet.toNat)

def isLoopback (address : Ipv4) : Bool :=
  address.first == 127

def isUnspecified (address : Ipv4) : Bool :=
  address.octets.all (· == 0)

end Ipv4

namespace Ipv6

def isHexDigit (character : Char) : Bool :=
  Numeral.isDigit character || ('a' ≤ character && character ≤ 'f') ||
    ('A' ≤ character && character ≤ 'F')

def hexValue (character : Char) : Nat :=
  if Numeral.isDigit character then Numeral.digitValue character
  else if 'a' ≤ character then character.toNat - 'a'.toNat + 10
  else character.toNat - 'A'.toNat + 10

/-- A group has one to four hexadecimal digits. -/
def readGroup (text : List Char) : Option (UInt16 × List Char) :=
  let (digits, rest) := takeDigits isHexDigit text
  if digits = [] ∨ 4 < digits.length then none
  else some (UInt16.ofNat (digits.foldl (fun total digit => total * 16 + hexValue digit) 0), rest)

/-- An IPv4 address at the end of an IPv6 address stands for two groups. -/
def groupsOfIpv4 (address : Ipv4) : List UInt16 :=
  [address.first.toUInt16 * 256 + address.second.toUInt16,
    address.third.toUInt16 * 256 + address.fourth.toUInt16]

/-- Up to `room` groups with colons between them, and whether an IPv4 address was the last; a colon
that no group follows is left in the text. -/
def readGroups : (room : Nat) → (isFirst : Bool) → List Char → List UInt16 × Bool × List Char
  | 0, _, text => ([], false, text)
  | room + 1, isFirst, text =>
    match if isFirst then some text else takeMark ':' text with
    | none => ([], false, text)
    | some body =>
      match if 0 < room then Ipv4.read body else none with
      | some (address, rest) => (groupsOfIpv4 address, true, rest)
      | none =>
        match readGroup body with
        | none => ([], false, text)
        | some (group, rest) =>
          let (groups, endsInIpv4, rest) := readGroups room false rest
          (group :: groups, endsInIpv4, rest)

def ofGroups? (groups : List UInt16) : Option Ipv6 :=
  if length : groups.length = 8 then some ⟨groups, length⟩ else none

/-- Reads all eight groups, or the groups before and behind a double colon that stands for at least
one group of zeros. -/
def read (text : List Char) : Option (Ipv6 × List Char) :=
  let (front, endsInIpv4, rest) := readGroups 8 true text
  if front.length = 8 then (ofGroups? front).map (·, rest)
  else if endsInIpv4 then none
  else do
    let rest ← takeMark ':' rest
    let rest ← takeMark ':' rest
    let (back, _, rest) := readGroups (7 - front.length) true rest
    let address ← ofGroups? (front ++ List.replicate (8 - front.length - back.length) 0 ++ back)
    return (address, rest)

/-- Where the longest row of zero groups starts and how long it is; of two rows of the same length
the first counts. -/
def longestZeros : (start : Nat) → (here best : Nat × Nat) → List UInt16 → Nat × Nat
  | _, _, best, [] => best
  | start, here, best, group :: groups =>
    if group = 0 then
      let here := (if here.2 = 0 then start else here.1, here.2 + 1)
      longestZeros (start + 1) here (if best.2 < here.2 then here else best) groups
    else longestZeros (start + 1) (0, 0) best groups

def groupsText (groups : List UInt16) : String :=
  ":".intercalate (groups.map fun group => String.ofList (Nat.toDigits 16 group.toNat))

/-- The IPv4 address that an IPv6 address of the form `::ffff:a.b.c.d` carries. -/
def mappedIpv4? (address : Ipv6) : Option Ipv4 :=
  match address.groups with
  | [0, 0, 0, 0, 0, 0xffff, high, low] =>
    some ⟨(high / 256).toUInt8, high.toUInt8, (low / 256).toUInt8, low.toUInt8⟩
  | _ => none

def text (address : Ipv6) : String :=
  match address.mappedIpv4? with
  | some mapped => "::ffff:" ++ mapped.text
  | none =>
    let (start, length) := longestZeros 0 (0, 0) (0, 0) address.groups
    if 1 < length then
      groupsText (address.groups.take start) ++ "::" ++
        groupsText (address.groups.drop (start + length))
    else groupsText address.groups

def isUnspecified (address : Ipv6) : Bool :=
  address.groups.all (· == 0)

def isLoopback (address : Ipv6) : Bool :=
  address.groups == [0, 0, 0, 0, 0, 0, 0, 1]

end Ipv6

namespace Address

def ofText? (text : String) : Option Address :=
  atEnd (((Ipv4.read text.toList).map fun (address, rest) => (.v4 address, rest)) <|>
    (Ipv6.read text.toList).map fun (address, rest) => (.v6 address, rest))

def text : Address → String
  | .v4 address => address.text
  | .v6 address => address.text

def isUnspecified : Address → Bool
  | .v4 address => address.isUnspecified
  | .v6 address => address.isUnspecified

def isLoopback : Address → Bool
  | .v4 address => address.isLoopback
  | .v6 address => address.isLoopback

def isIpv4 : Address → Bool
  | .v4 _ => true
  | .v6 _ => false

end Address

namespace Endpoint

def readNumber (high : Nat) (text : List Char) : Option (Nat × List Char) :=
  let (digits, rest) := takeDigits Numeral.isDigit text
  if digits = [] ∨ high < Numeral.value digits then none else some (Numeral.value digits, rest)

def readPort (text : List Char) : Option (UInt16 × List Char) := do
  let text ← takeMark ':' text
  let (port, text) ← readNumber 65535 text
  return (UInt16.ofNat port, text)

def readScope (text : List Char) : UInt32 × List Char :=
  match (takeMark '%' text).bind (readNumber 4294967295) with
  | some (scope, rest) => (UInt32.ofNat scope, rest)
  | none => (0, text)

def readV4 (text : List Char) : Option (Endpoint × List Char) := do
  let (address, text) ← Ipv4.read text
  let (port, text) ← readPort text
  return ({ address := .v4 address, port }, text)

def readV6 (text : List Char) : Option (Endpoint × List Char) := do
  let text ← takeMark '[' text
  let (address, text) ← Ipv6.read text
  let (scope, text) := readScope text
  let text ← takeMark ']' text
  let (port, text) ← readPort text
  return ({ address := .v6 address, port, scope }, text)

def ofText? (text : String) : Option Endpoint :=
  atEnd (readV4 text.toList <|> readV6 text.toList)

def text (endpoint : Endpoint) : String :=
  match endpoint.address with
  | .v4 address => s!"{address.text}:{endpoint.port}"
  | .v6 address =>
    if endpoint.scope = 0 then s!"[{address.text}]:{endpoint.port}"
    else s!"[{address.text}%{endpoint.scope}]:{endpoint.port}"

end Endpoint
end DatagramShell
