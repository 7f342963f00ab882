import Playback.Text.Hexadecimal
import Playback.Text.Numeral

/-!
# Host addresses

An address is written as four decimal numbers between points or as eight hexadecimal groups
between colons.  In the second form two colons stand for a run of zero groups, and the last two
groups may be written as four decimal numbers.  An address is written with its first longest run
of zero groups left out, so it has one written form; it is read in any form.
-/

namespace Playback.Net

structure IPv4 where
  first : UInt8
  second : UInt8
  third : UInt8
  fourth : UInt8
  deriving DecidableEq, Repr

structure IPv6 where
  groups : List UInt16
  length_groups : groups.length = 8 := by rfl
  deriving DecidableEq, Repr

inductive Address
  | v4 (address : IPv4)
  | v6 (address : IPv6)
  deriving DecidableEq, Repr

/-! ## Four octets -/

namespace IPv4

def loopback : IPv4 :=
  ⟨127, 0, 0, 1⟩

def octets (address : IPv4) : List UInt8 :=
  [address.first, address.second, address.third, address.fourth]

def print (address : IPv4) : List Char :=
  ['.'].intercalate (address.octets.map fun octet => Text.numeral octet.toNat)

/-- Reads an octet: one to three digits without a leading zero. -/
def octet? (text : List Char) : Option UInt8 :=
  let value := Text.digitsValue text
  if text.isEmpty || 3 < text.length || !text.all Char.isDigit then
    none
  else if (text.head? = some '0' && 1 < text.length) || 255 < value then
    none
  else
    some (UInt8.ofNat value)

def read? (text : List Char) : Option IPv4 :=
  match (text.splitOn '.').mapM octet? with
  | some [first, second, third, fourth] => some ⟨first, second, third, fourth⟩
  | _ => none

/-- The two groups that an address takes up at the end of a longer one. -/
def groups (address : IPv4) : List UInt16 :=
  [address.first.toUInt16 * 256 + address.second.toUInt16,
    address.third.toUInt16 * 256 + address.fourth.toUInt16]

def ofGroups (high low : UInt16) : IPv4 :=
  ⟨(high / 256).toUInt8, (high % 256).toUInt8, (low / 256).toUInt8, (low % 256).toUInt8⟩

end IPv4

/-! ## Eight groups -/

namespace IPv6

/-- How many zero groups follow each other from a position on. -/
def zerosFrom (groups : List UInt16) (start : Nat) : Nat :=
  ((groups.drop start).takeWhile (· == 0)).length

def longestZeros (groups : List UInt16) : Nat :=
  (List.range groups.length).foldl
    (fun best start => if zerosFrom groups best < zerosFrom groups start then start else best) 0

def printGroups (groups : List UInt16) : List Char :=
  [':'].intercalate (groups.map fun group => Text.hexNumeral group.toNat)

def print (address : IPv6) : List Char :=
  match address.groups with
  | [0, 0, 0, 0, 0, 0xffff, high, low] =>
    "::ffff:".toList ++ (IPv4.ofGroups high low).print
  | groups =>
    let start := longestZeros groups
    let zeros := zerosFrom groups start
    if 1 < zeros then
      printGroups (groups.take start) ++ "::".toList ++ printGroups (groups.drop (start + zeros))
    else
      printGroups groups

def group? (text : List Char) : Option UInt16 :=
  if text.isEmpty || 4 < text.length then
    none
  else
    (Text.hexValue? text).map UInt16.ofNat

/-- The groups of the parts of an address; the last part may be four decimal numbers. -/
def groups? : List (List Char) → Option (List UInt16)
  | [] => some []
  | [part] => (group? part).map ([·]) <|> (IPv4.read? part).map IPv4.groups
  | part :: parts =>
    match group? part, groups? parts with
    | some group, some groups => some (group :: groups)
    | _, _ => none

/-- The parts of a text between colons; there are none in an empty text. -/
def parts (text : List Char) : List (List Char) :=
  if text.isEmpty then [] else text.splitOn ':'

/-- The texts before and after the first two colons in a row. -/
def splitAtGap : List Char → Option (List Char × List Char)
  | ':' :: ':' :: rest => some ([], rest)
  | c :: rest => (splitAtGap rest).map fun (front, back) => (c :: front, back)
  | [] => none

def ofGroups? (groups : List UInt16) : Option IPv6 :=
  if length_groups : groups.length = 8 then some { groups, length_groups } else none

/-- The address with groups at its two ends and at least one zero group between them. -/
def ofEnds? (front back : List UInt16) : Option IPv6 :=
  if front.length + back.length < 8 then
    ofGroups? (front ++ List.replicate (8 - (front.length + back.length)) 0 ++ back)
  else
    none

def read? (text : List Char) : Option IPv6 :=
  match splitAtGap text with
  | none => (groups? (parts text)).bind ofGroups?
  | some (front, back) =>
    match (parts front).mapM group?, groups? (parts back) with
    | some front, some back => ofEnds? front back
    | _, _ => none

end IPv6

/-! ## Both forms -/

namespace Address

def loopback : Address :=
  .v4 .loopback

def print : Address → List Char
  | .v4 address => address.print
  | .v6 address => address.print

def read? (text : List Char) : Option Address :=
  (IPv4.read? text).map .v4 <|> (IPv6.read? text).map .v6

/-- The written form of an address and a port; colons of the address are set in brackets. -/
def printWithPort (address : Address) (port : UInt16) : List Char :=
  let port := ':' :: Text.numeral port.toNat
  match address with
  | .v4 address => address.print ++ port
  | .v6 address => '[' :: address.print ++ [']'] ++ port

end Address

end Playback.Net
