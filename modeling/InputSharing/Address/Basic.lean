/-!
# Network addresses

An address is a host, by four numbers or by eight groups of bits, and a port.
This module gives the text of an address; `InputSharing.Address.Reader` reads
one.

A host of eight groups is written in hexadecimal.  The longest run of two or
more zero groups, the first of several that are equally long, is written as two
colons.  A host that stands for four numbers is written with these numbers.
-/

namespace InputSharing

/-- The host of an address. -/
inductive Host where
  | v4 (octets : Vector UInt8 4)
  /-- Eight groups, and the number of the interface to which the host is
  local; zero for none. -/
  | v6 (groups : Vector UInt16 8) (scope : UInt32)
  deriving DecidableEq

/-- A host and a port. -/
structure Address where
  host : Host
  port : UInt16
  deriving DecidableEq

namespace Host

/-! ## Groups -/

def groupOf (high low : UInt8) : UInt16 := 256 * high.toUInt16 + low.toUInt16

def groupsOf (octets : Vector UInt8 4) : List UInt16 :=
  [groupOf octets[0] octets[1], groupOf octets[2] octets[3]]

/-- The four numbers for which a host of eight groups stands, if it does. -/
def mapped? (groups : Vector UInt16 8) : Option (Vector UInt8 4) :=
  if groups.toList.take 6 = [0, 0, 0, 0, 0, 0xffff] then
    some
      #v[(groups[6] / 256).toUInt8, groups[6].toUInt8, (groups[7] / 256).toUInt8,
        groups[7].toUInt8]
  else none

def zeroRun (groups : List UInt16) : Nat := (groups.takeWhile fun group => group = 0).length

/-- The place and the length of the longest run of zero groups, the first of
several. -/
def longestRun (groups : List UInt16) : Nat × Nat :=
  (List.range groups.length).foldl
    (fun best place =>
      let length := zeroRun (groups.drop place)
      if best.2 < length then (place, length) else best)
    (0, 0)

/-! ## Text -/

def joined (groups : List UInt16) : String :=
  ":".intercalate (groups.map fun group => String.ofList (Nat.toDigits 16 group.toNat))

def dotted (octets : Vector UInt8 4) : String :=
  ".".intercalate (octets.toList.map fun octet => toString octet.toNat)

def compressed (groups : List UInt16) : String :=
  let (place, length) := longestRun groups
  if length < 2 then joined groups
  else joined (groups.take place) ++ "::" ++ joined (groups.drop (place + length))

def display : Host → String
  | v4 octets => dotted octets
  | v6 groups scope =>
      let name :=
        match mapped? groups with
        | some octets => "::ffff:" ++ dotted octets
        | none => compressed groups.toList
      let interface := if scope = 0 then "" else "%" ++ toString scope.toNat
      "[" ++ name ++ interface ++ "]"

end Host

namespace Address

def display (address : Address) : String :=
  address.host.display ++ ":" ++ toString address.port.toNat

end Address

end InputSharing
