import BACnet.Data.Error

/-!
# Bit strings

The bits of a bit string are packed into octets, most significant bit first. The content octets
start with the number of unused bits at the end of the last octet, which are zero.
-/

namespace BACnet

/-- Packed bits and the number of unused bits at their end. -/
structure BitString where
  unused : UInt8
  octets : Octets
  deriving DecidableEq, Repr

namespace BitString

/-- The octet whose most significant bits are the given ones; up to eight of them count. -/
def packOctet (bits : List Bool) : UInt8 :=
  UInt8.ofNat ((bits.take 8 ++ List.replicate (8 - bits.length) false).foldl
    (fun value bit => value * 2 + bit.toNat) 0)

/-- Packs bits into octets, eight at a time. -/
def packOctets (bits : List Bool) : Octets :=
  match bits with
  | [] => []
  | bit :: rest => packOctet (bit :: rest) :: packOctets ((bit :: rest).drop 8)
termination_by bits.length
decreasing_by simp only [List.length_drop, List.length_cons]; omega

/-- The bit string of a list of bits. -/
def ofBits (bits : List Bool) : BitString :=
  ⟨UInt8.ofNat ((8 - bits.length % 8) % 8), packOctets bits⟩

/-- Clears the `unused` least significant bits of an octet. -/
def clearLow (unused : UInt8) (octet : UInt8) : UInt8 :=
  UInt8.ofNat ((octet.toNat >>> unused.toNat) <<< unused.toNat)

/-- Clears the unused bits of the last octet. -/
def clearUnused (unused : UInt8) : Octets → Octets
  | [] => []
  | [last] => [clearLow unused last]
  | first :: rest => first :: clearUnused unused rest

/-- The bit string of packed octets. At most seven bits may be unused, and none if there is no
octet; the unused bits are cleared. -/
def ofOctets (unused : UInt8) (octets : Octets) : Except DataError BitString :=
  if 7 < unused.toNat ∨ (octets.length = 0 ∧ unused ≠ 0) then
    .error (.invalidFormat (.unusedBits unused octets.length))
  else .ok ⟨unused, clearUnused unused octets⟩

/-- The number of bits. -/
def length (string : BitString) : Nat := string.octets.length * 8 - string.unused.toNat

/-- Whether there is no bit. -/
def isEmpty (string : BitString) : Bool := string.length == 0

/-- The bit at an index, if there is one. -/
def get? (string : BitString) (index : Nat) : Option Bool :=
  if index < string.length then
    string.octets[index / 8]?.map fun octet => Octets.bit octet (7 - index % 8)
  else none

/-- The bits in order. -/
def bits (string : BitString) : List Bool := (List.range string.length).filterMap string.get?

/-- The content octets of the bit string. -/
def content (string : BitString) : Octets := string.unused :: string.octets

/-- Reads a bit string from its content octets. -/
def decodeContent : Octets → Except DataError BitString
  | [] => .error (.invalidLength .bitString 0)
  | unused :: octets => ofOctets unused octets

end BitString

end BACnet
