import BACnet.Data.Error

/-!
# Object identifiers

An object is named by a 10-bit type and a 22-bit instance number, which travel as one 32-bit word.
-/

namespace BACnet

/-- The name of an object: its type and its number among the objects of this type. -/
structure ObjectIdentifier where
  objectType : UInt16
  number : UInt32
  deriving DecidableEq, Repr

namespace ObjectIdentifier

/-- The largest object type. -/
def maxObjectType : Nat := 1023

/-- The largest instance number. -/
def maxNumber : Nat := 4194303

/-- The object type of a Device object. -/
def deviceType : UInt16 := 8

/-- An object identifier whose two parts fit their fields. -/
def new (objectType : UInt16) (number : UInt32) : Except DataError ObjectIdentifier :=
  if maxObjectType < objectType.toNat ∨ maxNumber < number.toNat then
    .error (.valueOutOfRange (.objectIdentifier objectType number))
  else .ok ⟨objectType, number⟩

/-- The word of the identifier; bits beyond the two fields are dropped. -/
def toWord (identifier : ObjectIdentifier) : UInt32 :=
  UInt32.ofNat (identifier.objectType.toNat % 0x400 * 0x400000 + identifier.number.toNat % 0x400000)

/-- The identifier of a word. -/
def ofWord (word : UInt32) : ObjectIdentifier :=
  ⟨UInt16.ofNat (word.toNat / 0x400000), UInt32.ofNat (word.toNat % 0x400000)⟩

/-- The content octets of the identifier. -/
def content (identifier : ObjectIdentifier) : Octets := Octets.ofWord32 identifier.toWord

/-- Reads an identifier from four octets. -/
def decodeContent : Octets → Except DataError ObjectIdentifier
  | [a, b, c, d] => .ok (ofWord (Octets.word32 a b c d))
  | octets => .error (.invalidLength .objectIdentifier octets.length)

end ObjectIdentifier

end BACnet
