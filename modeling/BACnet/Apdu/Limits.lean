import BACnet.Apdu.Error

/-!
# What a device accepts

A request tells how many segments an answer may have and how long each may be; a device tells
whether it can send and receive segments at all.
-/

namespace BACnet

/-- The number of segments that a device accepts. -/
inductive MaxSegments where
  | unspecified
  | two
  | four
  | eight
  | sixteen
  | thirtyTwo
  | sixtyFour
  | greaterThan64
  deriving DecidableEq, Repr

namespace MaxSegments

/-- The number of segments, if there is a limit that is known. -/
def count? : MaxSegments → Option Nat
  | unspecified | greaterThan64 => none
  | two => some 2
  | four => some 4
  | eight => some 8
  | sixteen => some 16
  | thirtyTwo => some 32
  | sixtyFour => some 64

/-- The smallest limit that admits this number of segments. -/
def ofCount (count : Nat) : MaxSegments :=
  if count = 0 then unspecified
  else if count ≤ 2 then two
  else if count ≤ 4 then four
  else if count ≤ 8 then eight
  else if count ≤ 16 then sixteen
  else if count ≤ 32 then thirtyTwo
  else if count ≤ 64 then sixtyFour
  else greaterThan64

/-- The three-bit code of the limit. -/
def code : MaxSegments → Nat
  | unspecified => 0
  | two => 1
  | four => 2
  | eight => 3
  | sixteen => 4
  | thirtyTwo => 5
  | sixtyFour => 6
  | greaterThan64 => 7

/-- The limit of a three-bit code. -/
def ofCode? : Nat → Option MaxSegments
  | 0 => some unspecified
  | 1 => some two
  | 2 => some four
  | 3 => some eight
  | 4 => some sixteen
  | 5 => some thirtyTwo
  | 6 => some sixtyFour
  | 7 => some greaterThan64
  | _ => none

end MaxSegments

/-- The longest message that a device accepts. -/
inductive MaxApduSize where
  | up50
  | up128
  | up206
  | up480
  | up1024
  | up1476
  deriving DecidableEq, Repr

namespace MaxApduSize

/-- The number of octets. -/
def size : MaxApduSize → Nat
  | up50 => 50
  | up128 => 128
  | up206 => 206
  | up480 => 480
  | up1024 => 1024
  | up1476 => 1476

/-- The largest limit that does not exceed the number of octets, or else the smallest limit. -/
def ofSize (size : Nat) : MaxApduSize :=
  if size < 128 then up50
  else if size < 206 then up128
  else if size < 480 then up206
  else if size < 1024 then up480
  else if size < 1476 then up1024
  else up1476

/-- The four-bit code of the limit. -/
def code : MaxApduSize → Nat
  | up50 => 0
  | up128 => 1
  | up206 => 2
  | up480 => 3
  | up1024 => 4
  | up1476 => 5

/-- The limit of a four-bit code; the codes from 6 are reserved. -/
def ofCode? : Nat → Option MaxApduSize
  | 0 => some up50
  | 1 => some up128
  | 2 => some up206
  | 3 => some up480
  | 4 => some up1024
  | 5 => some up1476
  | _ => none

/-- The limit of a four-bit code, or the error that the code is reserved. -/
def ofCode (code : Nat) : Except ApduError MaxApduSize :=
  match ofCode? code with
  | some size => .ok size
  | none => .error (.malformed (.reservedMaxApdu code))

end MaxApduSize

/-- The segments that a device can handle. -/
inductive Segmentation where
  | both
  | transmit
  | receive
  | noSegmentation
  deriving DecidableEq, Repr

namespace Segmentation

/-- Whether the device can send segments. -/
def canTransmit : Segmentation → Bool
  | both | transmit => true
  | receive | noSegmentation => false

/-- Whether the device can receive segments. -/
def canReceive : Segmentation → Bool
  | both | receive => true
  | transmit | noSegmentation => false

/-- The number of the capability. -/
def code : Segmentation → UInt32
  | both => 0
  | transmit => 1
  | receive => 2
  | noSegmentation => 3

/-- The capability with the number. -/
def ofCode (code : UInt32) : Except DataError Segmentation :=
  match code.toNat with
  | 0 => .ok both
  | 1 => .ok transmit
  | 2 => .ok receive
  | 3 => .ok noSegmentation
  | _ => .error (.invalidFormat (.parameter (.segmentation code)))

end Segmentation

end BACnet
