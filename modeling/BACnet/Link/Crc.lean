import BACnet.Octets

/-!
# Cyclic redundancy checks

The two checks of MS/TP frames. Both work on a shift register that starts with all bits set, take
the octets bit by bit from the least significant on, and are complemented in the end; they differ in
their polynomials.
-/

namespace BACnet

/-- A check of `width` bits: its polynomial without the leading power, the bits reversed. -/
structure Crc (width : Nat) where
  polynomial : BitVec width

namespace Crc

variable {width : Nat}

/-- The register after one bit: it is shifted, and the polynomial is added if a one falls out. -/
def shift (crc : Crc width) (register : BitVec width) : BitVec width :=
  if register.getLsbD 0 then (register >>> 1) ^^^ crc.polynomial else register >>> 1

/-- The register after `count` bits. -/
def shifts (crc : Crc width) : Nat → BitVec width → BitVec width
  | 0, register => register
  | count + 1, register => crc.shifts count (crc.shift register)

/-- The register after an octet. -/
def step (crc : Crc width) (register : BitVec width) (octet : UInt8) : BitVec width :=
  crc.shifts 8 (register ^^^ octet.toBitVec.setWidth width)

/-- The check of the octets. -/
def checksum (crc : Crc width) (octets : Octets) : BitVec width :=
  ~~~ octets.foldl crc.step (BitVec.allOnes width)

/-- The check of the head of an MS/TP frame, with the polynomial `x ^ 8 + x ^ 7 + 1`. -/
def header : Crc 8 := ⟨0x81⟩

/-- The check of the data of an MS/TP frame, with the polynomial `x ^ 16 + x ^ 12 + x ^ 5 + 1`. -/
def data : Crc 16 := ⟨0x8408⟩

end Crc

/-- The check of the head of an MS/TP frame. -/
def headerCrc (octets : Octets) : UInt8 := ⟨Crc.header.checksum octets⟩

/-- The check of the data of an MS/TP frame. -/
def dataCrc (octets : Octets) : UInt16 := ⟨Crc.data.checksum octets⟩

end BACnet
