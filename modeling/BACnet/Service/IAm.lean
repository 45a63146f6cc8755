import BACnet.Data.Typed
import BACnet.Data.Reader
import BACnet.Apdu.Limits

/-!
# I-Am

With an I-Am a device tells its instance number and what it accepts.
-/

namespace BACnet

/-- What a device tells about itself. -/
structure IAm where
  device : ObjectIdentifier
  maxApduLength : UInt32
  segmentation : Segmentation
  vendor : UInt16
  deriving DecidableEq, Repr

namespace IAm

/-- The parameters of the request. -/
def encode (request : IAm) : Octets :=
  encodeObjectIdentifier request.device ++ encodeUnsigned request.maxApduLength.toUInt64 ++
    encodeEnumerated request.segmentation.code ++ encodeUnsigned request.vendor.toUInt64

variable [TextCodec]

/-- Reads the identifier of a Device object. -/
def readDevice : Read ObjectIdentifier := do
  let device ← Read.objectIdentifier
  if device.objectType = ObjectIdentifier.deviceType then pure device
  else throw (.invalidFormat (.parameter (.notADevice device.objectType)))

/-- Reads an unsigned integer below the bound. -/
def readNarrow (bound : Nat) (fault : ParameterFault) : Read UInt64 := do
  let value ← Read.unsigned
  if value.toNat < bound then pure value else throw (.invalidFormat (.parameter fault))

/-- Reads the parameters of the request. -/
def read : Read IAm := do
  let device ← readDevice
  let maxApduLength ← readNarrow 0x100000000 .maxApduLength
  let segmentation ← Read.lift (Segmentation.ofCode (← Read.enumerated))
  let vendor ← readNarrow 0x10000 .vendorIdentifier
  Read.finish
  pure ⟨device, maxApduLength.toUInt32, segmentation, vendor.toUInt16⟩

/-- Reads a request from the octets of its parameters. -/
def decode (data : Octets) : Except DataError IAm := Read.run read data

end IAm

end BACnet
