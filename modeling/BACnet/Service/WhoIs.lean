import BACnet.Data.Typed
import BACnet.Data.Reader

/-!
# Who-Is

The question which devices are there: all of them, or those whose instance number lies in a range.
-/

namespace BACnet

/-- The devices that a Who-Is asks for. -/
structure WhoIs where
  low : Option UInt32
  high : Option UInt32
  deriving DecidableEq, Repr

namespace WhoIs

/-- The question to all devices. -/
def all : WhoIs := ⟨none, none⟩

/-- The question to the devices of a range, both ends included. -/
def range (low high : UInt32) : WhoIs := ⟨some low, some high⟩

/-- The parameters of the request. A range with one end only is written as the question to all. -/
def encode (request : WhoIs) : Except DataError Octets :=
  match request.low, request.high with
  | some low, some high => do
    let lowOctets ← encodeContextUnsigned 0 low.toUInt64
    .ok (lowOctets ++ (← encodeContextUnsigned 1 high.toUInt64))
  | _, _ => .ok []

/-- An instance number of a device. -/
def readInstance (number : UInt8) : Read UInt32 := do
  let value ← Read.contextUnsigned number
  if value.toNat ≤ ObjectIdentifier.maxNumber then pure value.toUInt32
  else throw (.invalidFormat (.parameter (.deviceInstance value)))

/-- Reads the parameters of the request: nothing, or both ends of a range. -/
def read : Read WhoIs := do
  if (← get).isEmpty then pure all
  else
    let low ← readInstance 0
    if (← get).isEmpty then throw (.invalidFormat (.parameter .missingHighLimit))
    let high ← readInstance 1
    Read.finish
    pure (range low high)

/-- Reads a request from the octets of its parameters. -/
def decode (data : Octets) : Except DataError WhoIs := Read.run read data

/-- Whether a device is asked for. -/
def asksFor (request : WhoIs) (device : UInt32) : Bool :=
  match request.low, request.high with
  | some low, some high => low ≤ device && device ≤ high
  | _, _ => true

end WhoIs

end BACnet
