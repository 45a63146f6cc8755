import BACnet.Octets

/-!
# Cutting a message into segments

A message that is too long for one APDU is cut into segments of one size; only the last may be
shorter. Segments are counted from 0 and sent with their number modulo 256, so a message may have
more than 256 of them.
-/

namespace BACnet

/-- The number of segments for `length` octets: at least one, also for an empty message. -/
def segmentCount (length segmentSize : Nat) : Nat :=
  if segmentSize = 0 then 1 else max ((length + segmentSize - 1) / segmentSize) 1

/-- Whether a sequence number lies in the window of `window` numbers from `initial`, counted
modulo 256. -/
def inWindow (sequenceNumber initial window : UInt8) : Bool := sequenceNumber - initial < window

/-- The largest window that a segment may propose. -/
def maxWindow : UInt8 := 127

/-- The allowed window that is nearest to a proposed one. -/
def clampWindow (window : UInt8) : UInt8 := max 1 (min window maxWindow)

/-- A message and the size of its segments. -/
structure Payload where
  data : Octets
  segmentSize : Nat
  deriving DecidableEq, Repr

namespace Payload

/-- A message that is cut into segments of at least one octet. -/
def new (data : Octets) (segmentSize : Nat) : Payload := ⟨data, max segmentSize 1⟩

/-- The number of segments. -/
def count (payload : Payload) : Nat := segmentCount payload.data.length payload.segmentSize

/-- Whether no segment follows the one with this index. -/
def isLast (payload : Payload) (index : Nat) : Bool := payload.count ≤ index + 1

/-- The segment with this index, if there is one. -/
def segment? (payload : Payload) (index : Nat) : Option Octets :=
  if index < payload.count then
    some ((payload.data.drop (index * payload.segmentSize)).take payload.segmentSize)
  else none

end Payload

end BACnet
