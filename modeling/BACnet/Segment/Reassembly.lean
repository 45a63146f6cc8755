import BACnet.ErrorKind
import BACnet.Segment.Payload

/-!
# Putting segments together

Segments are taken in order only, and up to two limits: the number of segments and the number of
octets. A segment that is refused changes nothing.
-/

namespace BACnet

/-- Why a segment is refused. -/
inductive ReassemblyError where
  /-- Another segment should have come first. -/
  | sequenceViolation (expected received : UInt8)
  /-- The message becomes too long. -/
  | bufferOverflow (maxLength : Nat)
  deriving DecidableEq, Repr

namespace ReassemblyError

def kind : ReassemblyError → ErrorKind
  | sequenceViolation _ _ => .sequenceViolation
  | bufferOverflow _ => .resource

def message : ReassemblyError → String
  | sequenceViolation expected received =>
    s!"segment {received} arrived while {expected} was expected"
  | bufferOverflow maxLength => s!"reassembled message exceeds {maxLength} bytes"

end ReassemblyError

/-- The segments of a message that have arrived so far. -/
structure Reassembly where
  data : Octets
  /-- The sequence number of the last segment. -/
  lastSequence : UInt8
  /-- How many segments have arrived. -/
  segments : Nat
  maxSegments : Option Nat
  maxLength : Nat
  deriving DecidableEq, Repr

namespace Reassembly

/-- The sequence number of the next segment. -/
def expectedSequence (reassembly : Reassembly) : UInt8 := reassembly.lastSequence + 1

/-- Whether one more segment exceeds the limit on segments. -/
def isFull (reassembly : Reassembly) : Bool :=
  reassembly.maxSegments.any (· ≤ reassembly.segments)

/-- Adds the octets of one more segment. -/
def push (reassembly : Reassembly) (octets : Octets) : Except ReassemblyError Reassembly :=
  if reassembly.isFull ∨ reassembly.maxLength < reassembly.data.length + octets.length then
    .error (.bufferOverflow reassembly.maxLength)
  else
    .ok { reassembly with
      data := reassembly.data ++ octets
      segments := reassembly.segments + 1 }

/-- A message of which segment 0 has arrived. -/
def new (first : Octets) (maxSegments : Option Nat) (maxLength : Nat) :
    Except ReassemblyError Reassembly :=
  push ⟨[], 0, 0, maxSegments, maxLength⟩ first

/-- Adds the next segment. -/
def append (reassembly : Reassembly) (sequenceNumber : UInt8) (octets : Octets) :
    Except ReassemblyError Reassembly :=
  if sequenceNumber = reassembly.expectedSequence then do
    .ok { ← reassembly.push octets with lastSequence := sequenceNumber }
  else .error (.sequenceViolation reassembly.expectedSequence sequenceNumber)

end Reassembly

end BACnet
