import BACnet.Apdu.Basic
import BACnet.Config.Basic
import BACnet.Segment.Reassembly

/-!
# Windows

A message in segments is sent a window at a time: the sender sends as many segments as the receiver
grants, and goes on when they have been acknowledged. `SendWindow` is the view of the sender, and
`ReceiveWindow` that of the receiver.
-/

namespace BACnet

/-- A segment of a message. -/
structure Segment where
  header : SegmentHeader
  data : Octets
  deriving DecidableEq, Repr

/-! ## Sending -/

/-- A message that is sent in segments, and how far it has been acknowledged. -/
structure SendWindow where
  payload : Payload
  /-- The index of the first segment that has not been acknowledged. -/
  firstUnacked : Nat
  /-- The size of the window that this device asks for. -/
  proposed : UInt8
  /-- The size of the window that the receiver grants. -/
  granted : UInt8
  /-- How often the window has been sent again since it last moved. -/
  retries : Nat
  deriving DecidableEq, Repr

/-- What an acknowledgment means. -/
inductive AckOutcome where
  /-- It lies outside the window, as one does that is repeated. -/
  | duplicate
  /-- The whole message has been acknowledged. -/
  | complete
  /-- The window has moved. -/
  | advanced
  deriving DecidableEq, Repr

namespace SendWindow

/-- A message of which nothing has been acknowledged. -/
def new (payload : Payload) (proposed : UInt8) : SendWindow :=
  ⟨payload, 0, clampWindow proposed, clampWindow proposed, 0⟩

/-- Starts over from the first segment. -/
def rewind (window : SendWindow) : SendWindow :=
  { window with firstUnacked := 0, granted := window.proposed, retries := 0 }

/-- Counts one more attempt to send the window. -/
def countRetry (window : SendWindow) : SendWindow := { window with retries := window.retries + 1 }

/-- Whether the message needs more than one segment. -/
def isSegmented (window : SendWindow) : Bool := 1 < window.payload.count

/-- The segment with this index, if there is one. The first segment asks for a window, and the
others repeat the one that was granted. -/
def segment? (window : SendWindow) (index : Nat) : Option Segment :=
  (window.payload.segment? index).map fun data =>
    let size := if index = 0 then window.proposed else window.granted
    ⟨⟨UInt8.ofNat index, size, !window.payload.isLast index⟩, data⟩

/-- At most `count` segments, from the one with this index on. -/
def segments (window : SendWindow) : (count index : Nat) → List Segment
  | 0, _ => []
  | count + 1, index =>
    match window.segment? index with
    | none => []
    | some segment => segment :: window.segments count (index + 1)

/-- The segments of the window. -/
def current (window : SendWindow) : List Segment :=
  window.segments window.granted.toNat window.firstUnacked

/-- The segments to be sent for want of an acknowledgment: those of the window, but the first
segment alone as long as no window has been granted. -/
def pending (window : SendWindow) : List Segment :=
  if window.firstUnacked = 0 then window.segments 1 0 else window.current

/-- The number of segments that an acknowledgment covers. -/
def acknowledged (window : SendWindow) (sequenceNumber : UInt8) : Nat :=
  window.firstUnacked + (sequenceNumber - UInt8.ofNat window.firstUnacked).toNat + 1

/-- Takes note of an acknowledgment up to a sequence number, with the window it grants. -/
def acknowledge (window : SendWindow) (sequenceNumber granted : UInt8) : AckOutcome × SendWindow :=
  let window := { window with granted := clampWindow granted }
  if ¬ inWindow sequenceNumber (UInt8.ofNat window.firstUnacked) window.granted then
    (.duplicate, window)
  else if window.payload.count ≤ window.acknowledged sequenceNumber then (.complete, window)
  else
    (.advanced, { window with firstUnacked := window.acknowledged sequenceNumber, retries := 0 })

end SendWindow

/-! ## Receiving -/

/-- A message that arrives in segments. -/
structure ReceiveWindow where
  reassembly : Reassembly
  /-- The sequence number that was acknowledged last. -/
  lastAcked : UInt8
  /-- The size of the window that is granted. -/
  size : UInt8
  deriving DecidableEq, Repr

/-- What a segment does to a message that arrives. -/
inductive Receipt where
  /-- The message becomes too long. -/
  | overflow
  /-- Another segment should have come first. -/
  | outOfOrder
  /-- The segment is taken. -/
  | accepted (window : ReceiveWindow)
  /-- The segment is taken, and is the last one of its window. -/
  | windowFull (window : ReceiveWindow)
  /-- The segment is taken, and is the last one of the message. -/
  | complete (window : ReceiveWindow)
  deriving DecidableEq, Repr

namespace ReceiveWindow

/-- The number of octets in the longest message that is accepted in segments. -/
def reassemblyLimit (config : Config) : Nat :=
  (config.maxSegments.count?.getD 256) * config.maxApdu.size

/-- A message of which segment 0 has arrived, with the limits on its segments and on its octets. The
window is the smaller one of what the sender asks for and what this device would ask for. -/
def opened (first : Octets) (asked own : UInt8) (maxSegments : Option Nat) (maxLength : Nat) :
    Except ReassemblyError ReceiveWindow :=
  (Reassembly.new first maxSegments maxLength).map fun reassembly =>
    ⟨reassembly, 0, clampWindow (min asked own)⟩

/-- A message of which segment 0 has arrived, within the limits of the configuration. -/
def start (first : Octets) (asked : UInt8) (config : Config) :
    Except ReassemblyError ReceiveWindow :=
  opened first asked config.proposedWindow config.maxSegments.count? (reassemblyLimit config)

/-- The sequence number of the last segment that was taken. -/
def last (window : ReceiveWindow) : UInt8 := window.reassembly.lastSequence

/-- The octets that have arrived. -/
def data (window : ReceiveWindow) : Octets := window.reassembly.data

/-- Takes the next segment. -/
def receive (window : ReceiveWindow) (segment : Segment) : Receipt :=
  match window.reassembly.append segment.header.sequenceNumber segment.data with
  | .error (.sequenceViolation _ _) => .outOfOrder
  | .error (.bufferOverflow _) => .overflow
  | .ok reassembly =>
    let window := { window with reassembly }
    if ¬ segment.header.moreFollows then .complete window
    else if segment.header.sequenceNumber = window.lastAcked + window.size then
      .windowFull { window with lastAcked := window.last }
    else .accepted window

end ReceiveWindow

end BACnet
