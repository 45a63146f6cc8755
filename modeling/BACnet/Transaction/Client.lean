import BACnet.Peer.Directory
import BACnet.Transaction.Error
import BACnet.Transaction.Reaction
import BACnet.Transaction.Window

/-!
# The side that asks

A request goes through up to three phases: its segments are sent, its answer is awaited, and the
segments of the answer are collected. In every phase a timer runs; when it ends, the request is sent
again, wholly or in part, as often as the configuration says.

Whatever happens, a request ends with exactly one outcome.
-/

namespace BACnet

/-! ## Planning -/

/-- How a request is cut. -/
structure RequestPlan where
  segmentSize : Nat
  segments : Nat
  deriving DecidableEq, Repr

namespace RequestPlan

/-- The number of octets in the head of a request. -/
def headLength : Nat := 4

/-- The number of octets in the head of a segment of a request. -/
def segmentHeadLength : Nat := 6

/-- The longest message that both this device and the peer can handle. A peer of which nothing is
known is taken to handle what this device does. -/
def longestApdu (config : Config) : Option Peer → Nat
  | none => config.maxApdu.size
  | some peer => min peer.maxApduLength config.maxApdu.size

/-- The plan for parameters that need segments, without regard to whether they can be sent. -/
def segmented (longest length : Nat) : RequestPlan :=
  let size := max (longest - segmentHeadLength) 1
  ⟨size, segmentCount length size⟩

/-- Checks that a peer accepts this number of segments. -/
def checkPeer (segments : Nat) : Option Peer → Except TransactionError Unit
  | none => .ok ()
  | some peer =>
    if ¬ peer.segmentation.canReceive then .error (.segmentationNotSupported .peer)
    else
      match peer.maxSegments with
      | none => .ok ()
      | some accepted =>
        if accepted < segments then .error (.apduTooLong segments accepted) else .ok ()

/-- Plans a request with parameters of this length. -/
def new (config : Config) (length : Nat) (peer : Option Peer) :
    Except TransactionError RequestPlan :=
  let longest := longestApdu config peer
  if headLength + length ≤ longest then .ok ⟨max length 1, 1⟩
  else
    let plan := segmented longest length
    if ¬ config.segmentation.canTransmit then .error (.segmentationNotSupported .localDevice)
    else (checkPeer plan.segments peer).map fun () => plan

end RequestPlan

/-! ## Transactions -/

/-- What a request waits for. -/
inductive ClientPhase where
  /-- The acknowledgment of segments. -/
  | segmentedRequest
  /-- The answer. -/
  | awaitingAck
  /-- More segments of the answer. -/
  | segmentedReceive (window : ReceiveWindow)
  deriving DecidableEq, Repr

/-- A request that has no outcome yet. -/
structure ClientTransaction where
  service : UInt8
  /-- The parameters, and how far their segments have been acknowledged. -/
  send : SendWindow
  /-- How often the whole request has been sent again. -/
  retries : Nat
  phase : ClientPhase
  deriving DecidableEq, Repr

namespace ClientTransaction

/-- A message with all or some of the parameters of the request. -/
def request (client : ClientTransaction) (config : Config) (invokeId : UInt8)
    (segment : Option SegmentHeader) (parameters : Octets) : TransactionEffect :=
  .send (.confirmedRequest
    ⟨config.segmentation.canReceive, config.maxSegments, config.maxApdu, invokeId, segment,
      client.service, parameters⟩)

/-- Sends segments of the request. -/
def sendSegments (client : ClientTransaction) (config : Config) (invokeId : UInt8)
    (segments : List Segment) : List TransactionEffect :=
  segments.map fun segment => client.request config invokeId (some segment.header) segment.data

/-- Acknowledges segments of the answer. -/
def ack (invokeId : UInt8) (negative : Bool) (sequenceNumber size : UInt8) : TransactionEffect :=
  .send (.segmentAck ⟨negative, false, invokeId, sequenceNumber, size⟩)

/-- The end of a request. -/
def conclude (outcome : Outcome) : Reaction ClientTransaction := ⟨[.confirm outcome], .finish⟩

/-- The end of a request that is given up by this device. -/
def abort (invokeId : UInt8) (reason : AbortReason) : Reaction ClientTransaction :=
  .after [.send (.abort false invokeId reason)] (conclude (.error (.abort reason false)))

/-- Sends the request from its beginning. -/
def transmit (client : ClientTransaction) (config : Config) (invokeId : UInt8) :
    Reaction ClientTransaction :=
  let client := { client with send := client.send.rewind }
  if client.send.isSegmented then
    ⟨client.sendSegments config invokeId client.send.pending,
      .restart { client with phase := .segmentedRequest } config.segmentSpan⟩
  else
    ⟨[client.request config invokeId none client.send.payload.data],
      .restart { client with phase := .awaitingAck } config.answerSpan⟩

/-- Sends a new request. -/
def start (config : Config) (invokeId service : UInt8) (parameters : Octets) (plan : RequestPlan) :
    Reaction ClientTransaction :=
  let send := SendWindow.new (.new parameters plan.segmentSize) config.proposedWindow
  transmit ⟨service, send, 0, .awaitingAck⟩ config invokeId

/-! ## Answers -/

/-- Takes the first segment of an answer. -/
def startReceive (client : ClientTransaction) (config : Config) (invokeId : UInt8)
    (segment : Segment) : Reaction ClientTransaction :=
  if ¬ config.segmentation.canReceive then abort invokeId .segmentationNotSupported
  else if segment.header.sequenceNumber ≠ 0 then abort invokeId .invalidApduInThisState
  else
    match ReceiveWindow.start segment.data segment.header.windowSize config with
    | .error _ => abort invokeId .bufferOverflow
    | .ok window =>
      .after [ack invokeId false 0 window.size] <|
        if segment.header.moreFollows then
          ⟨[], .restart { client with phase := .segmentedReceive window } config.segmentSpan⟩
        else conclude (.ok (.complex window.data))

/-- What an answer means to a request that awaits it. -/
def receiveAnswer (client : ClientTransaction) (config : Config) (invokeId : UInt8) :
    Apdu → Reaction ClientTransaction
  | .simpleAck _ _ => conclude (.ok .simple)
  | .complexAck answer =>
    match answer.segment with
    | none => conclude (.ok (.complex answer.parameters))
    | some header => client.startReceive config invokeId ⟨header, answer.parameters⟩
  | .error _ _ errorClass errorCode => conclude (.error (.error errorClass errorCode))
  | .reject _ reason => conclude (.error (.reject reason))
  | .abort server _ reason => conclude (.error (.abort reason server))
  | _ => .ignore

/-- Takes an acknowledgment of segments. -/
def acknowledge (client : ClientTransaction) (config : Config) (invokeId : UInt8)
    (received : SegmentAck) : Reaction ClientTransaction :=
  let (outcome, send) := client.send.acknowledge received.sequenceNumber received.windowSize
  let client := { client with send }
  match outcome with
  | .duplicate => ⟨[], .restart client config.segmentSpan⟩
  | .complete => ⟨[], .restart { client with phase := .awaitingAck } config.answerSpan⟩
  | .advanced =>
    ⟨client.sendSegments config invokeId send.current, .restart client config.segmentSpan⟩

/-- What a message means to a request whose segments are being sent. An acknowledgment of the whole
request may not come before the request is complete. -/
def receiveEarly (client : ClientTransaction) (config : Config) (invokeId : UInt8) (apdu : Apdu) :
    Reaction ClientTransaction :=
  match apdu with
  | .segmentAck received => client.acknowledge config invokeId received
  | .simpleAck _ _ | .complexAck _ => abort invokeId .invalidApduInThisState
  | _ => client.receiveAnswer config invokeId apdu

/-- Takes one more segment of an answer. -/
def collect (client : ClientTransaction) (config : Config) (invokeId : UInt8)
    (window : ReceiveWindow) (segment : Segment) : Reaction ClientTransaction :=
  let goOn (effects : List TransactionEffect) (window : ReceiveWindow) :
      Reaction ClientTransaction :=
    ⟨effects, .restart { client with phase := .segmentedReceive window } config.segmentSpan⟩
  match window.receive segment with
  | .overflow => abort invokeId .bufferOverflow
  | .outOfOrder => goOn [ack invokeId true window.last window.size] window
  | .accepted next => goOn [] next
  | .windowFull next => goOn [ack invokeId false next.last next.size] next
  | .complete next =>
    .after [ack invokeId false next.last next.size] (conclude (.ok (.complex next.data)))

/-- What a message means to a request whose answer is being collected. -/
def receiveSegment (client : ClientTransaction) (config : Config) (invokeId : UInt8)
    (window : ReceiveWindow) : Apdu → Reaction ClientTransaction
  | .complexAck answer =>
    match answer.segment with
    | some header => client.collect config invokeId window ⟨header, answer.parameters⟩
    | none => abort invokeId .invalidApduInThisState
  | .abort server _ reason => conclude (.error (.abort reason server))
  | _ => abort invokeId .invalidApduInThisState

/-- What a message means to a request. -/
def receive (client : ClientTransaction) (config : Config) (invokeId : UInt8) (apdu : Apdu) :
    Reaction ClientTransaction :=
  match client.phase with
  | .segmentedRequest => client.receiveEarly config invokeId apdu
  | .awaitingAck => client.receiveAnswer config invokeId apdu
  | .segmentedReceive window => client.receiveSegment config invokeId window apdu

/-! ## Time -/

/-- What happens to a request that has waited long enough. -/
def timeout (client : ClientTransaction) (config : Config) (invokeId : UInt8) :
    Reaction ClientTransaction :=
  match client.phase with
  | .segmentedRequest =>
    if client.send.retries < config.apduRetries.toNat then
      ⟨client.sendSegments config invokeId client.send.pending,
        .restart { client with send := client.send.countRetry } config.segmentSpan⟩
    else conclude (.error .timeout)
  | .awaitingAck =>
    if client.retries < config.apduRetries.toNat then
      transmit { client with retries := client.retries + 1 } config invokeId
    else conclude (.error .timeout)
  | .segmentedReceive _ => conclude (.error .timeout)

end ClientTransaction

end BACnet
