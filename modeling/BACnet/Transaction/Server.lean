import BACnet.Transaction.Reaction
import BACnet.Transaction.Window

/-!
# The side that answers

A request from another device goes through up to three phases: its segments are collected, the
application works on it, and the segments of the answer are sent. The application is given every
request once; a request that arrives again in the meantime is ignored.
-/

namespace BACnet

/-- What the answer to a request waits for. -/
inductive ServerPhase where
  /-- More segments of the request. -/
  | segmentedReceive (window : ReceiveWindow)
  /-- The application. -/
  | processing
  /-- The acknowledgment of segments of the answer. -/
  | segmentedResponse (window : SendWindow)
  deriving DecidableEq, Repr

/-- A request that has not been answered yet. -/
structure ServerTransaction where
  service : UInt8
  segmentedResponseAccepted : Bool
  /-- The longest message that the client accepts. -/
  maxApdu : MaxApduSize
  /-- The number of segments that the client accepts. -/
  maxSegments : MaxSegments
  phase : ServerPhase
  deriving DecidableEq, Repr

namespace ServerTransaction

/-- The number of octets in the head of an answer. -/
def headLength : Nat := 3

/-- The number of octets in the head of a segment of an answer. -/
def segmentHeadLength : Nat := 5

/-- The end of a transaction with a last message. -/
def conclude (apdu : Apdu) : Reaction ServerTransaction := ⟨[.send apdu], .finish⟩

/-- The end of a transaction that is given up by this device. -/
def abort (invokeId : UInt8) (reason : AbortReason) : Reaction ServerTransaction :=
  conclude (.abort true invokeId reason)

/-- Acknowledges segments of the request. -/
def ack (invokeId : UInt8) (negative : Bool) (sequenceNumber size : UInt8) : TransactionEffect :=
  .send (.segmentAck ⟨negative, true, invokeId, sequenceNumber, size⟩)

/-- A message with all or some of the parameters of the answer. -/
def answer (server : ServerTransaction) (invokeId : UInt8) (segment : Option SegmentHeader)
    (parameters : Octets) : Apdu :=
  .complexAck ⟨invokeId, segment, server.service, parameters⟩

/-- Sends segments of the answer. -/
def sendSegments (server : ServerTransaction) (invokeId : UInt8) (segments : List Segment) :
    List TransactionEffect :=
  segments.map fun segment => .send (server.answer invokeId (some segment.header) segment.data)

/-! ## Requests -/

/-- Gives a complete request to the application. -/
def process (server : ServerTransaction) (config : Config) (parameters : Octets) :
    Reaction ServerTransaction :=
  ⟨[.indicate server.service parameters],
    .restart { server with phase := .processing } config.applicationSpan⟩

/-- Waits for more segments of a request. -/
def await (server : ServerTransaction) (config : Config) (effects : List TransactionEffect)
    (window : ReceiveWindow) : Reaction ServerTransaction :=
  ⟨effects, .restart { server with phase := .segmentedReceive window } config.segmentSpan⟩

/-- Takes the first segment of a request. -/
def startReceive (server : ServerTransaction) (config : Config) (invokeId : UInt8)
    (segment : Segment) : Reaction ServerTransaction :=
  if ¬ config.segmentation.canReceive then abort invokeId .segmentationNotSupported
  else if segment.header.sequenceNumber ≠ 0 then abort invokeId .invalidApduInThisState
  else
    match ReceiveWindow.start segment.data segment.header.windowSize config with
    | .error _ => abort invokeId .bufferOverflow
    | .ok window =>
      .after [ack invokeId false 0 window.size] <|
        if segment.header.moreFollows then server.await config [] window
        else server.process config window.data

/-- Takes a new request. One that is refused ends at once. -/
def start (config : Config) (request : ConfirmedRequest) : Reaction ServerTransaction :=
  let server : ServerTransaction :=
    ⟨request.service, request.segmentedResponseAccepted, request.maxApdu, request.maxSegments,
      .processing⟩
  match request.segment with
  | none => server.process config request.parameters
  | some header => server.startReceive config request.invokeId ⟨header, request.parameters⟩

/-- Takes one more segment of a request. -/
def collect (server : ServerTransaction) (config : Config) (invokeId : UInt8)
    (window : ReceiveWindow) (segment : Segment) : Reaction ServerTransaction :=
  match window.receive segment with
  | .overflow => abort invokeId .bufferOverflow
  | .outOfOrder => server.await config [ack invokeId true window.last window.size] window
  | .accepted next => server.await config [] next
  | .windowFull next => server.await config [ack invokeId false next.last next.size] next
  | .complete next =>
    .after [ack invokeId false next.last next.size] (server.process config next.data)

/-! ## Answers -/

/-- Sends an answer with parameters, in segments if the client accepts them. -/
def respondComplex (server : ServerTransaction) (config : Config) (invokeId : UInt8)
    (parameters : Octets) : Reaction ServerTransaction :=
  let longest := server.maxApdu.size
  if headLength + parameters.length ≤ longest then
    conclude (server.answer invokeId none parameters)
  else if ¬ config.segmentation.canTransmit ∨ ¬ server.segmentedResponseAccepted then
    abort invokeId .segmentationNotSupported
  else
    let payload := Payload.new parameters (max (longest - segmentHeadLength) 1)
    if server.maxSegments.count?.any (· < payload.count) then abort invokeId .apduTooLong
    else
      let window := SendWindow.new payload config.proposedWindow
      ⟨server.sendSegments invokeId window.pending,
        .restart { server with phase := .segmentedResponse window } config.segmentSpan⟩

/-- Sends the outcome of a request. -/
def respond (server : ServerTransaction) (config : Config) (invokeId : UInt8) :
    Outcome → Reaction ServerTransaction
  | .ok .simple => conclude (.simpleAck invokeId server.service)
  | .ok (.complex parameters) => server.respondComplex config invokeId parameters
  | .error (.error errorClass errorCode) =>
    conclude (.error invokeId server.service errorClass errorCode)
  | .error (.reject reason) => conclude (.reject invokeId reason)
  | .error (.abort reason _) => abort invokeId reason
  | .error .timeout => abort invokeId .applicationExceededReplyTime

/-- Takes an acknowledgment of segments of the answer. -/
def acknowledge (server : ServerTransaction) (config : Config) (invokeId : UInt8)
    (window : SendWindow) (received : SegmentAck) : Reaction ServerTransaction :=
  let (outcome, window) := window.acknowledge received.sequenceNumber received.windowSize
  let server := { server with phase := .segmentedResponse window }
  match outcome with
  | .duplicate => ⟨[], .restart server config.segmentSpan⟩
  | .complete => ⟨[], .finish⟩
  | .advanced =>
    ⟨server.sendSegments invokeId window.current, .restart server config.segmentSpan⟩

/-! ## Messages and time -/

/-- What a message means to a request. -/
def receive (server : ServerTransaction) (config : Config) (invokeId : UInt8) (apdu : Apdu) :
    Reaction ServerTransaction :=
  match apdu, server.phase with
  | .abort _ _ _, _ => ⟨[], .finish⟩
  | .confirmedRequest request, .segmentedReceive window =>
    match request.segment with
    | some header => server.collect config invokeId window ⟨header, request.parameters⟩
    | none => abort invokeId .invalidApduInThisState
  | .segmentAck received, .segmentedResponse window =>
    server.acknowledge config invokeId window received
  | _, _ => .ignore

/-- What happens to a request that has waited long enough. -/
def timeout (server : ServerTransaction) (config : Config) (invokeId : UInt8) :
    Reaction ServerTransaction :=
  match server.phase with
  | .segmentedReceive _ => ⟨[], .finish⟩
  | .processing => abort invokeId .applicationExceededReplyTime
  | .segmentedResponse window =>
    if window.retries < config.apduRetries.toNat then
      ⟨server.sendSegments invokeId window.pending,
        .restart { server with phase := .segmentedResponse window.countRetry } config.segmentSpan⟩
    else ⟨[], .finish⟩

end ServerTransaction

end BACnet
