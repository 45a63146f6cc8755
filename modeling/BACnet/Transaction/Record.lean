import BACnet.Transaction.Live

/-!
# Records of transactions

What is kept of a transaction, field by field: the state in which it is, the windows that it has
opened, and its timer. A record may be over, may lack the window that its state needs, or may have
no timer; what is done then is told as well. The machine of `BACnet.Transaction.Live` is the same
with these fields in one.
-/

namespace BACnet

/-- The state of a request of this device. -/
inductive ClientState where
  | segmentedRequest
  | awaitingAck
  | segmentedReceive
  | complete
  | aborted
  deriving DecidableEq, Repr

/-- What is kept of a request of this device. -/
structure ClientRecord where
  state : ClientState
  /-- The whole request; segments are cut from its parameters. -/
  request : ConfirmedRequest
  send : SendWindow
  retries : Nat
  receive : Option ReceiveWindow
  timer : Option TimerHandle
  deriving DecidableEq, Repr

/-- The state of a request of another device. -/
inductive ServerState where
  | segmentedReceive
  | processing
  | segmentedResponse
  | complete
  | aborted
  deriving DecidableEq, Repr

/-- What is kept of a request of another device. -/
structure ServerRecord where
  state : ServerState
  service : UInt8
  segmentedResponseAccepted : Bool
  maxApdu : Nat
  maxSegments : Option Nat
  receive : Option ReceiveWindow
  send : Option SendWindow
  timer : Option TimerHandle
  deriving DecidableEq, Repr

/-- Whether a transaction survives what has been done. -/
inductive RecordStep where
  | goOn
  | finished
  deriving DecidableEq, Repr

/-- For which transaction something is done, and when. -/
structure RecordContext where
  key : TransactionKey
  config : Config
  now : Nat

/-- A record at work: the record, the timers of the device, and what has been put out so far. -/
structure RecordWork (ρ : Type) where
  record : ρ
  timers : TimerQueue TimerEvent
  actions : List TransactionAction
  deriving DecidableEq, Repr

namespace RecordContext

/-- The abort that this side sends. -/
def abortApdu (context : RecordContext) (reason : AbortReason) : Apdu :=
  .abort context.key.side.isServer context.key.invokeId reason

/-- The acknowledgment of segments that this side sends. -/
def ackApdu (context : RecordContext) (negative : Bool) (sequenceNumber size : UInt8) : Apdu :=
  .segmentAck ⟨negative, context.key.side.isServer, context.key.invokeId, sequenceNumber, size⟩

/-- Replaces a timer by one that ends after a span. -/
def restart (context : RecordContext) (timers : TimerQueue TimerEvent) (timer : Option TimerHandle)
    (span : Nat) : TimerHandle × TimerQueue TimerEvent :=
  (timers.cancel? timer).schedule (context.now + span) (.transaction context.key)

end RecordContext

namespace RecordWork

variable {ρ σ : Type}

/-- Puts something out. -/
def put (work : RecordWork ρ) (context : RecordContext) (effects : List TransactionEffect) :
    RecordWork ρ :=
  { work with
    actions := work.actions ++ effects.map (⟨context.key.peer, context.key.invokeId, ·⟩) }

/-- Sends a message. -/
def send (work : RecordWork ρ) (context : RecordContext) (apdu : Apdu) : RecordWork ρ :=
  work.put context [.send apdu]

/-- Changes the record. -/
def map (work : RecordWork ρ) (change : ρ → σ) : RecordWork σ :=
  ⟨change work.record, work.timers, work.actions⟩

end RecordWork

/-! ## The side that asks -/

namespace ClientRecord

/-- A request at work. -/
abbrev Work := RecordWork ClientRecord

/-- Changes the state. -/
def enter (work : Work) (state : ClientState) : Work :=
  work.map fun record => { record with state }

/-- Replaces the timer. -/
def restartTimer (work : Work) (context : RecordContext) (span : Nat) : Work :=
  let (timer, timers) := context.restart work.timers work.record.timer span
  { work with record := { work.record with timer := some timer }, timers }

/-- Sends segments of the request. -/
def sendSegments (work : Work) (context : RecordContext) (segments : List Segment) : Work :=
  work.put context <| segments.map fun segment =>
    .send (.confirmedRequest
      { work.record.request with segment := some segment.header, parameters := segment.data })

/-- Sends the request from its beginning. -/
def sendRequest (work : Work) (context : RecordContext) : Work :=
  let send := work.record.send.rewind
  let work := work.map fun record => { record with send }
  if send.isSegmented then
    let work := enter work .segmentedRequest
    restartTimer (sendSegments work context send.pending) context context.config.segmentSpan
  else
    let work := enter work .awaitingAck
    restartTimer (work.send context (.confirmedRequest work.record.request)) context
      context.config.answerSpan

/-- Starts a request. -/
def start (context : RecordContext) (timers : TimerQueue TimerEvent) (service : UInt8)
    (parameters : Octets) (plan : RequestPlan) : Work :=
  let request : ConfirmedRequest :=
    { segmentedResponseAccepted := context.config.segmentation.canReceive
      maxSegments := context.config.maxSegments
      maxApdu := context.config.maxApdu
      invokeId := context.key.invokeId
      segment := none
      service
      parameters }
  let record : ClientRecord :=
    { state := if 1 < plan.segments then .segmentedRequest else .awaitingAck
      request
      send := .new (.new parameters plan.segmentSize) context.config.proposedWindow
      retries := 0
      receive := none
      timer := none }
  sendRequest ⟨record, timers, []⟩ context

/-- The request is over. -/
def complete (work : Work) (context : RecordContext) (outcome : Outcome) : Work × RecordStep :=
  let state := match outcome with
    | .error (.abort _ _) | .error .timeout => ClientState.aborted
    | _ => .complete
  ((enter work state).put context [.confirm outcome], .finished)

/-- This device gives the request up. -/
def abortWith (work : Work) (context : RecordContext) (reason : AbortReason) : Work × RecordStep :=
  complete (work.send context (context.abortApdu reason)) context (.error (.abort reason false))

/-- Takes the first segment of an answer. -/
def startReceive (work : Work) (context : RecordContext) (segment : Segment) : Work × RecordStep :=
  if ¬ context.config.segmentation.canReceive then
    abortWith work context .segmentationNotSupported
  else if segment.header.sequenceNumber ≠ 0 then abortWith work context .invalidApduInThisState
  else
    match ReceiveWindow.start segment.data segment.header.windowSize context.config with
    | .error _ => abortWith work context .bufferOverflow
    | .ok window =>
      let work := work.send context (context.ackApdu false 0 window.size)
      if ¬ segment.header.moreFollows then complete work context (.ok (.complex window.data))
      else
        let work := enter (work.map fun record => { record with receive := some window })
          .segmentedReceive
        (restartTimer work context context.config.segmentSpan, .goOn)

/-- What a message means to a request that awaits its answer. -/
def awaitConfirmation (work : Work) (context : RecordContext) : Apdu → Work × RecordStep
  | .simpleAck _ _ => complete work context (.ok .simple)
  | .complexAck answer =>
    match answer.segment with
    | none => complete work context (.ok (.complex answer.parameters))
    | some header => startReceive work context ⟨header, answer.parameters⟩
  | .error _ _ errorClass errorCode =>
    complete work context (.error (.error errorClass errorCode))
  | .reject _ reason => complete work context (.error (.reject reason))
  | .abort server _ reason => complete work context (.error (.abort reason server))
  | _ => (work, .goOn)

/-- Takes an acknowledgment of segments. -/
def acknowledge (work : Work) (context : RecordContext) (received : SegmentAck) :
    Work × RecordStep :=
  let (outcome, send) :=
    work.record.send.acknowledge received.sequenceNumber received.windowSize
  let work := work.map fun record => { record with send }
  match outcome with
  | .duplicate => (restartTimer work context context.config.segmentSpan, .goOn)
  | .complete =>
    (restartTimer (enter work .awaitingAck) context context.config.answerSpan, .goOn)
  | .advanced =>
    (restartTimer (sendSegments work context send.current) context context.config.segmentSpan,
      .goOn)

/-- What a message means to a request whose segments are being sent. -/
def segmentedRequest (work : Work) (context : RecordContext) (apdu : Apdu) : Work × RecordStep :=
  match apdu with
  | .segmentAck received => acknowledge work context received
  | .simpleAck _ _ | .complexAck _ => abortWith work context .invalidApduInThisState
  | .error _ _ _ _ | .reject _ _ | .abort _ _ _ => awaitConfirmation work context apdu
  | _ => (work, .goOn)

/-- Takes one more segment of an answer. -/
def collect (work : Work) (context : RecordContext) (segment : Segment) : Work × RecordStep :=
  match work.record.receive with
  | none => abortWith work context .invalidApduInThisState
  | some window =>
    let goOn (work : Work) : Work × RecordStep :=
      (restartTimer work context context.config.segmentSpan, .goOn)
    let keep (next : ReceiveWindow) : Work :=
      work.map fun record => { record with receive := some next }
    match window.receive segment with
    | .overflow => abortWith work context .bufferOverflow
    | .outOfOrder => goOn (work.send context (context.ackApdu true window.last window.size))
    | .accepted next => goOn (keep next)
    | .windowFull next =>
      goOn ((keep next).send context (context.ackApdu false next.last window.size))
    | .complete next =>
      let work := work.map fun record => { record with receive := none }
      complete (work.send context (context.ackApdu false next.last window.size)) context
        (.ok (.complex next.data))

/-- What a message means to a request whose answer is being collected. -/
def segmentedConfirmation (work : Work) (context : RecordContext) : Apdu → Work × RecordStep
  | .complexAck answer =>
    match answer.segment with
    | some header => collect work context ⟨header, answer.parameters⟩
    | none => abortWith work context .invalidApduInThisState
  | .abort server _ reason => complete work context (.error (.abort reason server))
  | _ => abortWith work context .invalidApduInThisState

/-- What a message means to a request. -/
def onApdu (work : Work) (context : RecordContext) (apdu : Apdu) : Work × RecordStep :=
  match work.record.state with
  | .segmentedRequest => segmentedRequest work context apdu
  | .awaitingAck => awaitConfirmation work context apdu
  | .segmentedReceive => segmentedConfirmation work context apdu
  | .complete | .aborted => (work, .finished)

/-- What happens to a request whose timer has run out. -/
def onTimeout (work : Work) (context : RecordContext) : Work × RecordStep :=
  match work.record.state with
  | .awaitingAck =>
    if work.record.retries < context.config.apduRetries.toNat then
      let work := work.map fun record => { record with retries := record.retries + 1 }
      (sendRequest work context, .goOn)
    else complete work context (.error .timeout)
  | .segmentedRequest =>
    if work.record.send.retries < context.config.apduRetries.toNat then
      let work := work.map fun record => { record with send := record.send.countRetry }
      let work := sendSegments work context work.record.send.pending
      (restartTimer work context context.config.segmentSpan, .goOn)
    else complete work context (.error .timeout)
  | .segmentedReceive => complete work context (.error .timeout)
  | .complete | .aborted => (work, .finished)

end ClientRecord

/-! ## The side that answers -/

namespace ServerRecord

/-- A request of another device at work. -/
abbrev Work := RecordWork ServerRecord

/-- Changes the state. -/
def enter (work : Work) (state : ServerState) : Work :=
  work.map fun record => { record with state }

/-- Replaces the timer. -/
def restartTimer (work : Work) (context : RecordContext) (span : Nat) : Work :=
  let (timer, timers) := context.restart work.timers work.record.timer span
  { work with record := { work.record with timer := some timer }, timers }

/-- Gives a complete request to the application. -/
def process (work : Work) (context : RecordContext) (parameters : Octets) : Work :=
  let work := restartTimer (enter work .processing) context context.config.applicationSpan
  work.put context [.indicate work.record.service parameters]

/-- This device gives the request up. -/
def abortWith (work : Work) (context : RecordContext) (reason : AbortReason) : Work × RecordStep :=
  (enter (work.send context (context.abortApdu reason)) .aborted, .finished)

/-- Takes a new request, of which no record is kept if it is refused. -/
def start (context : RecordContext) (timers : TimerQueue TimerEvent) (request : ConfirmedRequest) :
    RecordWork (Option ServerRecord) :=
  let record : ServerRecord :=
    { state := .processing
      service := request.service
      segmentedResponseAccepted := request.segmentedResponseAccepted
      maxApdu := request.maxApdu.size
      maxSegments := request.maxSegments.count?
      receive := none
      send := none
      timer := none }
  let work : Work := ⟨record, timers, []⟩
  let refuse (reason : AbortReason) : RecordWork (Option ServerRecord) :=
    (work.send context (context.abortApdu reason)).map fun _ => none
  match request.segment with
  | none => (process work context request.parameters).map some
  | some header =>
    if ¬ context.config.segmentation.canReceive then refuse .segmentationNotSupported
    else if header.sequenceNumber ≠ 0 then refuse .invalidApduInThisState
    else
      match ReceiveWindow.start request.parameters header.windowSize context.config with
      | .error _ => refuse .bufferOverflow
      | .ok window =>
        let work := work.send context (context.ackApdu false 0 window.size)
        if header.moreFollows then
          let work := enter (work.map fun record => { record with receive := some window })
            .segmentedReceive
          (restartTimer work context context.config.segmentSpan).map some
        else (process work context window.data).map some

/-- Takes one more segment of a request. -/
def collect (work : Work) (context : RecordContext) (request : ConfirmedRequest) :
    Work × RecordStep :=
  match request.segment, work.record.receive with
  | none, _ | _, none => abortWith work context .invalidApduInThisState
  | some header, some window =>
    let goOn (work : Work) : Work × RecordStep :=
      (restartTimer work context context.config.segmentSpan, .goOn)
    let keep (next : ReceiveWindow) : Work :=
      work.map fun record => { record with receive := some next }
    match window.receive ⟨header, request.parameters⟩ with
    | .overflow => abortWith work context .bufferOverflow
    | .outOfOrder => goOn (work.send context (context.ackApdu true window.last window.size))
    | .accepted next => goOn (keep next)
    | .windowFull next =>
      goOn ((keep next).send context (context.ackApdu false next.last window.size))
    | .complete next =>
      let work := work.send context (context.ackApdu false next.last window.size)
      let work := work.map fun record => { record with receive := none }
      (process work context next.data, .goOn)

/-- A message with all or some of the parameters of the answer. -/
def answer (work : Work) (context : RecordContext) (segment : Option SegmentHeader)
    (parameters : Octets) : Apdu :=
  .complexAck ⟨context.key.invokeId, segment, work.record.service, parameters⟩

/-- Sends segments of the answer. -/
def sendSegments (work : Work) (context : RecordContext) (segments : List Segment) : Work :=
  work.put context <| segments.map fun segment =>
    .send (answer work context (some segment.header) segment.data)

/-- Sends an answer with parameters, in segments if the client accepts them. -/
def respondComplex (work : Work) (context : RecordContext) (parameters : Octets) :
    Work × RecordStep :=
  let longest := work.record.maxApdu
  if ServerTransaction.headLength + parameters.length ≤ longest then
    (enter (work.send context (answer work context none parameters)) .complete, .finished)
  else if ¬ context.config.segmentation.canTransmit ∨ ¬ work.record.segmentedResponseAccepted then
    abortWith work context .segmentationNotSupported
  else
    let send := SendWindow.new
      (.new parameters (max (longest - ServerTransaction.segmentHeadLength) 1))
      context.config.proposedWindow
    if work.record.maxSegments.any (· < send.payload.count) then
      abortWith work context .apduTooLong
    else
      let work := sendSegments work context send.pending
      let work := enter (work.map fun record => { record with send := some send })
        .segmentedResponse
      (restartTimer work context context.config.segmentSpan, .goOn)

/-- Sends the outcome of a request. -/
def respond (work : Work) (context : RecordContext) (outcome : Outcome) : Work × RecordStep :=
  let invokeId := context.key.invokeId
  let conclude (apdu : Apdu) : Work × RecordStep :=
    (enter (work.send context apdu) .complete, .finished)
  match outcome with
  | .ok .simple => conclude (.simpleAck invokeId work.record.service)
  | .ok (.complex parameters) => respondComplex work context parameters
  | .error (.error errorClass errorCode) =>
    conclude (.error invokeId work.record.service errorClass errorCode)
  | .error (.reject reason) => conclude (.reject invokeId reason)
  | .error (.abort reason _) => abortWith work context reason
  | .error .timeout => abortWith work context .applicationExceededReplyTime

/-- Takes an acknowledgment of segments of the answer. -/
def acknowledge (work : Work) (context : RecordContext) (received : SegmentAck) :
    Work × RecordStep :=
  match work.record.send with
  | none => (work, .goOn)
  | some window =>
    let (outcome, send) := window.acknowledge received.sequenceNumber received.windowSize
    let work := work.map fun record => { record with send := some send }
    match outcome with
    | .complete => (enter work .complete, .finished)
    | .advanced =>
      (restartTimer (sendSegments work context send.current) context context.config.segmentSpan,
        .goOn)
    | .duplicate => (restartTimer work context context.config.segmentSpan, .goOn)

/-- What a message means to a request. -/
def onApdu (work : Work) (context : RecordContext) (apdu : Apdu) : Work × RecordStep :=
  match work.record.state, apdu with
  | _, .abort _ _ _ => (enter work .aborted, .finished)
  | .segmentedReceive, .confirmedRequest request => collect work context request
  | .segmentedResponse, .segmentAck received => acknowledge work context received
  | _, _ => (work, .goOn)

/-- What happens to a request whose timer has run out. -/
def onTimeout (work : Work) (context : RecordContext) : Work × RecordStep :=
  match work.record.state with
  | .segmentedReceive => (enter work .aborted, .finished)
  | .processing => abortWith work context .applicationExceededReplyTime
  | .segmentedResponse =>
    match work.record.send with
    | none => (work, .finished)
    | some send =>
      if send.retries < context.config.apduRetries.toNat then
        let work := work.map fun record => { record with send := some send.countRetry }
        (restartTimer (sendSegments work context send.countRetry.pending) context
          context.config.segmentSpan, .goOn)
      else (enter work .aborted, .finished)
  | .complete | .aborted => (work, .finished)

end ServerRecord

/-! ## All transactions -/

/-- What is kept of a transaction on either side. -/
inductive TransactionRecord where
  | client (record : ClientRecord)
  | server (record : ServerRecord)
  deriving DecidableEq, Repr

namespace TransactionRecord

/-- The timer of the transaction, if it has one. -/
def timer? : TransactionRecord → Option TimerHandle
  | client record => record.timer
  | server record => record.timer

/-- Does something with a record, by its side. -/
def work (record : TransactionRecord) (timers : TimerQueue TimerEvent)
    (client : ClientRecord.Work → ClientRecord.Work × RecordStep)
    (server : ServerRecord.Work → ServerRecord.Work × RecordStep) :
    RecordWork TransactionRecord × RecordStep :=
  match record with
  | .client record => (client ⟨record, timers, []⟩).map (·.map .client) id
  | .server record => (server ⟨record, timers, []⟩).map (·.map .server) id

/-- The record when its timer has been taken out of the queue. -/
def withoutTimer : TransactionRecord → TransactionRecord
  | client record => .client { record with timer := none }
  | server record => .server { record with timer := none }

end TransactionRecord

/-- What is kept of all transactions of a device. -/
structure TransactionRecords where
  config : Config
  stored : Table TransactionKey TransactionRecord
  invokeIds : InvokeIds
  deriving DecidableEq, Repr

/-- What the transactions want done, and they and the timers after it. -/
structure TransactionRecordsStep where
  actions : List TransactionAction
  records : TransactionRecords
  timers : TimerQueue TimerEvent
  deriving DecidableEq, Repr

namespace TransactionRecords

/-- A device without transactions. -/
def new (config : Config) : TransactionRecords := ⟨config, .empty, .new config.invokeIdStart⟩

/-- Nothing happens. -/
def unchanged (records : TransactionRecords) (timers : TimerQueue TimerEvent) :
    TransactionRecordsStep :=
  ⟨[], records, timers⟩

/-- Stores a record. -/
def store (records : TransactionRecords) (key : TransactionKey) (record : TransactionRecord) :
    TransactionRecords :=
  { records with stored := records.stored.insert key record }

/-- Removes a record and cancels its timer. -/
def finish (records : TransactionRecords) (timers : TimerQueue TimerEvent) (key : TransactionKey) :
    TransactionRecords × TimerQueue TimerEvent :=
  match records.stored.find? key with
  | none => (records, timers)
  | some record =>
    ({ records with stored := records.stored.erase key }, timers.cancel? record.timer?)

/-- Puts back the record with which something has been done, and removes it if it is over. -/
def settle (records : TransactionRecords) (key : TransactionKey)
    (result : RecordWork TransactionRecord × RecordStep) : TransactionRecordsStep :=
  let (work, step) := result
  let records := records.store key work.record
  match step with
  | .goOn => ⟨work.actions, records, work.timers⟩
  | .finished =>
    let (records, timers) := records.finish work.timers key
    ⟨work.actions, records, timers⟩

/-- Asks another device for a service. -/
def request (records : TransactionRecords) (timers : TimerQueue TimerEvent) (now : Nat)
    (peer : Address) (service : UInt8) (parameters : Octets) (known : Option Peer) :
    Except TransactionError UInt8 × TransactionRecordsStep :=
  match RequestPlan.new records.config parameters.length known with
  | .error error => (.error error, records.unchanged timers)
  | .ok plan =>
    let inUse (id : UInt8) := records.stored.contains (.client peer id)
    let (id, invokeIds) := records.invokeIds.allocate peer inUse
    let records := { records with invokeIds }
    match id with
    | none => (.error (.noInvokeId peer), records.unchanged timers)
    | some id =>
      let key := TransactionKey.client peer id
      let work := ClientRecord.start ⟨key, records.config, now⟩ timers service parameters plan
      (.ok id, ⟨work.actions, records.store key (.client work.record), work.timers⟩)

/-- Takes a message of another device. -/
def receive (records : TransactionRecords) (timers : TimerQueue TimerEvent) (now : Nat)
    (peer : Address) (apdu : Apdu) : TransactionRecordsStep :=
  match Transactions.keyOf? peer apdu with
  | none => records.unchanged timers
  | some key =>
    let context : RecordContext := ⟨key, records.config, now⟩
    match records.stored.find? key, apdu with
    | some record, _ =>
      records.settle key <| record.work timers (ClientRecord.onApdu · context apdu)
        (ServerRecord.onApdu · context apdu)
    | none, .confirmedRequest request =>
      let work := ServerRecord.start context timers request
      match work.record with
      | none => ⟨work.actions, records, work.timers⟩
      | some record => ⟨work.actions, records.store key (.server record), work.timers⟩
    | none, _ => records.unchanged timers

/-- Answers a request on which the application works. -/
def respond (records : TransactionRecords) (timers : TimerQueue TimerEvent) (now : Nat)
    (peer : Address) (invokeId : UInt8) (outcome : Outcome) :
    Except TransactionError TransactionRecordsStep :=
  let key := TransactionKey.server peer invokeId
  match records.stored.find? key with
  | some (.server record) =>
    if record.state ≠ .processing then .error (.unknownTransaction key)
    else
      let result := ServerRecord.respond ⟨record, timers, []⟩ ⟨key, records.config, now⟩ outcome
      .ok (records.settle key (result.map (·.map .server) id))
  | _ => .error (.unknownTransaction key)

/-- Ends a transaction, if there is one with this name. -/
def abort (records : TransactionRecords) (timers : TimerQueue TimerEvent) (now : Nat)
    (key : TransactionKey) (reason : AbortReason) : TransactionRecordsStep :=
  let context : RecordContext := ⟨key, records.config, now⟩
  match records.stored.find? key with
  | none => records.unchanged timers
  | some record =>
    let (work, _) := record.work timers (ClientRecord.abortWith · context reason)
      (ServerRecord.abortWith · context reason)
    records.settle key (work, .finished)

/-- Tells a transaction that a timer has run out. A timer that is not its own means nothing. -/
def timeout (records : TransactionRecords) (timers : TimerQueue TimerEvent) (now : Nat)
    (handle : TimerHandle) (key : TransactionKey) : TransactionRecordsStep :=
  let context : RecordContext := ⟨key, records.config, now⟩
  match records.stored.find? key with
  | none => records.unchanged timers
  | some record =>
    if record.timer? ≠ some handle then records.unchanged timers
    else
      records.settle key <| record.withoutTimer.work timers (ClientRecord.onTimeout · context)
        (ServerRecord.onTimeout · context)

end TransactionRecords

end BACnet
