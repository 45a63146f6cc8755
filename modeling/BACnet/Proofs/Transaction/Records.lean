import BACnet.Proofs.Segment.Window
import BACnet.Proofs.Transaction.Reaction
import BACnet.Transaction.Record

/-!
# What records do

The record of a transaction (`Transaction.record`) has a window just in the state that needs it.
What is done with it is what the transaction wants done (`RecordWork.Follows`): it goes on as
before, it is over, or it goes on with a new timer.
-/

namespace BACnet

/-! ## Records -/

/-- The record of a request of this device. -/
def ClientTransaction.record (client : ClientTransaction) (config : Config) (invokeId : UInt8)
    (timer : Option TimerHandle) : ClientRecord where
  state := match client.phase with
    | .segmentedRequest => .segmentedRequest
    | .awaitingAck => .awaitingAck
    | .segmentedReceive _ => .segmentedReceive
  request :=
    { segmentedResponseAccepted := config.segmentation.canReceive
      maxSegments := config.maxSegments
      maxApdu := config.maxApdu
      invokeId
      segment := none
      service := client.service
      parameters := client.send.payload.data }
  send := client.send
  retries := client.retries
  receive := client.receiveWindow?
  timer

/-- The record of a request of another device. -/
def ServerTransaction.record (server : ServerTransaction) (timer : Option TimerHandle) :
    ServerRecord where
  state := match server.phase with
    | .segmentedReceive _ => .segmentedReceive
    | .processing => .processing
    | .segmentedResponse _ => .segmentedResponse
  service := server.service
  segmentedResponseAccepted := server.segmentedResponseAccepted
  maxApdu := server.maxApdu.size
  maxSegments := server.maxSegments.count?
  receive := server.receiveWindow?
  send := server.sendWindow?
  timer

/-- The record of a transaction. -/
def Transaction.record (config : Config) (invokeId : UInt8) (timer : Option TimerHandle) :
    Transaction → TransactionRecord
  | client transaction => .client (transaction.record config invokeId timer)
  | server transaction => .server (transaction.record timer)

theorem RecordContext.abortApdu_eq (context : RecordContext) {side : Side}
    (sided : context.key.side = side) (reason : AbortReason) :
    context.abortApdu reason = .abort side.isServer context.key.invokeId reason := by
  rw [abortApdu, sided]

theorem RecordContext.ackApdu_eq (context : RecordContext) {side : Side}
    (sided : context.key.side = side) (negative : Bool) (number size : UInt8) :
    context.ackApdu negative number size =
      .segmentAck ⟨negative, side.isServer, context.key.invokeId, number, size⟩ := by
  rw [ackApdu, sided]

theorem Transaction.timer?_record (transaction : Transaction) (config : Config) (invokeId : UInt8)
    (timer : Option TimerHandle) : (transaction.record config invokeId timer).timer? = timer := by
  cases transaction <;> rfl

theorem ServerTransaction.state_record_eq_processing_iff (server : ServerTransaction)
    (timer : Option TimerHandle) :
    (server.record timer).state = .processing ↔ server.phase = .processing := by
  rw [record]
  cases server.phase <;> simp

/-! ## Following a reaction -/

namespace RecordWork

variable {ρ σ τ : Type} {context : RecordContext} {embed : σ → Option TimerHandle → ρ}
  {timer? : ρ → Option TimerHandle} {before : RecordWork ρ} {result : RecordWork ρ × RecordStep}
  {reaction : Reaction σ}

/-- What has been done with a record is the reaction of a transaction. What the transaction wants
done has been put out, and the record stays as it was, or its transaction is over, or it is the
record of the transaction that goes on, with a new timer. -/
inductive Follows (context : RecordContext) (embed : σ → Option TimerHandle → ρ)
    (timer? : ρ → Option TimerHandle) (before : RecordWork ρ)
    (result : RecordWork ρ × RecordStep) : Reaction σ → Prop where
  | keep {effects : List TransactionEffect}
    (actions : result.1.actions = (before.put context effects).actions)
    (record : result.1.record = before.record) (timers : result.1.timers = before.timers)
    (step : result.2 = .goOn) : Follows context embed timer? before result ⟨effects, .keep⟩
  | finish {effects : List TransactionEffect}
    (actions : result.1.actions = (before.put context effects).actions)
    (timer : timer? result.1.record = timer? before.record)
    (timers : result.1.timers = before.timers) (step : result.2 = .finished) :
    Follows context embed timer? before result ⟨effects, .finish⟩
  | restart {effects : List TransactionEffect} {after : σ} {span : Nat}
    (actions : result.1.actions = (before.put context effects).actions)
    (record : result.1.record =
      embed after (some (context.restart before.timers (timer? before.record) span).1))
    (timers : result.1.timers = (context.restart before.timers (timer? before.record) span).2)
    (step : result.2 = .goOn) :
    Follows context embed timer? before result ⟨effects, .restart after span⟩

theorem Follows.ignore (work : RecordWork ρ) :
    Follows context embed timer? work (work, .goOn) .ignore :=
  .keep (List.append_nil _).symm rfl rfl rfl

/-- A reaction with more to do before it is followed if this has been done before. -/
theorem Follows.after {effects : List TransactionEffect}
    (follows : Follows context embed timer? (before.put context effects) result reaction) :
    Follows context embed timer? before result (.after effects reaction) := by
  have joined (more : List TransactionEffect) :
      ((before.put context effects).put context more).actions =
        (before.put context (effects ++ more)).actions := by
    simp [put]
  cases follows with
  | keep actions record timers step =>
    exact .keep (actions.trans (joined _)) record timers step
  | finish actions timer timers step =>
    exact .finish (actions.trans (joined _)) timer timers step
  | restart actions record timers step =>
    exact .restart (actions.trans (joined _)) record timers step

/-- What is done with a record is done with it as a part of a larger one. -/
theorem Follows.map {π : Type} {embedAll : τ → Option TimerHandle → π}
    {timerAll? : π → Option TimerHandle}
    (follows : Follows context embed timer? before result reaction)
    (change : ρ → π) (wrap : σ → τ) (timed : ∀ record, timerAll? (change record) = timer? record)
    (embeds : ∀ state timer, change (embed state timer) = embedAll (wrap state) timer) :
    Follows context embedAll timerAll? (before.map change) (result.map (·.map change) id)
      (reaction.map wrap) := by
  cases follows with
  | keep actions record rest step =>
    exact .keep actions (congrArg change record) rest step
  | finish actions timer rest step =>
    exact .finish actions (((timed _).trans timer).trans (timed _).symm) rest step
  | restart actions record rest step =>
    rw [← timed before.record] at record rest
    exact .restart actions ((congrArg change record).trans (embeds _ _)) rest step

/-- The record asks the same question as the transaction. -/
theorem Follows.ite {p : Prop} [Decidable p] {yes no : RecordWork ρ × RecordStep}
    {reactionYes reactionNo : Reaction σ}
    (whenYes : Follows context embed timer? before yes reactionYes)
    (whenNo : Follows context embed timer? before no reactionNo) :
    Follows context embed timer? before (if p then yes else no)
      (if p then reactionYes else reactionNo) := by
  split
  · exact whenYes
  · exact whenNo

end RecordWork

/-- A segment that is taken leaves the size of the window as it is. -/
theorem ReceiveWindow.size_of_receive {window next : ReceiveWindow} {segment : Segment}
    (taken : window.receive segment = .windowFull next ∨
      window.receive segment = .complete next) : next.size = window.size := by
  unfold ReceiveWindow.receive at taken
  split at taken
  · simp at taken
  · simp at taken
  · dsimp only at taken
    split at taken
    · rcases taken with full | complete
      · cases full
      · cases complete
        rfl
    · split at taken
      · rcases taken with full | complete
        · cases full
          rfl
        · cases complete
      · simp at taken

theorem SendWindow.segments_countRetry (window : SendWindow) (count index : Nat) :
    window.countRetry.segments count index = window.segments count index := by
  induction count generalizing index with
  | zero => rfl
  | succ count ih =>
    simp only [segments, ih]
    rfl

theorem SendWindow.pending_countRetry (window : SendWindow) :
    window.countRetry.pending = window.pending := by
  simp only [pending, current, segments_countRetry]
  rfl

/-! ## The side that asks -/

namespace ClientRecord

variable {context : RecordContext} {client : ClientTransaction} {timer : Option TimerHandle}
  {timers : TimerQueue TimerEvent} {actions : List TransactionAction}

/-- What has been done with the record of a request is the reaction of the request. -/
abbrev Follows (context : RecordContext) (before : Work) (result : Work × RecordStep)
    (reaction : Reaction ClientTransaction) : Prop :=
  RecordWork.Follows context
    (fun client timer => client.record context.config context.key.invokeId timer)
    ClientRecord.timer before result reaction

/-- The record of a request at work. -/
abbrev atWork (context : RecordContext) (client : ClientTransaction) (timer : Option TimerHandle)
    (timers : TimerQueue TimerEvent) (actions : List TransactionAction) : Work :=
  ⟨client.record context.config context.key.invokeId timer, timers, actions⟩

theorem follows_complete (work : Work) (outcome : Outcome) :
    Follows context work (complete work context outcome) (ClientTransaction.conclude outcome) :=
  .finish rfl rfl rfl rfl

theorem follows_abortWith (asks : context.key.side = .client) (work : Work)
    (reason : AbortReason) :
    Follows context work (abortWith work context reason)
      (ClientTransaction.abort context.key.invokeId reason) := by
  rw [abortWith, context.abortApdu_eq asks]
  exact (follows_complete _ _).after

/-- A request that collects no answer is sent from its beginning. -/
theorem follows_sendRequest {record : ClientRecord} (client : ClientTransaction)
    (idle : client.receiveWindow? = none) (kept : record.timer = timer) :
    Follows context ⟨record, timers, actions⟩
      (sendRequest (atWork context client timer timers actions) context, .goOn)
      (client.transmit context.config context.key.invokeId) := by
  subst kept
  unfold sendRequest ClientTransaction.transmit
  obtain ⟨service, send, retries, phase⟩ := client
  cases phase with
  | segmentedReceive window => cases idle
  | segmentedRequest | awaitingAck =>
    dsimp only [atWork, ClientTransaction.record]
    split
    · exact .restart rfl rfl rfl rfl
    · exact .restart rfl rfl rfl rfl

/-- A new request is sent from its beginning, and has had no timer. -/
theorem follows_start (context : RecordContext) (timers : TimerQueue TimerEvent) (service : UInt8)
    (parameters : Octets) (plan : RequestPlan) :
    ∃ record : ClientRecord, record.timer = none ∧
      Follows context ⟨record, timers, []⟩ (start context timers service parameters plan, .goOn)
        (ClientTransaction.start context.config context.key.invokeId service parameters plan) := by
  let send := SendWindow.new (.new parameters plan.segmentSize) context.config.proposedWindow
  refine ⟨ClientTransaction.record ⟨service, send, 0, .awaitingAck⟩ context.config
    context.key.invokeId none, rfl, ?_⟩
  unfold start
  by_cases more : 1 < plan.segments
  · simp only [if_pos more]
    exact follows_sendRequest ⟨service, send, 0, .segmentedRequest⟩ rfl rfl
  · simp only [if_neg more]
    exact follows_sendRequest ⟨service, send, 0, .awaitingAck⟩ rfl rfl

theorem follows_startReceive (asks : context.key.side = .client) (segment : Segment) :
    Follows context (atWork context client timer timers actions)
      (startReceive (atWork context client timer timers actions) context segment)
      (client.startReceive context.config context.key.invokeId segment) := by
  unfold startReceive ClientTransaction.startReceive
  split
  · exact follows_abortWith asks _ _
  · split
    · exact follows_abortWith asks _ _
    · cases ReceiveWindow.start segment.data segment.header.windowSize context.config with
      | error fault => exact follows_abortWith asks _ _
      | ok window =>
        dsimp only
        rw [context.ackApdu_eq asks]
        apply RecordWork.Follows.after
        by_cases more : segment.header.moreFollows = true
        · rw [if_neg (not_not_intro more), if_pos more]
          exact .restart (List.append_nil _).symm rfl rfl rfl
        · rw [if_pos more, if_neg more]
          exact follows_complete _ _

theorem follows_awaitConfirmation (asks : context.key.side = .client) (apdu : Apdu) :
    Follows context (atWork context client timer timers actions)
      (awaitConfirmation (atWork context client timer timers actions) context apdu)
      (client.receiveAnswer context.config context.key.invokeId apdu) := by
  unfold awaitConfirmation ClientTransaction.receiveAnswer
  cases apdu with
  | simpleAck invokeId service => exact follows_complete _ _
  | complexAck answer =>
    obtain ⟨invokeId, segment, service, parameters⟩ := answer
    cases segment with
    | none => exact follows_complete _ _
    | some header => exact follows_startReceive asks ⟨header, parameters⟩
  | error invokeId service errorClass errorCode => exact follows_complete _ _
  | reject invokeId reason => exact follows_complete _ _
  | abort server invokeId reason => exact follows_complete _ _
  | confirmedRequest _ | unconfirmedRequest _ _ | segmentAck _ => exact .ignore _

theorem follows_acknowledge (idle : client.receiveWindow? = none) (received : SegmentAck) :
    Follows context (atWork context client timer timers actions)
      (acknowledge (atWork context client timer timers actions) context received)
      (client.acknowledge context.config context.key.invokeId received) := by
  have payload := client.send.payload_acknowledge received.sequenceNumber received.windowSize
  unfold acknowledge ClientTransaction.acknowledge
  dsimp only [atWork, ClientTransaction.record]
  generalize client.send.acknowledge received.sequenceNumber received.windowSize = result
    at payload ⊢
  obtain ⟨outcome, send⟩ := result
  -- The segments are those of the same message.
  have same (phase : ClientPhase) (timer : Option TimerHandle) :
      ClientTransaction.record { client with send, phase } context.config context.key.invokeId
        timer = { ClientTransaction.record { client with phase } context.config
          context.key.invokeId timer with send } := by
    rw [ClientTransaction.record, payload]
    rfl
  cases outcome with
  | duplicate => exact .restart (List.append_nil _).symm (same _ _).symm rfl rfl
  | complete =>
    obtain ⟨service, sent, retries, phase⟩ := client
    cases phase with
    | segmentedReceive window => cases idle
    | segmentedRequest | awaitingAck =>
      exact .restart (List.append_nil _).symm (same .awaitingAck _).symm rfl rfl
  | advanced => exact .restart rfl (same _ _).symm rfl rfl

theorem follows_segmentedRequest (asks : context.key.side = .client)
    (idle : client.receiveWindow? = none) (apdu : Apdu) :
    Follows context (atWork context client timer timers actions)
      (segmentedRequest (atWork context client timer timers actions) context apdu)
      (client.receiveEarly context.config context.key.invokeId apdu) := by
  unfold segmentedRequest ClientTransaction.receiveEarly
  cases apdu with
  | segmentAck received => exact follows_acknowledge idle received
  | simpleAck _ _ | complexAck _ => exact follows_abortWith asks _ _
  | error _ _ _ _ | reject _ _ | abort _ _ _ => exact follows_awaitConfirmation asks _
  | confirmedRequest _ | unconfirmedRequest _ _ => exact .ignore _

theorem follows_collect (asks : context.key.side = .client) {window : ReceiveWindow}
    (collects : client.phase = .segmentedReceive window) (segment : Segment) :
    Follows context (atWork context client timer timers actions)
      (collect (atWork context client timer timers actions) context segment)
      (client.collect context.config context.key.invokeId window segment) := by
  obtain ⟨service, send, retries, phase⟩ := client
  cases collects
  unfold collect ClientTransaction.collect
  dsimp only [atWork, ClientTransaction.record, ClientTransaction.receiveWindow?]
  simp only [context.ackApdu_eq asks]
  cases taken : window.receive segment with
  | overflow => exact follows_abortWith asks _ _
  | outOfOrder => exact .restart rfl rfl rfl rfl
  | accepted next => exact .restart (List.append_nil _).symm rfl rfl rfl
  | windowFull next =>
    rw [← ReceiveWindow.size_of_receive (.inl taken)]
    exact .restart rfl rfl rfl rfl
  | complete next =>
    rw [← ReceiveWindow.size_of_receive (.inr taken)]
    apply RecordWork.Follows.after
    exact .finish rfl rfl rfl rfl

theorem follows_segmentedConfirmation (asks : context.key.side = .client) {window : ReceiveWindow}
    (collects : client.phase = .segmentedReceive window) (apdu : Apdu) :
    Follows context (atWork context client timer timers actions)
      (segmentedConfirmation (atWork context client timer timers actions) context apdu)
      (client.receiveSegment context.config context.key.invokeId window apdu) := by
  unfold segmentedConfirmation ClientTransaction.receiveSegment
  cases apdu with
  | complexAck answer =>
    obtain ⟨invokeId, segment, service, parameters⟩ := answer
    cases segment with
    | none => exact follows_abortWith asks _ _
    | some header => exact follows_collect asks collects ⟨header, parameters⟩
  | abort server invokeId reason => exact follows_complete _ _
  | confirmedRequest _ | unconfirmedRequest _ _ | simpleAck _ _ | segmentAck _ | error _ _ _ _
  | reject _ _ => exact follows_abortWith asks _ _

/-- The record of a request takes a message as the request does. -/
theorem follows_onApdu (asks : context.key.side = .client) (client : ClientTransaction)
    (apdu : Apdu) :
    Follows context (atWork context client timer timers actions)
      (onApdu (atWork context client timer timers actions) context apdu)
      (client.receive context.config context.key.invokeId apdu) := by
  obtain ⟨service, send, retries, phase⟩ := client
  cases phase with
  | segmentedRequest => exact follows_segmentedRequest asks rfl apdu
  | awaitingAck => exact follows_awaitConfirmation asks apdu
  | segmentedReceive window => exact follows_segmentedConfirmation asks rfl apdu

/-- The record of a request whose timer has run out does what the request does. -/
theorem follows_onTimeout (client : ClientTransaction) :
    Follows context (atWork context client timer timers actions)
      (onTimeout (atWork context client timer timers actions) context)
      (client.timeout context.config context.key.invokeId) := by
  obtain ⟨service, send, retries, phase⟩ := client
  cases phase with
  | segmentedRequest =>
    refine .ite (.restart ?_ rfl rfl rfl) (follows_complete _ _)
    rw [← send.pending_countRetry]
    rfl
  | awaitingAck =>
    exact .ite (follows_sendRequest ⟨service, send, retries + 1, .awaitingAck⟩ rfl rfl)
      (follows_complete _ _)
  | segmentedReceive window => exact follows_complete _ (.error .timeout)

end ClientRecord

/-! ## The side that answers -/

namespace ServerRecord

variable {context : RecordContext} {server : ServerTransaction} {timer : Option TimerHandle}
  {timers : TimerQueue TimerEvent} {actions : List TransactionAction}

/-- What has been done with the record of a request is the reaction to the request. -/
abbrev Follows (context : RecordContext) (before : Work) (result : Work × RecordStep)
    (reaction : Reaction ServerTransaction) : Prop :=
  RecordWork.Follows context (fun server timer => server.record timer) ServerRecord.timer before
    result reaction

/-- The record of a request at work. -/
abbrev atWork (server : ServerTransaction) (timer : Option TimerHandle)
    (timers : TimerQueue TimerEvent) (actions : List TransactionAction) : Work :=
  ⟨server.record timer, timers, actions⟩

/-- The last message ends a request. -/
theorem follows_conclude (work : Work) (apdu : Apdu) (state : ServerState) :
    Follows context work (enter (work.send context apdu) state, .finished)
      (ServerTransaction.conclude apdu) :=
  .finish rfl rfl rfl rfl

theorem follows_abortWith (answers : context.key.side = .server) (work : Work)
    (reason : AbortReason) :
    Follows context work (abortWith work context reason)
      (ServerTransaction.abort context.key.invokeId reason) := by
  rw [abortWith, context.abortApdu_eq answers]
  exact follows_conclude _ _ _

theorem follows_collect (answers : context.key.side = .server) {window : ReceiveWindow}
    (collects : server.phase = .segmentedReceive window) (request : ConfirmedRequest) :
    Follows context (atWork server timer timers actions)
      (collect (atWork server timer timers actions) context request)
      (server.receive context.config context.key.invokeId (.confirmedRequest request)) := by
  obtain ⟨service, accepted, maxApdu, maxSegments, phase⟩ := server
  cases collects
  obtain ⟨segmentedResponseAccepted, requestSegments, requestApdu, invokeId, segment, requested,
    parameters⟩ := request
  cases segment with
  | none => exact follows_abortWith answers _ _
  | some header =>
    unfold collect
    dsimp only [atWork, ServerTransaction.record, ServerTransaction.receiveWindow?,
      ServerTransaction.receive, ServerTransaction.collect]
    simp only [context.ackApdu_eq answers]
    cases taken : window.receive ⟨header, parameters⟩ with
    | overflow => exact follows_abortWith answers _ _
    | outOfOrder => exact .restart rfl rfl rfl rfl
    | accepted next => exact .restart (List.append_nil _).symm rfl rfl rfl
    | windowFull next =>
      rw [← ReceiveWindow.size_of_receive (.inl taken)]
      exact .restart rfl rfl rfl rfl
    | complete next =>
      rw [← ReceiveWindow.size_of_receive (.inr taken)]
      apply RecordWork.Follows.after
      exact .restart rfl rfl rfl rfl

theorem follows_respondComplex (answers : context.key.side = .server)
    (working : server.phase = .processing) (parameters : Octets) :
    Follows context (atWork server timer timers actions)
      (respondComplex (atWork server timer timers actions) context parameters)
      (server.respondComplex context.config context.key.invokeId parameters) := by
  obtain ⟨service, accepted, maxApdu, maxSegments, phase⟩ := server
  cases working
  exact .ite (follows_conclude _ _ _) <| .ite (follows_abortWith answers _ _) <|
    .ite (follows_abortWith answers _ _) (.restart rfl rfl rfl rfl)

/-- The record of a request takes an answer as the request does. -/
theorem follows_respond (answers : context.key.side = .server)
    (working : server.phase = .processing) (outcome : Outcome) :
    Follows context (atWork server timer timers actions)
      (respond (atWork server timer timers actions) context outcome)
      (server.respond context.config context.key.invokeId outcome) := by
  cases outcome with
  | ok ack =>
    cases ack with
    | simple => exact follows_conclude _ _ _
    | complex parameters => exact follows_respondComplex answers working parameters
  | error failure =>
    cases failure with
    | error errorClass errorCode => exact follows_conclude _ _ _
    | reject reason => exact follows_conclude _ _ _
    | abort reason server => exact follows_abortWith answers _ _
    | timeout => exact follows_abortWith answers _ _

theorem follows_acknowledge {window : SendWindow}
    (sends : server.phase = .segmentedResponse window) (received : SegmentAck) :
    Follows context (atWork server timer timers actions)
      (acknowledge (atWork server timer timers actions) context received)
      (server.acknowledge context.config context.key.invokeId window received) := by
  obtain ⟨service, accepted, maxApdu, maxSegments, phase⟩ := server
  cases sends
  unfold acknowledge ServerTransaction.acknowledge
  dsimp only [atWork, ServerTransaction.record, ServerTransaction.sendWindow?]
  generalize window.acknowledge received.sequenceNumber received.windowSize = result
  obtain ⟨outcome, send⟩ := result
  cases outcome with
  | duplicate => exact .restart (List.append_nil _).symm rfl rfl rfl
  | complete => exact .finish (List.append_nil _).symm rfl rfl rfl
  | advanced => exact .restart rfl rfl rfl rfl

/-- The record of a request takes a message as the request does. -/
theorem follows_onApdu (answers : context.key.side = .server) (server : ServerTransaction)
    (apdu : Apdu) :
    Follows context (atWork server timer timers actions)
      (onApdu (atWork server timer timers actions) context apdu)
      (server.receive context.config context.key.invokeId apdu) := by
  obtain ⟨service, accepted, maxApdu, maxSegments, phase⟩ := server
  cases apdu with
  | abort server invokeId reason =>
    cases phase <;> exact .finish (List.append_nil _).symm rfl rfl rfl
  | confirmedRequest request =>
    cases phase with
    | segmentedReceive window => exact follows_collect answers rfl request
    | processing | segmentedResponse _ => exact .ignore _
  | segmentAck received =>
    cases phase with
    | segmentedResponse window => exact follows_acknowledge rfl received
    | processing | segmentedReceive _ => exact .ignore _
  | unconfirmedRequest _ _ | simpleAck _ _ | complexAck _ | error _ _ _ _ | reject _ _ =>
    cases phase <;> exact .ignore _

/-- The record of a request whose timer has run out does what the request does. -/
theorem follows_onTimeout (answers : context.key.side = .server) (server : ServerTransaction) :
    Follows context (atWork server timer timers actions)
      (onTimeout (atWork server timer timers actions) context)
      (server.timeout context.config context.key.invokeId) := by
  obtain ⟨service, accepted, maxApdu, maxSegments, phase⟩ := server
  cases phase with
  | segmentedReceive window => exact .finish (List.append_nil _).symm rfl rfl rfl
  | processing => exact follows_abortWith answers _ _
  | segmentedResponse window =>
    refine .ite (.restart ?_ rfl rfl rfl) (.finish (List.append_nil _).symm rfl rfl rfl)
    rw [← window.pending_countRetry]
    rfl

/-- What has been done with a new request. It goes on if a record is kept of it. -/
def kept (work : RecordWork (Option ServerRecord)) :
    RecordWork (Option ServerRecord) × RecordStep :=
  (work, work.record.elim .finished fun _ => .goOn)

/-- A new request leads to a record unless it is refused. -/
theorem follows_start (answers : context.key.side = .server) {request : ConfirmedRequest}
    (named : request.invokeId = context.key.invokeId) :
    RecordWork.Follows context (fun server timer => some (ServerTransaction.record server timer))
      (·.bind ServerRecord.timer) ⟨none, timers, []⟩ (kept (start context timers request))
      (ServerTransaction.start context.config request) := by
  obtain ⟨accepted, maxSegments, maxApdu, invokeId, segment, service, parameters⟩ := request
  cases named
  cases segment with
  | none => exact .restart rfl rfl rfl rfl
  | some header =>
    unfold start ServerTransaction.start ServerTransaction.startReceive
    dsimp only
    by_cases receives : context.config.segmentation.canReceive = true
    · by_cases first : header.sequenceNumber = 0
      · simp only [receives, first, not_true_eq_false, if_false, ne_eq]
        cases ReceiveWindow.start parameters header.windowSize context.config with
        | error fault =>
          dsimp only
          rw [context.abortApdu_eq answers]
          exact .finish rfl rfl rfl rfl
        | ok window =>
          dsimp only
          rw [context.ackApdu_eq answers]
          apply RecordWork.Follows.after
          by_cases more : header.moreFollows = true
          · simp only [more, if_true]
            exact .restart (List.append_nil _).symm rfl rfl rfl
          · simp only [more]
            exact .restart rfl rfl rfl rfl
      · simp only [receives, first, not_true_eq_false, if_false, ne_eq, not_false_eq_true, if_true]
        rw [context.abortApdu_eq answers]
        exact .finish rfl rfl rfl rfl
    · simp only [receives]
      rw [context.abortApdu_eq answers]
      exact .finish rfl rfl rfl rfl

end ServerRecord

/-! ## Either side -/

namespace Transaction

variable {context : RecordContext} {timers : TimerQueue TimerEvent}

/-- What has been done with the record of a transaction is the reaction of the transaction. -/
abbrev Follows (context : RecordContext) (before : RecordWork TransactionRecord)
    (result : RecordWork TransactionRecord × RecordStep) (reaction : Reaction Transaction) : Prop :=
  RecordWork.Follows context
    (fun transaction timer => transaction.record context.config context.key.invokeId timer)
    TransactionRecord.timer? before result reaction

theorem follows_client {before : ClientRecord.Work} {result : ClientRecord.Work × RecordStep}
    {reaction : Reaction ClientTransaction}
    (follows : ClientRecord.Follows context before result reaction) :
    Follows context (before.map .client) (result.map (·.map .client) id) (reaction.map .client) :=
  follows.map _ _ (fun _ => rfl) fun _ _ => rfl

theorem follows_server {before : ServerRecord.Work} {result : ServerRecord.Work × RecordStep}
    {reaction : Reaction ServerTransaction}
    (follows : ServerRecord.Follows context before result reaction) :
    Follows context (before.map .server) (result.map (·.map .server) id) (reaction.map .server) :=
  follows.map _ _ (fun _ => rfl) fun _ _ => rfl

theorem follows_onApdu {transaction : Transaction} (sided : transaction.side = context.key.side)
    (timer : Option TimerHandle) (apdu : Apdu) :
    let record := transaction.record context.config context.key.invokeId timer
    Follows context ⟨record, timers, []⟩
      (record.work timers (ClientRecord.onApdu · context apdu) (ServerRecord.onApdu · context apdu))
      (transaction.receive context.config context.key.invokeId apdu) := by
  cases transaction with
  | client client =>
    exact follows_client (ClientRecord.follows_onApdu sided.symm client apdu)
  | server server =>
    exact follows_server (ServerRecord.follows_onApdu sided.symm server apdu)

theorem follows_abort {transaction : Transaction} (sided : transaction.side = context.key.side)
    (timer : Option TimerHandle) (reason : AbortReason) :
    let record := transaction.record context.config context.key.invokeId timer
    Follows context ⟨record, timers, []⟩
      (record.work timers (ClientRecord.abortWith · context reason)
        (ServerRecord.abortWith · context reason))
      (transaction.abort context.key.invokeId reason) := by
  cases transaction with
  | client client =>
    let work := ClientRecord.atWork context client timer timers []
    exact follows_client (ClientRecord.follows_abortWith sided.symm work reason)
  | server server =>
    let work := ServerRecord.atWork server timer timers []
    exact follows_server (ServerRecord.follows_abortWith sided.symm work reason)

theorem follows_onTimeout {transaction : Transaction} (sided : transaction.side = context.key.side)
    (timer : Option TimerHandle) :
    let record := transaction.record context.config context.key.invokeId timer
    Follows context ⟨record.withoutTimer, timers, []⟩
      (record.withoutTimer.work timers (ClientRecord.onTimeout · context)
        (ServerRecord.onTimeout · context))
      (transaction.timeout context.config context.key.invokeId) := by
  cases transaction with
  | client client =>
    exact follows_client (ClientRecord.follows_onTimeout client)
  | server server =>
    exact follows_server (ServerRecord.follows_onTimeout sided.symm server)

end Transaction

end BACnet
