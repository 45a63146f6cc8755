import BACnet.Proofs.Segment.Window
import BACnet.Transaction.Client

/-!
# The messages of a request

Whatever arrives for a request of this device, the request ends, goes on with the segments of its
answer, goes on with its own segments, or is left alone. `ClientTransaction.takes_receive` says this
once, so that what is proved about messages need not look at the branches of the machine again.

Whatever happens to a request, it sends all of itself, some of its segments, or nothing of itself,
and it stays the same request: this is `ClientTransaction.Utters`.
-/

namespace BACnet

/-- The effect is a message that does not carry any part of the request: an acknowledgment of
segments, or an abort. -/
def TransactionEffect.IsControl (invokeId : UInt8) : TransactionEffect → Prop
  | send (.segmentAck ack) => ack.server = false ∧ ack.invokeId = invokeId
  | send (.abort server id _) => server = false ∧ id = invokeId
  | _ => False

namespace ClientTransaction

/-- What a message can do to a request. -/
inductive Takes (client : ClientTransaction) (config : Config) (invokeId : UInt8) (apdu : Apdu) :
    Reaction ClientTransaction → Prop where
  | ends {effects : List TransactionEffect}
    (controls : ∀ effect ∈ effects, effect.IsControl invokeId) (outcome : Outcome) :
    Takes client config invokeId apdu (.after effects (conclude outcome))
  | ignores : Takes client config invokeId apdu .ignore
  /-- The segments of the answer are collected, which is not done before the request is complete. -/
  | collects {effects : List TransactionEffect} (complete : client.phase ≠ .segmentedRequest)
    (controls : ∀ effect ∈ effects, effect.IsControl invokeId) (window : ReceiveWindow) :
    Takes client config invokeId apdu
      ⟨effects, .restart { client with phase := .segmentedReceive window } config.segmentSpan⟩
  /-- Segments of the request have been acknowledged. -/
  | acknowledges {received : SegmentAck} (sending : client.phase = .segmentedRequest)
    (same : apdu = .segmentAck received) :
    Takes client config invokeId apdu (client.acknowledge config invokeId received)

variable (client : ClientTransaction) (config : Config) (invokeId : UInt8) {apdu : Apdu}

theorem takes_conclude (outcome : Outcome) :
    Takes client config invokeId apdu (conclude outcome) :=
  .ends (List.forall_mem_nil _) outcome

theorem isControl_abort (reason : AbortReason) :
    ∀ effect ∈ [TransactionEffect.send (.abort false invokeId reason)],
      effect.IsControl invokeId :=
  List.forall_mem_singleton.mpr ⟨rfl, rfl⟩

theorem takes_abort (reason : AbortReason) :
    Takes client config invokeId apdu (abort invokeId reason) :=
  .ends (isControl_abort invokeId reason) _

theorem isControl_ack (negative : Bool) (number size : UInt8) :
    ∀ effect ∈ [ack invokeId negative number size], effect.IsControl invokeId :=
  List.forall_mem_singleton.mpr ⟨rfl, rfl⟩

theorem takes_startReceive (complete : client.phase ≠ .segmentedRequest) (segment : Segment) :
    Takes client config invokeId apdu (client.startReceive config invokeId segment) := by
  unfold startReceive
  split
  · exact takes_abort client config invokeId _
  · split
    · exact takes_abort client config invokeId _
    · split
      · exact takes_abort client config invokeId _
      · split
        · exact .collects complete (isControl_ack invokeId _ _ _) _
        · exact .ends (isControl_ack invokeId _ _ _) _

theorem takes_receiveAnswer (complete : client.phase ≠ .segmentedRequest) :
    Takes client config invokeId apdu (client.receiveAnswer config invokeId apdu) := by
  unfold receiveAnswer
  split
  · exact takes_conclude client config invokeId _
  · split
    · exact takes_conclude client config invokeId _
    · exact takes_startReceive client config invokeId complete _
  · exact takes_conclude client config invokeId _
  · exact takes_conclude client config invokeId _
  · exact takes_conclude client config invokeId _
  · exact .ignores

theorem takes_receiveEarly (sending : client.phase = .segmentedRequest) :
    Takes client config invokeId apdu (client.receiveEarly config invokeId apdu) := by
  cases apdu with
  | segmentAck received => exact .acknowledges sending rfl
  | simpleAck id service => exact takes_abort client config invokeId _
  | complexAck answer => exact takes_abort client config invokeId _
  | error id service errorClass errorCode => exact takes_conclude client config invokeId _
  | reject id reason => exact takes_conclude client config invokeId _
  | abort server id reason => exact takes_conclude client config invokeId _
  | confirmedRequest request => exact .ignores
  | unconfirmedRequest service parameters => exact .ignores

theorem takes_receiveSegment (complete : client.phase ≠ .segmentedRequest)
    (window : ReceiveWindow) :
    Takes client config invokeId apdu (client.receiveSegment config invokeId window apdu) := by
  unfold receiveSegment collect
  split
  · split
    · dsimp only
      split
      · exact takes_abort client config invokeId _
      · exact .collects complete (isControl_ack invokeId _ _ _) _
      · exact .collects complete (List.forall_mem_nil _) _
      · exact .collects complete (isControl_ack invokeId _ _ _) _
      · exact .ends (isControl_ack invokeId _ _ _) _
    · exact takes_abort client config invokeId _
  · exact takes_conclude client config invokeId _
  · exact takes_abort client config invokeId _

theorem takes_receive (apdu : Apdu) :
    Takes client config invokeId apdu (client.receive config invokeId apdu) := by
  unfold receive
  cases phase : client.phase with
  | segmentedRequest => exact client.takes_receiveEarly config invokeId phase
  | awaitingAck =>
    exact client.takes_receiveAnswer config invokeId
      (fun sending => by cases phase.symm.trans sending)
  | segmentedReceive window =>
    exact client.takes_receiveSegment config invokeId
      (fun sending => by cases phase.symm.trans sending) window

/-! ## What is sent of a request -/

/-- The same request, in another phase or with other segments acknowledged. Its segments are sent if
they have been before, or if it needs more than one. -/
structure Continues (client next : ClientTransaction) : Prop where
  service : next.service = client.service
  payload : next.send.payload = client.send.payload
  sending : next.phase = .segmentedRequest →
    client.phase = .segmentedRequest ∨ client.send.isSegmented = true

/-- What a request can do. As long as it goes on it stays the same. -/
inductive Utters (client : ClientTransaction) (config : Config) (invokeId : UInt8) :
    Reaction ClientTransaction → Prop where
  | ends {effects : List TransactionEffect}
    (controls : ∀ effect ∈ effects, effect.IsControl invokeId) (outcome : Outcome) :
    Utters client config invokeId (.after effects (conclude outcome))
  | ignores : Utters client config invokeId .ignore
  | goesOn {effects : List TransactionEffect} {next : ClientTransaction} {span : Nat}
    (controls : ∀ effect ∈ effects, effect.IsControl invokeId) (same : client.Continues next) :
    Utters client config invokeId ⟨effects, .restart next span⟩
  /-- The whole request is sent, which needs no more than one segment. -/
  | whole {next : ClientTransaction} {span : Nat} (single : client.send.isSegmented = false)
    (same : client.Continues next) :
    Utters client config invokeId
      ⟨[client.request config invokeId none client.send.payload.data], .restart next span⟩
  /-- Some of its segments are sent. -/
  | parts {segments : List Segment} {next : ClientTransaction} {span : Nat}
    (sending : client.phase = .segmentedRequest ∨ client.send.isSegmented = true)
    (cut : ∀ segment ∈ segments, ∃ index, segment.CutFrom client.send.payload index)
    (same : client.Continues next) :
    Utters client config invokeId ⟨client.sendSegments config invokeId segments, .restart next span⟩

theorem utters_conclude (outcome : Outcome) : Utters client config invokeId (conclude outcome) :=
  .ends (List.forall_mem_nil _) outcome

theorem utters_abort (reason : AbortReason) : Utters client config invokeId (abort invokeId reason) :=
  .ends (isControl_abort invokeId reason) _

/-- A request is sent again from its beginning, however often that has been done. -/
theorem utters_transmit (retries : Nat) :
    Utters client config invokeId (transmit { client with retries } config invokeId) := by
  unfold transmit
  dsimp only
  split
  · next several =>
    exact .parts (.inr several) (fun _ => SendWindow.exists_cutFrom_of_pending)
      ⟨rfl, rfl, fun _ => .inr several⟩
  · next single => exact .whole (Bool.not_eq_true _ ▸ single) ⟨rfl, rfl, nofun⟩

/-- A request that has not been sent yet. -/
def unsent (config : Config) (service : UInt8) (parameters : Octets) (plan : RequestPlan) :
    ClientTransaction :=
  ⟨service, .new (.new parameters plan.segmentSize) config.proposedWindow, 0, .awaitingAck⟩

theorem utters_start (service : UInt8) (parameters : Octets) (plan : RequestPlan) :
    Utters (unsent config service parameters plan) config invokeId
      (start config invokeId service parameters plan) :=
  utters_transmit (unsent config service parameters plan) config invokeId 0

theorem utters_acknowledge (sending : client.phase = .segmentedRequest) (received : SegmentAck) :
    Utters client config invokeId (client.acknowledge config invokeId received) := by
  have payload := client.send.payload_acknowledge received.sequenceNumber received.windowSize
  unfold acknowledge
  split
  next outcome send acknowledged =>
  rw [acknowledged] at payload
  dsimp only
  split
  · exact .goesOn (List.forall_mem_nil _) ⟨rfl, payload, .inl⟩
  · exact .goesOn (List.forall_mem_nil _) ⟨rfl, payload, nofun⟩
  · refine .parts (.inl sending) ?_ ⟨rfl, payload, .inl⟩
    rw [← payload]
    exact fun _ => SendWindow.exists_cutFrom

theorem utters_receive (apdu : Apdu) :
    Utters client config invokeId (client.receive config invokeId apdu) := by
  have takes := client.takes_receive config invokeId apdu
  generalize client.receive config invokeId apdu = reaction at takes
  cases takes with
  | ends controls outcome => exact .ends controls outcome
  | ignores => exact .ignores
  | collects complete controls window => exact .goesOn controls ⟨rfl, rfl, nofun⟩
  | acknowledges sending same => exact client.utters_acknowledge config invokeId sending _

theorem utters_timeout : Utters client config invokeId (client.timeout config invokeId) := by
  unfold timeout
  split
  · next sending =>
    split
    · exact .parts (.inl sending) (fun _ => SendWindow.exists_cutFrom_of_pending)
        ⟨rfl, rfl, .inl⟩
    · exact client.utters_conclude config invokeId _
  · split
    · exact client.utters_transmit config invokeId _
    · exact client.utters_conclude config invokeId _
  · exact client.utters_conclude config invokeId _

end ClientTransaction

end BACnet
