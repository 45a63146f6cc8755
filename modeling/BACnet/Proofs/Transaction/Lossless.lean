import BACnet.Proofs.Transaction.Exchange

/-!
# Exchanges without loss

An exchange over links that lose and repeat nothing goes through a fixed sequence of stages, however
what is on its way on the two links is interleaved: the request flows, the application works, and
the answer flows. Only the acknowledgment of the last segment of the request may be late; until the
client has it the stages of the server go on without it (`ExchangePlan.Asking`). Every step leads to
a later stage (`Stage.moves`), and in every stage but the last one there is a step (`Stage.waits`).
-/

namespace BACnet

namespace ExchangePlan

variable (plan : ExchangePlan) (invokeId : UInt8)

/-- The request is too long for one message. -/
def AsksInSegments : Prop :=
  plan.client.maxApdu.size < RequestPlan.headLength + plan.request.length

/-- The answer is too long for one message. -/
def AnswersInSegments : Prop :=
  plan.client.maxApdu.size < ServerTransaction.headLength + plan.answer.length

/-- The flow of the request. -/
def requestFlow (segmented : plan.AsksInSegments) : Flow where
  payload := requestPayload plan.client plan.request
  proposed := plan.client.proposedWindow
  own := plan.server.proposedWindow
  sized := Payload.segmentSize_new _ _
  several := by
    have large := plan.client.maxApdu.fifty_le
    have long : plan.client.maxApdu.size < 4 + plan.request.length := segmented
    apply Payload.one_lt_count_new
    · exact Nat.lt_of_lt_of_le Nat.one_pos (Nat.le_max_right _ 1)
    · show max (plan.client.maxApdu.size - 6) 1 < plan.request.length
      omega

/-- The flow of the answer. -/
def answerFlow (segmented : plan.AnswersInSegments) : Flow where
  payload := answerPayload plan.client.maxApdu.size plan.answer
  proposed := plan.server.proposedWindow
  own := plan.client.proposedWindow
  sized := Payload.segmentSize_new _ _
  several := by
    have large := plan.client.maxApdu.fifty_le
    have long : plan.client.maxApdu.size < 3 + plan.answer.length := segmented
    apply Payload.one_lt_count_new
    · exact Nat.lt_of_lt_of_le Nat.one_pos (Nat.le_max_right _ 1)
    · show max (plan.client.maxApdu.size - 5) 1 < plan.answer.length
      omega

/-! ## Messages and transactions -/

/-- A message with all or some of the parameters of the request. -/
def requestApdu (segment : Option SegmentHeader) (parameters : Octets) : Apdu :=
  .confirmedRequest ⟨plan.client.segmentation.canReceive, plan.client.maxSegments,
    plan.client.maxApdu, invokeId, segment, plan.service, parameters⟩

/-- A message with all or some of the parameters of the answer. -/
def answerApdu (segment : Option SegmentHeader) (parameters : Octets) : Apdu :=
  .complexAck ⟨invokeId, segment, plan.service, parameters⟩

/-- The acknowledgment of the window that starts with a segment. -/
def windowAck (flow : Flow) (server : Bool) (first : Nat) : Apdu :=
  .segmentAck ⟨false, server, invokeId, UInt8.ofNat (flow.edge first - 1), flow.size⟩

/-- The transaction of the client. -/
def asked (send : SendWindow) (phase : ClientPhase) : ClientTransaction :=
  ⟨plan.service, send, 0, phase⟩

/-- The transaction of the server. -/
def served (phase : ServerPhase) : ServerTransaction :=
  ⟨plan.service, plan.client.segmentation.canReceive, plan.client.maxApdu,
    plan.client.maxSegments, phase⟩

/-- The transaction of the client among those of a device. -/
def asking (send : SendWindow) (phase : ClientPhase) : Transaction :=
  .client (plan.asked send phase)

/-- The transaction of the server among those of a device. -/
def serving (phase : ServerPhase) : Transaction := .server (plan.served phase)

/-- The segments of the request as messages. -/
def requestApdus (segments : List Segment) : List Apdu :=
  segments.map fun segment => plan.requestApdu invokeId (some segment.header) segment.data

/-- The segments of the answer as messages. -/
def answerApdus (segments : List Segment) : List Apdu :=
  segments.map fun segment => plan.answerApdu invokeId (some segment.header) segment.data

/-- The request as the application of the server gets it. -/
def indication : TransactionEffect := .indicate plan.service plan.request

/-- The answer as the application of the client gets it. -/
def confirmation : TransactionEffect := .confirm (.ok (.complex plan.answer))

/-! ## Stages -/

/-- The segments of the request are on their way. -/
def requesting (send : SendWindow) (server : Option Transaction) (toServer toClient : List Apdu) :
    ExchangeView :=
  ⟨some (plan.asking send .segmentedRequest), server, toServer, toClient, [], [], []⟩

/-- The application has answered, and the client has not got the answer yet. -/
def answering (client server : Option Transaction) (toServer toClient : List Apdu) : ExchangeView :=
  ⟨client, server, toServer, toClient, [], [plan.indication], []⟩

/-- The most steps that are left when the application answers. -/
def answerCost : Nat := 2 * (answerPayload plan.client.maxApdu.size plan.answer).count + 1

/-- The client while the server works, and what is on its way to it before the answer. It awaits the
answer, or first the acknowledgment of the last window of the request; the number is that of the
acknowledgments. -/
inductive Asking : Nat → Option Transaction → List Apdu → Prop where
  | waits (send : SendWindow) : Asking 0 (some (plan.asking send .awaitingAck)) []
  | lags {segmented : plan.AsksInSegments} {first : Nat} {send : SendWindow}
    (sends : (plan.requestFlow segmented).Sends first send)
    (final : (plan.requestFlow segmented).edge first = (plan.requestFlow segmented).payload.count) :
    Asking 1 (some (plan.asking send .segmentedRequest))
      [windowAck invokeId (plan.requestFlow segmented) true first]

/-- The stages of an exchange, each with the most steps that are left. -/
inductive Stage : Nat → ExchangeView → Prop where
  /-- The whole request is on its way. -/
  | asks (send : SendWindow) :
    Stage (plan.answerCost + 2) ⟨some (plan.asking send .awaitingAck), none,
      [plan.requestApdu invokeId none plan.request], [], [], [], []⟩
  /-- The first segment of the request is on its way. -/
  | opens {segmented : plan.AsksInSegments} {send : SendWindow} {segment : Segment}
    (sends : (plan.requestFlow segmented).Sends 0 send)
    (cut : segment.CutFrom (plan.requestFlow segmented).payload 0)
    (window : segment.header.windowSize = clampWindow (plan.requestFlow segmented).proposed) :
    Stage (plan.answerCost + 1 + 2 * (plan.requestFlow segmented).payload.count)
      (plan.requesting send none (plan.requestApdus invokeId [segment]) [])
  /-- A window of the request is on its way. -/
  | flows {segmented : plan.AsksInSegments} {first last : Nat} {send : SendWindow}
    {window : ReceiveWindow} {segments : List Segment}
    (sends : (plan.requestFlow segmented).Sends first send)
    (takes : (plan.requestFlow segmented).Takes first last window)
    (more : last + 1 < (plan.requestFlow segmented).edge first)
    (flight : (plan.requestFlow segmented).InFlight (last + 1)
      ((plan.requestFlow segmented).edge first) segments) :
    Stage (plan.answerCost + 1 + ((plan.requestFlow segmented).payload.count - first) +
        ((plan.requestFlow segmented).payload.count - (last + 1)))
      (plan.requesting send (some (plan.serving (.segmentedReceive window)))
        (plan.requestApdus invokeId segments) [])
  /-- The acknowledgment of a window of the request is on its way. -/
  | acks {segmented : plan.AsksInSegments} {first last : Nat} {send : SendWindow}
    {window : ReceiveWindow} (sends : (plan.requestFlow segmented).Sends first send)
    (takes : (plan.requestFlow segmented).Takes first last window)
    (ends : last + 1 = (plan.requestFlow segmented).edge first)
    (more : last + 1 < (plan.requestFlow segmented).payload.count) :
    Stage (plan.answerCost + 1 + ((plan.requestFlow segmented).payload.count - first) +
        ((plan.requestFlow segmented).payload.count - (last + 1)))
      (plan.requesting send (some (plan.serving (.segmentedReceive window))) []
        [windowAck invokeId (plan.requestFlow segmented) true first])
  /-- The application works. -/
  | works {lag : Nat} {client : Option Transaction} {ahead : List Apdu}
    (asking : Asking plan invokeId lag client ahead) :
    Stage (plan.answerCost + 1 + lag) ⟨client, some (plan.serving .processing), [], ahead, [],
      [plan.indication], [plan.indication]⟩
  /-- The whole answer is on its way. -/
  | answers {lag : Nat} {client : Option Transaction} {ahead : List Apdu}
    (asking : Asking plan invokeId lag client ahead) :
    Stage (lag + 1)
      (plan.answering client none [] (ahead ++ [plan.answerApdu invokeId none plan.answer]))
  /-- The first segment of the answer is on its way. -/
  | answerOpens {segmented : plan.AnswersInSegments} {lag : Nat} {client : Option Transaction}
    {ahead : List Apdu} {send : SendWindow} {segment : Segment}
    (asking : Asking plan invokeId lag client ahead)
    (sends : (plan.answerFlow segmented).Sends 0 send)
    (cut : segment.CutFrom (plan.answerFlow segmented).payload 0)
    (window : segment.header.windowSize = clampWindow (plan.answerFlow segmented).proposed) :
    Stage (lag + 2 * (plan.answerFlow segmented).payload.count)
      (plan.answering client (some (plan.serving (.segmentedResponse send))) []
        (ahead ++ plan.answerApdus invokeId [segment]))
  /-- A window of the answer is on its way. -/
  | answerFlows {segmented : plan.AnswersInSegments} {first last : Nat} {send asked : SendWindow}
    {window : ReceiveWindow} {segments : List Segment}
    (sends : (plan.answerFlow segmented).Sends first send)
    (takes : (plan.answerFlow segmented).Takes first last window)
    (more : last + 1 < (plan.answerFlow segmented).edge first)
    (flight : (plan.answerFlow segmented).InFlight (last + 1)
      ((plan.answerFlow segmented).edge first) segments) :
    Stage (((plan.answerFlow segmented).payload.count - first) +
        ((plan.answerFlow segmented).payload.count - (last + 1)))
      (plan.answering (some (plan.asking asked (.segmentedReceive window)))
        (some (plan.serving (.segmentedResponse send))) [] (plan.answerApdus invokeId segments))
  /-- The acknowledgment of a window of the answer is on its way. -/
  | answerAcks {segmented : plan.AnswersInSegments} {first last : Nat} {send asked : SendWindow}
    {window : ReceiveWindow} (sends : (plan.answerFlow segmented).Sends first send)
    (takes : (plan.answerFlow segmented).Takes first last window)
    (ends : last + 1 = (plan.answerFlow segmented).edge first)
    (more : last + 1 < (plan.answerFlow segmented).payload.count) :
    Stage (((plan.answerFlow segmented).payload.count - first) +
        ((plan.answerFlow segmented).payload.count - (last + 1)))
      (plan.answering (some (plan.asking asked (.segmentedReceive window)))
        (some (plan.serving (.segmentedResponse send)))
        [windowAck invokeId (plan.answerFlow segmented) false first] [])
  /-- The client has the answer, and the server waits for the last acknowledgment. -/
  | concludes {segmented : plan.AnswersInSegments} {first : Nat} {send : SendWindow}
    (sends : (plan.answerFlow segmented).Sends first send)
    (final : (plan.answerFlow segmented).edge first = (plan.answerFlow segmented).payload.count) :
    Stage 1 ⟨none, some (plan.serving (.segmentedResponse send)),
      [windowAck invokeId (plan.answerFlow segmented) false first], [], [plan.confirmation],
      [plan.indication], []⟩
  /-- The exchange is over. -/
  | ended : Stage 0 ⟨none, none, [], [], [plan.confirmation], [plan.indication], []⟩

variable {plan invokeId}

open ExchangeView (Moves reaction clientReacts serverReacts)

/-! ## The request -/

theorem receives_client (plan : ExchangePlan) :
    plan.client.segmentation.canReceive = true := by
  rw [plan.clientSegments]
  rfl

theorem receives_server (plan : ExchangePlan) :
    plan.server.segmentation.canReceive = true := by
  rw [plan.serverSegments]
  rfl

theorem transmits_server (plan : ExchangePlan) :
    plan.server.segmentation.canTransmit = true := by
  rw [plan.serverSegments]
  rfl

section

variable {view : ExchangeView} {first last : Nat} {send asked : SendWindow}
  {window : ReceiveWindow} {segment : Segment} {segments : List Segment} {lag : Nat}
  {client : Option Transaction} {ahead : List Apdu}

theorem moves_asks
    (moves : Moves plan invokeId ⟨some (plan.asking send .awaitingAck), none,
      [plan.requestApdu invokeId none plan.request], [], [], [], []⟩ view) :
    ∃ left < plan.answerCost + 2, plan.Stage invokeId left view := by
  cases moves with
  | serverReceives oldest reacts =>
    cases oldest
    subst reacts
    exact ⟨_, Nat.lt_succ_self _, .works (.waits send)⟩
  | clientReceives oldest => cases oldest
  | answers oldest => cases oldest

theorem moves_opens {segmented : plan.AsksInSegments}
    (sends : (plan.requestFlow segmented).Sends 0 send)
    (cut : segment.CutFrom (plan.requestFlow segmented).payload 0)
    (asks : segment.header.windowSize = clampWindow (plan.requestFlow segmented).proposed)
    (moves : Moves plan invokeId
      (plan.requesting send none (plan.requestApdus invokeId [segment]) []) view) :
    ∃ left < plan.answerCost + 1 + 2 * (plan.requestFlow segmented).payload.count,
      plan.Stage invokeId left view := by
  have several := (plan.requestFlow segmented).several
  cases moves with
  | serverReceives oldest reacts =>
    cases oldest
    obtain ⟨window, started, takes⟩ := (plan.requestFits segmented).start_takes rfl cut asks
    have opened := (plan.served .processing).startReceive_of_started invokeId plan.receives_server
      started cut takes
    obtain rfl := (congrArg (Reaction.map Transaction.server) opened).symm.trans reacts
    exact ⟨_, by omega, .acks sends takes rfl several⟩
  | clientReceives oldest => cases oldest
  | answers oldest => cases oldest

theorem server_ack_eq {flow : Flow} {first last : Nat} (ends : last + 2 = flow.edge first) :
    ServerTransaction.ack invokeId false (UInt8.ofNat (last + 1)) flow.size =
      .send (windowAck invokeId flow true first) := by
  rw [windowAck, ← ends]
  rfl

theorem client_ack_eq {flow : Flow} {first last : Nat} (ends : last + 2 = flow.edge first) :
    ClientTransaction.ack invokeId false (UInt8.ofNat (last + 1)) flow.size =
      .send (windowAck invokeId flow false first) := by
  rw [windowAck, ← ends]
  rfl

theorem moves_flows {segmented : plan.AsksInSegments}
    (sends : (plan.requestFlow segmented).Sends first send)
    (takes : (plan.requestFlow segmented).Takes first last window)
    (more : last + 1 < (plan.requestFlow segmented).edge first)
    (flight : (plan.requestFlow segmented).InFlight (last + 1)
      ((plan.requestFlow segmented).edge first) segments)
    (moves : Moves plan invokeId
      (plan.requesting send (some (plan.serving (.segmentedReceive window)))
        (plan.requestApdus invokeId segments) []) view) :
    ∃ left < plan.answerCost + 1 + ((plan.requestFlow segmented).payload.count - first) +
        ((plan.requestFlow segmented).payload.count - (last + 1)),
      plan.Stage invokeId left view := by
  have inside := sends.inside
  have limit := (plan.requestFlow segmented).edge_le_count first
  obtain ⟨segment, rest, rfl, cut, flight⟩ := flight.cons more
  cases moves with
  | @serverReceives apdu rest reacted oldest reacts =>
    cases oldest
    have collects := (plan.served (.segmentedReceive window)).collects invokeId
      plan.server takes more cut
    have reacts : ((plan.served (.segmentedReceive window)).collect plan.server invokeId window
        segment).map .server = reacted := reacts
    generalize (plan.served (.segmentedReceive window)).collect plan.server invokeId window
      segment = reaction at collects reacts
    subst reacts
    cases collects with
    | complete final =>
      -- The client has yet to hear of it, while the application works already.
      have ends : last + 2 = (plan.requestFlow segmented).edge first := by omega
      rw [← ends] at flight
      rw [Flow.inFlight_nil flight, server_ack_eq ends]
      exact ⟨_, by omega, .works (.lags sends (ends.symm.trans final))⟩
    | windowFull ends inner takes =>
      rw [← ends] at flight
      rw [Flow.inFlight_nil flight, server_ack_eq ends]
      exact ⟨_, by omega, .acks sends takes ends inner⟩
    | accepted more takes => exact ⟨_, by omega, .flows sends takes more flight⟩
  | clientReceives oldest => cases oldest
  | answers oldest => cases oldest

theorem clientReacts_sendSegments (view : ExchangeView) (send : SendWindow) (phase : ClientPhase)
    (segments : List Segment) (next : Transaction) (span : Nat) :
    clientReacts view ⟨(plan.asked send phase).sendSegments plan.client invokeId segments,
        .restart next span⟩ =
      { view with
        client := some next
        toServer := view.toServer ++ plan.requestApdus invokeId segments } := by
  have apdus : ((plan.asked send phase).sendSegments plan.client invokeId segments).filterMap
      (·.apdu?) = plan.requestApdus invokeId segments := by
    rw [ClientTransaction.sendSegments, List.filterMap_map]
    exact congrFun List.filterMap_eq_map segments
  have told : ((plan.asked send phase).sendSegments plan.client invokeId segments).filter
      (·.isTold) = [] := by
    simp [ClientTransaction.sendSegments, ClientTransaction.request, TransactionEffect.isTold]
  rw [clientReacts, apdus, told, List.append_nil]
  rfl

theorem moves_acks {segmented : plan.AsksInSegments}
    (sends : (plan.requestFlow segmented).Sends first send)
    (takes : (plan.requestFlow segmented).Takes first last window)
    (ends : last + 1 = (plan.requestFlow segmented).edge first)
    (more : last + 1 < (plan.requestFlow segmented).payload.count)
    (moves : Moves plan invokeId
      (plan.requesting send (some (plan.serving (.segmentedReceive window))) []
        [windowAck invokeId (plan.requestFlow segmented) true first]) view) :
    ∃ left < plan.answerCost + 1 + ((plan.requestFlow segmented).payload.count - first) +
        ((plan.requestFlow segmented).payload.count - (last + 1)),
      plan.Stage invokeId left view := by
  have ahead := Flow.lt_edge sends.inside
  cases moves with
  | serverReceives oldest => cases oldest
  | @clientReceives apdu rest reacted oldest reacts =>
    cases oldest
    obtain ⟨next, nextSends, flight, acknowledged⟩ :=
      (plan.asked send .segmentedRequest).acknowledge_more invokeId plan.client
        ⟨false, true, invokeId, _, _⟩ sends (ends ▸ more) rfl rfl
    obtain rfl := (congrArg (Reaction.map Transaction.client) acknowledged).symm.trans reacts
    show ∃ left < _, plan.Stage invokeId left (clientReacts _
      ⟨(plan.asked send .segmentedRequest).sendSegments plan.client invokeId next.current,
        .restart (plan.asking next .segmentedRequest) plan.client.segmentSpan⟩)
    rw [clientReacts_sendSegments]
    -- The server has taken all segments before the new window.
    have inside := nextSends.inside
    have nextMore := Flow.lt_edge inside
    rw [← ends] at flight nextMore
    exact ⟨_, by omega,
      .flows nextSends (takes.advance ends more) (ends ▸ nextMore) (ends ▸ flight)⟩
  | answers oldest => cases oldest

/-! ## The answer -/

/-- The client gets the last acknowledgment of the request. -/
theorem catches_up {segmented : plan.AsksInSegments}
    (sends : (plan.requestFlow segmented).Sends first send)
    (final : (plan.requestFlow segmented).edge first =
      (plan.requestFlow segmented).payload.count) :
    ∃ next span, reaction plan.client invokeId
        (windowAck invokeId (plan.requestFlow segmented) true first)
        (some (plan.asking send .segmentedRequest)) =
      ⟨[], .restart (plan.asking next .awaitingAck) span⟩ := by
  obtain ⟨next, acknowledged⟩ := (plan.asked send .segmentedRequest).acknowledge_last invokeId
    plan.client ⟨false, true, invokeId, _, _⟩ sends final rfl rfl
  exact ⟨next, _, congrArg (Reaction.map Transaction.client) acknowledged⟩

theorem serverReacts_sendSegments (view : ExchangeView) (phase : ServerPhase)
    (segments : List Segment) (next : Transaction) (span : Nat) :
    serverReacts view ⟨(plan.served phase).sendSegments invokeId segments, .restart next span⟩ =
      { view with
        server := some next
        toClient := view.toClient ++ plan.answerApdus invokeId segments } := by
  have apdus : ((plan.served phase).sendSegments invokeId segments).filterMap (·.apdu?) =
      plan.answerApdus invokeId segments := by
    rw [ServerTransaction.sendSegments, List.filterMap_map]
    exact congrFun List.filterMap_eq_map segments
  have told : ((plan.served phase).sendSegments invokeId segments).filter (·.isTold) = [] := by
    simp [ServerTransaction.sendSegments, TransactionEffect.isTold]
  have indications : ((plan.served phase).sendSegments invokeId segments).filter
      (·.isIndication) = [] := by
    simp [ServerTransaction.sendSegments, TransactionEffect.isIndication]
  rw [serverReacts, apdus, told, indications, List.append_nil, List.append_nil]
  rfl

theorem moves_works (asking : Asking plan invokeId lag client ahead)
    (moves : Moves plan invokeId ⟨client, some (plan.serving .processing), [], ahead, [],
      [plan.indication], [plan.indication]⟩ view) :
    ∃ left < plan.answerCost + 1 + lag, plan.Stage invokeId left view := by
  cases moves with
  | serverReceives oldest => cases oldest
  | clientReceives oldest reacts =>
    cases asking with
    | waits => cases oldest
    | lags sends final =>
      cases oldest
      obtain ⟨next, span, caught⟩ := catches_up sends final
      obtain rfl := caught.symm.trans reacts
      exact ⟨_, by omega, .works (.waits next)⟩
  | answers oldest working phase reacts =>
    cases oldest
    cases working
    by_cases long : plan.AnswersInSegments
    · have cost : plan.answerCost = 2 * (plan.answerFlow long).payload.count + 1 := rfl
      obtain ⟨segment, pending, cut, window⟩ := (plan.answerFlow long).pending_new
      have responds := (plan.served .processing).respondComplex_segmented invokeId
        plan.server long plan.transmits_server plan.receives_client (plan.answerFits long).segments
      obtain rfl := responds.symm.trans reacts
      show ∃ left < _, plan.Stage invokeId left (serverReacts _
        ⟨(plan.served .processing).sendSegments invokeId
            (SendWindow.new (plan.answerFlow long).payload (plan.answerFlow long).proposed).pending,
          .restart (plan.serving (.segmentedResponse _)) plan.server.segmentSpan⟩)
      rw [pending, serverReacts_sendSegments]
      exact ⟨_, by omega, .answerOpens asking (plan.answerFlow long).sends_new cut window⟩
    · have cost : plan.answerCost = 2 * (answerPayload plan.client.maxApdu.size
        plan.answer).count + 1 := rfl
      have responds := (plan.served .processing).respondComplex_whole invokeId
        plan.server long
      obtain rfl := responds.symm.trans reacts
      exact ⟨_, by omega, .answers asking⟩

theorem moves_answers (asking : Asking plan invokeId lag client ahead)
    (moves : Moves plan invokeId
      (plan.answering client none [] (ahead ++ [plan.answerApdu invokeId none plan.answer])) view) :
    ∃ left < lag + 1, plan.Stage invokeId left view := by
  cases moves with
  | serverReceives oldest => cases oldest
  | clientReceives oldest reacts =>
    cases asking with
    | waits =>
      cases oldest
      subst reacts
      exact ⟨_, Nat.one_pos, .ended⟩
    | lags sends final =>
      cases oldest
      obtain ⟨next, span, caught⟩ := catches_up sends final
      obtain rfl := caught.symm.trans reacts
      exact ⟨_, Nat.lt_succ_self _, .answers (.waits next)⟩
  | answers oldest => cases oldest

theorem moves_answerOpens {segmented : plan.AnswersInSegments}
    (asking : Asking plan invokeId lag client ahead)
    (sends : (plan.answerFlow segmented).Sends 0 send)
    (cut : segment.CutFrom (plan.answerFlow segmented).payload 0)
    (asks : segment.header.windowSize = clampWindow (plan.answerFlow segmented).proposed)
    (moves : Moves plan invokeId
      (plan.answering client (some (plan.serving (.segmentedResponse send))) []
        (ahead ++ plan.answerApdus invokeId [segment])) view) :
    ∃ left < lag + 2 * (plan.answerFlow segmented).payload.count,
      plan.Stage invokeId left view := by
  have several := (plan.answerFlow segmented).several
  cases moves with
  | serverReceives oldest => cases oldest
  | clientReceives oldest reacts =>
    cases asking with
    | waits asked =>
      cases oldest
      obtain ⟨window, started, takes⟩ := (plan.answerFits segmented).start_takes rfl cut asks
      have opened := (plan.asked asked .awaitingAck).startReceive_of_started invokeId
        plan.receives_client started cut takes
      obtain rfl := (congrArg (Reaction.map Transaction.client) opened).symm.trans reacts
      exact ⟨_, by omega, .answerAcks sends takes rfl several⟩
    | lags asked final =>
      cases oldest
      obtain ⟨next, span, caught⟩ := catches_up asked final
      obtain rfl := caught.symm.trans reacts
      exact ⟨_, by omega, .answerOpens (.waits next) sends cut asks⟩
  | answers oldest => cases oldest

theorem moves_answerFlows {segmented : plan.AnswersInSegments}
    (sends : (plan.answerFlow segmented).Sends first send)
    (takes : (plan.answerFlow segmented).Takes first last window)
    (more : last + 1 < (plan.answerFlow segmented).edge first)
    (flight : (plan.answerFlow segmented).InFlight (last + 1)
      ((plan.answerFlow segmented).edge first) segments)
    (moves : Moves plan invokeId
      (plan.answering (some (plan.asking asked (.segmentedReceive window)))
        (some (plan.serving (.segmentedResponse send))) [] (plan.answerApdus invokeId segments))
      view) :
    ∃ left < ((plan.answerFlow segmented).payload.count - first) +
        ((plan.answerFlow segmented).payload.count - (last + 1)),
      plan.Stage invokeId left view := by
  have inside := sends.inside
  have limit := (plan.answerFlow segmented).edge_le_count first
  obtain ⟨segment, rest, rfl, cut, flight⟩ := flight.cons more
  cases moves with
  | serverReceives oldest => cases oldest
  | @clientReceives apdu rest reacted oldest reacts =>
    cases oldest
    have collects := (plan.asked asked (.segmentedReceive window)).collects invokeId plan.client
      takes more cut
    have reacts : ((plan.asked asked (.segmentedReceive window)).collect plan.client invokeId
        window segment).map .client = reacted := reacts
    generalize (plan.asked asked (.segmentedReceive window)).collect plan.client invokeId window
      segment = reaction at collects reacts
    subst reacts
    cases collects with
    | complete final =>
      have ends : last + 2 = (plan.answerFlow segmented).edge first := by omega
      rw [← ends] at flight
      rw [Flow.inFlight_nil flight, client_ack_eq ends]
      exact ⟨_, by omega, .concludes sends (ends.symm.trans final)⟩
    | windowFull ends inner takes =>
      rw [← ends] at flight
      rw [Flow.inFlight_nil flight, client_ack_eq ends]
      exact ⟨_, by omega, .answerAcks sends takes ends inner⟩
    | accepted more takes => exact ⟨_, by omega, .answerFlows sends takes more flight⟩
  | answers oldest => cases oldest

theorem moves_answerAcks {segmented : plan.AnswersInSegments}
    (sends : (plan.answerFlow segmented).Sends first send)
    (takes : (plan.answerFlow segmented).Takes first last window)
    (ends : last + 1 = (plan.answerFlow segmented).edge first)
    (more : last + 1 < (plan.answerFlow segmented).payload.count)
    (moves : Moves plan invokeId
      (plan.answering (some (plan.asking asked (.segmentedReceive window)))
        (some (plan.serving (.segmentedResponse send)))
        [windowAck invokeId (plan.answerFlow segmented) false first] []) view) :
    ∃ left < ((plan.answerFlow segmented).payload.count - first) +
        ((plan.answerFlow segmented).payload.count - (last + 1)),
      plan.Stage invokeId left view := by
  have ahead := Flow.lt_edge sends.inside
  cases moves with
  | serverReceives oldest reacts =>
    cases oldest
    obtain ⟨next, nextSends, flight, acknowledged⟩ :=
      (plan.served (.segmentedResponse send)).acknowledge_more invokeId plan.server
        ⟨false, false, invokeId, _, _⟩ sends (ends ▸ more) rfl rfl
    obtain rfl := (congrArg (Reaction.map Transaction.server) acknowledged).symm.trans reacts
    show ∃ left < _, plan.Stage invokeId left (serverReacts _
      ⟨(plan.served (.segmentedResponse send)).sendSegments invokeId next.current,
        .restart (plan.serving (.segmentedResponse next)) plan.server.segmentSpan⟩)
    rw [serverReacts_sendSegments]
    -- The client has taken all segments before the new window.
    have inside := nextSends.inside
    have nextMore := Flow.lt_edge inside
    rw [← ends] at flight nextMore
    exact ⟨_, by omega,
      .answerFlows nextSends (takes.advance ends more) (ends ▸ nextMore) (ends ▸ flight)⟩
  | clientReceives oldest => cases oldest
  | answers oldest => cases oldest

theorem moves_concludes {segmented : plan.AnswersInSegments}
    (sends : (plan.answerFlow segmented).Sends first send)
    (final : (plan.answerFlow segmented).edge first = (plan.answerFlow segmented).payload.count)
    (moves : Moves plan invokeId ⟨none, some (plan.serving (.segmentedResponse send)),
      [windowAck invokeId (plan.answerFlow segmented) false first], [], [plan.confirmation],
      [plan.indication], []⟩ view) :
    ∃ left < 1, plan.Stage invokeId left view := by
  cases moves with
  | serverReceives oldest reacts =>
    cases oldest
    have acknowledged := (plan.served (.segmentedResponse send)).acknowledge_last invokeId
      plan.server ⟨false, false, invokeId, _, _⟩ sends final rfl rfl
    obtain rfl := (congrArg (Reaction.map Transaction.server) acknowledged).symm.trans reacts
    exact ⟨_, Nat.one_pos, .ended⟩
  | clientReceives oldest => cases oldest
  | answers oldest => cases oldest

/-- Every move leads to a later stage. -/
theorem Stage.moves {left : Nat} {view next : ExchangeView} (stage : plan.Stage invokeId left view)
    (moves : Moves plan invokeId view next) : ∃ fewer < left, plan.Stage invokeId fewer next := by
  cases stage with
  | asks send => exact moves_asks moves
  | opens sends cut window => exact moves_opens sends cut window moves
  | flows sends takes more flight => exact moves_flows sends takes more flight moves
  | acks sends takes ends more => exact moves_acks sends takes ends more moves
  | works asking => exact moves_works asking moves
  | answers asking => exact moves_answers asking moves
  | answerOpens asking sends cut window => exact moves_answerOpens asking sends cut window moves
  | answerFlows sends takes more flight => exact moves_answerFlows sends takes more flight moves
  | answerAcks sends takes ends more => exact moves_answerAcks sends takes ends more moves
  | concludes sends final => exact moves_concludes sends final moves
  | ended =>
    cases moves with
    | serverReceives oldest => cases oldest
    | clientReceives oldest => cases oldest
    | answers oldest => cases oldest

end

/-! ## Runs -/

theorem own_requestApdus (segments : List Segment) :
    ∀ apdu ∈ plan.requestApdus invokeId segments,
      Transactions.keyOf? plan.clientAddress apdu =
        some (.server plan.clientAddress invokeId) := by
  intro apdu member
  obtain ⟨segment, _, rfl⟩ := List.mem_map.mp member
  rfl

theorem own_answerApdus (segments : List Segment) :
    ∀ apdu ∈ plan.answerApdus invokeId segments,
      Transactions.keyOf? plan.serverAddress apdu =
        some (.client plan.serverAddress invokeId) := by
  intro apdu member
  obtain ⟨segment, _, rfl⟩ := List.mem_map.mp member
  rfl

theorem Asking.own {lag : Nat} {client : Option Transaction} {ahead : List Apdu}
    (asking : Asking plan invokeId lag client ahead) :
    ∀ apdu ∈ ahead, Transactions.keyOf? plan.serverAddress apdu =
      some (.client plan.serverAddress invokeId) := by
  cases asking with
  | waits => exact List.forall_mem_nil _
  | lags => exact List.forall_mem_singleton.mpr rfl

/-- What is on its way belongs to the exchange. -/
theorem Stage.own {left : Nat} {view : ExchangeView} (stage : plan.Stage invokeId left view) :
    view.Own plan invokeId := by
  have answered {P : Prop} : ([] : List TransactionEffect) ≠ [] → P := fun some => absurd rfl some
  cases stage with
  | asks => exact ⟨List.forall_mem_singleton.mpr rfl, List.forall_mem_nil _, answered⟩
  | opens => exact ⟨own_requestApdus _, List.forall_mem_nil _, answered⟩
  | flows => exact ⟨own_requestApdus _, List.forall_mem_nil _, answered⟩
  | acks => exact ⟨List.forall_mem_nil _, List.forall_mem_singleton.mpr rfl, answered⟩
  | works asking => exact
    ⟨List.forall_mem_nil _, asking.own, fun _ => ⟨plan.served .processing, rfl, rfl⟩⟩
  | answers asking =>
    refine ⟨List.forall_mem_nil _, ?_, answered⟩
    exact List.forall_mem_append.mpr ⟨asking.own, List.forall_mem_singleton.mpr rfl⟩
  | answerOpens asking =>
    refine ⟨List.forall_mem_nil _, ?_, answered⟩
    exact List.forall_mem_append.mpr ⟨asking.own, own_answerApdus _⟩
  | answerFlows => exact ⟨List.forall_mem_nil _, own_answerApdus _, answered⟩
  | answerAcks => exact ⟨List.forall_mem_singleton.mpr rfl, List.forall_mem_nil _, answered⟩
  | concludes => exact ⟨List.forall_mem_singleton.mpr rfl, List.forall_mem_nil _, answered⟩
  | ended => exact ⟨List.forall_mem_nil _, List.forall_mem_nil _, answered⟩

/-- Before the exchange is over something is on its way or unanswered. -/
theorem Stage.waits {left : Nat} {view : ExchangeView} (stage : plan.Stage invokeId left view) :
    (view.toServer ≠ [] ∨ view.toClient ≠ [] ∨ view.unanswered ≠ []) ∨
      view = ⟨none, none, [], [], [plan.confirmation], [plan.indication], []⟩ := by
  cases stage with
  | asks => exact .inl (.inl (List.cons_ne_nil _ _))
  | opens => exact .inl (.inl (List.cons_ne_nil _ _))
  | flows sends takes more flight =>
    obtain ⟨segment, rest, rfl, _⟩ := flight.cons more
    exact .inl (.inl (List.cons_ne_nil _ _))
  | acks => exact .inl (.inr (.inl (List.cons_ne_nil _ _)))
  | works => exact .inl (.inr (.inr (List.cons_ne_nil _ _)))
  | answers =>
    exact .inl (.inr (.inl (List.append_ne_nil_of_right_ne_nil _ (List.cons_ne_nil _ _))))
  | answerOpens =>
    exact .inl (.inr (.inl (List.append_ne_nil_of_right_ne_nil _ (List.cons_ne_nil _ _))))
  | answerFlows sends takes more flight =>
    obtain ⟨segment, rest, rfl, _⟩ := flight.cons more
    exact .inl (.inr (.inl (List.cons_ne_nil _ _)))
  | answerAcks => exact .inl (.inl (List.cons_ne_nil _ _))
  | concludes => exact .inl (.inl (List.cons_ne_nil _ _))
  | ended => exact .inr rfl

end ExchangePlan

namespace Exchange

variable {plan : ExchangePlan} {invokeId : UInt8}

/-- A run goes through stages, and each of its steps uses up one that was left. -/
theorem stage_of_run {first last : Exchange} {length left : Nat} {view : ExchangeView}
    (run : Run plan first length last) (shown : first.Shows plan invokeId view)
    (stage : plan.Stage invokeId left view) :
    ∃ reached fewer, last.Shows plan invokeId reached ∧ plan.Stage invokeId fewer reached ∧
      length + fewer ≤ left := by
  induction run generalizing view left with
  | refl => exact ⟨view, left, shown, stage, Nat.le_of_eq (Nat.zero_add left)⟩
  | step step _ ih =>
    obtain ⟨moved, moves, shown⟩ := shown.step stage.own step
    obtain ⟨fewer, less, stage⟩ := stage.moves moves
    obtain ⟨reached, rest, shown, stage, bound⟩ := ih shown stage
    exact ⟨reached, rest, shown, stage, by omega⟩

/-- A run that cannot go on has completed the exchange. -/
theorem completed_of_stuck {exchange : Exchange} {left : Nat} {view : ExchangeView}
    (shown : exchange.Shows plan invokeId view) (stage : plan.Stage invokeId left view)
    (stuck : ∀ next, ¬ Step plan exchange next) : exchange.Completed plan invokeId := by
  rcases stage.waits with waits | rfl
  · obtain ⟨next, step⟩ := shown.exists_step waits
    exact absurd step (stuck next)
  · exact {
      client := by rw [Transactions.contains_eq_isSome, shown.client]; rfl
      server := by rw [Transactions.contains_eq_isSome, shown.server]; rfl
      toServer := shown.toServer
      toClient := shown.toClient
      unanswered := shown.unanswered
      serverTold := shown.serverTold
      clientTold := shown.clientTold }

/-- Once the client has asked the exchange is in one of its stages. -/
def Starts (plan : ExchangePlan) (cut : RequestPlan) : Prop :=
  RequestPlan.new plan.client plan.request.length none = .ok cut ∧
    ∀ invokeId, ∃ left, plan.Stage invokeId left
      (ExchangeView.clientReacts ⟨none, none, [], [], [], [], []⟩
        ((ClientTransaction.start plan.client invokeId plan.service plan.request cut).map .client))

theorem starts_whole (short : ¬ plan.AsksInSegments) :
    Starts plan ⟨max plan.request.length 1, 1⟩ := by
  refine ⟨?_, ?_⟩
  · unfold RequestPlan.new
    exact if_pos (Nat.not_lt.mp short)
  · intro invokeId
    have single : ¬ 1 < (Payload.new plan.request (max plan.request.length 1)).count := by
      rw [Payload.count_new_whole]
      exact Nat.lt_irrefl 1
    have starts : ClientTransaction.start plan.client invokeId plan.service plan.request
        ⟨max plan.request.length 1, 1⟩ =
        ⟨[.send (plan.requestApdu invokeId none plan.request)],
          .restart (plan.asked (.new (.new plan.request (max plan.request.length 1))
            plan.client.proposedWindow) .awaitingAck) plan.client.answerSpan⟩ := by
      unfold ClientTransaction.start ClientTransaction.transmit
      exact if_neg (mt of_decide_eq_true single)
    refine ⟨plan.answerCost + 2, ?_⟩
    rw [starts]
    exact .asks _

theorem starts_segmented (long : plan.AsksInSegments) :
    Starts plan (RequestPlan.segmented plan.client.maxApdu.size plan.request.length) := by
  refine ⟨?_, ?_⟩
  · unfold RequestPlan.new
    dsimp only
    rw [RequestPlan.longestApdu, if_neg (Nat.not_le.mpr long), plan.clientSegments]
    rfl
  · intro invokeId
    obtain ⟨segment, pending, cut, window⟩ := (plan.requestFlow long).pending_new
    have starts : ClientTransaction.start plan.client invokeId plan.service plan.request
        (RequestPlan.segmented plan.client.maxApdu.size plan.request.length) =
        ⟨(plan.asked (.new (plan.requestFlow long).payload (plan.requestFlow long).proposed)
            .awaitingAck).sendSegments plan.client invokeId [segment],
          .restart (plan.asked (.new (plan.requestFlow long).payload
            (plan.requestFlow long).proposed) .segmentedRequest) plan.client.segmentSpan⟩ := by
      rw [← pending]
      unfold ClientTransaction.start ClientTransaction.transmit
      exact if_pos (decide_eq_true (plan.requestFlow long).several)
    refine ⟨plan.answerCost + 1 + 2 * (plan.requestFlow long).payload.count, ?_⟩
    rw [starts]
    show plan.Stage invokeId _ (ExchangeView.clientReacts _
      ⟨(plan.asked _ .awaitingAck).sendSegments plan.client invokeId [segment],
        .restart (plan.asking _ .segmentedRequest) plan.client.segmentSpan⟩)
    rw [ExchangePlan.clientReacts_sendSegments]
    exact .opens (plan.requestFlow long).sends_new cut window

theorem exists_starts (plan : ExchangePlan) : ∃ cut, Starts plan cut := by
  by_cases long : plan.AsksInSegments
  · exact ⟨_, starts_segmented long⟩
  · exact ⟨_, starts_whole long⟩

/-- Between two devices that know nothing of each other a request is sent as long as an invoke ID is
free. If the server does not take it for an old one, every run is finite, and a run that cannot go
on has completed the exchange, however what is on its way on the two links is interleaved and
whenever the application answers. -/
theorem completed_of_maximal (plan : ExchangePlan) (client server : Endpoint) (now : Nat)
    (clientConfig : client.transactions.config = plan.client)
    (serverConfig : server.transactions.config = plan.server)
    (free : ∃ id, client.transactions.contains (.client plan.serverAddress id) = false)
    (idle : ∀ id, (ask plan client now).granted = some (.client plan.serverAddress id) →
      server.transactions.contains (.server plan.clientAddress id) = false) :
    ∃ invokeId, (ask plan client now).granted = some (.client plan.serverAddress invokeId) ∧
      ∃ bound, ∀ length last, Run plan (start plan client server now) length last →
        length ≤ bound ∧
          ((∀ next, ¬ Step plan last next) → last.Completed plan invokeId) := by
  obtain ⟨cut, planned, starts⟩ := exists_starts plan
  obtain ⟨free, unused⟩ := free
  rw [← clientConfig] at planned
  obtain ⟨invokeId, absent, granted, reacted⟩ :=
    client.reacted_request now plan.service planned unused
  have unknown := Transactions.find?_eq_none (idle invokeId granted)
  rw [clientConfig] at reacted
  have before : Shows plan invokeId ⟨client, server, [], [], [], [], []⟩
      ⟨none, none, [], [], [], [], []⟩ :=
    ⟨clientConfig, serverConfig, absent, unknown, rfl, rfl, rfl, rfl, rfl⟩
  obtain ⟨bound, stage⟩ := starts invokeId
  refine ⟨invokeId, granted, bound, ?_⟩
  intro length last run
  obtain ⟨reached, left, shown, stage, steps⟩ :=
    stage_of_run run (before.clientTakes reacted) stage
  exact ⟨by omega, completed_of_stuck shown stage⟩

/-- The devices take part in segmentation, and accept short messages of at most four segments. -/
def fourSegments (window : UInt8) : Config :=
  { Config.standard with
    proposedWindow := window, maxApdu := .up50, maxSegments := .four, segmentation := .both }

/-- A request and an answer of three segments each, between devices with different windows. -/
def threeSegments : ExchangePlan where
  clientAddress := ⟨1, [10]⟩
  serverAddress := ⟨1, [20]⟩
  client := fourSegments 2
  server := fourSegments 1
  service := 12
  request := List.replicate 100 1
  answer := List.replicate 120 2
  clientSegments := rfl
  serverSegments := rfl
  requestFits := fun _ => ⟨by decide +kernel, by decide +kernel⟩
  answerFits := fun _ => ⟨by decide +kernel, by decide +kernel⟩

/-- The devices have just been started. -/
theorem completed_of_maximal_threeSegments :
    ∃ bound, ∀ length last,
      Run threeSegments (start threeSegments (.new (fourSegments 2)) (.new (fourSegments 1)) 0)
          length last →
        length ≤ bound ∧
          ((∀ next, ¬ Step threeSegments last next) → last.Completed threeSegments 1) := by
  obtain ⟨invokeId, granted, runs⟩ := completed_of_maximal threeSegments (.new (fourSegments 2))
    (.new (fourSegments 1)) 0 rfl rfl ⟨0, rfl⟩ (fun _ _ => rfl)
  have first : (ask threeSegments (.new (fourSegments 2)) 0).granted =
      some (.client threeSegments.serverAddress 1) := by decide +kernel
  rw [first] at granted
  cases granted
  exact runs

end Exchange

end BACnet
