import BACnet.Proofs.Transaction.Lone
import BACnet.Proofs.Transaction.RequestMessages

/-!
# Exchanges over lossy links

A client asks a server for a service over links that keep the order of what they carry but may lose
any of it. Timers may run out at any time, and the application of the server may give any answer.

Each segment of a request of at most 256 segments has a sequence number of its own. So whatever is
lost and sent again, the server puts the segments together as they were cut, and its application is
given the request or nothing (`indications_of_run`).

In a longer request segment 256 has the sequence number of the first one. A server that has answered
has forgotten the exchange, so it takes this segment, if it arrives once more, for the beginning of
a request (`exists_indication_of_rest`).
-/

namespace BACnet

/-! ## Requests whose segments are told apart -/

/-- A request, and the way in which it is cut. No two of its segments have the same sequence
number. -/
structure NumberedRequest where
  invokeId : UInt8
  service : UInt8
  payload : Payload
  sized : 0 < payload.segmentSize
  numbered : payload.count ≤ 256

namespace NumberedRequest

variable (asked : NumberedRequest)

/-- The parameters are those of the request, or of one of its segments. -/
def Carries (segment : Option SegmentHeader) (parameters : Octets) : Prop :=
  match segment with
  | none => parameters = asked.payload.data
  | some header => ∃ index, Segment.CutFrom asked.payload index ⟨header, parameters⟩

/-- The message is one of those that the client may send. -/
def Sends : Apdu → Prop
  | .confirmedRequest request =>
    request.invokeId = asked.invokeId ∧ request.service = asked.service ∧
      asked.Carries request.segment request.parameters
  | .segmentAck ack => ack.server = false ∧ ack.invokeId = asked.invokeId
  | .abort server invokeId _ => server = false ∧ invokeId = asked.invokeId
  | _ => False

/-- What the client may do. -/
def ClientMay : TransactionEffect → Prop
  | .send apdu => asked.Sends apdu
  | .indicate _ _ => False
  | .confirm _ => True

/-- What the server may do. -/
def ServerMay : TransactionEffect → Prop
  | .send apdu => ∀ peer, Transactions.keyOf? peer apdu = some (.client peer asked.invokeId)
  | .indicate service parameters => service = asked.service ∧ parameters = asked.payload.data
  | .confirm _ => False

variable {asked}

theorem keyOf?_of_sends {apdu : Apdu} (sends : asked.Sends apdu) (peer : Address) :
    Transactions.keyOf? peer apdu = some (.server peer asked.invokeId) := by
  cases apdu with
  | confirmedRequest request =>
    obtain ⟨same, -⟩ := sends
    rw [Transactions.keyOf?, same]
  | segmentAck ack =>
    obtain ⟨client, same⟩ := sends
    rw [Transactions.keyOf?, client, same]
    rfl
  | abort server invokeId reason =>
    obtain ⟨rfl, rfl⟩ := sends
    rfl
  | unconfirmedRequest service parameters => cases sends
  | simpleAck invokeId service => cases sends
  | complexAck answer => cases sends
  | error invokeId service errorClass errorCode => cases sends
  | reject invokeId reason => cases sends

/-- The client may always send messages that do not carry any part of the request. -/
theorem clientMay_of_isControl {effect : TransactionEffect}
    (control : effect.IsControl asked.invokeId) : asked.ClientMay effect := by
  cases effect with
  | send apdu =>
    cases apdu with
    | segmentAck ack => exact control
    | abort server invokeId reason => exact control
    | confirmedRequest request => cases control
    | unconfirmedRequest service parameters => cases control
    | simpleAck invokeId service => cases control
    | complexAck answer => cases control
    | error invokeId service errorClass errorCode => cases control
    | reject invokeId reason => cases control
  | indicate service parameters => cases control
  | confirm outcome => trivial

end NumberedRequest

/-! ## The client -/

namespace ClientTransaction

/-- The transaction is about the request. -/
structure Asks (asked : NumberedRequest) (client : ClientTransaction) : Prop where
  service : client.service = asked.service
  payload : client.send.payload = asked.payload

variable {asked : NumberedRequest} {client : ClientTransaction} {config : Config}

/-- The reactions of the client. -/
abbrev Obeys (asked : NumberedRequest) (reaction : Reaction ClientTransaction) : Prop :=
  reaction.Obeys asked.ClientMay (Asks asked)

theorem clientMay_sendSegments (asks : client.Asks asked) {segments : List Segment}
    (cut : ∀ segment ∈ segments, ∃ index, segment.CutFrom client.send.payload index) :
    ∀ effect ∈ client.sendSegments config asked.invokeId segments, asked.ClientMay effect := by
  intro effect member
  obtain ⟨segment, sent, rfl⟩ := List.mem_map.mp member
  refine ⟨rfl, asks.service, ?_⟩
  show ∃ index, segment.CutFrom asked.payload index
  rw [← asks.payload]
  exact cut segment sent

theorem obeys_conclude (outcome : Outcome) : Obeys asked (conclude outcome) :=
  Reaction.obeys_finish (List.forall_mem_singleton.mpr trivial)

/-- The client may do all that its request does. -/
theorem Asks.obeys (asks : client.Asks asked) {reaction : Reaction ClientTransaction}
    (utters : client.Utters config asked.invokeId reaction) : Obeys asked reaction := by
  have stays {next : ClientTransaction} (same : client.Continues next) : next.Asks asked :=
    ⟨same.service.trans asks.service, same.payload.trans asks.payload⟩
  have may {effects : List TransactionEffect}
      (controls : ∀ effect ∈ effects, effect.IsControl asked.invokeId) :
      ∀ effect ∈ effects, asked.ClientMay effect :=
    fun effect member => NumberedRequest.clientMay_of_isControl (controls effect member)
  cases utters with
  | ends controls outcome => exact (obeys_conclude outcome).after (may controls)
  | ignores => exact Reaction.obeys_ignore
  | goesOn controls same => exact Reaction.obeys_restart (may controls) (stays same) _
  | whole single same =>
    refine Reaction.obeys_restart ?_ (stays same) _
    refine List.forall_mem_singleton.mpr ⟨rfl, asks.service, ?_⟩
    exact congrArg Payload.data asks.payload
  | parts sending cut same =>
    exact Reaction.obeys_restart (clientMay_sendSegments asks cut) (stays same) _

end ClientTransaction

/-! ## The server -/

namespace ReceiveWindow

variable {payload : Payload} {last index : Nat} {window : ReceiveWindow} {segment : Segment}

/-- The window has the segments of the message up to the one with the index `last`, and not all of
them. -/
structure Gathers (payload : Payload) (last : Nat) (window : ReceiveWindow) : Prop where
  more : last + 1 < payload.count
  data : window.data = payload.joined (last + 1)
  last_eq : window.last = UInt8.ofNat last

theorem start_eq_ok {first : Octets} {asked : UInt8} {config : Config}
    (started : start first asked config = .ok window) :
    window.data = first ∧ window.last = 0 := by
  unfold start opened Reassembly.new at started
  cases pushed : Reassembly.push ⟨[], 0, 0, config.maxSegments.count?, reassemblyLimit config⟩
      first with
  | error fault =>
    rw [pushed] at started
    cases started
  | ok reassembly =>
    rw [pushed] at started
    cases started
    obtain ⟨rfl, -⟩ := Reassembly.push_eq_ok pushed
    exact ⟨rfl, rfl⟩

/-- A segment that is taken is the next one, because no other one has its sequence number. -/
theorem Gathers.append (gathers : window.Gathers payload last) (numbered : payload.count ≤ 256)
    (cut : segment.CutFrom payload index) {reassembly : Reassembly}
    (appended : window.reassembly.append segment.header.sequenceNumber segment.data =
      .ok reassembly) :
    index = last + 1 ∧ reassembly.data = payload.joined (last + 2) ∧
      reassembly.lastSequence = UInt8.ofNat (last + 1) := by
  obtain ⟨next, pushed, pushes, rfl⟩ := Reassembly.append_eq_ok appended
  obtain ⟨rfl, -⟩ := Reassembly.push_eq_ok pushes
  have expected : UInt8.ofNat index = UInt8.ofNat (last + 1) := by
    have same : window.reassembly.lastSequence = UInt8.ofNat last := gathers.last_eq
    rw [← cut.sequenceNumber, next, same, UInt8.ofNat_add]
    rfl
  have inside := cut.lt_count
  have more := gathers.more
  obtain rfl := Segment.sequenceNumber_inj (by omega) (by omega) expected
  refine ⟨rfl, ?_, cut.sequenceNumber⟩
  rw [Payload.joined_succ cut.data, ← gathers.data]
  rfl

/-- What a segment of the message comes to. -/
theorem Gathers.receive (gathers : window.Gathers payload last) (numbered : payload.count ≤ 256)
    (cut : segment.CutFrom payload index) :
    match window.receive segment with
    | .overflow | .outOfOrder => True
    | .accepted next | .windowFull next => next.Gathers payload (last + 1)
    | .complete next => next.data = payload.joined payload.count := by
  unfold ReceiveWindow.receive
  cases appended : window.reassembly.append segment.header.sequenceNumber segment.data with
  | error fault => cases fault <;> trivial
  | ok reassembly =>
    obtain ⟨rfl, data, number⟩ := gathers.append numbered cut appended
    dsimp only
    by_cases more : segment.header.moreFollows = true
    · have gathers (lastAcked : UInt8) : Gathers payload (last + 1)
          { window with reassembly, lastAcked } := ⟨cut.moreFollows_iff.mp more, data, number⟩
      rw [if_neg (not_not.mpr more)]
      by_cases full : segment.header.sequenceNumber = window.lastAcked + window.size
      · rw [if_pos full]
        exact gathers _
      · rw [if_neg full]
        exact gathers _
    · have inside := cut.lt_count
      have final := cut.moreFollows_iff.not.mp more
      have all : payload.count = last + 2 := by omega
      rw [if_pos more, all]
      exact data

end ReceiveWindow

namespace ServerTransaction

/-- The transaction is about the request, and what it has collected are its first segments. -/
structure Serves (asked : NumberedRequest) (server : ServerTransaction) : Prop where
  service : server.service = asked.service
  gathers : ∀ window, server.receiveWindow? = some window →
    ∃ last, window.Gathers asked.payload last

variable {asked : NumberedRequest} {server : ServerTransaction} {config : Config}

/-- The reactions of the server. -/
abbrev Obeys (asked : NumberedRequest) (reaction : Reaction ServerTransaction) : Prop :=
  reaction.Obeys asked.ServerMay (Serves asked)

theorem serves_withPhase (service : server.service = asked.service) (phase : ServerPhase)
    (idle : ∀ window, phase ≠ .segmentedReceive window) :
    Serves asked { server with phase } := by
  refine ⟨service, ?_⟩
  intro window collected
  cases phase with
  | segmentedReceive other => exact absurd rfl (idle other)
  | processing => cases collected
  | segmentedResponse other => cases collected

theorem serverMay_ack (negative : Bool) (number size : UInt8) :
    ∀ effect ∈ [ack asked.invokeId negative number size], asked.ServerMay effect :=
  List.forall_mem_singleton.mpr fun _ => rfl

theorem serverMay_sendSegments (server : ServerTransaction) (segments : List Segment) :
    ∀ effect ∈ server.sendSegments asked.invokeId segments, asked.ServerMay effect := by
  intro effect member
  obtain ⟨segment, _, rfl⟩ := List.mem_map.mp member
  exact fun _ => rfl

theorem obeys_conclude {apdu : Apdu}
    (named : ∀ peer, Transactions.keyOf? peer apdu = some (.client peer asked.invokeId)) :
    Obeys asked (conclude apdu) :=
  Reaction.obeys_finish (List.forall_mem_singleton.mpr named)

theorem obeys_abort (reason : AbortReason) : Obeys asked (abort asked.invokeId reason) :=
  obeys_conclude fun _ => rfl

theorem obeys_process (service : server.service = asked.service) {parameters : Octets}
    (whole : parameters = asked.payload.data) : Obeys asked (server.process config parameters) :=
  Reaction.obeys_restart (List.forall_mem_singleton.mpr (And.intro service whole))
    (serves_withPhase service .processing fun _ => nofun) _

theorem obeys_await (service : server.service = asked.service) {effects : List TransactionEffect}
    (each : ∀ effect ∈ effects, asked.ServerMay effect) {window : ReceiveWindow} {last : Nat}
    (gathers : window.Gathers asked.payload last) :
    Obeys asked (server.await config effects window) := by
  refine Reaction.obeys_restart each ⟨service, ?_⟩ _
  rintro _ ⟨⟩
  exact ⟨last, gathers⟩

theorem obeys_startReceive (service : server.service = asked.service) {segment : Segment}
    {index : Nat} (cut : segment.CutFrom asked.payload index) :
    Obeys asked (server.startReceive config asked.invokeId segment) := by
  unfold startReceive
  split
  · exact obeys_abort _
  · split
    · exact obeys_abort _
    · next first =>
      split
      · exact obeys_abort _
      · next window started =>
        obtain ⟨data, number⟩ := ReceiveWindow.start_eq_ok started
        have inside := cut.lt_count
        have numbered := asked.numbered
        have zero : UInt8.ofNat index = UInt8.ofNat 0 :=
          cut.sequenceNumber.symm.trans (Decidable.not_not.mp first)
        obtain rfl := Segment.sequenceNumber_inj (by omega) (by omega) zero
        have joined := Payload.joined_succ cut.data
        rw [Payload.joined_zero, List.nil_append] at joined
        apply Reaction.Obeys.after _ (serverMay_ack _ _ _)
        split
        · next more =>
          exact obeys_await service (List.forall_mem_nil _)
            ⟨cut.moreFollows_iff.mp more, data.trans joined.symm, number⟩
        · next final =>
          have single := cut.moreFollows_iff.not.mp final
          have all : asked.payload.count = 0 + 1 := by omega
          rw [← all, Payload.joined_count asked.sized] at joined
          exact obeys_process service (data.trans joined.symm)

theorem obeys_start {request : ConfirmedRequest} (sends : asked.Sends (.confirmedRequest request)) :
    Obeys asked (start config request) := by
  obtain ⟨invokeId, service, carries⟩ := sends
  unfold start
  dsimp only
  cases segment : request.segment with
  | none =>
    rw [segment] at carries
    exact obeys_process service carries
  | some header =>
    rw [segment] at carries
    obtain ⟨index, cut⟩ := carries
    rw [invokeId]
    exact obeys_startReceive service cut

theorem obeys_collect (service : server.service = asked.service) {window : ReceiveWindow}
    {last index : Nat} (gathers : window.Gathers asked.payload last) {segment : Segment}
    (cut : segment.CutFrom asked.payload index) :
    Obeys asked (server.collect config asked.invokeId window segment) := by
  have taken := gathers.receive asked.numbered cut
  unfold collect
  split
  · exact obeys_abort _
  · exact obeys_await service (serverMay_ack _ _ _) gathers
  · next receipt =>
    rw [receipt] at taken
    exact obeys_await service (List.forall_mem_nil _) taken
  · next receipt =>
    rw [receipt] at taken
    exact obeys_await service (serverMay_ack _ _ _) taken
  · next receipt =>
    rw [receipt] at taken
    apply Reaction.Obeys.after _ (serverMay_ack _ _ _)
    exact obeys_process service (taken.trans (Payload.joined_count asked.sized))

/-- The segments of the answer are sent. -/
theorem obeys_answering (service : server.service = asked.service)
    {effects : List TransactionEffect} (each : ∀ effect ∈ effects, asked.ServerMay effect)
    (window : SendWindow) (span : Nat) :
    Obeys asked ⟨effects, .restart { server with phase := .segmentedResponse window } span⟩ :=
  Reaction.obeys_restart each
    (serves_withPhase service (.segmentedResponse window) fun _ => nofun) span

theorem obeys_respond (serves : server.Serves asked) (outcome : Outcome) :
    Obeys asked (server.respond config asked.invokeId outcome) := by
  unfold respond
  split
  · exact obeys_conclude fun _ => rfl
  · unfold respondComplex
    dsimp only
    split
    · exact obeys_conclude fun _ => rfl
    · split
      · exact obeys_abort _
      · split
        · exact obeys_abort _
        · exact obeys_answering serves.service (serverMay_sendSegments _ _) _ _
  · exact obeys_conclude fun _ => rfl
  · exact obeys_conclude fun _ => rfl
  · exact obeys_abort _
  · exact obeys_abort _

theorem obeys_acknowledge (serves : server.Serves asked) (window : SendWindow)
    (received : SegmentAck) :
    Obeys asked (server.acknowledge config asked.invokeId window received) := by
  unfold acknowledge
  split
  dsimp only
  split
  · exact obeys_answering serves.service (List.forall_mem_nil _) _ _
  · exact Reaction.obeys_finish (List.forall_mem_nil _)
  · exact obeys_answering serves.service (serverMay_sendSegments _ _) _ _

theorem obeys_receive (serves : server.Serves asked) {apdu : Apdu} (sends : asked.Sends apdu) :
    Obeys asked (server.receive config asked.invokeId apdu) := by
  unfold receive
  split
  · exact Reaction.obeys_finish (List.forall_mem_nil _)
  · next request window phase =>
    obtain ⟨-, -, carries⟩ := sends
    split
    · next header segment =>
      have collected : server.receiveWindow? = some window := by rw [receiveWindow?, phase]
      obtain ⟨last, gathers⟩ := serves.gathers window collected
      rw [segment] at carries
      obtain ⟨index, cut⟩ := carries
      exact obeys_collect serves.service gathers cut
    · exact obeys_abort _
  · exact obeys_acknowledge serves _ _
  · exact Reaction.obeys_ignore

theorem obeys_timeout (serves : server.Serves asked) :
    Obeys asked (server.timeout config asked.invokeId) := by
  unfold timeout
  split
  · exact Reaction.obeys_finish (List.forall_mem_nil _)
  · exact obeys_abort _
  · split
    · exact obeys_answering serves.service (serverMay_sendSegments _ _) _ _
    · exact Reaction.obeys_finish (List.forall_mem_nil _)

end ServerTransaction

/-! ## Transactions of the devices -/

namespace Transaction

variable {asked : NumberedRequest} {apdu : Apdu}

/-- The transaction is that of the client. -/
def Asks (asked : NumberedRequest) : Transaction → Prop
  | client transaction => transaction.Asks asked
  | server _ => False

/-- The transaction is that of the server. -/
def Serves (asked : NumberedRequest) : Transaction → Prop
  | client _ => False
  | server transaction => transaction.Serves asked

theorem Asks.obeys_timeout {transaction : Transaction} {config : Config}
    (asks : transaction.Asks asked) :
    (transaction.timeout config asked.invokeId).Obeys asked.ClientMay (Asks asked) := by
  cases transaction with
  | client client =>
    exact (asks.obeys (client.utters_timeout config asked.invokeId)).map fun _ fits => fits
  | server server => cases asks

theorem Serves.obeys_timeout {transaction : Transaction} {config : Config}
    (serves : transaction.Serves asked) :
    (transaction.timeout config asked.invokeId).Obeys asked.ServerMay (Serves asked) := by
  cases transaction with
  | client client => cases serves
  | server server => exact (ServerTransaction.obeys_timeout serves).map fun _ fits => fits

/-- What comes from the server starts no transaction at the client. -/
theorem obeys_of_asks (config : Config) {found : Option Transaction}
    (asks : ∀ transaction, found = some transaction → transaction.Asks asked) {peer : Address}
    (named : Transactions.keyOf? peer apdu = some (.client peer asked.invokeId)) :
    (ExchangeView.reaction config asked.invokeId apdu found).Obeys asked.ClientMay
      (Asks asked) := by
  cases found with
  | none =>
    cases apdu with
    | confirmedRequest request =>
      have side : some Side.server = some Side.client :=
        congrArg (Option.map TransactionKey.side) named
      cases side
    | _ => exact Reaction.obeys_ignore
  | some transaction =>
    have asks := asks transaction rfl
    cases transaction with
    | client client =>
      exact (asks.obeys (client.utters_receive config asked.invokeId apdu)).map fun _ fits => fits
    | server server => cases asks

theorem obeys_of_serves (config : Config) {found : Option Transaction}
    (serves : ∀ transaction, found = some transaction → transaction.Serves asked)
    (sends : asked.Sends apdu) :
    (ExchangeView.reaction config asked.invokeId apdu found).Obeys asked.ServerMay
      (Serves asked) := by
  cases found with
  | none =>
    cases apdu with
    | confirmedRequest request =>
      exact (ServerTransaction.obeys_start sends).map fun _ fits => fits
    | _ => exact Reaction.obeys_ignore
  | some transaction =>
    have serves := serves transaction rfl
    cases transaction with
    | client client => cases serves
    | server server => exact (ServerTransaction.obeys_receive serves sends).map fun _ fits => fits

end Transaction

/-! ## Exchanges -/

/-- A request that a client makes of a server. -/
structure Inquiry where
  clientAddress : Address
  serverAddress : Address
  client : Config
  server : Config
  service : UInt8
  parameters : Octets
  /-- What the client knows of the server. -/
  known : Option Peer

/-- A client and a server, and the links between them. -/
structure LossyExchange where
  client : Endpoint
  server : Endpoint
  /-- The messages on their way to the server, the oldest first. -/
  toServer : List Apdu
  /-- The messages on their way to the client, the oldest first. -/
  toClient : List Apdu
  /-- The requests that the application of the server has been given. -/
  indicated : List TransactionAction
  deriving DecidableEq, Repr

/-- What can happen. -/
inductive LossyEvent where
  /-- The oldest message that is on its way to the server arrives. -/
  | serverReceives (now : Nat)
  /-- The oldest message that is on its way to the client arrives. -/
  | clientReceives (now : Nat)
  /-- A message on its way to the server is lost. -/
  | loseToServer (position : Nat)
  /-- A message on its way to the client is lost. -/
  | loseToClient (position : Nat)
  /-- The timer of the client runs out. -/
  | clientExpires (now : Nat)
  /-- The timer of the server runs out. -/
  | serverExpires (now : Nat)
  /-- The application of the server answers the request that it was given last. -/
  | answers (now : Nat) (outcome : Outcome)
  deriving DecidableEq

namespace LossyExchange

variable (inquiry : Inquiry)

/-- What has happened at the client takes its course. -/
def clientTakes (exchange : LossyExchange) (step : EndpointStep) : LossyExchange :=
  { exchange with
    client := step.endpoint
    toServer := exchange.toServer ++ TransactionAction.apdusTo inquiry.serverAddress step.actions }

/-- What has happened at the server takes its course. -/
def serverTakes (exchange : LossyExchange) (step : EndpointStep) : LossyExchange :=
  { exchange with
    server := step.endpoint
    toClient := exchange.toClient ++ TransactionAction.apdusTo inquiry.clientAddress step.actions
    indicated := exchange.indicated ++ TransactionAction.indications step.actions }

/-- The client makes its request. -/
def ask (now : Nat) : EndpointStep :=
  (Endpoint.new inquiry.client).step now
    (.request inquiry.serverAddress inquiry.service inquiry.parameters inquiry.known)

/-- The exchange after the client has made its request. -/
def start (now : Nat) : LossyExchange :=
  clientTakes inquiry ⟨.new inquiry.client, .new inquiry.server, [], [], []⟩ (ask inquiry now)

/-- What comes of an event. -/
def step (exchange : LossyExchange) : LossyEvent → LossyExchange
  | .serverReceives now =>
    match exchange.toServer with
    | [] => exchange
    | apdu :: rest =>
      serverTakes inquiry { exchange with toServer := rest }
        (exchange.server.step now (.receive inquiry.clientAddress apdu))
  | .clientReceives now =>
    match exchange.toClient with
    | [] => exchange
    | apdu :: rest =>
      clientTakes inquiry { exchange with toClient := rest }
        (exchange.client.step now (.receive inquiry.serverAddress apdu))
  | .loseToServer position => { exchange with toServer := exchange.toServer.eraseIdx position }
  | .loseToClient position => { exchange with toClient := exchange.toClient.eraseIdx position }
  | .clientExpires now => clientTakes inquiry exchange (exchange.client.step now .expire)
  | .serverExpires now => serverTakes inquiry exchange (exchange.server.step now .expire)
  | .answers now outcome =>
    match exchange.indicated.getLast? with
    | none => exchange
    | some action =>
      serverTakes inquiry exchange
        (exchange.server.step now (.respond action.peer action.invokeId outcome))

/-- The exchange after events one after the other. -/
def run (exchange : LossyExchange) : List LossyEvent → LossyExchange
  | [] => exchange
  | event :: rest => run (step inquiry exchange event) rest

variable {inquiry} {asked : NumberedRequest} {exchange : LossyExchange}

/-! ## The invariant -/

/-- Both devices have no other transaction than that of the exchange, and whatever is on its way or
has been given to the application is about the request. -/
structure Faithful (inquiry : Inquiry) (asked : NumberedRequest) (exchange : LossyExchange) :
    Prop where
  client : exchange.client.transactions.Lone inquiry.client
    (.client inquiry.serverAddress asked.invokeId) (Transaction.Asks asked)
  server : exchange.server.transactions.Lone inquiry.server
    (.server inquiry.clientAddress asked.invokeId) (Transaction.Serves asked)
  toServer : ∀ apdu ∈ exchange.toServer, asked.Sends apdu
  toClient : ∀ apdu ∈ exchange.toClient, ∀ peer,
    Transactions.keyOf? peer apdu = some (.client peer asked.invokeId)
  indicated : ∀ action ∈ exchange.indicated, action =
    ⟨inquiry.clientAddress, asked.invokeId, .indicate asked.service asked.payload.data⟩

theorem effect_of_mem_apdusTo {peer : Address} {actions : List TransactionAction} {apdu : Apdu}
    (sent : apdu ∈ TransactionAction.apdusTo peer actions) :
    ∃ action ∈ actions, action.effect = .send apdu := by
  obtain ⟨action, member, told⟩ := List.mem_filterMap.mp sent
  refine ⟨action, (List.mem_filter.mp member).1, ?_⟩
  cases effect : action.effect with
  | send other =>
    rw [effect] at told
    cases told
    rfl
  | indicate service parameters =>
    rw [effect] at told
    cases told
  | confirm outcome =>
    rw [effect] at told
    cases told

theorem Faithful.clientTakes (faithful : exchange.Faithful inquiry asked) {step : EndpointStep}
    (keeps : step.Keeps inquiry.client (.client inquiry.serverAddress asked.invokeId)
      asked.ClientMay (Transaction.Asks asked)) :
    (exchange.clientTakes inquiry step).Faithful inquiry asked := by
  refine { faithful with client := keeps.lone, toServer := ?_ }
  refine List.forall_mem_append.mpr ⟨faithful.toServer, ?_⟩
  intro apdu sent
  obtain ⟨action, happened, sends⟩ := effect_of_mem_apdusTo sent
  obtain ⟨effect, may, rfl⟩ := keeps.actions action happened
  change effect = _ at sends
  rwa [sends] at may

theorem Faithful.serverTakes (faithful : exchange.Faithful inquiry asked) {step : EndpointStep}
    (keeps : step.Keeps inquiry.server (.server inquiry.clientAddress asked.invokeId)
      asked.ServerMay (Transaction.Serves asked)) :
    (exchange.serverTakes inquiry step).Faithful inquiry asked := by
  refine { faithful with server := keeps.lone, toClient := ?_, indicated := ?_ }
  · refine List.forall_mem_append.mpr ⟨faithful.toClient, ?_⟩
    intro apdu sent
    obtain ⟨action, happened, sends⟩ := effect_of_mem_apdusTo sent
    obtain ⟨effect, may, rfl⟩ := keeps.actions action happened
    change effect = _ at sends
    rwa [sends] at may
  · refine List.forall_mem_append.mpr ⟨faithful.indicated, ?_⟩
    intro action given
    obtain ⟨happened, indicates⟩ := List.mem_filter.mp given
    obtain ⟨effect, may, rfl⟩ := keeps.actions action happened
    cases effect with
    | send apdu => cases indicates
    | confirm outcome => cases indicates
    | indicate service parameters =>
      obtain ⟨rfl, rfl⟩ := may
      rfl

theorem Faithful.step (faithful : exchange.Faithful inquiry asked) (event : LossyEvent) :
    (step inquiry exchange event).Faithful inquiry asked := by
  cases event with
  | serverReceives now =>
    unfold LossyExchange.step
    dsimp only
    split
    · exact faithful
    · next apdu rest oldest =>
      have arriving := faithful.toServer
      rw [oldest] at arriving
      obtain ⟨sends, later⟩ := List.forall_mem_cons.mp arriving
      have taken : Faithful inquiry asked { exchange with toServer := rest } :=
        { faithful with toServer := later }
      have obeys := Transaction.obeys_of_serves inquiry.server faithful.server.fits sends
      exact taken.serverTakes
        (Endpoint.keeps_receive faithful.server now (NumberedRequest.keyOf?_of_sends sends _) obeys)
  | clientReceives now =>
    unfold LossyExchange.step
    dsimp only
    split
    · exact faithful
    · next apdu rest oldest =>
      have arriving := faithful.toClient
      rw [oldest] at arriving
      obtain ⟨named, later⟩ := List.forall_mem_cons.mp arriving
      have taken : Faithful inquiry asked { exchange with toClient := rest } :=
        { faithful with toClient := later }
      have obeys := Transaction.obeys_of_asks inquiry.client faithful.client.fits
        (named inquiry.serverAddress)
      exact taken.clientTakes (Endpoint.keeps_receive faithful.client now (named _) obeys)
  | loseToServer position =>
    have fewer := (List.eraseIdx_sublist exchange.toServer position).subset
    exact { faithful with toServer := fun apdu left => faithful.toServer apdu (fewer left) }
  | loseToClient position =>
    have fewer := (List.eraseIdx_sublist exchange.toClient position).subset
    exact { faithful with toClient := fun apdu left => faithful.toClient apdu (fewer left) }
  | clientExpires now =>
    exact faithful.clientTakes
      (Endpoint.keeps_expire faithful.client now fun _ => Transaction.Asks.obeys_timeout)
  | serverExpires now =>
    exact faithful.serverTakes
      (Endpoint.keeps_expire faithful.server now fun _ => Transaction.Serves.obeys_timeout)
  | answers now outcome =>
    unfold LossyExchange.step
    dsimp only
    split
    · exact faithful
    · next action latest =>
      obtain rfl := faithful.indicated action (List.mem_of_getLast? latest)
      refine faithful.serverTakes (Endpoint.keeps_respond faithful.server now outcome ?_)
      intro server serves
      exact (ServerTransaction.obeys_respond serves outcome).map fun _ fits => fits

theorem Faithful.run (faithful : exchange.Faithful inquiry asked) (events : List LossyEvent) :
    (run inquiry exchange events).Faithful inquiry asked := by
  induction events generalizing exchange with
  | nil => exact faithful
  | cons event rest ih => exact ih (faithful.step event)

theorem faithful_start {asked : NumberedRequest} {now : Nat} {cut : RequestPlan}
    (planned : RequestPlan.new inquiry.client inquiry.parameters.length inquiry.known = .ok cut)
    (granted : (ask inquiry now).granted = some (.client inquiry.serverAddress asked.invokeId))
    (service : asked.service = inquiry.service)
    (payload : asked.payload = .new inquiry.parameters cut.segmentSize) :
    (start inquiry now).Faithful inquiry asked := by
  have before : Faithful inquiry asked ⟨.new inquiry.client, .new inquiry.server, [], [], []⟩ :=
    ⟨Transactions.lone_new _, Transactions.lone_new _, List.forall_mem_nil _, List.forall_mem_nil _,
      List.forall_mem_nil _⟩
  apply before.clientTakes
  obtain ⟨refused, -⟩ | ⟨other, id, possible, given, keeps⟩ :=
    Endpoint.keeps_request inquiry.client now inquiry.serverAddress inquiry.service
      inquiry.parameters inquiry.known
  · cases refused.symm.trans granted
  · cases possible.symm.trans planned
    cases given.symm.trans granted
    apply keeps
    have asks : (ClientTransaction.unsent inquiry.client inquiry.service inquiry.parameters
        cut).Asks asked := ⟨service.symm, payload.symm⟩
    exact (asks.obeys (ClientTransaction.utters_start _ _ _ _ _)).map fun _ fits => fits

/-- Whatever is lost, whenever timers run out and whatever the application answers: an application
that is given something is given the request of the client as it was made, if it has at most 256
segments. -/
theorem indications_of_run (inquiry : Inquiry) (now : Nat) (events : List LossyEvent)
    {cut : RequestPlan} {id : UInt8}
    (planned : RequestPlan.new inquiry.client inquiry.parameters.length inquiry.known = .ok cut)
    (granted : (ask inquiry now).granted = some (.client inquiry.serverAddress id))
    (numbered : (Payload.new inquiry.parameters cut.segmentSize).count ≤ 256) :
    ∀ action ∈ (run inquiry (start inquiry now) events).indicated,
      action = ⟨inquiry.clientAddress, id, .indicate inquiry.service inquiry.parameters⟩ := by
  have started : (start inquiry now).Faithful inquiry
      ⟨id, inquiry.service, .new inquiry.parameters cut.segmentSize, Payload.segmentSize_new _ _,
        numbered⟩ := faithful_start planned granted rfl rfl
  exact (started.run events).indicated

/-! ## The last window again -/

/-- A device that takes part in segmentation, asks for windows of 85 segments and accepts messages
of any number of segments. -/
def wideWindows : Config :=
  { Config.standard with
    proposedWindow := 85, maxApdu := .up50, maxSegments := .unspecified, segmentation := .both }

/-- A request with so many octets before the last one, each of which makes a segment of its own. -/
def octetwise (count : Nat) : Inquiry where
  clientAddress := .ofMac [1]
  serverAddress := .ofMac [2]
  client := wideWindows
  server := wideWindows
  service := 15
  parameters := List.replicate count 1 ++ [2]
  known := some { Peer.unknown with maxApduLength := 7, segmentation := .both }

/-- The first segment, so many full windows and the rest arrive. The application answers at once,
but all that the client should hear of it is lost, so that the rest arrives again. -/
def restAgain (windows rest : Nat) : List LossyEvent :=
  [.serverReceives 0, .clientReceives 0] ++
    (List.replicate windows
      (List.replicate 85 (.serverReceives 0) ++ [.clientReceives 0])).flatten ++
    List.replicate rest (.serverReceives 0) ++
    [.answers 0 (.ok .simple), .loseToClient 0, .loseToClient 0,
      .clientExpires wideWindows.segmentSpan] ++
    List.replicate rest (.serverReceives 0)

/-- Of a request of three segments only its beginning could start a request. -/
theorem indications_of_run_octetwise :
    (run (octetwise 2) (start (octetwise 2) 0) (restAgain 0 2)).indicated ≠ [] ∧
      ∀ action ∈ (run (octetwise 2) (start (octetwise 2) 0) (restAgain 0 2)).indicated,
        action = ⟨.ofMac [1], 1, .indicate 15 [1, 1, 2]⟩ := by
  refine ⟨by decide +kernel, ?_⟩
  exact indications_of_run (octetwise 2) 0 (restAgain 0 2) rfl (by decide +kernel)
    (by decide +kernel)

/-- The last one of 257 segments, if it arrives again, is given to the application as a request. -/
theorem exists_indication_of_rest :
    ∃ inquiry cut id events,
      inquiry.client.segmentation = .both ∧ inquiry.server.segmentation = .both ∧
      RequestPlan.new inquiry.client inquiry.parameters.length inquiry.known = .ok cut ∧
      cut.segments = 257 ∧
      inquiry.server.Admits (.new inquiry.parameters cut.segmentSize) ∧
      (ask inquiry 0).granted = some (.client inquiry.serverAddress id) ∧
      ∃ action ∈ (run inquiry (start inquiry 0) events).indicated,
        action.peer = inquiry.clientAddress ∧ action.invokeId = id ∧
        action.effect ≠ .indicate inquiry.service inquiry.parameters := by
  refine ⟨octetwise 256, ⟨1, 257⟩, 1, restAgain 3 1, rfl, rfl, by decide +kernel, rfl,
    ⟨by decide +kernel, by decide +kernel⟩, by decide +kernel, ?_⟩
  decide +kernel

end LossyExchange

end BACnet
