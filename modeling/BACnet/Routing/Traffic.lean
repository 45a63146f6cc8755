import BACnet.Routing.Message

/-!
# Traffic

What happens to a network message that arrives, to one that the application sends, and to those that
have waited for a route in vain.

* `Routing.receive` decides about a message from a link.
* `Routing.send` sends a message of the application.
* `Routing.giveUp` ends the wait for a route.
-/

namespace BACnet

namespace Routing

/-- Hands a message to this device: an application message to the application, and a message between
routers to the router. -/
def deliver (state : Routing) (now : Nat) (arrival : Arrival) (npdu : Npdu) : Routing :=
  match npdu.body with
  | .apdu data =>
    state.emit [.deliver (state.router.deliverySource arrival npdu) data npdu.expectingReply
      npdu.priority]
  | .network message => state.handleMessage now arrival npdu message

/-- Learns the route to the source of a message, unless it is known. -/
def learnSource (state : Routing) (now : Nat) (arrival : Arrival) (npdu : Npdu) : Routing :=
  match npdu.source with
  | none => state
  | some source =>
    if state.router.hasFreshRoute source.network then state
    else state.learn now arrival source.network

/-- A message without a destination is for the stations of its link. -/
def receiveLocal (state : Routing) (now : Nat) (arrival : Arrival) (npdu : Npdu) :
    RoutingDecision × Routing :=
  if arrival.port = primaryPort ∨ npdu.body.isNetwork then
    (.deliver, state.deliver now arrival npdu)
  else (.drop .secondaryPort, state)

/-- A message to all networks is for this device, and for all other links. -/
def receiveGlobal (state : Routing) (now : Nat) (arrival : Arrival) (npdu : Npdu) :
    RoutingDecision × Routing :=
  let delivered := state.deliver now arrival npdu
  if delivered.router.isRouter then
    let router := delivered.router
    let (passed, outputs) := router.pass arrival npdu Address.globalNetwork
    let copies := match passed with
      | none => []
      | some npdu => router.broadcasts (router.otherPorts (some arrival.port)) npdu
    (.broadcast, delivered.emit (outputs ++ copies))
  else (.deliver, delivered)

/-- A message to an attached network behind the link `target`. -/
def receiveAttached (state : Routing) (now : Nat) (arrival : Arrival) (npdu : Npdu)
    (destination : Address) (target : PortId) : RoutingDecision × Routing :=
  let own := target = primaryPort ∧ state.router.isOwnMac destination.mac
  if target = arrival.port then
    if own then (.deliver, state.deliver now arrival npdu)
    else (.drop .arrivalNetwork, state)
  else if own then
    let delivered := state.deliver now arrival npdu
    if destination.isBroadcast then
      delivered.forwardArrival now arrival npdu destination.network
    else (.deliver, delivered)
  else state.forwardArrival now arrival npdu destination.network

/-- A message to one network. -/
def receiveRemote (state : Routing) (now : Nat) (arrival : Arrival) (npdu : Npdu)
    (destination : Address) : RoutingDecision × Routing :=
  match state.router.directPort? destination.network with
  | some target => state.receiveAttached now arrival npdu destination target
  | none =>
    if state.router.isRouter then state.forwardArrival now arrival npdu destination.network
    else (.drop .notRouter, state)

/-- Decides about a message from a link. -/
def receive (state : Routing) (now : Nat) (arrival : Arrival) (npdu : Npdu) :
    RoutingDecision × Routing :=
  if (state.router.port? arrival.port).isNone then
    (.drop .unknownPort, state.emit [.failure (.unknownPort arrival.port)])
  else
    let state := state.learnSource now arrival npdu
    match npdu.destination with
    | none => state.receiveLocal now arrival npdu
    | some destination =>
      if destination.isGlobal then state.receiveGlobal now arrival npdu
      else state.receiveRemote now arrival npdu destination

/-! ## Sending -/

/-- What the application wants sent. -/
structure Outgoing where
  body : NpduBody
  expectingReply : Bool
  priority : NetworkPriority
  deriving DecidableEq, Repr

/-- Puts a message of the application on its way. -/
def dispatch (state : Routing) (now : Nat) (destination : Address) (message : Outgoing) : Routing :=
  let npdu : Npdu :=
    ⟨message.priority, message.expectingReply, none, none, state.router.config.initialHopCount,
      message.body⟩
  if destination.isLocal ∨ some destination.network = state.router.network? primaryPort then
    state.emit [state.router.transmission primaryPort (.ofMac destination.mac) npdu]
  else
    let addressed := { npdu with destination := some destination }
    if destination.isGlobal then
      state.emit (state.router.broadcasts state.router.portIds addressed)
    else (state.forward now destination.network ⟨addressed, none⟩).2

/-- The transmissions among the outputs, or the first failure. -/
def transmissions : List RouterOutput → Except NetworkError (List Transmission)
  | [] => .ok []
  | .transmit first :: rest => (transmissions rest).map (first :: ·)
  | .deliver _ _ _ _ :: rest => transmissions rest
  | .failure reason :: _ => .error reason

/-- Sends a message of the application: the transmissions, and the router and the timers after
them. -/
def send (router : Router) (timers : TimerQueue TimerEvent) (now : Nat) (destination : Address)
    (message : Outgoing) :
    Except NetworkError (List Transmission) × Router × TimerQueue TimerEvent :=
  let state := (start router timers).dispatch now destination message
  (transmissions state.outputs, state.router, state.timers)

end Routing

/-! ## Giving up -/

namespace Router

/-- What is told to those whose messages have waited for a route in vain. -/
def failureReports (router : Router) (network : UInt16) (waiting : List PendingNpdu) :
    List RouterOutput :=
  let reason : RejectMessageReason :=
    if (router.table.find? network).any (·.status = .busy) then .routerBusy
    else .notDirectlyConnected
  let rejects := waiting.filterMap fun message =>
    match message.arrival with
    | some arrival =>
      if router.config.sendReject then some (router.reject arrival message.npdu network reason)
      else none
    | none => none
  let failures :=
    if waiting.any (·.arrival.isNone) then [RouterOutput.failure (.networkUnreachable network)]
    else []
  rejects ++ failures

/-- Gives up the search for a route: the messages that wait for it are dropped, and their senders
are told. -/
def giveUp (router : Router) (network : UInt16) : List RouterOutput × Router :=
  match router.pending.find? network with
  | none => ([], router)
  | some queue =>
    let router := { router with pending := router.pending.erase network }
    (router.failureReports network queue.waiting, router)

end Router

end BACnet
