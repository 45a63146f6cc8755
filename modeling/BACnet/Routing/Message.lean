import BACnet.Routing.Forward

/-!
# Messages between routers

What a device does with the messages by which routers find each other and tell which networks they
reach.
-/

namespace BACnet

namespace Router

/-- The networks that are reached through links other than the one given, in ascending order. -/
def networksBeyond (router : Router) (port : PortId) : List UInt16 :=
  let attached := (router.otherPorts (some port)).filterMap router.network?
  let learned := (router.table.entries.filter (·.2.port ≠ port)).map (·.1)
  ((attached ++ learned).mergeSort (· ≤ ·)).eraseDups

/-- The number of a link in routing tables, where it counts from 1 and fits an octet. -/
def tablePortId (port : PortId) : UInt8 := UInt8.ofNat (min (port.toNat + 1) 255)

/-- The routing table as it is told to other routers: the attached networks first. -/
def tablePorts (router : Router) : List RoutingTablePort :=
  let attached := router.portIds.filterMap fun port =>
    (router.network? port).map fun network => ⟨network, tablePortId port, []⟩
  let learned := router.table.sorted.map fun (network, route) =>
    ⟨network, tablePortId route.port, []⟩
  attached ++ learned

/-- Takes over lines of a routing table: those with the link 0 remove a route, and the others lead
to the sender. -/
def applyTable (router : Router) (now : Nat) (arrival : Arrival) (lines : List RoutingTablePort) :
    Router :=
  lines.foldl
    (fun router line =>
      if line.portId = 0 then { router with table := router.table.erase line.network }
      else (router.learnRoute? line.network arrival now).getD router)
    router

/-- Learns the number of the network behind a link, if none is known. -/
def learnNetwork (router : Router) (port : PortId) (network : UInt16) : Router :=
  { router with
    ports := router.ports.modify port.toNat fun link =>
      { link with network := link.network <|> some network } }

/-- The answer to the question for a router: an announcement of networks, or the same question on
the other links. -/
def answerWhoIs (router : Router) (arrival : Arrival) (npdu : Npdu) (network : Option UInt16) :
    List RouterOutput :=
  let beyond := router.networksBeyond arrival.port
  let announce (networks : List UInt16) :=
    router.broadcasts [arrival.port] (.ofMessage (.iAmRouterToNetwork networks))
  match network with
  | none => if beyond.isEmpty then [] else announce beyond
  | some network =>
    if network ∈ beyond then announce [network]
    else if router.directPort? network = some arrival.port then []
    else
      let question := Npdu.ofMessage (.whoIsRouterToNetwork (some network))
      let source := npdu.source <|> match router.network? arrival.port with
        | some number => if arrival.mac.isEmpty then none else some ⟨number, arrival.mac⟩
        | none => none
      router.broadcasts (router.otherPorts (some arrival.port)) { question with source }

/-- The networks that a message on the state of a router is about: those it names, or all that are
reached through its sender. -/
def concerned (router : Router) (arrival : Arrival) (networks : List UInt16) : List UInt16 :=
  if networks.isEmpty then router.table.networksVia arrival.port arrival.mac else networks

/-- The status that a refusal leaves a route with. -/
def statusAfterReject (reason : RejectMessageReason) : RouteStatus :=
  if reason = .routerBusy then .busy else .stale

/-- Changes the routes and leaves the rest as it is. -/
def mapTable (router : Router) (change : RoutingTable → RoutingTable) : Router :=
  { router with table := change router.table }

/-- The number of the network that a message of an unknown type was sent to. -/
def targetNetwork (router : Router) (arrival : Arrival) (npdu : Npdu) : UInt16 :=
  match npdu.destination with
  | some destination => destination.network
  | none => (router.network? arrival.port).getD Address.localNetwork

/-- The answer to the question for the number of the network behind a link. It is not sent to other
networks. -/
def answerNetworkNumber (router : Router) (arrival : Arrival) (npdu : Npdu) : List RouterOutput :=
  if npdu.source.isSome ∨ npdu.destination.isSome then []
  else
    match router.port? arrival.port with
    | some ⟨some network, _, configured⟩ =>
      router.broadcasts [arrival.port] (.ofMessage (.networkNumberIs network configured))
    | _ => []

end Router

namespace Routing

/-- Changes the router and leaves the rest as it is. -/
def mapRouter (state : Routing) (change : Router → Router) : Routing :=
  { state with router := change state.router }

/-- Notes that networks can be reached again, and sends what has waited for them. -/
def makeAvailable (state : Routing) (now : Nat) (networks : List UInt16) : Routing :=
  networks.foldl
    (fun state network =>
      (state.mapRouter (·.mapTable (·.refresh network now))).flush now network)
    state

/-- Takes over an announcement of networks, and repeats it on the other links. -/
def takeAnnouncement (state : Routing) (now : Nat) (arrival : Arrival) (networks : List UInt16) :
    Routing :=
  let learned := networks.foldl (fun state network => state.learn now arrival network) state
  if learned.router.isRouter ∧ networks ≠ [] then
    learned.emit (learned.router.broadcasts (learned.router.otherPorts (some arrival.port))
      (.ofMessage (.iAmRouterToNetwork networks)))
  else learned

/-- Answers the request for the routing table, or to change it. -/
def initializeTable (state : Routing) (now : Nat) (arrival : Arrival) (npdu : Npdu)
    (lines : List RoutingTablePort) : Routing :=
  if !state.router.isRouter then state
  else if lines.isEmpty then
    state.emit [state.router.reply arrival npdu
      (.initializeRoutingTableAck state.router.tablePorts)]
  else
    let changed := state.mapRouter (·.applyTable now arrival lines)
    changed.emit [changed.router.reply arrival npdu (.initializeRoutingTableAck [])]

/-- Handles a message between routers. -/
def handleMessage (state : Routing) (now : Nat) (arrival : Arrival) (npdu : Npdu)
    (message : NetworkMessage) : Routing :=
  match message with
  | .whoIsRouterToNetwork network =>
    if state.router.isRouter then state.emit (state.router.answerWhoIs arrival npdu network)
    else state
  | .iAmRouterToNetwork networks => state.takeAnnouncement now arrival networks
  | .rejectMessageToNetwork reason network =>
    (state.mapRouter (·.mapTable (·.setStatus network (Router.statusAfterReject reason)))).emit
      [.failure (.rejected network reason)]
  | .routerBusyToNetwork networks =>
    state.mapRouter (·.mapTable fun table =>
      (state.router.concerned arrival networks).foldl (·.setStatus · .busy) table)
  | .routerAvailableToNetwork networks =>
    state.makeAvailable now (state.router.concerned arrival networks)
  | .initializeRoutingTable lines => state.initializeTable now arrival npdu lines
  | .initializeRoutingTableAck lines => state.mapRouter (·.applyTable now arrival lines)
  | .whatIsNetworkNumber => state.emit (state.router.answerNetworkNumber arrival npdu)
  | .networkNumberIs network _ =>
    if npdu.source.isSome ∨ npdu.destination.isSome then state
    else state.mapRouter (·.learnNetwork arrival.port network)
  | .other _ _ =>
    if arrival.mac.isEmpty then state
    else
      let network := state.router.targetNetwork arrival npdu
      state.emit [state.router.reply arrival npdu
        (.rejectMessageToNetwork .unknownMessageType network)]
  | .iCouldBeRouterToNetwork _ _ | .establishConnectionToNetwork _ _
  | .disconnectConnectionToNetwork _ | .proprietary _ _ _ => state

end Routing

end BACnet
