import BACnet.Config.Basic
import BACnet.Network.Npdu
import BACnet.Routing.Table
import BACnet.Timer.Event
import BACnet.Timer.Queue

/-!
# Routers

A device decides what happens to every network message that arrives on one of its links, and to
every one that its application sends. With a single link it delivers what is meant for it and
remembers which router leads to which network; with two or more links it also forwards between
them.

A router does nothing by itself. What it wants done it puts out as a list of `RouterOutput`, and
what it waits for it schedules on the timers of the device.
-/

namespace BACnet

/-- The link on which the application lives. -/
def primaryPort : PortId := 0

/-- A link to which the device is attached. -/
structure Port where
  /-- The number of the network, once it is known. -/
  network : Option UInt16
  /-- The address of the device on the link, if it is known. -/
  mac : Option Octets
  /-- Whether the number of the network was set up, and not learned. -/
  configured : Bool
  deriving DecidableEq, Repr

/-- Where a message came from: the link, and the address of its sender there. -/
structure Arrival where
  port : PortId
  mac : Octets
  deriving DecidableEq, Repr

/-- A network message on its way to a link. -/
structure Transmission where
  port : PortId
  destination : LinkDestination
  npdu : Npdu
  deriving DecidableEq, Repr

/-- What a router wants done. -/
inductive RouterOutput where
  | transmit (transmission : Transmission)
  /-- An application message for the application of this device. -/
  | deliver (source : Address) (apdu : Octets) (expectingReply : Bool) (priority : NetworkPriority)
  | failure (error : NetworkError)
  deriving DecidableEq, Repr

/-- Why a message goes no further. -/
inductive DropReason where
  | unknownPort
  | secondaryPort
  | arrivalNetwork
  | notRouter
  | notForwardable
  | pendingQueueFull
  deriving DecidableEq, Repr

def DropReason.text : DropReason → String
  | unknownPort => "unknown port"
  | secondaryPort => "local traffic on a secondary port"
  | arrivalNetwork => "addressed to the arrival network"
  | notRouter => "not a router"
  | notForwardable => "not forwardable"
  | pendingQueueFull => "pending queue full"

/-- What happens to a message. -/
inductive RoutingDecision where
  /-- It is for this device alone. -/
  | deliver
  | forward
  /-- It is for all networks. -/
  | broadcast
  /-- It waits for a route. -/
  | pending
  | drop (reason : DropReason)
  deriving DecidableEq, Repr

/-- A message that waits for a route. -/
structure PendingNpdu where
  npdu : Npdu
  /-- Where it came from; nowhere if this device sent it. -/
  arrival : Option Arrival
  deriving DecidableEq, Repr

/-- The messages that wait for a route to one network, and the timer that ends their wait. -/
structure PendingQueue where
  waiting : List PendingNpdu
  timer : TimerHandle
  deriving DecidableEq, Repr

/-- The links, the routes, and the messages that wait. -/
structure Router where
  ports : List Port
  table : RoutingTable
  pending : Table UInt16 PendingQueue
  config : RouterConfig
  deriving DecidableEq, Repr

namespace Router

/-- A router as it is set up. -/
def new (ports : List PortConfig) (config : RouterConfig) : Router where
  ports := ports.map fun port => ⟨port.network, port.mac, port.network.isSome⟩
  table := .empty
  pending := .empty
  config := config

/-- Whether the device routes between links. -/
def isRouter (router : Router) : Bool := 1 < router.ports.length

/-- A link by its number. -/
def port? (router : Router) (port : PortId) : Option Port := router.ports[port.toNat]?

/-- The number of the network behind a link, once it is known. -/
def network? (router : Router) (port : PortId) : Option UInt16 :=
  (router.port? port).bind (·.network)

/-- The number of messages that wait for a route to a network. -/
def pendingCount (router : Router) (network : UInt16) : Nat :=
  ((router.pending.find? network).map (·.waiting.length)).getD 0

/-- The first link behind which the network lies. -/
def directPort? (router : Router) (network : UInt16) : Option PortId :=
  (router.ports.findIdx? (·.network = some network)).map UInt16.ofNat

/-- The numbers of all links. -/
def portIds (router : Router) : List PortId :=
  (List.range router.ports.length).map UInt16.ofNat

/-- The numbers of all links but one. -/
def otherPorts (router : Router) (except : Option PortId) : List PortId :=
  router.portIds.filter fun port => some port ≠ except

/-- Whether a MAC address on the primary network is that of this device. An empty one is the address
of all, and as long as the device does not know its own, any address may be. -/
def isOwnMac (router : Router) (mac : Octets) : Bool :=
  mac.isEmpty || match (router.port? primaryPort).bind (·.mac) with
    | none => true
    | some own => own == mac

/-- The sender of a message as the application sees it. -/
def deliverySource (router : Router) (arrival : Arrival) (npdu : Npdu) : Address :=
  match npdu.source with
  | some source => source
  | none =>
    match router.network? arrival.port with
    | some network =>
      if arrival.port = primaryPort then .ofMac arrival.mac else ⟨network, arrival.mac⟩
    | none => .ofMac arrival.mac

/-! ## Sending -/

/-- The address of this device as other networks see it, if it is known. -/
def ownAddress? (router : Router) : Option Address := do
  let port ← router.port? primaryPort
  some ⟨← port.network, ← port.mac⟩

/-- Names this device as the source of an application message that leaves on a link other than the
primary one, unless it has a source. -/
def stamp (router : Router) (port : PortId) (npdu : Npdu) : Npdu :=
  if port ≠ primaryPort ∧ npdu.source.isNone ∧ ¬ npdu.body.isNetwork then
    { npdu with source := router.ownAddress? }
  else npdu

/-- A message on its way to a link. -/
def transmission (router : Router) (port : PortId) (destination : LinkDestination) (npdu : Npdu) :
    RouterOutput :=
  .transmit ⟨port, destination, router.stamp port npdu⟩

/-- A message on its way to all stations of some links. -/
def broadcasts (router : Router) (ports : List PortId) (npdu : Npdu) : List RouterOutput :=
  ports.map fun port => router.transmission port .broadcast npdu

/-- The question for a router to a network, on all links but one. -/
def queries (router : Router) (network : UInt16) (except : Option PortId) : List RouterOutput :=
  router.broadcasts (router.otherPorts except)
    (.ofMessage (.whoIsRouterToNetwork (some network)))

/-- A message with a destination on another network. -/
def addressed (router : Router) (destination : Address) (npdu : Npdu) : Npdu :=
  { npdu with destination := some destination, hopCount := router.config.initialHopCount }

/-- An answer to a message between routers. -/
def reply (router : Router) (arrival : Arrival) (npdu : Npdu) (message : NetworkMessage) :
    RouterOutput :=
  let answer := match npdu.source with
    | none => Npdu.ofMessage message
    | some source => router.addressed source (.ofMessage message)
  router.transmission arrival.port (.ofMac arrival.mac) answer

/-- The refusal of a message, sent back to its source. A source on the network of arrival needs no
address. -/
def reject (router : Router) (arrival : Arrival) (npdu : Npdu) (network : UInt16)
    (reason : RejectMessageReason) : RouterOutput :=
  let refusal := Npdu.ofMessage (.rejectMessageToNetwork reason network)
  let answer := match npdu.source with
    | none => refusal
    | some source =>
      if some source.network = router.network? arrival.port then refusal
      else router.addressed source refusal
  router.transmission arrival.port (.unicast arrival.mac) answer

/-! ## Routes -/

/-- The router with a route, unless the next hop has no address or the network needs no route. -/
def learnRoute? (router : Router) (network : UInt16) (arrival : Arrival) (now : Nat) :
    Option Router :=
  if arrival.mac.isEmpty ∨ network = Address.globalNetwork ∨
      (router.directPort? network).isSome then
    none
  else
    some { router with
      table := router.table.insert network ⟨arrival.port, arrival.mac, .reachable, now⟩ }

/-- Whether a route is known that need not be learned again. -/
def hasFreshRoute (router : Router) (network : UInt16) : Bool :=
  (router.table.find? network).any (·.status ≠ .stale)

/-- How long a route may go unheard of. -/
def staleAfter (router : Router) : Nat := nanosOfMillis router.config.staleAfter.toNat

/-- The number of routes that have not been heard of for too long. -/
def overdueCount (router : Router) (now : Nat) : Nat :=
  router.table.entries.countP fun (_, route) => route.isOverdue router.staleAfter now

/-- Marks the routes that have not been heard of for too long. -/
def expireRoutes (router : Router) (now : Nat) : Router :=
  { router with table := router.table.mapValues (·.expire router.staleAfter now) }

end Router

end BACnet
