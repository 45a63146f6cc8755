import BACnet.Routing.Router

/-!
# Forwarding

How a message is sent towards a network: at once if the network is attached or a router to it is
known, and otherwise when a router has been found. Messages to one network wait in a queue and leave
it in the order in which they came.
-/

namespace BACnet

namespace Router

/-- Names the source of a message that is about to pass this router, unless it has one. There is no
name for a source on a network without a number, and none without an address. -/
def nameSource? (router : Router) (arrival : Arrival) (npdu : Npdu) : Option Npdu :=
  match npdu.source with
  | some _ => some npdu
  | none =>
    match router.network? arrival.port with
    | none => none
    | some network =>
      if arrival.mac.isEmpty then none
      else some { npdu with source := some ⟨network, arrival.mac⟩ }

/-- What is said of a message that has passed too many routers. -/
def hopCountOutputs (router : Router) (arrival : Arrival) (npdu : Npdu) (network : UInt16) :
    List RouterOutput :=
  let failure := RouterOutput.failure (.hopCountExhausted network)
  if network ≠ Address.globalNetwork ∧ router.config.sendReject then
    [router.reject arrival npdu network .other, failure]
  else [failure]

/-- A message as it leaves this router again, if it may, and what is said otherwise. -/
def pass (router : Router) (arrival : Arrival) (npdu : Npdu) (network : UInt16) :
    Option Npdu × List RouterOutput :=
  if npdu.hopCount = 0 then (none, router.hopCountOutputs arrival npdu network)
  else (router.nameSource? arrival { npdu with hopCount := npdu.hopCount - 1 }, [])

end Router

/-- A router at work on one message: its state, the timers of the device, and what it has put out so
far. -/
structure Routing where
  router : Router
  timers : TimerQueue TimerEvent
  outputs : List RouterOutput
  deriving DecidableEq, Repr

namespace Routing

/-- A router that has put out nothing yet. -/
def start (router : Router) (timers : TimerQueue TimerEvent) : Routing := ⟨router, timers, []⟩

/-- Puts something out. -/
def emit (state : Routing) (outputs : List RouterOutput) : Routing :=
  { state with outputs := state.outputs ++ outputs }

/-- Puts a message at the end of a queue that is there already. -/
def enqueueBehind (state : Routing) (network : UInt16) (queue : PendingQueue)
    (message : PendingNpdu) : Routing :=
  { state with
    router := { state.router with
      pending := state.router.pending.insert network
        { queue with waiting := queue.waiting ++ [message] } } }

/-- Puts a message into a new queue, whose wait begins now. -/
def enqueueFirst (state : Routing) (now : Nat) (network : UInt16) (message : PendingNpdu) :
    Routing :=
  let deadline := now + nanosOfMillis state.router.config.resolutionTimeout.toNat
  let (timer, timers) := state.timers.schedule deadline (.routeResolution network)
  { state with
    timers
    router := { state.router with
      pending := state.router.pending.insert network ⟨[message], timer⟩ } }

/-- Lets a message wait for a route. With `ask`, the first one that waits for a network starts the
search for a router. -/
def enqueue (state : Routing) (now : Nat) (network : UInt16) (message : PendingNpdu) (ask : Bool) :
    RoutingDecision × Routing :=
  if state.router.config.pendingLimit.toNat ≤ state.router.pendingCount network then
    (.drop .pendingQueueFull, state.emit [.failure (.pendingQueueFull network)])
  else
    match state.router.pending.find? network with
    | some queue => (.pending, state.enqueueBehind network queue message)
    | none =>
      let waiting := state.enqueueFirst now network message
      let queries :=
        if ask then state.router.queries network (message.arrival.map (·.port)) else []
      (.pending, waiting.emit queries)

/-- Sends a message to a network behind one of the links. -/
def sendDirect (state : Routing) (port : PortId) (npdu : Npdu) : Routing :=
  let destination := match npdu.destination with
    | none => LinkDestination.broadcast
    | some address => .ofMac address.mac
  state.emit [state.router.transmission port destination { npdu with destination := none }]

/-- Sends a message to the next router. -/
def sendVia (state : Routing) (route : Route) (npdu : Npdu) : Routing :=
  state.emit [state.router.transmission route.port (.unicast route.nextHop) npdu]

/-- Sends a message towards a network, or lets it wait. -/
def forward (state : Routing) (now : Nat) (network : UInt16) (message : PendingNpdu) :
    RoutingDecision × Routing :=
  match state.router.directPort? network with
  | some port => (.forward, state.sendDirect port message.npdu)
  | none =>
    match state.router.table.find? network with
    | none => state.enqueue now network message true
    | some route =>
      match route.status with
      | .reachable => (.forward, state.sendVia route message.npdu)
      | .stale =>
        (.forward, (state.sendVia route message.npdu).emit
          (state.router.queries network (message.arrival.map (·.port))))
      | .busy => state.enqueue now network message false

/-- Ends the wait for a network. -/
def dropQueue (state : Routing) (network : UInt16) (queue : PendingQueue) : Routing :=
  { state with
    timers := state.timers.cancel queue.timer
    router := { state.router with pending := state.router.pending.erase network } }

/-- Sends the messages that wait for a network, in the order in which they came. -/
def flush (state : Routing) (now : Nat) (network : UInt16) : Routing :=
  match state.router.pending.find? network with
  | none => state
  | some queue =>
    queue.waiting.foldl (fun state message => (state.forward now network message).2)
      (state.dropQueue network queue)

/-- Learns a route, and sends what has waited for it. -/
def learn (state : Routing) (now : Nat) (arrival : Arrival) (network : UInt16) : Routing :=
  match state.router.learnRoute? network arrival now with
  | none => state
  | some router => { state with router }.flush now network

/-- Sends a message that came from a link towards a network, if it may pass. -/
def forwardArrival (state : Routing) (now : Nat) (arrival : Arrival) (npdu : Npdu)
    (network : UInt16) : RoutingDecision × Routing :=
  let (passed, outputs) := state.router.pass arrival npdu network
  match passed with
  | none => (.drop .notForwardable, state.emit outputs)
  | some npdu => (state.emit outputs).forward now network ⟨npdu, some arrival⟩

end Routing

end BACnet
