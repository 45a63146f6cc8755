import BACnet.Link.Error
import BACnet.Network.Address
import BACnet.Table

/-!
# Routes

What a device knows about networks to which it is not attached: on which link, and at which address
there, the next router towards the network stands.
-/

namespace BACnet

/-- How much a route can be relied on. -/
inductive RouteStatus where
  | reachable
  /-- The next router has asked for a pause. -/
  | busy
  /-- The route is old, or a message was refused. It is still used, and asked for again. -/
  | stale
  deriving DecidableEq, Repr

/-- The next router towards a network. -/
structure Route where
  port : PortId
  nextHop : Octets
  status : RouteStatus
  /-- When the route was last heard of, in nanoseconds. -/
  updatedAt : Nat
  deriving DecidableEq, Repr

/-- The routes by the network to which they lead. -/
abbrev RoutingTable := Table UInt16 Route

namespace RoutingTable

/-- The routes in the order of their network numbers. -/
def sorted (table : RoutingTable) : List (UInt16 × Route) :=
  table.entries.mergeSort fun a b => a.1 ≤ b.1

/-- Changes the status of a route, if there is one. -/
def setStatus (table : RoutingTable) (network : UInt16) (status : RouteStatus) : RoutingTable :=
  match table.find? network with
  | none => table
  | some route => table.insert network { route with status }

/-- Notes that a route was heard of and can be relied on, if there is one. -/
def refresh (table : RoutingTable) (network : UInt16) (now : Nat) : RoutingTable :=
  match table.find? network with
  | none => table
  | some route => table.insert network { route with status := .reachable, updatedAt := now }

/-- The networks that are reached through a router. -/
def networksVia (table : RoutingTable) (port : PortId) (nextHop : Octets) : List UInt16 :=
  (table.sorted.filter fun (_, route) => route.port = port ∧ route.nextHop = nextHop).map (·.1)

end RoutingTable

namespace Route

/-- Whether a route that can be relied on has not been heard of for too long. -/
def isOverdue (route : Route) (staleAfter now : Nat) : Bool :=
  route.status = .reachable ∧ staleAfter ≤ now - route.updatedAt

/-- The route, which can no longer be relied on if it has not been heard of for too long. -/
def expire (route : Route) (staleAfter now : Nat) : Route :=
  if route.isOverdue staleAfter now then { route with status := .stale } else route

end Route

end BACnet
