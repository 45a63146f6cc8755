import BACnet.Octets

/-!
# Addresses

A station is addressed by the number of its network and its MAC address there. Network 0 is the
sender's own, network 65535 stands for all networks, and an empty MAC for all stations.
-/

namespace BACnet

/-- A network number and a MAC address on that network. -/
structure Address where
  network : UInt16
  mac : Octets
  deriving DecidableEq, Repr

namespace Address

/-- The network number of the sender's own network. -/
def localNetwork : UInt16 := 0

/-- The network number of all networks. -/
def globalNetwork : UInt16 := 65535

/-- A station on the sender's own network. -/
def ofMac (mac : Octets) : Address := ⟨localNetwork, mac⟩

/-- All stations of all networks. -/
def globalBroadcast : Address := ⟨globalNetwork, []⟩

/-- Whether the address lies on the sender's own network. -/
def isLocal (address : Address) : Bool := address.network == localNetwork

/-- Whether the address stands for all networks. -/
def isGlobal (address : Address) : Bool := address.network == globalNetwork

/-- Whether the address stands for all stations of its network. -/
def isBroadcast (address : Address) : Bool := address.mac.isEmpty

/-- The address as people write it: network and MAC joined by a colon, with a star for "all". -/
def text (address : Address) : String :=
  let network := address.network
  if address.isGlobal then "*:*"
  else if address.isLocal then if address.isBroadcast then "*" else Octets.hex address.mac
  else if address.isBroadcast then s!"{network}:*"
  else s!"{network}:" ++ Octets.hex address.mac

/-- Compares octet strings as in a dictionary. -/
def compareOctets : Octets → Octets → Ordering
  | [], [] => .eq
  | [], _ :: _ => .lt
  | _ :: _, [] => .gt
  | a :: as, b :: bs => (compare a.toNat b.toNat).then (compareOctets as bs)

/-- Compares addresses by network number, then by MAC. -/
def order (a b : Address) : Ordering :=
  (compare a.network.toNat b.network.toNat).then (compareOctets a.mac b.mac)

end Address

/-- The number of an attached link. -/
abbrev PortId := UInt16

end BACnet
