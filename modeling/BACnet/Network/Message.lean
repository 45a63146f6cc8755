import BACnet.Network.Error

/-!
# Messages between routers

The messages of the network layer itself, with which routers find each other and tell which
networks they reach. A message has a type octet; types from 128 belong to makers of devices and
carry a vendor number.
-/

namespace BACnet

/-- The message types of the standard. -/
inductive NetworkMessageType where
  | whoIsRouterToNetwork
  | iAmRouterToNetwork
  | iCouldBeRouterToNetwork
  | rejectMessageToNetwork
  | routerBusyToNetwork
  | routerAvailableToNetwork
  | initializeRoutingTable
  | initializeRoutingTableAck
  | establishConnectionToNetwork
  | disconnectConnectionToNetwork
  | whatIsNetworkNumber
  | networkNumberIs
  deriving DecidableEq, Repr

namespace NetworkMessageType

/-- The octet of the type. -/
def code : NetworkMessageType → UInt8
  | whoIsRouterToNetwork => 0
  | iAmRouterToNetwork => 1
  | iCouldBeRouterToNetwork => 2
  | rejectMessageToNetwork => 3
  | routerBusyToNetwork => 4
  | routerAvailableToNetwork => 5
  | initializeRoutingTable => 6
  | initializeRoutingTableAck => 7
  | establishConnectionToNetwork => 8
  | disconnectConnectionToNetwork => 9
  | whatIsNetworkNumber => 18
  | networkNumberIs => 19

/-- The type of an octet. -/
def ofCode? (code : UInt8) : Option NetworkMessageType :=
  match code.toNat with
  | 0 => some whoIsRouterToNetwork
  | 1 => some iAmRouterToNetwork
  | 2 => some iCouldBeRouterToNetwork
  | 3 => some rejectMessageToNetwork
  | 4 => some routerBusyToNetwork
  | 5 => some routerAvailableToNetwork
  | 6 => some initializeRoutingTable
  | 7 => some initializeRoutingTableAck
  | 8 => some establishConnectionToNetwork
  | 9 => some disconnectConnectionToNetwork
  | 18 => some whatIsNetworkNumber
  | 19 => some networkNumberIs
  | _ => none

end NetworkMessageType

/-- One line of a routing table as routers exchange it. -/
structure RoutingTablePort where
  network : UInt16
  portId : UInt8
  info : Octets
  deriving DecidableEq, Repr

/-- A message of the network layer. -/
inductive NetworkMessage where
  /-- The question for a router to a network, or for all routers. -/
  | whoIsRouterToNetwork (network : Option UInt16)
  | iAmRouterToNetwork (networks : List UInt16)
  | iCouldBeRouterToNetwork (network : UInt16) (performanceIndex : UInt8)
  | rejectMessageToNetwork (reason : RejectMessageReason) (network : UInt16)
  | routerBusyToNetwork (networks : List UInt16)
  | routerAvailableToNetwork (networks : List UInt16)
  | initializeRoutingTable (ports : List RoutingTablePort)
  | initializeRoutingTableAck (ports : List RoutingTablePort)
  | establishConnectionToNetwork (network : UInt16) (terminationTime : UInt8)
  | disconnectConnectionToNetwork (network : UInt16)
  | whatIsNetworkNumber
  | networkNumberIs (network : UInt16) (configured : Bool)
  /-- A type that the standard reserves. -/
  | other (messageType : UInt8) (data : Octets)
  /-- A type of the vendor's own. -/
  | proprietary (messageType : UInt8) (vendorId : UInt16) (data : Octets)
  deriving DecidableEq, Repr

namespace NetworkMessage

/-- The type octet of the message. -/
def messageType : NetworkMessage → UInt8
  | whoIsRouterToNetwork _ => NetworkMessageType.whoIsRouterToNetwork.code
  | iAmRouterToNetwork _ => NetworkMessageType.iAmRouterToNetwork.code
  | iCouldBeRouterToNetwork _ _ => NetworkMessageType.iCouldBeRouterToNetwork.code
  | rejectMessageToNetwork _ _ => NetworkMessageType.rejectMessageToNetwork.code
  | routerBusyToNetwork _ => NetworkMessageType.routerBusyToNetwork.code
  | routerAvailableToNetwork _ => NetworkMessageType.routerAvailableToNetwork.code
  | initializeRoutingTable _ => NetworkMessageType.initializeRoutingTable.code
  | initializeRoutingTableAck _ => NetworkMessageType.initializeRoutingTableAck.code
  | establishConnectionToNetwork _ _ => NetworkMessageType.establishConnectionToNetwork.code
  | disconnectConnectionToNetwork _ => NetworkMessageType.disconnectConnectionToNetwork.code
  | whatIsNetworkNumber => NetworkMessageType.whatIsNetworkNumber.code
  | networkNumberIs _ _ => NetworkMessageType.networkNumberIs.code
  | other messageType _ => messageType
  | proprietary messageType _ _ => messageType

/-! ## Encoding -/

/-- The octets of a list of network numbers. -/
def encodeNetworks (networks : List UInt16) : Octets := networks.flatMap Octets.ofWord16

/-- The octets of a line of a routing table; at most 255 octets of its information are sent. -/
def encodePort (port : RoutingTablePort) : Octets :=
  let info := port.info.take 255
  Octets.ofWord16 port.network ++ [port.portId, UInt8.ofNat info.length] ++ info

/-- The octets of a routing table, of which at most 255 lines are sent. -/
def encodePorts (ports : List RoutingTablePort) : Octets :=
  UInt8.ofNat (min ports.length 255) :: (ports.take 255).flatMap encodePort

/-- The octets behind the type of the message. -/
def encodePayload : NetworkMessage → Octets
  | whoIsRouterToNetwork network => (network.map Octets.ofWord16).getD []
  | iAmRouterToNetwork networks => encodeNetworks networks
  | iCouldBeRouterToNetwork network performanceIndex =>
    Octets.ofWord16 network ++ [performanceIndex]
  | rejectMessageToNetwork reason network => reason.number :: Octets.ofWord16 network
  | routerBusyToNetwork networks => encodeNetworks networks
  | routerAvailableToNetwork networks => encodeNetworks networks
  | initializeRoutingTable ports => encodePorts ports
  | initializeRoutingTableAck ports => encodePorts ports
  | establishConnectionToNetwork network terminationTime =>
    Octets.ofWord16 network ++ [terminationTime]
  | disconnectConnectionToNetwork network => Octets.ofWord16 network
  | whatIsNetworkNumber => []
  | networkNumberIs network configured =>
    Octets.ofWord16 network ++ [if configured then 1 else 0]
  | other _ data => data
  | proprietary _ vendorId data => Octets.ofWord16 vendorId ++ data

/-- The octets of the message, its type first. -/
def encode (message : NetworkMessage) : Octets := message.messageType :: message.encodePayload

/-! ## Decoding -/

/-- Reads network numbers up to the end of the octets. -/
def decodeNetworks? : Octets → Option (List UInt16)
  | [] => some []
  | [_] => none
  | high :: low :: rest => (decodeNetworks? rest).map (Octets.word16 high low :: ·)

/-- Reads `count` lines of a routing table. What follows them is left out. -/
def decodePorts? : Nat → Octets → Option (List RoutingTablePort)
  | 0, _ => some []
  | count + 1, high :: low :: portId :: length :: rest => do
    let info ← Octets.take? length.toNat rest
    let ports ← decodePorts? count (rest.drop length.toNat)
    some (⟨Octets.word16 high low, portId, info⟩ :: ports)
  | _ + 1, _ => none

/-- Reads a routing table: the number of its lines, then the lines. -/
def decodeTable? : Octets → Option (List RoutingTablePort)
  | [] => none
  | count :: rest => decodePorts? count.toNat rest

/-- Reads a message of a standard type from the octets behind its type. Octets behind the last field
are left out. -/
def decodeStandard? (type : NetworkMessageType) (data : Octets) : Option NetworkMessage :=
  match type with
  | .whoIsRouterToNetwork =>
    match data with
    | [] => some (whoIsRouterToNetwork none)
    | high :: low :: _ => some (whoIsRouterToNetwork (some (Octets.word16 high low)))
    | _ => none
  | .iAmRouterToNetwork => iAmRouterToNetwork <$> decodeNetworks? data
  | .iCouldBeRouterToNetwork =>
    match data with
    | high :: low :: index :: _ => some (iCouldBeRouterToNetwork (Octets.word16 high low) index)
    | _ => none
  | .rejectMessageToNetwork =>
    match data with
    | reason :: high :: low :: _ =>
      some (rejectMessageToNetwork ⟨reason⟩ (Octets.word16 high low))
    | _ => none
  | .routerBusyToNetwork => routerBusyToNetwork <$> decodeNetworks? data
  | .routerAvailableToNetwork => routerAvailableToNetwork <$> decodeNetworks? data
  | .initializeRoutingTable => initializeRoutingTable <$> decodeTable? data
  | .initializeRoutingTableAck => initializeRoutingTableAck <$> decodeTable? data
  | .establishConnectionToNetwork =>
    match data with
    | high :: low :: time :: _ =>
      some (establishConnectionToNetwork (Octets.word16 high low) time)
    | _ => none
  | .disconnectConnectionToNetwork =>
    match data with
    | high :: low :: _ => some (disconnectConnectionToNetwork (Octets.word16 high low))
    | _ => none
  | .whatIsNetworkNumber => some whatIsNetworkNumber
  | .networkNumberIs =>
    match data with
    | high :: low :: flag :: _ => some (networkNumberIs (Octets.word16 high low) (flag == 1))
    | _ => none

/-- Whether a message type belongs to makers of devices. -/
def isProprietaryType (messageType : UInt8) : Bool := 128 ≤ messageType.toNat

/-- Reads a message from the octets behind its type and its vendor number. -/
def decode (messageType : UInt8) (vendorId : Option UInt16) (data : Octets) :
    Except NetworkError NetworkMessage :=
  if isProprietaryType messageType then
    match vendorId with
    | some vendor => .ok (proprietary messageType vendor data)
    | none => .error (.malformed (.payload messageType))
  else
    match NetworkMessageType.ofCode? messageType with
    | none => .ok (other messageType data)
    | some type =>
      match decodeStandard? type data with
      | some message => .ok message
      | none => .error (.malformed (.payload messageType))

end NetworkMessage

end BACnet
