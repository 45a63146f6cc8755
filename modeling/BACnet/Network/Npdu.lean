import BACnet.Network.Message

/-!
# Network protocol data units

What a link carries for the network layer: a version octet, a control octet that tells which parts
follow, the destination and the source as far as they lie on other networks, a hop count if there is
a destination, and then an application message or a message between routers.
-/

namespace BACnet

/-- The version of the protocol. -/
def protocolVersion : UInt8 := 1

/-- The urgency of a message. -/
inductive NetworkPriority where
  | normal
  | urgent
  | criticalEquipment
  | lifeSafety
  deriving DecidableEq, Repr

namespace NetworkPriority

/-- The two-bit code of the urgency. -/
def code : NetworkPriority → Nat
  | normal => 0
  | urgent => 1
  | criticalEquipment => 2
  | lifeSafety => 3

/-- The urgency in the two low-order bits of an octet. -/
def ofBits (octet : UInt8) : NetworkPriority :=
  match Octets.field octet 0 2 with
  | 3 => lifeSafety
  | 2 => criticalEquipment
  | 1 => urgent
  | _ => normal

end NetworkPriority

/-- What a network protocol data unit carries. -/
inductive NpduBody where
  | apdu (data : Octets)
  | network (message : NetworkMessage)
  deriving DecidableEq, Repr

/-- Whether the body is a message between routers. -/
def NpduBody.isNetwork : NpduBody → Bool
  | apdu _ => false
  | network _ => true

/-- A network protocol data unit. -/
structure Npdu where
  priority : NetworkPriority
  expectingReply : Bool
  /-- The destination, unless it lies on the local network. -/
  destination : Option Address
  /-- The source, if a router has forwarded the unit. -/
  source : Option Address
  /-- How many more routers the unit may pass; it is sent only with a destination. -/
  hopCount : UInt8
  body : NpduBody
  deriving DecidableEq, Repr

namespace Npdu

/-- The hop count of units that do not say otherwise. -/
def defaultHopCount : UInt8 := 255

/-- A unit with the usual settings and without addresses. -/
def ofBody (body : NpduBody) : Npdu := ⟨.normal, false, none, none, defaultHopCount, body⟩

/-- A unit that carries a message between routers. -/
def ofMessage (message : NetworkMessage) : Npdu := ofBody (.network message)

/-- The control octet. -/
def control (npdu : Npdu) : UInt8 :=
  UInt8.ofNat (npdu.body.isNetwork.toNat * 128 + npdu.destination.isSome.toNat * 32 +
    npdu.source.isSome.toNat * 8 + npdu.expectingReply.toNat * 4 + npdu.priority.code)

/-! ## Encoding -/

/-- The octets of an address on another network. -/
def encodeAddress (role : AddressRole) (address : Address) : Except NetworkError Octets :=
  if address.isLocal then .error (.invalidAddress (.localNetwork role))
  else if 255 < address.mac.length then
    .error (.invalidAddress (.macLength role address.mac.length))
  else
    .ok (Octets.ofWord16 address.network ++ UInt8.ofNat address.mac.length :: address.mac)

/-- The octets of the destination, if there is one. -/
def encodeDestination : Option Address → Except NetworkError Octets
  | none => .ok []
  | some address => encodeAddress .destination address

/-- The octets of the source, if there is one: a single station. -/
def encodeSource : Option Address → Except NetworkError Octets
  | none => .ok []
  | some address =>
    if address.isGlobal ∨ address.isBroadcast then
      .error (.invalidAddress (.broadcastSource address))
    else encodeAddress .source address

/-- The octets of the body. -/
def encodeBody : NpduBody → Octets
  | .apdu data => data
  | .network message => message.encode

/-- The octets of the unit. -/
def encode (npdu : Npdu) : Except NetworkError Octets := do
  let destination ← encodeDestination npdu.destination
  let source ← encodeSource npdu.source
  let hopCount := if npdu.destination.isSome then [npdu.hopCount] else []
  .ok (protocolVersion :: npdu.control :: destination ++ source ++ hopCount ++
    encodeBody npdu.body)

/-! ## Decoding -/

/-- What is said of a field that is cut short. -/
def truncated {α : Type} (field : NpduField) : Except NetworkError α :=
  .error (.malformed (.truncated field))

/-- Reads an address, whose three parts are named by their fields, and the octets behind it. -/
def decodeAddress (network length mac : NpduField) (data : Octets) :
    Except NetworkError (Address × Octets) :=
  match data with
  | high :: low :: rest =>
    match rest with
    | [] => truncated length
    | count :: rest =>
      match Octets.take? count.toNat rest with
      | some octets => .ok (⟨Octets.word16 high low, octets⟩, rest.drop count.toNat)
      | none => truncated mac
  | _ => truncated network

/-- Reads the destination, if the control octet announces one. -/
def decodeDestination (control : UInt8) (data : Octets) :
    Except NetworkError (Option Address × Octets) :=
  if Octets.bit control 5 then do
    let (address, rest) ← decodeAddress .dnet .dlen .dadr data
    if address.isLocal then .error (.malformed .destinationNetwork)
    else .ok (some address, rest)
  else .ok (none, data)

/-- Reads the source, if the control octet announces one. -/
def decodeSource (control : UInt8) (data : Octets) :
    Except NetworkError (Option Address × Octets) :=
  if Octets.bit control 3 then do
    let (address, rest) ← decodeAddress .snet .slen .sadr data
    if address.isLocal ∨ address.isGlobal then
      .error (.malformed (.sourceNetwork address.network))
    else if address.isBroadcast then .error (.malformed .sourceLength)
    else .ok (some address, rest)
  else .ok (none, data)

/-- Reads the hop count, which follows only if there is a destination. -/
def decodeHopCount (destination : Option Address) (data : Octets) :
    Except NetworkError (UInt8 × Octets) :=
  match destination, data with
  | none, _ => .ok (defaultHopCount, data)
  | some _, hopCount :: rest => .ok (hopCount, rest)
  | some _, [] => truncated .hopCount

/-- Reads a message between routers: its type, its vendor number if the type is a maker's, and its
fields. -/
def decodeMessage (data : Octets) : Except NetworkError NetworkMessage :=
  match data with
  | [] => truncated .messageType
  | messageType :: rest =>
    if NetworkMessage.isProprietaryType messageType then
      match rest with
      | high :: low :: rest =>
        NetworkMessage.decode messageType (some (Octets.word16 high low)) rest
      | _ => truncated .vendorId
    else NetworkMessage.decode messageType none rest

/-- Reads the body, whose kind the control octet tells. -/
def decodeBody (control : UInt8) (data : Octets) : Except NetworkError NpduBody :=
  if Octets.bit control 7 then NpduBody.network <$> decodeMessage data else .ok (.apdu data)

/-- Reads a unit from the octets behind its control octet. -/
def decodeRest (control : UInt8) (data : Octets) : Except NetworkError Npdu := do
  let (destination, rest) ← decodeDestination control data
  let (source, rest) ← decodeSource control rest
  let (hopCount, rest) ← decodeHopCount destination rest
  let body ← decodeBody control rest
  .ok ⟨.ofBits control, Octets.bit control 2, destination, source, hopCount, body⟩

/-- Reads a unit from its octets. -/
def decode (data : Octets) : Except NetworkError Npdu :=
  match data with
  | [] => truncated .version
  | version :: rest =>
    if version = protocolVersion then
      match rest with
      | [] => truncated .control
      | control :: rest => decodeRest control rest
    else .error (.unsupportedVersion version)

end Npdu

end BACnet
