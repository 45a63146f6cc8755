import BACnet.ErrorKind
import BACnet.Network.Address
import BACnet.Service.Reason

/-!
# Errors of the network layer
-/

namespace BACnet

/-- Why a router refuses a message to a network. -/
structure RejectMessageReason where
  number : UInt8
  deriving DecidableEq, Repr

namespace RejectMessageReason

def names : List (Nat × String) :=
  [(0, "Other"), (1, "NotDirectlyConnected"), (2, "RouterBusy"), (3, "UnknownMessageType"),
    (4, "MessageTooLong"), (5, "SecurityError"), (6, "AddressingError")]

def isProprietary (reason : RejectMessageReason) : Bool := 128 ≤ reason.number.toNat

def name (reason : RejectMessageReason) : String :=
  openName names reason.isProprietary reason.number.toNat

def other : RejectMessageReason := ⟨0⟩

def notDirectlyConnected : RejectMessageReason := ⟨1⟩

def routerBusy : RejectMessageReason := ⟨2⟩

def unknownMessageType : RejectMessageReason := ⟨3⟩

end RejectMessageReason

/-- The fields of the head of a network message, in the order in which they are sent. -/
inductive NpduField where
  | version
  | control
  | dnet
  | dlen
  | dadr
  | snet
  | slen
  | sadr
  | hopCount
  | messageType
  | vendorId
  deriving DecidableEq, Repr

/-- The words for a field in error texts. -/
def NpduField.text : NpduField → String
  | version => "version"
  | control => "control"
  | dnet => "DNET"
  | dlen => "DLEN"
  | dadr => "DADR"
  | snet => "SNET"
  | slen => "SLEN"
  | sadr => "SADR"
  | hopCount => "hop count"
  | messageType => "message type"
  | vendorId => "vendor ID"

/-- Two upper-case hexadecimal digits. -/
def hexOctet (octet : UInt8) : String :=
  String.ofList ([octet.toNat / 16, octet.toNat % 16].map fun digit =>
    (Octets.hexDigit digit).toUpper)

/-- Why octets do not form a network message. -/
inductive NpduFault where
  | truncated (field : NpduField)
  | destinationNetwork
  | sourceNetwork (network : UInt16)
  | sourceLength
  | payload (messageType : UInt8)
  deriving DecidableEq, Repr

def NpduFault.message : NpduFault → String
  | truncated field => "truncated " ++ field.text
  | destinationNetwork => "DNET 0"
  | sourceNetwork network => s!"SNET {network}"
  | sourceLength => "SLEN 0"
  | payload messageType => "network message 0x" ++ hexOctet messageType ++ " payload"

/-- The two addresses of a network message. -/
inductive AddressRole where
  | destination
  | source
  deriving DecidableEq, Repr

def AddressRole.text : AddressRole → String
  | destination => "destination"
  | source => "source"

/-- Why an address cannot be sent. -/
inductive AddressFault where
  | localNetwork (role : AddressRole)
  | macLength (role : AddressRole) (length : Nat)
  | broadcastSource (address : Address)
  deriving DecidableEq, Repr

def AddressFault.message : AddressFault → String
  | localNetwork role => role.text ++ " network 0 cannot be carried in an NPDU"
  | macLength role length => role.text ++ s!" MAC of {length} bytes"
  | broadcastSource address => "source " ++ address.text ++ " is a broadcast address"

/-- What can go wrong in the network layer. -/
inductive NetworkError where
  | malformed (fault : NpduFault)
  | unsupportedVersion (version : UInt8)
  | invalidAddress (fault : AddressFault)
  /-- No router is known for the network. -/
  | networkUnreachable (network : UInt16)
  /-- The message may not pass another router. -/
  | hopCountExhausted (network : UInt16)
  /-- Too many messages wait for a route to the network. -/
  | pendingQueueFull (network : UInt16)
  /-- A router refused a message. -/
  | rejected (network : UInt16) (reason : RejectMessageReason)
  | unknownPort (port : PortId)
  deriving DecidableEq, Repr

namespace NetworkError

def kind : NetworkError → ErrorKind
  | malformed _ | unsupportedVersion _ => .malformedPdu
  | invalidAddress _ | unknownPort _ => .invalidArgument
  | networkUnreachable _ | hopCountExhausted _ | rejected _ _ => .routingFailure
  | pendingQueueFull _ => .resource

def message : NetworkError → String
  | malformed fault => "malformed NPDU: " ++ fault.message
  | unsupportedVersion version => s!"unsupported NPDU protocol version {version}"
  | invalidAddress fault => "invalid address: " ++ fault.message
  | networkUnreachable network => s!"network {network} is unreachable"
  | hopCountExhausted network => s!"hop count exhausted on the way to network {network}"
  | pendingQueueFull network => s!"pending queue for network {network} is full"
  | rejected network reason =>
    s!"router rejected message to network {network}: " ++ reason.name
  | unknownPort port => s!"unknown port port {port}"

end NetworkError

end BACnet
