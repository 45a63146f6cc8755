import BACnet.Device.Error
import BACnet.Service.Choice
import BACnet.Service.CommunicationControl
import BACnet.Service.IAm
import BACnet.Service.Outcome

/-!
# What a device deals with

On one side of a device are its links, which take frames, and on the other side is the application,
which serves requests and makes requests of its own. What passes between them is recorded as a list
of `DeviceEvent`s, in the order in which it happens.
-/

namespace BACnet

/-- A network message in octets, handed to a link. -/
structure Frame where
  port : PortId
  destination : LinkDestination
  npdu : Octets
  deriving DecidableEq, Repr

/-- A request for the application. -/
inductive ServiceRequest where
  | confirmed (invokeId : UInt8) (service : ConfirmedService) (parameters : Octets)
  | unconfirmed (service : UnconfirmedService) (parameters : Octets)
  deriving DecidableEq, Repr

/-- A request of the application. -/
inductive OutgoingRequest where
  | confirmed (service : ConfirmedService) (parameters : Octets)
  | unconfirmed (service : UnconfirmedService) (parameters : Octets)
  deriving DecidableEq, Repr

/-- The announcement of this device. -/
def OutgoingRequest.ofIAm (announcement : IAm) : OutgoingRequest :=
  .unconfirmed .iAm announcement.encode

/-- What happens at the two sides of a device. -/
inductive DeviceEvent where
  /-- A frame is handed to a link. -/
  | frame (frame : Frame)
  /-- A request is given to the application. -/
  | request (request : ServiceRequest) (source : Address)
  /-- The application is told the outcome of a request it has made. -/
  | confirmation (invokeId : UInt8) (peer : Address) (outcome : Outcome)
  /-- A message from a link cannot be read. -/
  | decodeError (port : PortId) (mac : Octets) (error : DeviceError)
  /-- A message cannot be delivered. -/
  | routingFailure (error : NetworkError)
  /-- A link does not take a frame. -/
  | transmitFailed (port : PortId) (error : TransportError)
  /-- The device has been told to be silent, or to speak again. -/
  | communicationControl (state : Communication)
  deriving DecidableEq, Repr

/-- The links and the application of a device. -/
structure Environment where
  /-- Why a link does not take a frame; nothing if it takes it. -/
  refusal : Frame → Option TransportError
  /-- The answer of the application to a request; nothing if it answers later. -/
  answer : ServiceRequest → Address → Option Outcome

end BACnet
