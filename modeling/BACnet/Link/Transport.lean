import BACnet.Link.Error

/-!
# Handing over frames

The link layer below the device takes frames one at a time and may refuse them.
-/

namespace BACnet

/-- Why the link layer refused a frame. -/
inductive TransportError where
  /-- The link itself failed. -/
  | io (reason : String)
  | dataLink (error : LinkError)
  /-- There is no such link. -/
  | unknownPort (port : PortId)
  /-- Nobody takes frames any more. -/
  | closed
  deriving DecidableEq, Repr

namespace TransportError

def kind : TransportError → ErrorKind
  | dataLink error => error.kind
  | io _ | unknownPort _ | closed => .transport

def message : TransportError → String
  | io reason => "I/O error: " ++ reason
  | dataLink error => error.message
  | unknownPort port => s!"port {port} is not attached"
  | closed => "transport closed"

end TransportError

end BACnet
