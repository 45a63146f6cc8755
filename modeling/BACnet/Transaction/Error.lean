import BACnet.ErrorKind
import BACnet.Transaction.Key

/-!
# Requests that cannot be made

A transaction that goes wrong ends with an outcome. Only what the application itself asks for can be
refused at once, for the reasons listed here.
-/

namespace BACnet

/-- A device that takes no part in segmentation. -/
inductive Unsegmented where
  | localDevice
  | peer
  deriving DecidableEq, Repr

def Unsegmented.text : Unsegmented → String
  | localDevice => "local device"
  | peer => "peer"

/-- Why the application is refused. -/
inductive TransactionError where
  /-- All invoke IDs for the device are in use. -/
  | noInvokeId (peer : Address)
  /-- The request needs segments. -/
  | segmentationNotSupported (device : Unsegmented)
  /-- The request needs too many segments. -/
  | apduTooLong (segments accepted : Nat)
  /-- No request of this name waits for an answer. -/
  | unknownTransaction (key : TransactionKey)
  deriving DecidableEq, Repr

namespace TransactionError

def kind : TransactionError → ErrorKind
  | noInvokeId _ => .resource
  | segmentationNotSupported _ => .segmentation
  | apduTooLong _ _ => .segmentation
  | unknownTransaction _ => .invalidArgument

def message : TransactionError → String
  | noInvokeId peer => "no free invoke ID for " ++ peer.text
  | segmentationNotSupported device => "segmentation not supported by " ++ device.text
  | apduTooLong segments accepted => s!"message needs {segments} segments, peer accepts {accepted}"
  | unknownTransaction key => "no transaction awaiting a response for " ++ key.text

end TransactionError

end BACnet
