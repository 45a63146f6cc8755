import BACnet.Apdu.Error
import BACnet.Config.Basic
import BACnet.Link.Transport
import BACnet.Network.Error
import BACnet.Transaction.Error

/-!
# Errors of a device

Every layer of a device has errors of its own; a `DeviceError` is one of them, or the refusal of a
device that has been told to be silent.
-/

namespace BACnet

/-- Why a device cannot do what it is asked for. -/
inductive DeviceError where
  | config (error : ConfigError)
  | data (error : DataError)
  | apdu (error : ApduError)
  | network (error : NetworkError)
  | transaction (error : TransactionError)
  | transport (error : TransportError)
  /-- The device has been told to be silent. -/
  | communicationDisabled
  deriving DecidableEq, Repr

namespace DeviceError

def kind : DeviceError → ErrorKind
  | config error => error.kind
  | data error => error.kind
  | apdu error => error.kind
  | network error => error.kind
  | transaction error => error.kind
  | transport error => error.kind
  | communicationDisabled => .communicationDisabled

def message : DeviceError → String
  | config error => error.message
  | data error => error.message
  | apdu error => error.message
  | network error => error.message
  | transaction error => error.message
  | transport error => error.message
  | communicationDisabled => "communication disabled by DeviceCommunicationControl"

end DeviceError

end BACnet
