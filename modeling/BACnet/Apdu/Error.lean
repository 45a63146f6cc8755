import BACnet.Data.Error

/-!
# Errors of application messages
-/

namespace BACnet

/-- The eight kinds of application messages. -/
inductive ApduType where
  | confirmedRequest
  | unconfirmedRequest
  | simpleAck
  | complexAck
  | segmentAck
  | error
  | reject
  | abort
  deriving DecidableEq, Repr

namespace ApduType

/-- The four-bit code of the kind. -/
def code : ApduType → Nat
  | confirmedRequest => 0
  | unconfirmedRequest => 1
  | simpleAck => 2
  | complexAck => 3
  | segmentAck => 4
  | error => 5
  | reject => 6
  | abort => 7

/-- The kind of a four-bit code; the codes from 8 are not assigned. -/
def ofCode? : Nat → Option ApduType
  | 0 => some confirmedRequest
  | 1 => some unconfirmedRequest
  | 2 => some simpleAck
  | 3 => some complexAck
  | 4 => some segmentAck
  | 5 => some error
  | 6 => some reject
  | 7 => some abort
  | _ => none

/-- The words for the kind in error texts. -/
def text : ApduType → String
  | confirmedRequest => "confirmed request"
  | unconfirmedRequest => "unconfirmed request"
  | simpleAck => "simple ack"
  | complexAck => "complex ack"
  | segmentAck => "segment ack"
  | error => "error"
  | reject => "reject"
  | abort => "abort"

end ApduType

/-- Why octets do not form an application message. -/
inductive ApduFault where
  | empty
  | truncated (type : ApduType) (needed available : Nat)
  | reservedMaxApdu (code : Nat)
  | errorClass (value : UInt32)
  | errorCode (value : UInt32)
  deriving DecidableEq, Repr

def ApduFault.message : ApduFault → String
  | empty => "APDU needs 1 bytes, 0 available"
  | truncated type needed available =>
    type.text ++ s!" needs {needed} bytes, {available} available"
  | reservedMaxApdu code => s!"reserved max-APDU value {code}"
  | errorClass value => s!"error class {value}"
  | errorCode value => s!"error code {value}"

/-- What can go wrong when an application message is decoded. -/
inductive ApduError where
  | malformed (fault : ApduFault)
  | unsupportedApduType (code : Nat)
  /-- The parameters of an error message are not well encoded. -/
  | data (error : DataError)
  deriving DecidableEq, Repr

namespace ApduError

def kind : ApduError → ErrorKind
  | malformed _ => .malformedPdu
  | unsupportedApduType _ => .unsupportedPduType
  | data error => error.kind

def message : ApduError → String
  | malformed fault => "malformed APDU: " ++ fault.message
  | unsupportedApduType code => s!"unsupported APDU type {code}"
  | data error => error.message

end ApduError

/-- The kind of a code, or the error that no message has it. -/
def ApduType.ofCode (code : Nat) : Except ApduError ApduType :=
  match ApduType.ofCode? code with
  | some type => .ok type
  | none => .error (.unsupportedApduType code)

end BACnet
