import BACnet.Data.Typed
import BACnet.Data.Reader

/-!
# DeviceCommunicationControl

The request to fall silent, for some minutes or until further notice, and to speak again.
-/

namespace BACnet

/-- Whether a device may communicate. -/
inductive Communication where
  | enable
  /-- The device neither asks nor answers. -/
  | disable
  /-- The device answers, but does not ask. -/
  | disableInitiation
  deriving DecidableEq, Repr

namespace Communication

/-- The number of the state. -/
def code : Communication → UInt32
  | enable => 0
  | disable => 1
  | disableInitiation => 2

/-- The state with the number. -/
def ofCode (code : UInt32) : Except DataError Communication :=
  match code.toNat with
  | 0 => .ok enable
  | 1 => .ok disable
  | 2 => .ok disableInitiation
  | _ => .error (.invalidFormat (.parameter (.enableDisable code)))

end Communication

/-- A request to change whether the device may communicate. -/
structure CommunicationControl where
  /-- The minutes until communication is allowed again; none means until further notice. -/
  minutes : Option UInt16
  state : Communication
  password : Option CharacterString
  deriving DecidableEq, Repr

namespace CommunicationControl

/-- The octets of a parameter that may be missing. -/
def encodeOptional {α : Type} (encode : α → Except DataError Octets) :
    Option α → Except DataError Octets
  | none => .ok []
  | some value => encode value

variable [TextCodec]

/-- The parameters of the request. -/
def encode (request : CommunicationControl) : Except DataError Octets := do
  let minutes ← encodeOptional (fun (value : UInt16) => encodeContextUnsigned 0 value.toUInt64)
    request.minutes
  let state ← encodeContextEnumerated 1 request.state.code
  let password ← encodeOptional (encodeContextCharacterString 2) request.password
  .ok (minutes ++ state ++ password)

/-- Reads the minutes, if they come next. -/
def readMinutes : Read (Option UInt16) := do
  match ← Read.optionalContextUnsigned 0 with
  | none => pure none
  | some value =>
    if value.toNat < 0x10000 then pure (some value.toUInt16)
    else throw (.invalidFormat (.parameter (.duration value)))

/-- Reads the password, if it comes next. -/
def readPassword : Read (Option CharacterString) := do
  if (← get).nextIsContext 2 then some <$> Read.contextCharacterString 2 else pure none

/-- Reads the parameters of the request. -/
def read : Read CommunicationControl := do
  let minutes ← readMinutes
  let state ← Read.lift (Communication.ofCode (← Read.contextEnumerated 1))
  let password ← readPassword
  Read.finish
  pure ⟨minutes, state, password⟩

/-- Reads a request from the octets of its parameters. -/
def decode (data : Octets) : Except DataError CommunicationControl := Read.run read data

end CommunicationControl

end BACnet
