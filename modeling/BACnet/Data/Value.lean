import BACnet.Data.Header
import BACnet.Data.Integer
import BACnet.Data.ObjectIdentifier
import BACnet.Data.BitString
import BACnet.Data.Calendar
import BACnet.Data.CharacterString

/-!
# Primitive values

A value of one of the thirteen data types, with its content octets and its two encoded forms: behind
an application tag, which names its type, or behind a context tag, whose type the reader must know.

Reals and doubles are kept as the bits of their IEEE 754 form.
-/

namespace BACnet

/-- A primitive value. -/
inductive Value where
  | null
  | boolean (value : Bool)
  | unsigned (value : UInt64)
  | signed (value : Int64)
  | real (bits : UInt32)
  | double (bits : UInt64)
  | octetString (octets : Octets)
  | characterString (string : CharacterString)
  | bitString (string : BitString)
  | enumerated (value : UInt32)
  | date (day : Date)
  | time (reading : TimeOfDay)
  | objectIdentifier (identifier : ObjectIdentifier)
  deriving DecidableEq, Repr

namespace Value

/-- The data type of the value. -/
def dataType : Value → DataType
  | null => .null
  | boolean _ => .boolean
  | unsigned _ => .unsigned
  | signed _ => .signed
  | real _ => .real
  | double _ => .double
  | octetString _ => .octetString
  | characterString _ => .characterString
  | bitString _ => .bitString
  | enumerated _ => .enumerated
  | date _ => .date
  | time _ => .time
  | objectIdentifier _ => .objectIdentifier

/-- The content octet of a boolean behind a context tag. -/
def booleanContent (value : Bool) : Octets := [if value then 1 else 0]

variable [TextCodec]

/-- The content octets of the value behind a context tag. -/
def content : Value → Except DataError Octets
  | null => .ok []
  | boolean value => .ok (booleanContent value)
  | unsigned value => .ok (unsignedContent value)
  | signed value => .ok (signedContent value)
  | real bits => .ok (Octets.ofWord32 bits)
  | double bits => .ok (Octets.ofWord64 bits)
  | octetString octets => .ok octets
  | characterString string => string.content
  | bitString string => .ok string.content
  | enumerated value => .ok (enumeratedContent value)
  | date day => .ok day.content
  | time reading => .ok reading.content
  | objectIdentifier identifier => .ok identifier.content

/-- Reads the bits of a real from four octets. -/
def decodeRealContent : Octets → Except DataError UInt32
  | [a, b, c, d] => .ok (Octets.word32 a b c d)
  | octets => .error (.invalidLength .real octets.length)

/-- Reads the bits of a double from eight octets. -/
def decodeDoubleContent (octets : Octets) : Except DataError UInt64 :=
  if octets.length = 8 then .ok (UInt64.ofNat (Octets.ofBigEndian octets))
  else .error (.invalidLength .double octets.length)

/-- Reads a boolean from the octet that it takes behind a context tag. -/
def decodeBooleanContent : Octets → Except DataError Bool
  | [octet] => .ok (octet != 0)
  | octets => .error (.invalidLength .contextBoolean octets.length)

/-- Reads a value of the data type from its content octets. -/
def ofContent (type : DataType) (octets : Octets) : Except DataError Value :=
  match type with
  | .null => if octets.length = 0 then .ok null else .error (.invalidLength .null octets.length)
  | .boolean => boolean <$> decodeBooleanContent octets
  | .unsigned => unsigned <$> decodeUnsignedContent octets
  | .signed => signed <$> decodeSignedContent octets
  | .real => real <$> decodeRealContent octets
  | .double => double <$> decodeDoubleContent octets
  | .octetString => .ok (octetString octets)
  | .characterString => characterString <$> CharacterString.decodeContent octets
  | .bitString => bitString <$> BitString.decodeContent octets
  | .enumerated => enumerated <$> decodeEnumeratedContent octets
  | .date => date <$> Date.decodeContent octets
  | .time => time <$> TimeOfDay.decodeContent octets
  | .objectIdentifier => objectIdentifier <$> ObjectIdentifier.decodeContent octets

/-- The value behind its application tag. A boolean has no content: its tag carries the truth
value. -/
def encode : Value → Except DataError Octets
  | boolean value => .ok (encodeApplicationTag .boolean value.toNat)
  | value => do .ok (encodeApplication value.dataType (← value.content))

/-- The value behind a context tag. -/
def encodeContext (number : UInt8) (value : Value) : Except DataError Octets := do
  BACnet.encodeContext number (← value.content)

/-- Reads the application-tagged value at the head of the octets, with the number of octets it
takes. -/
def decode (data : Octets) : Except DataError (Value × Nat) := do
  let (type, length, used) ← decodeApplicationTag data
  if type = .boolean then .ok (boolean (length == 1), used)
  else
    let octets ← BACnet.content data used length
    .ok (← ofContent type octets, used + length)

/-- Reads the context-tagged value of a known data type at the head of the octets, with the number
of octets it takes. -/
def decodeContext (data : Octets) (number : UInt8) (type : DataType) :
    Except DataError (Value × Nat) := do
  let (length, used) ← decodeContextTag data number
  let octets ← BACnet.content data used length
  .ok (← ofContent type octets, used + length)

/-- Reads application-tagged values up to the end of the octets or up to the first that cannot be
read: the values, the error, and the number of octets of the values. -/
def decodeAll (data : Octets) : List Value × Option DataError × Nat :=
  go data.length data
where
  go : Nat → Octets → List Value × Option DataError × Nat
  | 0, _ => ([], none, 0)
  | fuel + 1, rest =>
    if rest.isEmpty then ([], none, 0)
    else
      match decode rest with
      | .error error => ([], some error, 0)
      | .ok (value, used) =>
        let (values, error, more) := go fuel (rest.drop used)
        (value :: values, error, used + more)

end Value

end BACnet
