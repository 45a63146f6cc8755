import BACnet.Data.Value

/-!
# Elements of one data type

Encoders and decoders for elements whose type the message prescribes. A decoder refuses an element
of another type, and looks at its content only then. Where a type has a fixed length, the length in
the tag is checked before the content is looked for.
-/

namespace BACnet

/-- A reader of the element at the head of the octets, with the number of octets it takes. -/
abbrev ElementDecoder (α : Type) := Octets → Except DataError (α × Nat)

/-- Reads the tag of an element of the data type: its length field and its own octets. -/
def expectApplication (type : DataType) (data : Octets) : Except DataError (Nat × Nat) := do
  let (found, length, used) ← decodeApplicationTag data
  if found = type then .ok (length, used)
  else .error (.unexpectedTag (.dataType type) (.dataType found))

/-- Reads the content behind a tag that takes `used` octets. -/
def decodeBehind {α : Type} (readContent : Octets → Except DataError α) (data : Octets)
    (length used : Nat) : Except DataError (α × Nat) := do
  let octets ← content data used length
  .ok (← readContent octets, used + length)

/-- Reads an application-tagged element of the data type. -/
def decodeApplicationTyped {α : Type} (type : DataType)
    (readContent : Octets → Except DataError α) : ElementDecoder α := fun data => do
  let (length, used) ← expectApplication type data
  decodeBehind readContent data length used

/-- Reads a context-tagged element. -/
def decodeContextTyped {α : Type} (readContent : Octets → Except DataError α) (number : UInt8) :
    ElementDecoder α := fun data => do
  let (length, used) ← decodeContextTag data number
  decodeBehind readContent data length used

/-- A length that a data type fixes. -/
def checkLength (kind : ContentKind) (expected length : Nat) : Except DataError Unit :=
  if length = expected then .ok () else .error (.invalidLength kind length)

/-! ## Application-tagged elements -/

def encodeNull : Octets := encodeApplicationTag .null 0

def decodeNull : ElementDecoder Unit := fun data => do
  let (length, used) ← expectApplication .null data
  checkLength .null 0 length
  .ok ((), used)

def encodeBoolean (value : Bool) : Octets := encodeApplicationTag .boolean value.toNat

def decodeBoolean : ElementDecoder Bool := fun data => do
  let (length, used) ← expectApplication .boolean data
  .ok (length == 1, used)

def encodeUnsigned (value : UInt64) : Octets := encodeApplication .unsigned (unsignedContent value)

def decodeUnsigned : ElementDecoder UInt64 := decodeApplicationTyped .unsigned decodeUnsignedContent

def encodeSigned (value : Int64) : Octets := encodeApplication .signed (signedContent value)

def decodeSigned : ElementDecoder Int64 := decodeApplicationTyped .signed decodeSignedContent

def encodeReal (bits : UInt32) : Octets := encodeApplication .real (Octets.ofWord32 bits)

def decodeReal : ElementDecoder UInt32 := fun data => do
  let (length, used) ← expectApplication .real data
  checkLength .real 4 length
  decodeBehind Value.decodeRealContent data length used

def encodeDouble (bits : UInt64) : Octets := encodeApplication .double (Octets.ofWord64 bits)

def decodeDouble : ElementDecoder UInt64 := fun data => do
  let (length, used) ← expectApplication .double data
  checkLength .double 8 length
  decodeBehind Value.decodeDoubleContent data length used

def encodeOctetString (octets : Octets) : Octets := encodeApplication .octetString octets

def decodeOctetString : ElementDecoder Octets := decodeApplicationTyped .octetString .ok

variable [TextCodec]

def encodeCharacterString (string : CharacterString) : Except DataError Octets :=
  encodeApplication .characterString <$> string.content

def decodeCharacterString : ElementDecoder CharacterString :=
  decodeApplicationTyped .characterString CharacterString.decodeContent

def encodeBitString (string : BitString) : Octets := encodeApplication .bitString string.content

def decodeBitString : ElementDecoder BitString :=
  decodeApplicationTyped .bitString BitString.decodeContent

def encodeEnumerated (value : UInt32) : Octets :=
  encodeApplication .enumerated (enumeratedContent value)

def decodeEnumerated : ElementDecoder UInt32 :=
  decodeApplicationTyped .enumerated decodeEnumeratedContent

def encodeDate (date : Date) : Octets := encodeApplication .date date.content

def decodeDate : ElementDecoder Date := decodeApplicationTyped .date Date.decodeContent

def encodeTime (time : TimeOfDay) : Octets := encodeApplication .time time.content

def decodeTime : ElementDecoder TimeOfDay := decodeApplicationTyped .time TimeOfDay.decodeContent

def encodeObjectIdentifier (identifier : ObjectIdentifier) : Octets :=
  encodeApplication .objectIdentifier identifier.content

def decodeObjectIdentifier : ElementDecoder ObjectIdentifier :=
  decodeApplicationTyped .objectIdentifier ObjectIdentifier.decodeContent

/-! ## Elements of a type that is given as a value -/

/-- Encodes a value with the encoder of its type. -/
def encodeTyped : Value → Except DataError Octets
  | .null => .ok encodeNull
  | .boolean value => .ok (encodeBoolean value)
  | .unsigned value => .ok (encodeUnsigned value)
  | .signed value => .ok (encodeSigned value)
  | .real bits => .ok (encodeReal bits)
  | .double bits => .ok (encodeDouble bits)
  | .octetString octets => .ok (encodeOctetString octets)
  | .characterString string => encodeCharacterString string
  | .bitString string => .ok (encodeBitString string)
  | .enumerated value => .ok (encodeEnumerated value)
  | .date date => .ok (encodeDate date)
  | .time time => .ok (encodeTime time)
  | .objectIdentifier identifier => .ok (encodeObjectIdentifier identifier)

/-- The decoder that takes what another one reads for a value. -/
def ElementDecoder.asValue {α : Type} (value : α → Value) (decode : ElementDecoder α) :
    ElementDecoder Value :=
  fun data => (decode data).map fun (read, used) => (value read, used)

/-- The decoder of a type. -/
def decodeOfType : DataType → ElementDecoder Value
  | .null => decodeNull.asValue fun () => .null
  | .boolean => decodeBoolean.asValue .boolean
  | .unsigned => decodeUnsigned.asValue .unsigned
  | .signed => decodeSigned.asValue .signed
  | .real => decodeReal.asValue .real
  | .double => decodeDouble.asValue .double
  | .octetString => decodeOctetString.asValue .octetString
  | .characterString => decodeCharacterString.asValue .characterString
  | .bitString => decodeBitString.asValue .bitString
  | .enumerated => decodeEnumerated.asValue .enumerated
  | .date => decodeDate.asValue .date
  | .time => decodeTime.asValue .time
  | .objectIdentifier => decodeObjectIdentifier.asValue .objectIdentifier

/-! ## Context-tagged elements -/

def encodeContextUnsigned (number : UInt8) (value : UInt64) : Except DataError Octets :=
  encodeContext number (unsignedContent value)

def decodeContextUnsigned : UInt8 → ElementDecoder UInt64 :=
  decodeContextTyped decodeUnsignedContent

def encodeContextEnumerated (number : UInt8) (value : UInt32) : Except DataError Octets :=
  encodeContext number (enumeratedContent value)

def decodeContextEnumerated : UInt8 → ElementDecoder UInt32 :=
  decodeContextTyped decodeEnumeratedContent

def encodeContextBoolean (number : UInt8) (value : Bool) : Except DataError Octets :=
  encodeContext number (Value.booleanContent value)

def decodeContextBoolean (number : UInt8) : ElementDecoder Bool := fun data => do
  let (length, used) ← decodeContextTag data number
  checkLength .contextBoolean 1 length
  decodeBehind Value.decodeBooleanContent data length used

def encodeContextObjectIdentifier (number : UInt8) (identifier : ObjectIdentifier) :
    Except DataError Octets :=
  encodeContext number identifier.content

def decodeContextObjectIdentifier : UInt8 → ElementDecoder ObjectIdentifier :=
  decodeContextTyped ObjectIdentifier.decodeContent

def encodeContextCharacterString (number : UInt8) (string : CharacterString) :
    Except DataError Octets := do
  encodeContext number (← string.content)

def decodeContextCharacterString : UInt8 → ElementDecoder CharacterString :=
  decodeContextTyped CharacterString.decodeContent

end BACnet
