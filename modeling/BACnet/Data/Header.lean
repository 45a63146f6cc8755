import BACnet.Data.Error

/-!
# The octets of a tag

The first octet of a tag holds the number in its upper four bits, the class in bit 3 and the
length/value/type field in the lower three. A number from 15 follows in an octet of its own, behind
a number field of 15. The length/value/type field is a length up to 4; 5 stands for a length that
follows; on a context tag, 6 opens and 7 closes a constructed value.

A length that follows takes one octet below 254, or 254 and two octets, or 255 and four octets.
The encoder always writes the shortest form; the decoder also takes longer ones.
-/

namespace BACnet

namespace Tag

/-- The octets of a length that does not fit the first octet of a tag. -/
def encodeLength (length : Nat) : Except DataError Octets :=
  if length < 254 then .ok [UInt8.ofNat length]
  else if length < 0x10000 then .ok (254 :: Octets.bigEndian 2 length)
  else if length < 0x100000000 then .ok (255 :: Octets.bigEndian 4 length)
  else .error (.valueOutOfRange (.contentLength length))

/-- The class bit of the first octet. -/
def classBit : TagClass → Nat
  | .application => 0
  | .context => 8

/-- The length/value/type field of the first octet. -/
def kindField : TagKind → Nat
  | .opening => 6
  | .closing => 7
  | .value length => if length < 5 then length else 5

/-- The octets of a tag without those of a length that follows. -/
def head (tag : Tag) : Octets :=
  let number := tag.number.toNat
  let low := classBit tag.tagClass + kindField tag.kind
  if number < 15 then [UInt8.ofNat (number * 16 + low)]
  else [UInt8.ofNat (15 * 16 + low), tag.number]

/-- The octets of the length, if it does not fit the first octet. -/
def tail (tag : Tag) : Except DataError Octets :=
  match tag.kind with
  | .value length => if length < 5 then .ok [] else encodeLength length
  | .opening | .closing => .ok []

/-- The octets of a tag. The number 255 is reserved, and a length takes at most 32 bits. -/
def encode (tag : Tag) : Except DataError Octets :=
  if tag.number = 255 then .error (.valueOutOfRange .tagNumber)
  else do .ok (tag.head ++ (← tag.tail))

/-- Reads a length that follows the first octets of a tag, with the number of octets it takes. -/
def decodeLength : Octets → Option (Nat × Nat)
  | [] => none
  | marker :: rest =>
    if marker = 254 then (Octets.take? 2 rest).map fun octets => (Octets.ofBigEndian octets, 3)
    else if marker = 255 then (Octets.take? 4 rest).map fun octets => (Octets.ofBigEndian octets, 5)
    else some (marker.toNat, 1)

/-- Reads the number of a tag: from the first octet, or from the octet that follows it. The result
says whether that octet was used. -/
def decodeNumber (first : UInt8) (rest : Octets) : Except DataError (UInt8 × Bool) :=
  if Octets.field first 4 4 = 15 then
    match rest with
    | [] => .error (.unexpectedEndOfData 2 1)
    | number :: _ =>
      if number = 255 then .error (.invalidTag .reservedNumber) else .ok (number, true)
  else .ok (UInt8.ofNat (Octets.field first 4 4), false)

/-- Reads what the length/value/type field `field` of a tag means, with the number of octets of a
length that follows. Of the tag, `used` octets come before; all the input has `available`. -/
def decodeKind (tagClass : TagClass) (number : UInt8) (field : Nat) (rest : Octets)
    (used available : Nat) : Except DataError (TagKind × Nat) :=
  if field = 5 then
    match decodeLength rest with
    | some (length, more) => .ok (.value length, more)
    | none => .error (.unexpectedEndOfData (used + 1) available)
  else if field < 5 then .ok (.value field, 0)
  else
    match tagClass with
    | .application => .error (.invalidTag (.lengthValueType number field))
    | .context => .ok (if field = 6 then .opening else .closing, 0)

/-- An application boolean carries its truth value, 0 or 1, where other tags carry a length. -/
def checkBoolean (tag : Tag) : Except DataError Unit :=
  match tag.tagClass, tag.kind with
  | .application, .value length =>
    if tag.number = DataType.boolean.number ∧ 1 < length then
      .error (.invalidLength .applicationBoolean length)
    else .ok ()
  | _, _ => .ok ()

/-- Reads the tag at the head of the octets, with the number of octets it takes. -/
def decode (data : Octets) : Except DataError (Tag × Nat) :=
  match data with
  | [] => .error (.unexpectedEndOfData 1 0)
  | first :: rest => do
    let (number, extended) ← decodeNumber first rest
    let used := if extended then 2 else 1
    let tagClass := if Octets.bit first 3 then TagClass.context else .application
    let (kind, more) ←
      decodeKind tagClass number (Octets.field first 0 3) (data.drop used) used data.length
    let tag : Tag := ⟨number, tagClass, kind⟩
    checkBoolean tag
    .ok (tag, used + more)

end Tag

/-- The largest number that counts octets: counts beyond it are reported as this one. -/
def maxCount : Nat := 0xFFFFFFFFFFFFFFFF

/-- The content of an element: `length` octets from `offset`. -/
def content (data : Octets) (offset length : Nat) : Except DataError Octets :=
  match Octets.take? length (data.drop offset) with
  | some octets => .ok octets
  | none => .error (.unexpectedEndOfData (min (offset + length) maxCount) data.length)

/-- The data type with the tag number, or the error that the number is reserved. -/
def DataType.ofNumber (number : UInt8) : Except DataError DataType :=
  match DataType.ofNumber? number with
  | some type => .ok type
  | none => .error (.invalidTag (.reservedDataType number))

/-- Reads an application tag: the data type, the length field and the number of octets. -/
def decodeApplicationTag (data : Octets) : Except DataError (DataType × Nat × Nat) := do
  let (tag, used) ← Tag.decode data
  match tag.tagClass, tag.kind with
  | .application, .value length => do
    let type ← DataType.ofNumber tag.number
    .ok (type, length, used)
  | _, _ => .error (.unexpectedTag .anyApplication (.tag tag))

/-- Reads the tag of a primitive element with this context number: the length of the content and
the number of octets of the tag. -/
def decodeContextTag (data : Octets) (number : UInt8) : Except DataError (Nat × Nat) := do
  let (tag, used) ← Tag.decode data
  if tag.isContext number then .ok (tag.contentLength, used)
  else .error (.unexpectedTag (.context number) (.tag tag))

/-- The octets of an application tag. A length that does not fit 32 bits is left out. -/
def encodeApplicationTag (type : DataType) (length : Nat) : Octets :=
  let tag := Tag.application type length
  match tag.tail with
  | .ok octets => tag.head ++ octets
  | .error _ => tag.head

/-- An application-tagged element: its tag, then its content. -/
def encodeApplication (type : DataType) (octets : Octets) : Octets :=
  encodeApplicationTag type octets.length ++ octets

/-- A context-tagged primitive element: its tag, then its content. -/
def encodeContext (number : UInt8) (octets : Octets) : Except DataError Octets := do
  .ok ((← Tag.encode (.context number octets.length)) ++ octets)

end BACnet
