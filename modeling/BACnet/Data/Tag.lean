import BACnet.Octets

/-!
# Tags

Every encoded element starts with a tag: its number, its class, and what follows it. An
application tag names one of thirteen data types; the meaning of a context tag comes from the
surrounding message.
-/

namespace BACnet

/-- The data types that an application tag can announce. -/
inductive DataType where
  | null
  | boolean
  | unsigned
  | signed
  | real
  | double
  | octetString
  | characterString
  | bitString
  | enumerated
  | date
  | time
  | objectIdentifier
  deriving DecidableEq, Repr

namespace DataType

/-- The tag number of the data type. -/
def number : DataType → UInt8
  | null => 0
  | boolean => 1
  | unsigned => 2
  | signed => 3
  | real => 4
  | double => 5
  | octetString => 6
  | characterString => 7
  | bitString => 8
  | enumerated => 9
  | date => 10
  | time => 11
  | objectIdentifier => 12

/-- The data type with the tag number; the numbers from 13 are reserved. -/
def ofNumber? (number : UInt8) : Option DataType :=
  match number.toNat with
  | 0 => some null
  | 1 => some boolean
  | 2 => some unsigned
  | 3 => some signed
  | 4 => some real
  | 5 => some double
  | 6 => some octetString
  | 7 => some characterString
  | 8 => some bitString
  | 9 => some enumerated
  | 10 => some date
  | 11 => some time
  | 12 => some objectIdentifier
  | _ => none

/-- The name of the data type in error texts. -/
def name : DataType → String
  | null => "Null"
  | boolean => "Boolean"
  | unsigned => "UnsignedInt"
  | signed => "SignedInt"
  | real => "Real"
  | double => "Double"
  | octetString => "OctetString"
  | characterString => "CharacterString"
  | bitString => "BitString"
  | enumerated => "Enumerated"
  | date => "Date"
  | time => "Time"
  | objectIdentifier => "ObjectIdentifier"

theorem ofNumber?_number (type : DataType) : ofNumber? type.number = some type := by
  cases type <;> rfl

end DataType

/-- Whether a tag names a data type or a field of the surrounding message. -/
inductive TagClass where
  | application
  | context
  deriving DecidableEq, Repr

/-- What follows a tag. -/
inductive TagKind where
  /-- A primitive element. The number is the length of its content, except for an application
  boolean, where it is the truth value and no content follows. -/
  | value (length : Nat)
  /-- The elements of a constructed value, up to its closing tag. -/
  | opening
  /-- The end of a constructed value. -/
  | closing
  deriving DecidableEq, Repr

/-- The head of an encoded element. -/
structure Tag where
  number : UInt8
  tagClass : TagClass
  kind : TagKind
  deriving DecidableEq, Repr

namespace Tag

/-- The tag of a primitive element of the data type. -/
def application (type : DataType) (length : Nat) : Tag := ⟨type.number, .application, .value length⟩

/-- The tag of a primitive element with a context number. -/
def context (number : UInt8) (length : Nat) : Tag := ⟨number, .context, .value length⟩

/-- The tag that opens a constructed value. -/
def opening (number : UInt8) : Tag := ⟨number, .context, .opening⟩

/-- The tag that closes a constructed value. -/
def closing (number : UInt8) : Tag := ⟨number, .context, .closing⟩

/-- The number of content octets that follow the tag. -/
def contentLength (tag : Tag) : Nat :=
  match tag.kind with
  | .value length =>
    if tag.tagClass = .application ∧ tag.number = DataType.boolean.number then 0 else length
  | .opening | .closing => 0

/-- Whether the tag opens a constructed value with this number. -/
def isOpening (tag : Tag) (number : UInt8) : Bool := tag.kind == .opening && tag.number == number

/-- Whether the tag closes a constructed value with this number. -/
def isClosing (tag : Tag) (number : UInt8) : Bool := tag.kind == .closing && tag.number == number

/-- Whether the tag heads a primitive element with this context number. -/
def isContext (tag : Tag) (number : UInt8) : Bool :=
  match tag.tagClass, tag.kind with
  | .context, .value _ => tag.number == number
  | _, _ => false

/-- The data type that the tag announces, if it heads an application-tagged primitive. -/
def dataType? (tag : Tag) : Option DataType :=
  match tag.tagClass, tag.kind with
  | .application, .value _ => DataType.ofNumber? tag.number
  | _, _ => none

/-- The tag as error texts show it. -/
def text (tag : Tag) : String :=
  let number := tag.number
  let className := match tag.tagClass with
    | .application => "Application"
    | .context => "Context"
  let kind := match tag.kind with
    | .value length => s!"Value({length})"
    | .opening => "Opening"
    | .closing => "Closing"
  s!"Tag \x7b number: {number}, class: {className}, kind: {kind} \x7d"

end Tag

end BACnet
