import BACnet.ErrorKind
import BACnet.Data.Tag

/-!
# Errors of the data layer

What can be wrong with encoded elements, or with values that are to be encoded. Each error names
its cause; the wording is in the `message` functions alone.
-/

namespace BACnet

/-- The contents whose length is checked. -/
inductive ContentKind where
  | null
  | applicationBoolean
  | contextBoolean
  | unsigned
  | signed
  | enumerated
  | real
  | double
  | characterString
  | ucs4Text
  | ucs2Text
  | bitString
  | date
  | time
  | objectIdentifier
  deriving DecidableEq, Repr

/-- The words for a content in error texts. -/
def ContentKind.text : ContentKind → String
  | null => "null"
  | applicationBoolean => "application boolean"
  | contextBoolean => "context boolean"
  | unsigned => "unsigned"
  | signed => "signed"
  | enumerated => "enumerated"
  | real => "real"
  | double => "double"
  | characterString => "character string"
  | ucs4Text => "UCS-4 string"
  | ucs2Text => "UCS-2 string"
  | bitString => "bit string"
  | date => "date"
  | time => "time"
  | objectIdentifier => "object identifier"

/-- Why a tag cannot be interpreted. -/
inductive TagFault where
  | reservedDataType (number : UInt8)
  | reservedNumber
  | lengthValueType (number : UInt8) (field : Nat)
  deriving DecidableEq, Repr

def TagFault.message : TagFault → String
  | reservedDataType number => s!"application tag {number} is reserved"
  | reservedNumber => "extended tag number 255 is reserved"
  | lengthValueType number field => s!"application tag {number} with length/value/type {field}"

/-- The element that a reader looked for. -/
inductive Expectation where
  | anyApplication
  | context (number : UInt8)
  | opening (number : UInt8)
  | closing (number : UInt8)
  | dataType (type : DataType)
  | unsigned
  | enumerated
  | objectIdentifier
  deriving DecidableEq, Repr

def Expectation.text : Expectation → String
  | anyApplication => "application tag"
  | context number => s!"context tag {number}"
  | opening number => s!"opening tag {number}"
  | closing number => s!"closing tag {number}"
  | dataType type => type.name
  | unsigned => "unsigned"
  | enumerated => "enumerated"
  | objectIdentifier => "object identifier"

/-- The element that a reader met instead. -/
inductive Finding where
  | tag (tag : Tag)
  | dataType (type : DataType)
  deriving DecidableEq, Repr

def Finding.text : Finding → String
  | tag found => found.text
  | dataType type => type.name

/-- Why opening and closing tags do not pair up. -/
inductive NestingFault where
  | closesAnother (number : UInt8) (opened : UInt8)
  | closesNothing (number : UInt8)
  | neverClosed (number : UInt8)
  | endsEnclosing (number : UInt8)
  deriving DecidableEq, Repr

def NestingFault.message : NestingFault → String
  | closesAnother number opened => s!"closing tag {number} while tag {opened} is open"
  | closesNothing number => s!"closing tag {number} without an opening tag"
  | neverClosed number => s!"opening tag {number} is never closed"
  | endsEnclosing number => s!"closing tag {number} ends an enclosing element"

/-- Why octets are not UTF-8. -/
inductive Utf8Fault where
  /-- The `length` octets from `index` can start no character. -/
  | invalid (length index : Nat)
  /-- The input ends inside the character that starts at `index`. -/
  | incomplete (index : Nat)
  deriving DecidableEq, Repr

def Utf8Fault.message : Utf8Fault → String
  | invalid length index => s!"invalid utf-8 sequence of {length} bytes from index {index}"
  | incomplete index => s!"incomplete utf-8 byte sequence from index {index}"

/-- Why the parameters of a service are not acceptable although each of them is well encoded. -/
inductive ParameterFault where
  | segmentation (value : UInt32)
  | enableDisable (value : UInt32)
  | deviceInstance (value : UInt64)
  | missingHighLimit
  | notADevice (objectType : UInt16)
  | maxApduLength
  | vendorIdentifier
  | duration (minutes : UInt64)
  deriving DecidableEq, Repr

def ParameterFault.message : ParameterFault → String
  | segmentation value => s!"segmentation value {value}"
  | enableDisable value => s!"enable-disable value {value}"
  | deviceInstance value => s!"device instance {value}"
  | missingHighLimit => "Who-Is request has low limit without high limit"
  | notADevice objectType => s!"I-Am for object type {objectType}"
  | maxApduLength => "max APDU length"
  | vendorIdentifier => "vendor identifier"
  | duration minutes => s!"duration {minutes}"

/-- Why content octets do not form a value. -/
inductive FormatFault where
  | utf8 (fault : Utf8Fault)
  | unsupportedCodePage (codePage : UInt16)
  | codePageSequence (codePage : UInt16)
  | jisSequence
  | jisUnmapped
  | codePoint (code : UInt32)
  | surrogate (code : UInt16)
  | unusedBits (unused : UInt8) (octets : Nat)
  | trailing (count : Nat)
  | parameter (fault : ParameterFault)
  deriving DecidableEq, Repr

def FormatFault.message : FormatFault → String
  | utf8 fault => fault.message
  | unsupportedCodePage codePage => s!"DBCS code page {codePage} is not supported"
  | codePageSequence codePage => s!"invalid sequence for code page {codePage}"
  | jisSequence => "invalid JIS X 0208 sequence"
  | jisUnmapped => "unmapped JIS X 0208 character"
  | codePoint code => "invalid code point 0x" ++ Octets.upperHex code.toNat
  | surrogate code => "surrogate 0x" ++ Octets.upperHex code.toNat ++ " in UCS-2"
  | unusedBits unused octets => s!"{unused} unused bits in a {octets} octet bit string"
  | trailing count => s!"{count} trailing bytes"
  | parameter fault => fault.message

/-- Why a value has no encoding, or no counterpart in the calendar. -/
inductive RangeFault where
  | tagNumber
  | contentLength (length : Nat)
  | objectIdentifier (objectType : UInt16) (number : UInt32)
  | codePage (codePage : UInt16)
  | jis
  | ucs2 (code : Nat)
  | iso8859 (code : Nat)
  | year (year : Int)
  | unspecifiedYear
  | calendarDate (year : Nat) (month day : UInt8)
  | timeOfDay (hour minute second hundredths : UInt8)
  deriving DecidableEq, Repr

def RangeFault.message : RangeFault → String
  | tagNumber => "tag number 255 is reserved"
  | contentLength length => s!"content length {length} does not fit a tag"
  | objectIdentifier objectType number => s!"object identifier ({objectType}, {number})"
  | codePage page => s!"text not representable in code page {page}"
  | jis => "text not representable in JIS X 0208"
  | ucs2 code => "U+" ++ Octets.upperHex code ++ " is outside UCS-2"
  | iso8859 code => "U+" ++ Octets.upperHex code ++ " is outside ISO 8859-1"
  | year number => s!"year {number}"
  | unspecifiedYear => "unspecified year"
  | calendarDate inYear month day => s!"{inYear}-{month}-{day} is not a calendar date"
  | timeOfDay hour minute second hundredths =>
    s!"Time \x7b hour: {hour}, minute: {minute}, second: {second}, hundredths: {hundredths} \x7d" ++
      " is not a time of day"

/-- What can go wrong when elements are encoded or decoded. -/
inductive DataError where
  /-- The input ends inside an element. -/
  | unexpectedEndOfData (needed available : Nat)
  /-- A tag cannot be interpreted. -/
  | invalidTag (fault : TagFault)
  /-- Another element was expected here. -/
  | unexpectedTag (expected : Expectation) (found : Finding)
  /-- The content of this type cannot have this length. -/
  | invalidLength (content : ContentKind) (length : Nat)
  /-- Opening and closing tags do not pair up. -/
  | unbalancedTags (fault : NestingFault)
  /-- Constructed values are nested deeper than the reader allows. -/
  | nestingTooDeep (limit : Nat)
  /-- No character set has this code. -/
  | unsupportedCharacterSet (code : UInt8)
  /-- The content octets do not form a value. -/
  | invalidFormat (fault : FormatFault)
  /-- The value has no encoding. -/
  | valueOutOfRange (fault : RangeFault)
  deriving DecidableEq, Repr

namespace DataError

/-- A value that cannot be encoded is the caller's fault; everything else came from the wire. -/
def kind : DataError → ErrorKind
  | valueOutOfRange _ => .invalidArgument
  | _ => .malformedPdu

def message : DataError → String
  | unexpectedEndOfData needed available =>
    s!"unexpected end of data: needed {needed} bytes, {available} available"
  | invalidTag fault => "invalid tag: " ++ fault.message
  | unexpectedTag expected found =>
    "unexpected tag: expected " ++ expected.text ++ ", found " ++ found.text
  | invalidLength content length => s!"invalid length {length} for " ++ content.text
  | unbalancedTags fault => "unbalanced tags: " ++ fault.message
  | nestingTooDeep limit => s!"constructed data nested deeper than {limit} levels"
  | unsupportedCharacterSet code => s!"unsupported character set {code}"
  | invalidFormat fault => "invalid format: " ++ fault.message
  | valueOutOfRange fault => "value out of range: " ++ fault.message

end DataError

end BACnet
