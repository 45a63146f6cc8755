import BACnet.Data.Value

/-!
# Writing into a buffer

An encoder appends to a buffer, in several steps. A step that fails leaves in the buffer what the
steps before it have appended.
-/

namespace BACnet

/-- A step that appends to a buffer, or fails and keeps what the buffer holds by then. -/
abbrev Writing := EStateM DataError Octets

namespace Writing

/-- Appends octets. -/
def put (octets : Octets) : Writing Unit := modify (· ++ octets)

/-- Goes on with a result, or fails with its error. -/
def lift {α : Type} : Except DataError α → Writing α
  | .ok result => pure result
  | .error error => throw error

end Writing

/-- Appends the octets of a tag: its head, and then those of a length that does not fit it. -/
def Tag.write (tag : Tag) : Writing Unit := do
  if tag.number = 255 then throw (.valueOutOfRange .tagNumber)
  Writing.put tag.head
  Writing.put (← Writing.lift tag.tail)

variable [TextCodec]

namespace Value

/-- Appends the value behind its application tag. -/
def write : Value → Writing Unit
  | boolean value => Writing.put (encodeApplicationTag .boolean value.toNat)
  | value => do
    let octets ← Writing.lift value.content
    Writing.put (encodeApplicationTag value.dataType octets.length)
    Writing.put octets

/-- Appends the value behind a context tag. -/
def writeContext (number : UInt8) (value : Value) : Writing Unit := do
  let octets ← Writing.lift value.content
  (Tag.context number octets.length).write
  Writing.put octets

end Value

end BACnet
