import BACnet.Data.Value

/-!
# Reading service parameters

A reader walks over the elements of a message. It keeps the numbers of the constructed values that
are open, so that a closing tag that does not fit, or an opening tag that is never closed, is
reported and not passed over.

Every operation is an action on the reader. An action that fails leaves the reader where the fault
was found: an element that was read but is not the wanted one stays consumed, a tag that cannot be
read does not.
-/

namespace BACnet

/-- A position in a list of elements. -/
structure Reader where
  /-- The octets that are still to be read. -/
  rest : Octets
  /-- The number of octets that have been read. -/
  position : Nat
  /-- The numbers of the constructed values that are open, the innermost first. -/
  opened : List UInt8
  /-- How many constructed values may be open at once. -/
  maxDepth : Nat
  deriving DecidableEq, Repr

/-- An action that reads elements; a failed action tells where it left the reader, too. -/
abbrev Read := EStateM DataError Reader

namespace Reader

/-- The nesting limit where none is given. -/
def defaultMaxDepth : Nat := 32

/-- A reader at the head of the octets. -/
def new (data : Octets) (maxDepth : Nat) : Reader := ⟨data, 0, [], maxDepth⟩

/-- A reader at the head of the octets, with the usual nesting limit. -/
def ofOctets (data : Octets) : Reader := new data defaultMaxDepth

/-- The number of constructed values that are open. -/
def depth (reader : Reader) : Nat := reader.opened.length

/-- Whether everything has been read. -/
def isEmpty (reader : Reader) : Bool := reader.rest.isEmpty

/-- The reader behind the next `count` octets. -/
def advance (reader : Reader) (count : Nat) : Reader :=
  { reader with rest := reader.rest.drop count, position := reader.position + count }

/-- The next tag, if there is one; the reader stays where it is. -/
def peek (reader : Reader) : Except DataError (Option Tag) :=
  if reader.isEmpty then .ok none else (fun tag => some tag.1) <$> Tag.decode reader.rest

/-- Whether the next tag can be read and passes a test. -/
def nextIs (reader : Reader) (test : Tag → Bool) : Bool :=
  match reader.peek with
  | .ok (some tag) => test tag
  | _ => false

/-- Whether the next element is a primitive with this context number. -/
def nextIsContext (reader : Reader) (number : UInt8) : Bool := reader.nextIs (·.isContext number)

/-- Whether the next tag opens a constructed value with this number. -/
def nextIsOpening (reader : Reader) (number : UInt8) : Bool := reader.nextIs (·.isOpening number)

/-- Whether the next tag closes a constructed value with this number. -/
def nextIsClosing (reader : Reader) (number : UInt8) : Bool := reader.nextIs (·.isClosing number)

/-- The open constructed values behind a tag. -/
def openedAfter (opened : List UInt8) (maxDepth : Nat) (tag : Tag) :
    Except DataError (List UInt8) :=
  match tag.kind with
  | .value _ => .ok opened
  | .opening =>
    if maxDepth ≤ opened.length then .error (.nestingTooDeep maxDepth)
    else .ok (tag.number :: opened)
  | .closing =>
    match opened with
    | [] => .error (.unbalancedTags (.closesNothing tag.number))
    | innermost :: outer =>
      if innermost = tag.number then .ok outer
      else .error (.unbalancedTags (.closesAnother tag.number innermost))

/-- The next tag and the reader behind it. -/
def next (reader : Reader) : Except DataError (Tag × Reader) := do
  let (tag, used) ← Tag.decode reader.rest
  let opened ← openedAfter reader.opened reader.maxDepth tag
  .ok (tag, { reader.advance used with opened })

/-- The next `length` octets and the reader behind them. -/
def nextContent (reader : Reader) (length : Nat) : Except DataError (Octets × Reader) :=
  match Octets.take? length reader.rest with
  | some octets => .ok (octets, reader.advance length)
  | none =>
    .error (.unexpectedEndOfData (min (reader.position + length) maxCount)
      (reader.position + reader.rest.length))

/-- Whether everything has been read and every constructed value is closed. -/
def finished (reader : Reader) : Except DataError Unit :=
  match reader.opened with
  | number :: _ => .error (.unbalancedTags (.neverClosed number))
  | [] =>
    if reader.isEmpty then .ok ()
    else .error (.invalidFormat (.trailing reader.rest.length))

end Reader

namespace Read

/-- A step of the reader as an action: if it fails, the reader stays where it is. -/
def step {α : Type} (f : Reader → Except DataError (α × Reader)) : Read α := fun reader =>
  match f reader with
  | .ok (value, reader) => .ok value reader
  | .error error => .error error reader

/-- A result as an action that leaves the reader alone. -/
def lift {α : Type} (result : Except DataError α) : Read α := fun reader =>
  match result with
  | .ok value => .ok value reader
  | .error error => .error error reader

/-- What an action makes of the octets. -/
def run {α : Type} (action : Read α) (data : Octets) : Except DataError α :=
  match action (Reader.ofOctets data) with
  | .ok value _ => .ok value
  | .error error _ => .error error

/-- Reads a tag. The content of a primitive element is left to `content`. -/
def tag : Read Tag := step Reader.next

/-- Reads `length` octets. -/
def content (length : Nat) : Read Octets := step fun reader => reader.nextContent length

/-- Reads a tag that passes a test. -/
def tagThat (test : Tag → Bool) (expected : Expectation) : Read Tag := do
  let found ← tag
  if test found then pure found else throw (.unexpectedTag expected (.tag found))

/-- Reads the tag that opens a constructed value with this number. -/
def openTag (number : UInt8) : Read Unit := do
  let _ ← tagThat (·.isOpening number) (.opening number)

/-- Reads the tag that closes a constructed value with this number. -/
def closeTag (number : UInt8) : Read Unit := do
  let _ ← tagThat (·.isClosing number) (.closing number)

/-- Reads an element of which a decoder makes a value. -/
def element {α : Type} (decode : Octets → Except DataError (α × Nat)) : Read α :=
  step fun reader => do
    let (value, used) ← decode reader.rest
    .ok (value, reader.advance used)

variable [TextCodec]

/-- Reads an application-tagged value. -/
def value : Read Value := element Value.decode

/-- Reads a context-tagged value of a known data type. -/
def contextValue (number : UInt8) (type : DataType) : Read Value :=
  element fun data => Value.decodeContext data number type

/-- Reads an application-tagged unsigned integer. -/
def unsigned : Read UInt64 := do
  match ← value with
  | .unsigned number => pure number
  | other => throw (.unexpectedTag .unsigned (.dataType other.dataType))

/-- Reads an application-tagged enumerated value. -/
def enumerated : Read UInt32 := do
  match ← value with
  | .enumerated number => pure number
  | other => throw (.unexpectedTag .enumerated (.dataType other.dataType))

/-- Reads an application-tagged object identifier. -/
def objectIdentifier : Read ObjectIdentifier := do
  match ← value with
  | .objectIdentifier identifier => pure identifier
  | other => throw (.unexpectedTag .objectIdentifier (.dataType other.dataType))

/-- Reads a context-tagged primitive element down to its content octets. -/
def contextContent (number : UInt8) : Read Octets := do
  let found ← tagThat (·.isContext number) (.context number)
  content found.contentLength

/-- Reads a context-tagged unsigned integer. -/
def contextUnsigned (number : UInt8) : Read UInt64 := do
  lift (decodeUnsignedContent (← contextContent number))

/-- Reads a context-tagged enumerated value. -/
def contextEnumerated (number : UInt8) : Read UInt32 := do
  lift (decodeEnumeratedContent (← contextContent number))

/-- Reads a context-tagged character string. -/
def contextCharacterString (number : UInt8) : Read CharacterString := do
  lift (CharacterString.decodeContent (← contextContent number))

/-- Reads a context-tagged unsigned integer if it comes next. -/
def optionalContextUnsigned (number : UInt8) : Read (Option UInt64) := do
  if (← get).nextIsContext number then some <$> contextUnsigned number else pure none

/-- Reads a tag and the content of a primitive element. -/
def tagWithContent : Read Tag := do
  let found ← tag
  match found.kind with
  | .value _ => let _ ← content found.contentLength
  | .opening | .closing => pure ()
  pure found

/-- Reads tags until as many constructed values are open as at the start. At most `fuel` tags are
read; every tag takes an octet, so the number of octets suffices. -/
def skipTo (depth : Nat) : Nat → Read Unit
  | 0 => throw (.unexpectedEndOfData 1 0)
  | fuel + 1 => do
    let reader ← get
    match reader.isEmpty, reader.opened with
    | true, number :: _ => throw (.unbalancedTags (.neverClosed number))
    | _, _ =>
      let found ← tagWithContent
      let reached := (← get).depth
      if reached = depth then pure ()
      else if reached < depth then throw (.unbalancedTags (.endsEnclosing found.number))
      else skipTo depth fuel

/-- Skips an element; a constructed one is skipped through its closing tag. -/
def skip : Read Unit := do
  let reader ← get
  skipTo reader.depth (reader.rest.length + 1)

/-- Checks that everything has been read and every constructed value is closed. -/
def finish : Read Unit := do
  lift (← get).finished

/-- Skips elements up to the end of the octets. -/
def skipAll : Nat → Read Unit
  | 0 => pure ()
  | fuel + 1 => do
    if (← get).isEmpty then pure ()
    else
      skip
      skipAll fuel

end Read

/-- Checks that the tags of the octets pair up and are nested at most `maxDepth` deep. Values are
not looked at. -/
def validateNesting (data : Octets) (maxDepth : Nat) : Except DataError Unit :=
  match (do Read.skipAll data.length; Read.finish) (Reader.new data maxDepth) with
  | .ok () _ => .ok ()
  | .error error _ => .error error

end BACnet
