import BACnet.Data.Error

/-!
# UTF-8

The octets of a text, one to four per character. The decoder takes exactly the shortest forms of the
characters, and says where the first octet stands that can belong to no character.
-/

namespace BACnet

namespace Utf8

/-- A continuation octet that carries the six low-order bits of a number. -/
def continuation (value : Nat) : UInt8 := UInt8.ofNat (0x80 + value % 64)

/-- The octets of a character. -/
def encodeChar (c : Char) : Octets :=
  let code := c.toNat
  if code < 0x80 then [UInt8.ofNat code]
  else if code < 0x800 then [UInt8.ofNat (0xC0 + code / 64), continuation code]
  else if code < 0x10000 then
    [UInt8.ofNat (0xE0 + code / 4096), continuation (code / 64), continuation code]
  else
    [UInt8.ofNat (0xF0 + code / 262144), continuation (code / 4096), continuation (code / 64),
      continuation code]

/-- The octets of a text. -/
def encode (text : String) : Octets := text.toList.flatMap encodeChar

/-- The number of octets of a character that starts with this octet. -/
def width? (first : UInt8) : Option Nat :=
  let value := first.toNat
  if value < 0x80 then some 1
  else if value < 0xC2 then none
  else if value < 0xE0 then some 2
  else if value < 0xF0 then some 3
  else if value < 0xF5 then some 4
  else none

/-- Whether an octet may be the second of a character that starts with `first`. The narrower ranges
shut out forms that are not the shortest, surrogates, and numbers beyond the last character. -/
def mayFollow (first second : UInt8) : Bool :=
  let low := if first = 0xE0 then 0xA0 else if first = 0xF0 then 0x90 else 0x80
  let high := if first = 0xED then 0xA0 else if first = 0xF4 then 0x90 else 0xC0
  low ≤ second.toNat && second.toNat < high

/-- Whether an octet continues a character. -/
def isContinuation (octet : UInt8) : Bool := 0x80 ≤ octet.toNat && octet.toNat < 0xC0

/-- Checks the octets of a character behind its first: which of them are wanted, and how many octets
of the character have been seen. `index` is where the character starts. -/
def checkTail (first : UInt8) (index : Nat) : Nat → Nat → Octets → Except Utf8Fault Unit
  | 0, _, _ => .ok ()
  | _ + 1, _, [] => .error (.incomplete index)
  | wanted + 1, seen, octet :: rest =>
    if if seen = 1 then mayFollow first octet else isContinuation octet then
      checkTail first index wanted (seen + 1) rest
    else .error (.invalid seen index)

/-- The number that the octets of a character spell. -/
def codePoint : Octets → Nat
  | [] => 0
  | [a] => a.toNat
  | [a, b] => a.toNat % 32 * 64 + b.toNat % 64
  | [a, b, c] => (a.toNat % 16 * 64 + b.toNat % 64) * 64 + c.toNat % 64
  | a :: b :: c :: d :: _ =>
    ((a.toNat % 8 * 64 + b.toNat % 64) * 64 + c.toNat % 64) * 64 + d.toNat % 64

/-- Reads the character at the head of the octets, which stand at `index` of the text: the character
and the number of octets behind its first. -/
def decodeChar (index : Nat) (first : UInt8) (rest : Octets) : Except Utf8Fault (Char × Nat) :=
  match width? first with
  | none => .error (.invalid 1 index)
  | some width => do
    checkTail first index (width - 1) 1 rest
    .ok (Char.ofNat (codePoint (first :: rest.take (width - 1))), width - 1)

/-- Reads characters up to the end of the octets, which stand at `index` of the text. -/
def decodeFrom (index : Nat) (octets : Octets) : Except Utf8Fault (List Char) :=
  match octets with
  | [] => .ok []
  | first :: rest => do
    let (c, more) ← decodeChar index first rest
    .ok (c :: (← decodeFrom (index + 1 + more) (rest.drop more)))
termination_by octets.length
decreasing_by simp only [List.length_drop, List.length_cons]; omega

/-- Reads a text from its octets. -/
def decode (octets : Octets) : Except Utf8Fault String :=
  (decodeFrom 0 octets).map String.ofList

end Utf8

end BACnet
