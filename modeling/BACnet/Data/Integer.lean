import BACnet.Data.Error

/-!
# Integers

An integer content is one to eight octets, most significant first; a signed one is in two's
complement. The encoder writes the shortest content: it starts from eight octets and drops those in
front that add nothing. The decoder takes every content of an allowed length.
-/

namespace BACnet

/-- Drops leading zero octets, but keeps at least one octet. -/
def dropLeadingZeros : Octets → Octets
  | [] => []
  | [last] => [last]
  | first :: second :: rest =>
    if first = 0 then dropLeadingZeros (second :: rest) else first :: second :: rest

/-- Whether an octet in front of another only repeats the sign of the other. -/
def isSignExtension (first second : UInt8) : Bool :=
  (first == 0 && !Octets.bit second 7) || (first == 255 && Octets.bit second 7)

/-- Drops leading octets that only repeat the sign, but keeps at least one octet. -/
def dropSignExtension : Octets → Octets
  | [] => []
  | [last] => [last]
  | first :: second :: rest =>
    if isSignExtension first second then dropSignExtension (second :: rest)
    else first :: second :: rest

/-- The shortest content of an unsigned integer. -/
def unsignedContent (value : UInt64) : Octets := dropLeadingZeros (Octets.ofWord64 value)

/-- Reads an unsigned integer from a content of one to eight octets. -/
def decodeUnsignedContent (content : Octets) : Except DataError UInt64 :=
  if content.length = 0 ∨ 8 < content.length then
    .error (.invalidLength .unsigned content.length)
  else .ok (UInt64.ofNat (Octets.ofBigEndian content))

/-- The shortest content of a signed integer. -/
def signedContent (value : Int64) : Octets := dropSignExtension (Octets.ofWord64 value.toUInt64)

/-- The octet that fills a signed content up to eight octets. -/
def signFill : Octets → UInt8
  | [] => 0
  | first :: _ => if Octets.bit first 7 then 255 else 0

/-- Reads a signed integer from a content of one to eight octets. -/
def decodeSignedContent (content : Octets) : Except DataError Int64 :=
  if content.length = 0 ∨ 8 < content.length then
    .error (.invalidLength .signed content.length)
  else
    let extended := List.replicate (8 - content.length) (signFill content) ++ content
    .ok (UInt64.ofNat (Octets.ofBigEndian extended)).toInt64

/-- The shortest content of an enumerated value. -/
def enumeratedContent (value : UInt32) : Octets := unsignedContent value.toUInt64

/-- Reads an enumerated value from a content of one to four octets. -/
def decodeEnumeratedContent (content : Octets) : Except DataError UInt32 :=
  if content.length = 0 ∨ 4 < content.length then
    .error (.invalidLength .enumerated content.length)
  else .ok (UInt32.ofNat (Octets.ofBigEndian content))

end BACnet
