import BACnet.Text.Codec

/-!
# Charts

A chart is a small codec: it lists some characters of an encoding with the two octets of each, and
refuses all others. ASCII characters take one octet in all encodings, and so do the half-width
katakana in Shift_JIS. What is said about every codec can be evaluated with the charts.
-/

namespace BACnet

namespace Chart

/-- The charted characters of the encoding with their two octets. -/
def entries : LegacyEncoding → List (Char × UInt8 × UInt8)
  | .shiftJis =>
    [('　', 0x81, 0x40), ('、', 0x81, 0x41), ('臆', 0x89, 0xB0), ('温', 0x89, 0xB7),
      ('度', 0x93, 0x78)]
  | .gbk => [('温', 0xCE, 0xC2), ('度', 0xB6, 0xC8)]
  | .eucKr => [('온', 0xBF, 0xC2), ('도', 0xB5, 0xB5)]
  | .big5 => [('溫', 0xB7, 0xC5), ('度', 0xAB, 0xD7)]
  | .eucJp =>
    [('　', 0xA1, 0xA1), ('、', 0xA1, 0xA2), ('臆', 0xB2, 0xB2), ('温', 0xB2, 0xB9),
      ('度', 0xC5, 0xD9)]

/-- Whether the encoding has the half-width katakana in single octets. -/
def hasHalfWidth (encoding : LegacyEncoding) : Bool := encoding == .shiftJis

/-- The character of a single octet. -/
def single? (encoding : LegacyEncoding) (octet : UInt8) : Option Char :=
  let value := octet.toNat
  if value < 0x80 then some (Char.ofNat value)
  else if hasHalfWidth encoding ∧ 0xA1 ≤ value ∧ value < 0xE0 then
    some (Char.ofNat (0xFF61 + (value - 0xA1)))
  else none

/-- The character of two octets. -/
def double? (encoding : LegacyEncoding) (first second : UInt8) : Option Char :=
  ((entries encoding).find? fun entry => entry.2 == (first, second)).map (·.1)

/-- The octets of a character, if the chart has it. -/
def encodeChar? (encoding : LegacyEncoding) (c : Char) : Option Octets :=
  let code := c.toNat
  if code < 0x80 then some [UInt8.ofNat code]
  else if hasHalfWidth encoding ∧ 0xFF61 ≤ code ∧ code < 0xFFA0 then
    some [UInt8.ofNat (0xA1 + (code - 0xFF61))]
  else ((entries encoding).find? fun entry => entry.1 == c).map fun entry => [entry.2.1, entry.2.2]

/-- The octets of a text, if the chart has all its characters. -/
def encode? (encoding : LegacyEncoding) (text : String) : Option Octets :=
  (text.toList.mapM (encodeChar? encoding)).map List.flatten

/-- Reads characters up to the end of the octets, if each of them is charted. -/
def decodeChars? (encoding : LegacyEncoding) (octets : Octets) : Option (List Char) :=
  match octets with
  | [] => some []
  | first :: rest =>
    match single? encoding first with
    | some c => (decodeChars? encoding rest).map (c :: ·)
    | none =>
      match rest with
      | [] => none
      | second :: rest => do
        let c ← double? encoding first second
        (decodeChars? encoding rest).map (c :: ·)

/-- Reads a text from its octets. -/
def decode? (encoding : LegacyEncoding) (octets : Octets) : Option String :=
  (decodeChars? encoding octets).map String.ofList

/-- The codec of the charts. -/
scoped instance codec : TextCodec := ⟨encode?, decode?⟩

end Chart

end BACnet
