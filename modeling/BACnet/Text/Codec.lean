import BACnet.Octets

/-!
# Legacy text

Older devices send Chinese, Japanese and Korean text in encodings that have their own table for
each language. The conversions are those of a library, which a `TextCodec` stands for. Nothing is
presumed about it: it may refuse texts and octets as it likes.
-/

namespace BACnet

/-- The encodings with one or more octets per character that are converted by the library. -/
inductive LegacyEncoding where
  /-- Japanese, code page 932. -/
  | shiftJis
  /-- Simplified Chinese, code page 936. -/
  | gbk
  /-- Korean, code page 949. -/
  | eucKr
  /-- Traditional Chinese, code page 950. -/
  | big5
  /-- Japanese; its two-octet plane is JIS X 0208 with the high bits set. -/
  | eucJp
  deriving DecidableEq, Repr

/-- The conversions of the library. -/
class TextCodec where
  /-- The octets of a text, unless a character of it has none in the encoding. -/
  encode? : LegacyEncoding → String → Option Octets
  /-- The text of the octets, unless they are no text in the encoding. -/
  decode? : LegacyEncoding → Octets → Option String

end BACnet
