import BACnet.Text.Utf8
import BACnet.Text.Codec

/-!
# Character strings

A character string names the character set in which its text travels. The content octets start with
the code of the set, and with the number of the code page if the set is a double-byte one.
-/

namespace BACnet

/-- The character sets of character strings. -/
inductive CharacterSet where
  | utf8
  | doubleByte (codePage : UInt16)
  | jisX0208
  | ucs4
  | ucs2
  | iso8859
  deriving DecidableEq, Repr

/-- The code of a character set. -/
def CharacterSet.code : CharacterSet → UInt8
  | utf8 => 0
  | doubleByte _ => 1
  | jisX0208 => 2
  | ucs4 => 3
  | ucs2 => 4
  | iso8859 => 5

/-- A text and the character set in which it travels. -/
structure CharacterString where
  charset : CharacterSet
  text : String
  deriving DecidableEq, Repr

namespace CharacterString

/-- The encoding of a code page. -/
def codePageEncoding (codePage : UInt16) : Except DataError LegacyEncoding :=
  match codePage.toNat with
  | 932 => .ok .shiftJis
  | 936 => .ok .gbk
  | 949 => .ok .eucKr
  | 950 => .ok .big5
  | _ => .error (.invalidFormat (.unsupportedCodePage codePage))

/-- The two octets of a character in UCS-2. -/
def encodeUcs2 (c : Char) : Except DataError Octets :=
  if c.toNat ≤ 0xFFFF then .ok (Octets.bigEndian 2 c.toNat)
  else .error (.valueOutOfRange (.ucs2 c.toNat))

/-- The octet of a character in ISO 8859-1. -/
def encodeIso8859 (c : Char) : Except DataError Octets :=
  if c.toNat ≤ 0xFF then .ok [UInt8.ofNat c.toNat]
  else .error (.valueOutOfRange (.iso8859 c.toNat))

section

variable [TextCodec]

/-- Writes a text in the two-octet plane of JIS X 0208, which is that of EUC-JP with the high bits
cleared. -/
def encodeJis (text : String) : Except DataError Octets :=
  match TextCodec.encode? .eucJp text with
  | some octets =>
    if octets.length % 2 ≠ 0 ∨ octets.any (· < 0xA1) then .error (.valueOutOfRange .jis)
    else .ok (octets.map (· &&& 0x7F))
  | none => .error (.valueOutOfRange .jis)

/-- The octets of the text behind the code of the character set. -/
def encodeText (string : CharacterString) : Except DataError Octets :=
  match string.charset with
  | .utf8 => .ok (Utf8.encode string.text)
  | .doubleByte codePage => do
    let encoding ← codePageEncoding codePage
    match TextCodec.encode? encoding string.text with
    | some octets => .ok (Octets.ofWord16 codePage ++ octets)
    | none => .error (.valueOutOfRange (.codePage codePage))
  | .jisX0208 => encodeJis string.text
  | .ucs4 => .ok (string.text.toList.flatMap fun c => Octets.bigEndian 4 c.toNat)
  | .ucs2 => do .ok (← string.text.toList.mapM encodeUcs2).flatten
  | .iso8859 => do .ok (← string.text.toList.mapM encodeIso8859).flatten

/-- The content octets of the character string. -/
def content (string : CharacterString) : Except DataError Octets := do
  .ok (string.charset.code :: (← string.encodeText))

/-- Reads the text of a double-byte string behind the code of its set: first the code page. -/
def decodeDoubleByte : Octets → Except DataError CharacterString
  | high :: low :: octets => do
    let codePage := Octets.word16 high low
    let encoding ← codePageEncoding codePage
    match TextCodec.decode? encoding octets with
    | some text => .ok ⟨.doubleByte codePage, text⟩
    | none => .error (.invalidFormat (.codePageSequence codePage))
  | octets => .error (.unexpectedEndOfData 3 (octets.length + 1))

/-- Reads a text in the two-octet plane of JIS X 0208, whose octets are printable ASCII codes. -/
def decodeJis (octets : Octets) : Except DataError String :=
  if octets.length % 2 ≠ 0 ∨ octets.any (fun octet => octet < 0x21 || 0x7E < octet) then
    .error (.invalidFormat .jisSequence)
  else
    match TextCodec.decode? .eucJp (octets.map (· ||| 0x80)) with
    | some text => .ok text
    | none => .error (.invalidFormat .jisUnmapped)

/-- Reads characters of four octets each. Octets behind the last whole character are left out. -/
def decodeUcs4 : Octets → Except DataError (List Char)
  | a :: b :: c :: d :: rest =>
    let code := Octets.word32 a b c d
    if code.toNat.isValidChar then do .ok (Char.ofNat code.toNat :: (← decodeUcs4 rest))
    else .error (.invalidFormat (.codePoint code))
  | _ => .ok []

/-- Reads characters of two octets each. An octet behind the last whole character is left out. -/
def decodeUcs2 : Octets → Except DataError (List Char)
  | high :: low :: rest =>
    let code := Octets.word16 high low
    if code.toNat.isValidChar then do .ok (Char.ofNat code.toNat :: (← decodeUcs2 rest))
    else .error (.invalidFormat (.surrogate code))
  | _ => .ok []

/-- Reads a character string from its content octets. -/
def decodeContent : Octets → Except DataError CharacterString
  | [] => .error (.invalidLength .characterString 0)
  | code :: octets =>
    match code.toNat with
    | 0 =>
      match Utf8.decode octets with
      | .ok text => .ok ⟨.utf8, text⟩
      | .error fault => .error (.invalidFormat (.utf8 fault))
    | 1 => decodeDoubleByte octets
    | 2 => do .ok ⟨.jisX0208, ← decodeJis octets⟩
    | 3 =>
      if octets.length % 4 ≠ 0 then .error (.invalidLength .ucs4Text octets.length)
      else do .ok ⟨.ucs4, String.ofList (← decodeUcs4 octets)⟩
    | 4 =>
      if octets.length % 2 ≠ 0 then .error (.invalidLength .ucs2Text octets.length)
      else do .ok ⟨.ucs2, String.ofList (← decodeUcs2 octets)⟩
    | 5 => .ok ⟨.iso8859, String.ofList (octets.map fun octet => Char.ofNat octet.toNat)⟩
    | _ => .error (.unsupportedCharacterSet code)

end

end CharacterString

end BACnet
