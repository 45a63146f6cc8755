/-!
# Octets

Everything that travels between devices is a list of octets. This module holds what the message
formats share: numbers written most significant octet first, single bits of an octet, and the
hexadecimal text in which octets are shown.

* `bigEndian w n` is the `w` low-order octets of `n`, and `ofBigEndian` reads octets back.
* `ofBigEndian_bigEndian` and `bigEndian_ofBigEndian`: the two are inverse to each other on numbers
  that fit `w` octets and on lists of length `w`.
-/

namespace BACnet

/-- A string of octets, in the order in which they are sent. -/
abbrev Octets := List UInt8

namespace Octets

/-- The number that the octets spell, most significant octet first. -/
def ofBigEndian (octets : Octets) : Nat :=
  octets.foldl (fun value octet => value * 256 + octet.toNat) 0

/-- The `width` low-order octets of a number, most significant octet first. -/
def bigEndian : Nat → Nat → Octets
  | 0, _ => []
  | width + 1, value => bigEndian width (value / 256) ++ [UInt8.ofNat value]

/-- The two octets of a 16-bit word. -/
def ofWord16 (word : UInt16) : Octets := bigEndian 2 word.toNat

/-- The four octets of a 32-bit word. -/
def ofWord32 (word : UInt32) : Octets := bigEndian 4 word.toNat

/-- The eight octets of a 64-bit word. -/
def ofWord64 (word : UInt64) : Octets := bigEndian 8 word.toNat

/-- The 16-bit word of two octets. -/
def word16 (high low : UInt8) : UInt16 := UInt16.ofNat (ofBigEndian [high, low])

/-- The 32-bit word of four octets. -/
def word32 (a b c d : UInt8) : UInt32 := UInt32.ofNat (ofBigEndian [a, b, c, d])

/-- Bit `index` of an octet, bit 0 being the least significant. -/
def bit (octet : UInt8) (index : Nat) : Bool := octet.toNat.testBit index

/-- The `width` bits of an octet that start at bit `low`. -/
def field (octet : UInt8) (low width : Nat) : Nat := (octet.toNat >>> low) % (1 <<< width)

/-- The first `count` octets, if there are as many. -/
def take? (count : Nat) (octets : Octets) : Option Octets :=
  if count ≤ octets.length then some (octets.take count) else none

/-! ## Laws of the big-endian form -/

theorem length_bigEndian (width value : Nat) : (bigEndian width value).length = width := by
  induction width generalizing value with
  | zero => rfl
  | succ width ih => simp [bigEndian, ih]

theorem ofBigEndian_append_singleton (octets : Octets) (octet : UInt8) :
    ofBigEndian (octets ++ [octet]) = ofBigEndian octets * 256 + octet.toNat := by
  simp [ofBigEndian, List.foldl_append]

theorem ofBigEndian_bigEndian (width value : Nat) :
    ofBigEndian (bigEndian width value) = value % (1 <<< (8 * width)) := by
  induction width generalizing value with
  | zero => simp [bigEndian, ofBigEndian, Nat.mod_one]
  | succ width ih =>
    have grown : 1 <<< (8 * (width + 1)) = 256 * 1 <<< (8 * width) := by
      rw [Nat.mul_succ, Nat.shiftLeft_add, Nat.shiftLeft_eq _ 8, Nat.mul_comm]
    rw [grown, Nat.mod_mul, bigEndian, ofBigEndian_append_singleton, ih, UInt8.toNat_ofNat']
    omega

theorem bigEndian_ofBigEndian_append (front : Octets) (last : UInt8)
    (h : bigEndian front.length (ofBigEndian front) = front) :
    bigEndian (front ++ [last]).length (ofBigEndian (front ++ [last])) = front ++ [last] := by
  have hlast := last.toNat_lt
  rw [List.length_append, List.length_singleton, bigEndian, ofBigEndian_append_singleton]
  have hdiv : (ofBigEndian front * 256 + last.toNat) / 256 = ofBigEndian front := by omega
  have hmod : UInt8.ofNat (ofBigEndian front * 256 + last.toNat) = last := by
    apply UInt8.toNat_inj.mp
    rw [UInt8.toNat_ofNat']
    omega
  rw [hdiv, hmod, h]

theorem bigEndian_ofBigEndian (octets : Octets) :
    bigEndian octets.length (ofBigEndian octets) = octets := by
  rw [← List.reverse_reverse octets]
  induction octets.reverse with
  | nil => rfl
  | cons last front ih =>
    rw [List.reverse_cons]
    exact bigEndian_ofBigEndian_append front.reverse last ih

/-! ## Hexadecimal text -/

/-- The lower-case hexadecimal digit of a number below sixteen. -/
def hexDigit (value : Nat) : Char :=
  if value < 10 then Char.ofNat (0x30 + value) else Char.ofNat (0x61 + (value - 10))

/-- Two hexadecimal digits per octet. -/
def hex (octets : Octets) : String :=
  String.ofList (octets.flatMap fun octet =>
    [hexDigit (octet.toNat / 16), hexDigit (octet.toNat % 16)])

/-- The number of a hexadecimal digit, whose letter may be of either case. -/
def ofHexDigit (digit : Char) : Nat :=
  if digit.toNat < 0x41 then digit.toNat - 0x30
  else if digit.toNat < 0x61 then digit.toNat - 0x41 + 10
  else digit.toNat - 0x61 + 10

/-- The octets of hexadecimal digits, two for each octet. -/
def ofHex : List Char → Octets
  | high :: low :: rest => UInt8.ofNat (ofHexDigit high * 16 + ofHexDigit low) :: ofHex rest
  | _ => []

/-- The number of octets that `hexPreview` shows. -/
def hexPreviewLimit : Nat := 64

/-- The hexadecimal text of a frame for a log line: long frames are cut, and their length is
shown instead of the rest. -/
def hexPreview (octets : Octets) : String :=
  if octets.length ≤ hexPreviewLimit then hex octets
  else
    let length := octets.length
    hex (octets.take hexPreviewLimit) ++ s!".. ({length} bytes)"

/-- The upper-case hexadecimal digits of a number, without leading zeros. -/
def upperHex (value : Nat) : String :=
  String.ofList ((Nat.toDigits 16 value).map Char.toUpper)

end Octets

end BACnet
