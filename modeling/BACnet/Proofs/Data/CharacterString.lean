import BACnet.Data.CharacterString
import BACnet.Proofs.Octets.Reading
import BACnet.Proofs.Text.Utf8

/-!
# Reading character strings

A text that its character set can represent (`CharacterString.Representable`) is written, and it is
read back with its set.
-/

namespace BACnet

namespace CharacterString

/-! ## Characters of a fixed width -/

theorem isValidChar_toNat (c : Char) : c.toNat.isValidChar := c.valid

theorem decodeUcs4_flatMap (chars : List Char) :
    decodeUcs4 (chars.flatMap fun c => Octets.bigEndian 4 c.toNat) = .ok chars := by
  induction chars with
  | nil => rfl
  | cons c others ih =>
    obtain ⟨a, b, d, e, octets, spells⟩ := Octets.exists_ofWord32 c.val
    have number : (Octets.word32 a b d e).toNat = c.toNat := congrArg UInt32.toNat spells
    change Octets.bigEndian 4 c.toNat = _ at octets
    rw [List.flatMap_cons, octets]
    simp only [List.cons_append, List.nil_append, decodeUcs4]
    rw [number, if_pos (isValidChar_toNat c), ih, Char.ofNat_toNat]
    rfl

theorem decodeUcs2_flatMap {chars : List Char} (narrow : ∀ c ∈ chars, c.toNat ≤ 0xFFFF) :
    decodeUcs2 (chars.flatMap fun c => Octets.bigEndian 2 c.toNat) = .ok chars := by
  induction chars with
  | nil => rfl
  | cons c others ih =>
    obtain ⟨here, there⟩ := List.forall_mem_cons.mp narrow
    have fits : (UInt16.ofNat c.toNat).toNat = c.toNat := by
      rw [UInt16.toNat_ofNat']
      omega
    obtain ⟨a, b, octets, spells⟩ := Octets.exists_ofWord16 (UInt16.ofNat c.toNat)
    have number : (Octets.word16 a b).toNat = c.toNat := by rw [spells, fits]
    rw [Octets.ofWord16, fits] at octets
    rw [List.flatMap_cons, octets]
    simp only [List.cons_append, List.nil_append, decodeUcs2]
    rw [number, if_pos (isValidChar_toNat c), ih there, Char.ofNat_toNat]
    rfl

theorem length_flatMap_bigEndian (width : Nat) (chars : List Char) :
    (chars.flatMap fun c => Octets.bigEndian width c.toNat).length = chars.length * width := by
  induction chars with
  | nil => simp
  | cons c others ih =>
    rw [List.flatMap_cons, List.length_append, ih, Octets.length_bigEndian, List.length_cons,
      Nat.succ_mul, Nat.add_comm]

theorem map_flatMap_octet {chars : List Char} (narrow : ∀ c ∈ chars, c.toNat ≤ 0xFF) :
    (chars.flatMap fun c => [UInt8.ofNat c.toNat]).map (fun octet => Char.ofNat octet.toNat) =
      chars := by
  induction chars with
  | nil => rfl
  | cons c others ih =>
    obtain ⟨here, there⟩ := List.forall_mem_cons.mp narrow
    have fits : (UInt8.ofNat c.toNat).toNat = c.toNat := by
      rw [UInt8.toNat_ofNat']
      omega
    rw [List.flatMap_cons, List.map_append, ih there, List.map_singleton, fits, Char.ofNat_toNat,
      List.singleton_append]

/-! ## Strings that are written -/

/-- The text can be written in the character set, which is one of those that hold code points. -/
def Representable (string : CharacterString) : Prop :=
  match string.charset with
  | .utf8 | .ucs4 => True
  | .ucs2 => ∀ c ∈ string.text.toList, c.toNat ≤ 0xFFFF
  | .iso8859 => ∀ c ∈ string.text.toList, c.toNat ≤ 0xFF
  | .doubleByte _ | .jisX0208 => False

variable [TextCodec]

theorem encodeText_ucs2 {text : String} (narrow : ∀ c ∈ text.toList, c.toNat ≤ 0xFFFF) :
    encodeText ⟨.ucs2, text⟩ =
      .ok (text.toList.flatMap fun c => Octets.bigEndian 2 c.toNat) := by
  have each : ∀ c ∈ text.toList, encodeUcs2 c = .ok (Octets.bigEndian 2 c.toNat) :=
    fun c member => if_pos (narrow c member)
  show (text.toList.mapM encodeUcs2 >>= _) = _
  rw [mapM_eq_ok each, List.flatMap_def]
  rfl

theorem encodeText_iso8859 {text : String} (narrow : ∀ c ∈ text.toList, c.toNat ≤ 0xFF) :
    encodeText ⟨.iso8859, text⟩ = .ok (text.toList.flatMap fun c => [UInt8.ofNat c.toNat]) := by
  have each : ∀ c ∈ text.toList, encodeIso8859 c = .ok [UInt8.ofNat c.toNat] :=
    fun c member => if_pos (narrow c member)
  show (text.toList.mapM encodeIso8859 >>= _) = _
  rw [mapM_eq_ok each, List.flatMap_def]
  rfl

/-- A text that its character set can represent is written, and it is read back. -/
theorem Representable.exists_content {string : CharacterString}
    (representable : string.Representable) :
    ∃ octets, string.content = .ok octets ∧ decodeContent octets = .ok string := by
  have whole (width : Nat) (text : String) :
      (text.toList.flatMap fun c => Octets.bigEndian width c.toNat).length % width = 0 := by
    rw [length_flatMap_bigEndian, Nat.mul_mod_left]
  obtain ⟨charset, text⟩ := string
  unfold content
  cases charset with
  | utf8 =>
    refine ⟨_, rfl, ?_⟩
    dsimp only [decodeContent]
    rw [Utf8.decode_encode]
    rfl
  | ucs4 =>
    refine ⟨_, rfl, ?_⟩
    show (if _ ≠ 0 then _ else decodeUcs4 (text.toList.flatMap _) >>= _) = _
    rw [if_neg (fun broken => broken (whole 4 text)), decodeUcs4_flatMap]
    exact congrArg (fun text => Except.ok (CharacterString.mk .ucs4 text)) String.ofList_toList
  | ucs2 =>
    rw [encodeText_ucs2 representable]
    refine ⟨_, rfl, ?_⟩
    show (if _ ≠ 0 then _ else decodeUcs2 (text.toList.flatMap _) >>= _) = _
    rw [if_neg (fun broken => broken (whole 2 text)), decodeUcs2_flatMap representable]
    exact congrArg (fun text => Except.ok (CharacterString.mk .ucs2 text)) String.ofList_toList
  | iso8859 =>
    rw [encodeText_iso8859 representable]
    refine ⟨_, rfl, ?_⟩
    show Except.ok (CharacterString.mk .iso8859 (String.ofList _)) = _
    rw [map_flatMap_octet representable, String.ofList_toList]
  | doubleByte codePage => cases representable
  | jisX0208 => cases representable

end CharacterString

end BACnet
