import BACnet.Apdu.Basic
import BACnet.Proofs.Data.Reading
import BACnet.Text.Chart

/-!
# Application messages on the wire

Every application message is read back as it was written (`Apdu.decode_encode`): the first octet
tells the kind and the flags, the layout of each kind is known from these, and the error class and
code of an error message are read behind the tags of two enumerated values.
-/

namespace BACnet

/-! ## Enumerated values under a reader -/

/-- An enumerated value does not open a constructed value. -/
theorem Reader.nextIsOpening_encodeEnumerated (value : UInt32) (rest : Octets) (position : Nat)
    (opened : List UInt8) (maxDepth : Nat) (number : UInt8) :
    nextIsOpening ⟨encodeEnumerated value ++ rest, position, opened, maxDepth⟩ number = false := by
  have short := length_enumeratedContent_le value
  have meaningful (length : Nat) : (Tag.application .enumerated length).Meaningful :=
    fun _ => ⟨length, rfl, nofun⟩
  unfold nextIsOpening nextIs peek
  split
  · next tag found =>
    split at found
    · cases found
    · rw [encodeEnumerated, encodeApplication, List.append_assoc,
        Tag.decode_append (meaningful _) (encode_application _ (by omega))] at found
      cases found
      rfl
  · rfl

namespace Apdu

/-! ## The parts of a message -/

/-- The first octet tells the kind and the four flags. -/
theorem firstOctet_bits (type : ApduType) (bit3 bit2 bit1 bit0 : Bool) :
    Octets.field (firstOctet type bit3 bit2 bit1 bit0) 4 4 = type.code ∧
      Octets.bit (firstOctet type bit3 bit2 bit1 bit0) 3 = bit3 ∧
      Octets.bit (firstOctet type bit3 bit2 bit1 bit0) 2 = bit2 ∧
      Octets.bit (firstOctet type bit3 bit2 bit1 bit0) 1 = bit1 ∧
      Octets.bit (firstOctet type bit3 bit2 bit1 bit0) 0 = bit0 := by
  cases type <;> revert bit3 bit2 bit1 bit0 <;> decide

theorem decodeLimits_code (maxSegments : MaxSegments) (maxApdu : MaxApduSize) :
    decodeLimits (UInt8.ofNat (maxSegments.code * 16 + maxApdu.code)) =
      .ok (maxSegments, maxApdu) := by
  cases maxSegments <;> cases maxApdu <;> rfl

theorem toUInt16_toUInt32 (number : UInt16) :
    number.toUInt32.toNat < 0x10000 ∧ number.toUInt32.toUInt16 = number := by
  refine ⟨?_, UInt16.toNat_inj.mp ?_⟩
  · rw [UInt16.toNat_toUInt32]
    exact number.toNat_lt
  · rw [UInt32.toNat_toUInt16, UInt16.toNat_toUInt32]
    exact Nat.mod_eq_of_lt number.toNat_lt

theorem narrowError_toUInt32 (errorClass : ErrorClass) (errorCode : ErrorCode) :
    narrowError errorClass.number.toUInt32 errorCode.number.toUInt32 =
      .ok (errorClass, errorCode) := by
  obtain ⟨narrowClass, sameClass⟩ := toUInt16_toUInt32 errorClass.number
  obtain ⟨narrowCode, sameCode⟩ := toUInt16_toUInt32 errorCode.number
  rw [narrowError, if_neg (Nat.not_le_of_lt narrowClass), if_neg (Nat.not_le_of_lt narrowCode),
    sameClass, sameCode]

section

variable [TextCodec]

/-- Behind the first octet a message is read by the rules of its kind. -/
theorem decode_firstOctet (type : ApduType) (bit3 bit2 bit1 bit0 : Bool) (rest : Octets) :
    decode (firstOctet type bit3 bit2 bit1 bit0 :: rest) =
      decodeRest type (firstOctet type bit3 bit2 bit1 bit0) rest := by
  have known : ApduType.ofCode type.code = .ok type := by cases type <;> rfl
  rw [decode, (firstOctet_bits type bit3 bit2 bit1 bit0).1, known]
  rfl

/-- Where no constructed value is opened, an error is two enumerated values. -/
theorem readError_of_bare {reader : Reader} (bare : reader.nextIsOpening 0 = false) :
    readError reader = (do
      let errorClass ← Read.enumerated
      let errorCode ← Read.enumerated
      pure (errorClass, errorCode, false) : Read (UInt32 × UInt32 × Bool)) reader := by
  have here (reader : Reader) : (get : Read Reader) reader = .ok reader reader := rfl
  unfold readError
  simp only [bind, EStateM.bind, here, bare, Bool.false_eq_true, if_false]

theorem readError_errorOctets (errorClass : ErrorClass) (errorCode : ErrorCode) :
    ∃ behind, readError (Reader.ofOctets (errorOctets errorClass errorCode)) =
      .ok (errorClass.number.toUInt32, errorCode.number.toUInt32, false) behind := by
  have bare := Reader.nextIsOpening_encodeEnumerated errorClass.number.toUInt32
    (encodeEnumerated errorCode.number.toUInt32) 0 [] Reader.defaultMaxDepth 0
  have code := Read.takes_encodeEnumerated errorCode.number.toUInt32 []
  rw [List.append_nil] at code
  unfold errorOctets Reader.ofOctets Reader.new
  rw [readError_of_bare bare, (Read.takes_encodeEnumerated _).bind, Read.bind_eq (code _ _ _)]
  exact ⟨_, rfl⟩

/-- The error class and the error code of an error message are read back. -/
theorem decodeError_errorOctets (errorClass : ErrorClass) (errorCode : ErrorCode) :
    decodeError (errorOctets errorClass errorCode) = .ok (errorClass, errorCode) := by
  obtain ⟨behind, reads⟩ := readError_errorOctets errorClass errorCode
  unfold decodeError
  rw [reads]
  dsimp only
  rw [narrowError_toUInt32]
  rfl

/-! ## The kinds -/

theorem decode_confirmedRequest (request : ConfirmedRequest) :
    decode (encode (confirmedRequest request)) = .ok (confirmedRequest request) := by
  obtain ⟨accepted, maxSegments, maxApdu, invokeId, segment, service, parameters⟩ := request
  obtain ⟨-, segmented, more, flag, -⟩ := firstOctet_bits .confirmedRequest segment.isSome
    (moreFollows segment) accepted false
  refine (decode_firstOctet ..).trans ?_
  unfold decodeRest decodeConfirmedRequest
  dsimp only
  rw [segmented, flag]
  cases segment with
  | none =>
    show (decodeLimits _ >>= _) = _
    rw [decodeLimits_code]
    rfl
  | some segment =>
    show (decodeLimits _ >>= _) = _
    rw [decodeLimits_code, segmentHeader, more]
    rfl

theorem decode_complexAck (ack : ComplexAck) :
    decode (encode (complexAck ack)) = .ok (complexAck ack) := by
  obtain ⟨invokeId, segment, service, parameters⟩ := ack
  obtain ⟨-, segmented, more, -, -⟩ := firstOctet_bits .complexAck segment.isSome
    (moreFollows segment) false false
  refine (decode_firstOctet ..).trans ?_
  unfold decodeRest decodeComplexAck
  dsimp only
  rw [segmented]
  cases segment with
  | none => rfl
  | some segment =>
    show Except.ok (complexAck ⟨invokeId, some (segmentHeader _ _ _), service, parameters⟩) = _
    rw [segmentHeader, more]
    rfl

/-- Every message is read back as it was written. -/
theorem decode_encode (apdu : Apdu) : decode apdu.encode = .ok apdu := by
  cases apdu with
  | confirmedRequest request => exact decode_confirmedRequest request
  | unconfirmedRequest service parameters => exact decode_firstOctet ..
  | simpleAck invokeId service => exact decode_firstOctet ..
  | complexAck ack => exact decode_complexAck ack
  | segmentAck ack =>
    obtain ⟨negative, server, invokeId, sequenceNumber, windowSize⟩ := ack
    obtain ⟨-, -, -, flag, side⟩ := firstOctet_bits .segmentAck false false negative server
    refine (decode_firstOctet ..).trans ?_
    unfold decodeRest
    dsimp only
    rw [flag, side]
  | error invokeId service errorClass errorCode =>
    refine (decode_firstOctet ..).trans ?_
    unfold decodeRest
    dsimp only
    rw [decodeError_errorOctets]
    rfl
  | reject invokeId reason => exact decode_firstOctet ..
  | abort server invokeId reason =>
    obtain ⟨-, -, -, -, side⟩ := firstOctet_bits .abort false false false server
    refine (decode_firstOctet ..).trans ?_
    unfold decodeRest
    dsimp only
    rw [side]

end

/-! ## Kinds that are not assigned -/

/-- What is read may be malformed, but not for its kind. -/
def OfKnownKind {α : Type} (result : Except ApduError α) : Prop :=
  ∀ code, result ≠ .error (.unsupportedApduType code)

theorem OfKnownKind.bind {α β : Type} {first : Except ApduError α}
    {second : α → Except ApduError β} (known : OfKnownKind first)
    (others : ∀ between, OfKnownKind (second between)) : OfKnownKind (first >>= second) := by
  intro code fails
  obtain refused | ⟨between, -, refused⟩ := eq_error_or_of_bind_eq_error fails
  · exact known code refused
  · exact others between code refused

theorem ofKnownKind_decodeLimits (octet : UInt8) : OfKnownKind (decodeLimits octet) := by
  refine .bind ?_ fun _ => nofun
  unfold MaxApduSize.ofCode
  split <;> exact nofun

theorem ofKnownKind_decodeConfirmedRequest (first : UInt8) (rest : Octets) :
    OfKnownKind (decodeConfirmedRequest first rest) := by
  unfold decodeConfirmedRequest
  dsimp only
  split
  · split
    · exact .bind (ofKnownKind_decodeLimits _) fun _ => nofun
    · exact nofun
  · split
    · exact .bind (ofKnownKind_decodeLimits _) fun _ => nofun
    · exact nofun

theorem ofKnownKind_decodeComplexAck (first : UInt8) (rest : Octets) :
    OfKnownKind (decodeComplexAck first rest) := by
  unfold decodeComplexAck
  dsimp only
  split <;> split <;> exact nofun

theorem ofCode_eq_error_iff (kind : Nat) (error : ApduError) :
    ApduType.ofCode kind = .error error ↔ 8 ≤ kind ∧ error = .unsupportedApduType kind := by
  have assigned : ∀ low < 8, ApduType.ofCode? low ≠ none := by decide
  have unassigned : ApduType.ofCode? kind = none ↔ 8 ≤ kind := by
    refine ⟨fun none => Nat.le_of_not_lt fun low => assigned kind low none, fun high => ?_⟩
    obtain ⟨above, rfl⟩ := Nat.exists_eq_add_of_le' high
    rfl
  unfold ApduType.ofCode
  cases known : ApduType.ofCode? kind with
  | none => simp [unassigned.mp known, eq_comm]
  | some type => simp [← unassigned, known]

section

variable [TextCodec]

theorem ofKnownKind_decodeError (data : Octets) : OfKnownKind (decodeError data) := by
  unfold decodeError
  split
  · exact nofun
  · refine .bind ?_ fun narrowed => ?_
    · unfold narrowError
      split
      · exact nofun
      · split <;> exact nofun
    · split
      · split <;> exact nofun
      · exact nofun

/-- Behind its first octet a message fails for other reasons than its kind. -/
theorem ofKnownKind_decodeRest (type : ApduType) (first : UInt8) (rest : Octets) :
    OfKnownKind (decodeRest type first rest) := by
  cases type with
  | confirmedRequest => exact ofKnownKind_decodeConfirmedRequest first rest
  | complexAck => exact ofKnownKind_decodeComplexAck first rest
  | error =>
    unfold decodeRest
    dsimp only
    split
    · exact .bind (ofKnownKind_decodeError _) fun _ => nofun
    · exact nofun
  | unconfirmedRequest | simpleAck | segmentAck | reject | abort =>
    unfold decodeRest
    dsimp only
    split <;> exact nofun

/-- A message is refused for its kind if and only if it has one and that is not assigned. -/
theorem decode_unsupported_iff (data : Octets) (code : Nat) :
    decode data = .error (.unsupportedApduType code) ↔
      ∃ first rest, data = first :: rest ∧ 8 ≤ first.toNat / 16 ∧ code = first.toNat / 16 := by
  cases data with
  | nil => simp [decode]
  | cons first rest =>
    have nibble : Octets.field first 4 4 = first.toNat / 16 := by
      have octet := first.toNat_lt
      simp only [Octets.field, Nat.shiftRight_eq_div_pow, Nat.shiftLeft_eq]
      omega
    unfold decode
    dsimp only
    rw [nibble]
    constructor
    · intro fails
      obtain kind | ⟨type, -, fails⟩ := eq_error_or_of_bind_eq_error fails
      · obtain ⟨high, same⟩ := (ofCode_eq_error_iff _ _).mp kind
        cases same
        exact ⟨first, rest, rfl, high, rfl⟩
      · exact absurd fails (ofKnownKind_decodeRest type first rest code)
    · rintro ⟨_, _, ⟨⟩, high, rfl⟩
      rw [(ofCode_eq_error_iff _ _).mpr ⟨high, rfl⟩]
      rfl

/-! ## Reading and writing -/

/-- Every message is read back as it was written, whatever is read can be written and read again,
and a message is refused for its kind if and only if its first octet holds one that is not
assigned. -/
theorem roundTrip_and_unsupported :
    (∀ apdu : Apdu, decode apdu.encode = .ok apdu) ∧
    (∀ data apdu, decode data = .ok apdu → decode apdu.encode = .ok apdu) ∧
    ∀ data code, decode data = .error (.unsupportedApduType code) ↔
      ∃ first rest, data = first :: rest ∧ 8 ≤ first.toNat / 16 ∧ code = first.toNat / 16 :=
  ⟨decode_encode, fun _ apdu _ => decode_encode apdu, decode_unsupported_iff⟩

end

open scoped Chart

/-- An error class and an error code that come as the head of a constructed value, with another
value behind them, are read back from the shorter form in which they are written. -/
theorem roundTrip_and_unsupported_of_wrapped_error :
    decode [0x50, 1, 15, 0x0E, 0x91, 2, 0x91, 31, 0x21, 7, 0x0F] = .ok (error 1 15 ⟨2⟩ ⟨31⟩) ∧
      decode (error 1 15 ⟨2⟩ ⟨31⟩).encode = .ok (error 1 15 ⟨2⟩ ⟨31⟩) :=
  have reads : decode [0x50, 1, 15, 0x0E, 0x91, 2, 0x91, 31, 0x21, 7, 0x0F] =
      .ok (error 1 15 ⟨2⟩ ⟨31⟩) := rfl
  ⟨reads, roundTrip_and_unsupported.2.1 _ _ reads⟩

end Apdu

end BACnet
