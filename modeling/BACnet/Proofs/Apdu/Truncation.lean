import BACnet.Proofs.Apdu.RoundTrip
import BACnet.Proofs.Data.Delimiting

/-!
# Application messages that are cut short

A message whose head is not all there is refused as malformed (`Apdu.decode_take_of_lt`), and one
that lacks some of its parameters is read with those that are left (`Apdu.decode_take_of_le`). The
head of a kind without parameters is all of it. Most of its octets have fixed places, which the
reader counts (`Apdu.decodeRest_of_short`); an error class and an error code end where they say
(`Apdu.readError_take`).
-/

namespace BACnet

/-! ## Enumerated values that are cut short -/

section

variable [TextCodec]

/-- Of an enumerated value no octet can be missing. -/
theorem decode_take_encodeEnumerated (value : UInt32) {count : Nat}
    (short : count < (encodeEnumerated value).length) :
    ∃ error, Value.decode ((encodeEnumerated value).take count) = .error error ∧
      error.kind = .malformedPdu := by
  have reads := decode_encodeEnumerated value
  obtain ⟨-, -, refused⟩ := Value.selfDelimiting_decode _ _ _ reads
  rw [List.take_length] at refused
  exact refused _ (List.take_prefix _ _) (Nat.lt_of_le_of_lt (List.length_take_le _ _) short)

/-- A reader in front of an enumerated value that is cut short refuses it, and stays there. -/
theorem Read.enumerated_take (value : UInt32) {count : Nat}
    (short : count < (encodeEnumerated value).length) :
    ∃ error, error.kind = .malformedPdu ∧ ∀ position opened maxDepth,
      Read.enumerated ⟨(encodeEnumerated value).take count, position, opened, maxDepth⟩ =
        .error error ⟨(encodeEnumerated value).take count, position, opened, maxDepth⟩ := by
  obtain ⟨error, refused, kind⟩ := decode_take_encodeEnumerated value short
  refine ⟨error, kind, fun position opened maxDepth => ?_⟩
  have element : Read.value ⟨(encodeEnumerated value).take count, position, opened, maxDepth⟩ =
      .error error ⟨(encodeEnumerated value).take count, position, opened, maxDepth⟩ := by
    unfold Read.value Read.element Read.step
    simp only [refused, bind, Except.bind]
  unfold Read.enumerated
  simp only [bind, EStateM.bind, element]

end

namespace Reader

theorem nextIs_eq_true_iff {reader : Reader} {test : Tag → Bool} :
    reader.nextIs test = true ↔
      ∃ tag used, Tag.decode reader.rest = .ok (tag, used) ∧ test tag = true := by
  unfold nextIs peek isEmpty
  cases empty : reader.rest with
  | nil => simp [Tag.decode]
  | cons first others =>
    cases reads : Tag.decode (first :: others) with
    | error error => simp [Functor.map, Except.map]
    | ok found => simp [Functor.map, Except.map, Prod.ext_iff]

/-- A tag that can be read although octets are missing is the one that stands there. -/
theorem nextIs_of_take {data : Octets} {count position : Nat} {opened : List UInt8}
    {maxDepth : Nat} {test : Tag → Bool}
    (passes : nextIs ⟨data.take count, position, opened, maxDepth⟩ test = true) :
    nextIs ⟨data, position, opened, maxDepth⟩ test = true := by
  obtain ⟨tag, used, reads, passes⟩ := nextIs_eq_true_iff.mp passes
  obtain ⟨front, behind, whole, -, decides⟩ := Tag.decidedByFront reads
  refine nextIs_eq_true_iff.mpr ⟨tag, used, ?_, passes⟩
  show Tag.decode data = _
  rw [← List.take_append_drop count data]
  change data.take count = _ at whole
  rw [whole, List.append_assoc]
  exact decides _

end Reader

namespace Apdu

/-! ## Heads that are cut short -/

/-- The number of octets that a message of the kind has behind its first octet at least. -/
def fixedLength (type : ApduType) (first : UInt8) : Nat :=
  match type with
  | .confirmedRequest => if Octets.bit first 3 then 5 else 3
  | .unconfirmedRequest => 1
  | .complexAck => if Octets.bit first 3 then 4 else 2
  | .segmentAck => 3
  | .simpleAck | .error | .reject | .abort => 2

section

variable [TextCodec]

theorem decodeRest_of_short {type : ApduType} {first : UInt8} {rest : Octets}
    (short : rest.length < fixedLength type first) :
    ∃ fault, decodeRest type first rest = .error (.malformed fault) := by
  unfold fixedLength at short
  unfold decodeRest decodeConfirmedRequest decodeComplexAck
  cases type with
  | confirmedRequest | complexAck =>
    dsimp only at short ⊢
    split at short
    all_goals
      next segmented =>
        simp only [segmented, if_true, Bool.false_eq_true, if_false]
        split
        · simp only [List.length_cons] at short
          omega
        · exact ⟨_, rfl⟩
  | unconfirmedRequest | simpleAck | segmentAck | error | reject | abort =>
    dsimp only at short ⊢
    split
    · simp only [List.length_cons] at short
      omega
    · exact ⟨_, rfl⟩

/-- A message is refused if its octets of fixed places are not all there. -/
theorem decode_take_of_short {type : ApduType} {bit3 bit2 bit1 bit0 : Bool} {rest : Octets}
    {count : Nat} (short : count ≤ fixedLength type (firstOctet type bit3 bit2 bit1 bit0)) :
    ∃ error, decode ((firstOctet type bit3 bit2 bit1 bit0 :: rest).take count) = .error error ∧
      error.kind = .malformedPdu := by
  cases count with
  | zero => exact ⟨_, rfl, rfl⟩
  | succ count =>
    have fewer : (rest.take count).length < _ :=
      Nat.lt_of_le_of_lt (List.length_take_le _ _) (Nat.lt_of_succ_le short)
    obtain ⟨fault, refused⟩ := decodeRest_of_short fewer
    exact ⟨_, (decode_firstOctet ..).trans refused, rfl⟩

theorem readError_take {errorClass : ErrorClass} {errorCode : ErrorCode} {count : Nat}
    (short : count < (errorOctets errorClass errorCode).length) :
    ∃ error behind, readError (Reader.ofOctets ((errorOctets errorClass errorCode).take count)) =
        .error error behind ∧ error.kind = .malformedPdu := by
  have bare : Reader.nextIsOpening
      (Reader.ofOctets ((errorOctets errorClass errorCode).take count)) 0 = false := by
    refine Bool.eq_false_iff.mpr fun opens => ?_
    have whole := Reader.nextIs_of_take opens
    cases (Reader.nextIsOpening_encodeEnumerated ..).symm.trans whole
  rw [readError_of_bare bare]
  unfold errorOctets at short ⊢
  by_cases first : count < (encodeEnumerated errorClass.number.toUInt32).length
  · obtain ⟨error, kind, refused⟩ := Read.enumerated_take errorClass.number.toUInt32 first
    unfold Reader.ofOctets Reader.new
    rw [List.take_append_of_le_length (Nat.le_of_lt first)]
    exact ⟨_, _, Read.bind_eq_error (refused _ _ _) _, kind⟩
  · rw [List.length_append] at short
    have second : count - (encodeEnumerated errorClass.number.toUInt32).length <
        (encodeEnumerated errorCode.number.toUInt32).length := by omega
    obtain ⟨error, kind, refused⟩ := Read.enumerated_take errorCode.number.toUInt32 second
    unfold Reader.ofOctets Reader.new
    rw [List.take_append, List.take_of_length_le (Nat.le_of_not_lt first),
      (Read.takes_encodeEnumerated _).bind]
    exact ⟨_, _, Read.bind_eq_error (refused _ _ _) _, kind⟩

/-- An error message is refused if its error class and its error code are not all there. -/
theorem decode_take_error (invokeId service : UInt8) (errorClass : ErrorClass)
    (errorCode : ErrorCode) {count : Nat}
    (short : count < (error invokeId service errorClass errorCode).encode.length) :
    ∃ refusal, decode ((error invokeId service errorClass errorCode).encode.take count) =
      .error refusal ∧ refusal.kind = .malformedPdu := by
  by_cases fixed : count ≤ 2
  · exact decode_take_of_short fixed
  · obtain ⟨more, rfl⟩ := Nat.exists_eq_add_of_le' (Nat.lt_of_not_le fixed)
    have missing : more < (errorOctets errorClass errorCode).length :=
      Nat.lt_of_add_lt_add_right short
    obtain ⟨fault, behind, refused, kind⟩ := readError_take missing
    refine ⟨.data fault, (decode_firstOctet ..).trans ?_, kind⟩
    show (decodeError ((errorOctets errorClass errorCode).take more) >>= _) = _
    rw [decodeError, refused]
    rfl

end

/-! ## Heads and parameters -/

/-- The length of the head of the message: what stands in front of its parameters, or all of it if
its kind has none. -/
def headLength : Apdu → Nat
  | confirmedRequest request => if request.segment.isSome then 6 else 4
  | unconfirmedRequest _ _ => 2
  | complexAck ack => if ack.segment.isSome then 5 else 3
  | other => other.encode.length

/-- The message with the first `count` octets of its parameters. -/
def cutParameters (count : Nat) : Apdu → Apdu
  | confirmedRequest request =>
    confirmedRequest { request with parameters := request.parameters.take count }
  | unconfirmedRequest service parameters => unconfirmedRequest service (parameters.take count)
  | complexAck ack => complexAck { ack with parameters := ack.parameters.take count }
  | other => other

/-- A message that is cut behind its head is the one with fewer parameters. -/
theorem encode_take_of_le {apdu : Apdu} {count : Nat} (enough : apdu.headLength ≤ count) :
    apdu.encode.take count = (apdu.cutParameters (count - apdu.headLength)).encode := by
  cases apdu with
  | confirmedRequest request =>
    obtain ⟨accepted, maxSegments, maxApdu, invokeId, segment, service, parameters⟩ := request
    obtain ⟨more, rfl⟩ := Nat.exists_eq_add_of_le' enough
    rw [Nat.add_sub_cancel]
    cases segment <;> rfl
  | complexAck ack =>
    obtain ⟨invokeId, segment, service, parameters⟩ := ack
    obtain ⟨more, rfl⟩ := Nat.exists_eq_add_of_le' enough
    rw [Nat.add_sub_cancel]
    cases segment <;> rfl
  | unconfirmedRequest service parameters =>
    obtain ⟨more, rfl⟩ := Nat.exists_eq_add_of_le' enough
    rw [Nat.add_sub_cancel]
    rfl
  | simpleAck | segmentAck | error | reject | abort => exact List.take_of_length_le enough

variable [TextCodec]

/-- What is left of a message behind its head is read with the parameters that are left. -/
theorem decode_take_of_le {apdu : Apdu} {count : Nat} (enough : apdu.headLength ≤ count) :
    decode (apdu.encode.take count) = .ok (apdu.cutParameters (count - apdu.headLength)) := by
  rw [encode_take_of_le enough, decode_encode]

/-- Without its whole head a message is refused as malformed. -/
theorem decode_take_of_lt {apdu : Apdu} {count : Nat} (short : count < apdu.headLength) :
    ∃ error, decode (apdu.encode.take count) = .error error ∧ error.kind = .malformedPdu := by
  cases apdu with
  | confirmedRequest request =>
    obtain ⟨accepted, maxSegments, maxApdu, invokeId, segment, service, parameters⟩ := request
    obtain ⟨-, segmented, -⟩ := firstOctet_bits .confirmedRequest segment.isSome
      (moreFollows segment) accepted false
    refine decode_take_of_short (Nat.le_of_lt_succ (Nat.lt_of_lt_of_eq short ?_))
    unfold headLength fixedLength
    dsimp only
    rw [segmented]
    split <;> rfl
  | complexAck ack =>
    obtain ⟨invokeId, segment, service, parameters⟩ := ack
    obtain ⟨-, segmented, -⟩ := firstOctet_bits .complexAck segment.isSome
      (moreFollows segment) false false
    refine decode_take_of_short (Nat.le_of_lt_succ (Nat.lt_of_lt_of_eq short ?_))
    unfold headLength fixedLength
    dsimp only
    rw [segmented]
    split <;> rfl
  | error invokeId service errorClass errorCode =>
    exact decode_take_error invokeId service errorClass errorCode short
  | unconfirmedRequest | simpleAck | segmentAck | reject | abort =>
    exact decode_take_of_short (Nat.le_of_lt_succ short)

end Apdu

end BACnet
