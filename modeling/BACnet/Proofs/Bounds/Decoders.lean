import BACnet.Proofs.Bounds.Link
import BACnet.Proofs.Bounds.Message
import BACnet.Proofs.Bounds.Network
import BACnet.Text.Chart

/-!
# Decoders within bounds

No octets can drive a decoder out of bounds (`decoders_within_bounds`): on a machine, every decoder
ends with a value or with an error of its own, the one that its plain form ends with.
-/

namespace BACnet

namespace Guarded

variable {ε α : Type}

/-- The computation does not stop the program, whatever the reason, but ends with the result. -/
structure EndsWith (computation : Guarded ε α) (result : Except ε α) : Prop where
  eq : computation = of result
  safe : ∀ reason, computation ≠ stop reason

theorem EndsWith.of_eq {computation : Guarded ε α} {result : Except ε α}
    (same : computation = of result) : EndsWith computation result := by
  refine ⟨same, fun reason stops => ?_⟩
  rw [same] at stops
  cases stops

end Guarded

open Guarded (EndsWith)

section

variable [TextCodec]

/-- Every decoder ends with what its plain form ends with, and never stops the program. What a value
is told to take is at least one octet and at most all there are. -/
theorem decoders_within_bounds {data : Octets} (fits : data.length ≤ maxCount) (number : UInt8)
    (type : DataType) (maxDepth : Nat) :
    (EndsWith (Guarded.decodeValue data) (Value.decode data) ∧
      ∀ value used, Value.decode data = .ok (value, used) → 1 ≤ used ∧ used ≤ data.length) ∧
    (EndsWith (Guarded.decodeContextValue data number type)
        (Value.decodeContext data number type) ∧
      ∀ value used, Value.decodeContext data number type = .ok (value, used) →
        1 ≤ used ∧ used ≤ data.length) ∧
    EndsWith (GuardedRead.validateNesting data maxDepth) (validateNesting data maxDepth) ∧
    EndsWith (Guarded.decodeApdu data) (Apdu.decode data) ∧
    EndsWith (Guarded.decodeNpdu data) (Npdu.decode data) ∧
    EndsWith (Guarded.decodeBvlc data) (BvlcMessage.decode data) ∧
    EndsWith (Guarded.decodeMstp data) (MstpFrame.decode data) ∧
    EndsWith (GuardedRead.decode GuardedRead.whoIs data Reader.defaultMaxDepth)
      (WhoIs.decode data) ∧
    EndsWith (GuardedRead.decode GuardedRead.iAm data Reader.defaultMaxDepth) (IAm.decode data) ∧
    EndsWith (GuardedRead.decode GuardedRead.communicationControl data Reader.defaultMaxDepth)
      (CommunicationControl.decode data) :=
  ⟨⟨.of_eq (Guarded.decodeValue_eq fits), fun _ _ => Value.used_of_decode⟩,
    ⟨.of_eq (Guarded.decodeContextValue_eq fits number type),
      fun _ _ => Value.used_of_decodeContext⟩,
    .of_eq (GuardedRead.validateNesting_eq fits maxDepth),
    .of_eq (Guarded.decodeApdu_eq fits),
    .of_eq (Guarded.decodeNpdu_eq fits),
    .of_eq (Guarded.decodeBvlc_eq fits),
    .of_eq (Guarded.decodeMstp_eq fits),
    .of_eq (GuardedRead.decode_eq_run GuardedRead.mirrors_whoIs fits),
    .of_eq (GuardedRead.decode_eq_run GuardedRead.mirrors_iAm fits),
    .of_eq (GuardedRead.decode_eq_run GuardedRead.mirrors_communicationControl fits)⟩

end

open scoped Chart

/-- An octet string that announces nine octets, of which one is there. -/
theorem decoders_within_bounds_of_short_string :
    ([0x65, 0x09, 0x01] : Octets).length ≤ maxCount ∧
      EndsWith (Guarded.decodeValue [0x65, 0x09, 0x01]) (.error (.unexpectedEndOfData 11 3)) := by
  have fits : ([0x65, 0x09, 0x01] : Octets).length ≤ maxCount := by decide
  obtain ⟨⟨ends, -⟩, -⟩ := decoders_within_bounds fits 0 .unsigned 64
  exact ⟨fits, ends⟩

end BACnet
