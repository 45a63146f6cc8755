import BACnet.Link.Bvlc
import BACnet.Proofs.Apdu.RoundTrip
import BACnet.Proofs.Faults.Reader
import BACnet.Proofs.Link.Mstp
import BACnet.Proofs.Network.Truncation

/-!
# Who is to blame for what cannot be read

The kind of an error tells whom to blame, and for octets from the wire that is never the caller of a
decoder: the octets are malformed, or they belong to a kind of message that is not assigned. One
decoder breaks this rule (`decoders_blame_octets`). A frame of the serial link whose head is sound
but announces more data than a frame may carry is refused with the error that is meant for a sender
of such a frame, and its kind is that of a wrong argument.
-/

namespace BACnet

open Read (BlamesOctets)

/-! ## Application messages -/

namespace Apdu

/-- What is read of a message of a known kind can only be malformed. -/
def Malformed {α : Type} (result : Except ApduError α) : Prop :=
  FailsOnly (fun error => error.kind = .malformedPdu) result

/-- The first octet holds a kind that is not assigned. -/
def HasUnknownKind (data : Octets) : Prop :=
  ∃ first rest, data = first :: rest ∧ 8 ≤ first.toNat / 16

theorem blamesOctets_skipUntilClosing (number : UInt8) (fuel : Nat) :
    BlamesOctets (skipUntilClosing number fuel) := by
  induction fuel with
  | zero => exact .pure ()
  | succ fuel ih => exact .get fun _ => .ite (.pure ()) (Read.blamesOctets_skip.bind fun _ => ih)

theorem blamesOctets_closeError : BlamesOctets closeError :=
  .get fun _ => (blamesOctets_skipUntilClosing 0 _).bind fun _ => Read.blamesOctets_closeTag 0

/-- An action that fails blames the octets, and so does a message of which it reads a part. -/
theorem malformed_data {α : Type} {action : Read α} (blames : BlamesOctets action)
    {reader behind : Reader} {fault : DataError} (fails : action reader = .error fault behind) :
    (ApduError.data fault).kind = .malformedPdu := by
  refine blames reader fault ?_
  unfold Read.outcome
  rw [fails]

theorem malformed_decodeLimits (octet : UInt8) : Malformed (decodeLimits octet) := by
  refine .bind ?_ fun _ _ => .ok _
  unfold MaxApduSize.ofCode
  split
  · exact .ok _
  · exact .error rfl

theorem malformed_decodeConfirmedRequest (first : UInt8) (rest : Octets) :
    Malformed (decodeConfirmedRequest first rest) := by
  refine .ite ?_ ?_
  · split
    · exact .bind (malformed_decodeLimits _) fun _ _ => .ok _
    · exact .error rfl
  · split
    · exact .bind (malformed_decodeLimits _) fun _ _ => .ok _
    · exact .error rfl

theorem malformed_decodeComplexAck (first : UInt8) (rest : Octets) :
    Malformed (decodeComplexAck first rest) := by
  refine .ite ?_ ?_
  · split
    · exact .ok _
    · exact .error rfl
  · split
    · exact .ok _
    · exact .error rfl

variable [TextCodec]

theorem blamesOctets_readError : BlamesOctets readError := by
  have numbers (wrapped : Bool) : BlamesOctets (do
      let errorClass ← Read.enumerated
      let errorCode ← Read.enumerated
      pure (errorClass, errorCode, wrapped)) :=
    Read.blamesOctets_enumerated.bind fun _ => Read.blamesOctets_enumerated.bind fun _ => .pure _
  refine .get fun reader => ?_
  exact .ite ((Read.blamesOctets_openTag 0).bind fun _ => numbers _) (numbers _)

theorem malformed_decodeError (data : Octets) : Malformed (decodeError data) := by
  unfold decodeError
  split
  · next fault _ fails => exact .error (malformed_data blamesOctets_readError fails)
  · refine .bind (.ite (.error rfl) (.ite (.error rfl) (.ok _))) fun narrowed _ => ?_
    split
    · split
      · next fault _ fails => exact .error (malformed_data blamesOctets_closeError fails)
      · exact .ok _
    · exact .ok _

theorem malformed_decodeRest (type : ApduType) (first : UInt8) (rest : Octets) :
    Malformed (decodeRest type first rest) := by
  cases type with
  | confirmedRequest => exact malformed_decodeConfirmedRequest first rest
  | complexAck => exact malformed_decodeComplexAck first rest
  | error =>
    unfold decodeRest
    dsimp only
    split
    · exact .bind (malformed_decodeError _) fun _ _ => .ok _
    · exact .error rfl
  | unconfirmedRequest | simpleAck | segmentAck | reject | abort =>
    unfold decodeRest
    dsimp only
    split
    · exact .ok _
    · exact .error rfl

/-- A message that cannot be read is of a kind that is not assigned, or else malformed. -/
theorem kind_of_decode (data : Octets) :
    FailsOnly (fun error => error.kind = .malformedPdu ∧ ¬ HasUnknownKind data ∨
      error.kind = .unsupportedPduType ∧ HasUnknownKind data) (decode data) := by
  intro error fails
  cases data with
  | nil =>
    cases fails
    exact .inl ⟨rfl, nofun⟩
  | cons first rest =>
    obtain refused | ⟨type, -, refused⟩ := eq_error_or_of_bind_eq_error fails
    · obtain ⟨-, rfl⟩ := (ofCode_eq_error_iff _ _).mp refused
      obtain ⟨_, _, same, high, -⟩ := (decode_unsupported_iff _ _).mp fails
      exact .inr ⟨rfl, _, _, same, high⟩
    · have malformed := malformed_decodeRest type first rest error refused
      refine .inl ⟨malformed, ?_⟩
      rintro ⟨_, _, same, high⟩
      have unknown := (decode_unsupported_iff _ _).mpr ⟨_, _, same, high, rfl⟩
      rw [fails] at unknown
      cases unknown
      cases malformed

end Apdu

/-! ## Frames -/

/-- A frame that cannot be read is malformed. -/
def MalformedFrame {α : Type} (result : Except LinkError α) : Prop :=
  FailsOnly (fun error => error.kind = .malformedPdu) result

theorem BvlcHeader.malformed_decode (data : Octets) : MalformedFrame (BvlcHeader.decode data) := by
  have function (code : UInt8) : MalformedFrame (BvlcFunction.ofCode code) := by
    unfold BvlcFunction.ofCode
    split <;> first | exact .ok _ | exact .error rfl
  unfold BvlcHeader.decode
  split
  · exact .error rfl
  · refine .ite ?_ (.error rfl)
    split
    · exact .error rfl
    · refine .bind (function _) fun _ _ => ?_
      split
      · exact .ok _
      · exact .error rfl

theorem BvlcMessage.malformed_decodeBody (function : BvlcFunction) (data : Octets) :
    MalformedFrame (BvlcMessage.decodeBody function data) := by
  have table {α : Type} (part : BvlcPart) (lines : Option α) :
      MalformedFrame (BvlcMessage.orInvalid part lines) := by
    cases lines with
    | none => exact .error rfl
    | some lines => exact .ok _
  cases function with
  | writeBroadcastDistributionTable | readBroadcastDistributionTableAck
  | readForeignDeviceTableAck => exact .map (table _ _) _
  | result | forwardedNpdu | registerForeignDevice | deleteForeignDeviceTableEntry =>
    unfold BvlcMessage.decodeBody
    dsimp only
    split
    · exact .ok _
    · exact .error rfl
  | readBroadcastDistributionTable | readForeignDeviceTable | distributeBroadcastToNetwork
  | originalUnicastNpdu | originalBroadcastNpdu | secureBvll => exact .ok _

theorem BvlcMessage.malformed_decode (data : Octets) : MalformedFrame (BvlcMessage.decode data) :=
  .bind (BvlcHeader.malformed_decode data) fun _ _ =>
    .ite (BvlcMessage.malformed_decodeBody _ _) (.error rfl)

namespace MstpFrame

/-- The octets begin with a sound head of a frame, which announces more data than a frame carries. -/
def AnnouncesTooMuch (data : Octets) : Prop :=
  ∃ (type : MstpFrameType) (destination source high low : UInt8) (rest : Octets),
    data = [0x55, 0xFF, type.code, destination, source, high, low,
      headerCrc [type.code, destination, source, high, low]] ++ rest ∧
    maxDataLength < (Octets.word16 high low).toNat

theorem decode_of_announcesTooMuch {data : Octets} (announces : AnnouncesTooMuch data) :
    ∃ length, decode data = .error (.frameTooLarge length) := by
  obtain ⟨type, destination, source, high, low, rest, rfl, long⟩ := announces
  refine ⟨(Octets.word16 high low).toNat, (decode_preamble _).trans ?_⟩
  exact (decodeFrame_of_sound type destination source high low rest).trans (if_pos long)

theorem malformed_decodeData (length : Nat) (rest : Octets) :
    MalformedFrame (decodeData length rest) := by
  refine .ite (.ok _) ?_
  split
  · exact .ite (.ok _) (.error rfl)
  · exact .error rfl

/-- What is wrong with a frame is malformed, unless the head announces more than a frame carries. -/
theorem malformed_or_announcesTooMuch (data : Octets) :
    FailsOnly (fun error => error.kind = .malformedPdu ∨ AnnouncesTooMuch data) (decode data) := by
  intro error fails
  obtain ⟨behind, rfl⟩ | refused := begins_or_decode_eq_error data
  · rw [decode_preamble] at fails
    obtain ⟨type, destination, source, high, low, check, rest, rfl⟩ | refused :=
      head_or_decodeFrame_eq_error behind
    · obtain ⟨_, refused, malformed⟩ | ⟨rfl, frameType, rfl⟩ :=
        decodeFrame_malformed_or_sound type destination source high low check rest
      · cases refused.symm.trans fails
        exact .inl malformed
      · rw [decodeFrame_of_sound] at fails
        split at fails
        · next long => exact .inr ⟨frameType, _, _, _, _, rest, rfl, long⟩
        · refine .inl (FailsOnly.bind (malformed_decodeData _ _) (fun _ _ => ?_) error fails)
          exact .ite (.ok _) (.error rfl)
    · cases refused.symm.trans fails
      exact .inl rfl
  · cases refused.symm.trans fails
    exact .inl rfl

/-- A frame that cannot be read is malformed, or it announces more data than a frame carries; then
the error is that of a wrong argument. -/
theorem kind_of_decode (data : Octets) :
    FailsOnly (fun error => error.kind = .malformedPdu ∧ ¬ AnnouncesTooMuch data ∨
      error.kind = .invalidArgument ∧ AnnouncesTooMuch data) (decode data) := by
  intro error fails
  by_cases announces : AnnouncesTooMuch data
  · obtain ⟨length, tooLarge⟩ := decode_of_announcesTooMuch announces
    rw [fails] at tooLarge
    cases tooLarge
    exact .inr ⟨rfl, announces⟩
  · obtain malformed | tooMuch := malformed_or_announcesTooMuch data error fails
    · exact .inl ⟨malformed, announces⟩
    · exact absurd tooMuch announces

end MstpFrame

/-! ## All decoders -/

section

variable [TextCodec]

/-- Whatever octets a decoder is given, it blames them for what it refuses, with two exceptions: a
message of a kind that is not assigned is unsupported, and a frame of the serial link that announces
more data than a frame carries is the caller's fault. -/
theorem decoders_blame_octets (data : Octets) (number : UInt8) (type : DataType)
    (maxDepth : Nat) :
    Malformed (Value.decode data) ∧
    Malformed (Value.decodeContext data number type) ∧
    Malformed (validateNesting data maxDepth) ∧
    FailsOnly (fun error => error.kind = .malformedPdu ∧ ¬ Apdu.HasUnknownKind data ∨
      error.kind = .unsupportedPduType ∧ Apdu.HasUnknownKind data) (Apdu.decode data) ∧
    Npdu.Malformed (Npdu.decode data) ∧
    MalformedFrame (BvlcMessage.decode data) ∧
    FailsOnly (fun error => error.kind = .malformedPdu ∧ ¬ MstpFrame.AnnouncesTooMuch data ∨
      error.kind = .invalidArgument ∧ MstpFrame.AnnouncesTooMuch data) (MstpFrame.decode data) ∧
    Malformed (WhoIs.decode data) ∧
    Malformed (IAm.decode data) ∧
    Malformed (CommunicationControl.decode data) :=
  ⟨Value.malformed_decode data, Value.malformed_decodeContext data number type,
    malformed_validateNesting data maxDepth, Apdu.kind_of_decode data, Npdu.malformed_decode data,
    BvlcMessage.malformed_decode data, MstpFrame.kind_of_decode data, WhoIs.malformed_decode data,
    IAm.malformed_decode data, CommunicationControl.malformed_decode data⟩

end

/-- The head of a data frame that announces 502 octets: the caller, who has only passed on what came
from the wire, is told that an argument is wrong. -/
theorem head_of_too_long_frame_blames_caller :
    MstpFrame.decode [0x55, 0xFF, 5, 1, 2, 0x01, 0xF6, 0x21] = .error (.frameTooLarge 502) ∧
      (LinkError.frameTooLarge 502).kind = .invalidArgument := by
  have sound : headerCrc [5, 1, 2, 0x01, 0xF6] = 0x21 := by decide +kernel
  have announced : (Octets.word16 0x01 0xF6).toNat = 502 := by decide
  have long : MstpFrame.maxDataLength < 502 := by decide
  have refused :=
    MstpFrame.decodeFrame_of_sound .bacnetDataExpectingReply 1 2 0x01 0xF6 []
  rw [announced, if_pos long] at refused
  refine ⟨?_, rfl⟩
  rw [MstpFrame.decode_preamble, ← sound]
  exact refused

end BACnet
