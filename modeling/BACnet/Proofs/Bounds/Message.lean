import BACnet.Apdu.Basic
import BACnet.Proofs.Bounds.Reader
import BACnet.Service.CommunicationControl
import BACnet.Service.IAm
import BACnet.Service.WhoIs

/-!
# Bounds of the application messages

The decoders of application messages and of the parameters of services on a machine.
-/

namespace BACnet

namespace GuardedRead

/-! ## Services -/

/-- Reads an instance number of a device. -/
def deviceInstance (number : UInt8) : GuardedRead UInt32 := do
  let value ← contextUnsigned number
  if value.toNat ≤ ObjectIdentifier.maxNumber then pure value.toUInt32
  else throw (.invalidFormat (.parameter (.deviceInstance value)))

/-- Reads the parameters of a Who-Is. -/
def whoIs : GuardedRead WhoIs := do
  if (← get).isEmpty then pure .all
  else
    let low ← deviceInstance 0
    if (← get).isEmpty then throw (.invalidFormat (.parameter .missingHighLimit))
    let high ← deviceInstance 1
    finish
    pure (.range low high)

/-- Reads the minutes of a DeviceCommunicationControl, if they come next. -/
def minutes : GuardedRead (Option UInt16) := do
  match ← ifNextIs (·.isContext 0) (some <$> contextUnsigned 0) (pure none) with
  | none => pure none
  | some value =>
    if value.toNat < 0x10000 then pure (some value.toUInt16)
    else throw (.invalidFormat (.parameter (.duration value)))

theorem mirrors_deviceInstance (number : UInt8) :
    Mirrors (deviceInstance number) (WhoIs.readInstance number) :=
  (mirrors_contextUnsigned number).bind fun _ => .ite _ (fun _ => .pure _) fun _ => .throw _

theorem mirrors_whoIs : Mirrors whoIs WhoIs.read := by
  refine .get fun reader within => ?_
  rw [IndexedReader.isEmpty_view]
  refine .ite _ (fun _ => .pure _) fun _ => (mirrors_deviceInstance 0).bind fun low => ?_
  have rest : Mirrors (do let high ← deviceInstance 1; finish; pure (WhoIs.range low high))
      (do let high ← WhoIs.readInstance 1; Read.finish; pure (WhoIs.range low high)) :=
    (mirrors_deviceInstance 1).bind fun high => mirrors_finish.bind fun _ => .pure _
  refine .get fun reader within => ?_
  rw [IndexedReader.isEmpty_view]
  exact .ite _ (fun _ => (Mirrors.throw _).bind fun _ => rest) fun _ => rest

theorem mirrors_minutes : Mirrors minutes CommunicationControl.readMinutes :=
  (mirrors_ifNextIs _ ((mirrors_contextUnsigned 0).map some) (.pure none)).bind fun found => by
    cases found with
    | none => exact .pure none
    | some value => exact .ite _ (fun _ => .pure _) fun _ => .throw _

section

variable [TextCodec]

/-- Reads the identifier of a Device object. -/
def device : GuardedRead ObjectIdentifier := do
  let device ← objectIdentifier
  if device.objectType = ObjectIdentifier.deviceType then pure device
  else throw (.invalidFormat (.parameter (.notADevice device.objectType)))

/-- Reads an unsigned integer below the bound. -/
def narrow (bound : Nat) (fault : ParameterFault) : GuardedRead UInt64 := do
  let value ← unsigned
  if value.toNat < bound then pure value else throw (.invalidFormat (.parameter fault))

/-- Reads the parameters of an I-Am. -/
def iAm : GuardedRead IAm := do
  let device ← device
  let maxApduLength ← narrow 0x100000000 .maxApduLength
  let segmentation ← lift (Segmentation.ofCode (← enumerated))
  let vendor ← narrow 0x10000 .vendorIdentifier
  finish
  pure ⟨device, maxApduLength.toUInt32, segmentation, vendor.toUInt16⟩

/-- Reads the parameters of a DeviceCommunicationControl. -/
def communicationControl : GuardedRead CommunicationControl := do
  let minutes ← minutes
  let state ← lift (Communication.ofCode (← contextEnumerated 1))
  let password ← ifNextIs (·.isContext 2) (some <$> contextCharacterString 2) (pure none)
  finish
  pure ⟨minutes, state, password⟩

theorem mirrors_device : Mirrors device IAm.readDevice :=
  mirrors_objectIdentifier.bind fun _ => .ite _ (fun _ => .pure _) fun _ => .throw _

theorem mirrors_narrow (bound : Nat) (fault : ParameterFault) :
    Mirrors (narrow bound fault) (IAm.readNarrow bound fault) :=
  mirrors_unsigned.bind fun _ => .ite _ (fun _ => .pure _) fun _ => .throw _

theorem mirrors_iAm : Mirrors iAm IAm.read :=
  mirrors_device.bind fun _ => (mirrors_narrow _ _).bind fun _ => mirrors_enumerated.bind fun _ =>
    (Mirrors.lift _).bind fun _ => (mirrors_narrow _ _).bind fun _ => mirrors_finish.bind fun _ =>
      .pure _

theorem mirrors_communicationControl :
    Mirrors communicationControl CommunicationControl.read :=
  mirrors_minutes.bind fun _ => (mirrors_contextEnumerated 1).bind fun _ =>
    (Mirrors.lift _).bind fun _ =>
      (mirrors_ifNextIs _ ((mirrors_contextCharacterString 2).map some) (.pure none)).bind fun _ =>
        mirrors_finish.bind fun _ => .pure _

end

/-! ## The parameters of an error -/

/-- Skips elements until the tag that closes the constructed value `number`. -/
def skipUntilClosing (number : UInt8) : Nat → GuardedRead Unit
  | 0 => pure ()
  | fuel + 1 => ifNextIs (·.isClosing number) (pure ()) (do skip; skipUntilClosing number fuel)

/-- Reads the rest of a constructed value with the number 0. -/
def closeError : GuardedRead Unit := do
  skipUntilClosing 0 ((← get).remaining.length + 1)
  closeTag 0

theorem mirrors_skipUntilClosing (number : UInt8) (fuel : Nat) :
    Mirrors (skipUntilClosing number fuel) (Apdu.skipUntilClosing number fuel) := by
  induction fuel with
  | zero => exact .pure ()
  | succ fuel ih => exact mirrors_ifNextIs _ (.pure ()) (mirrors_skip.bind fun _ => ih)

theorem mirrors_closeError : Mirrors closeError Apdu.closeError :=
  .get fun reader _ => (mirrors_skipUntilClosing 0 (reader.remaining.length + 1)).bind fun _ =>
    mirrors_closeTag 0

variable [TextCodec]

/-- Reads an error class and an error code. -/
def error : GuardedRead (UInt32 × UInt32 × Bool) := do
  let wrapped ← StateT.lift ((← get).nextIs (·.isOpening 0))
  if wrapped then openTag 0
  let errorClass ← enumerated
  let errorCode ← enumerated
  pure (errorClass, errorCode, wrapped)

theorem mirrors_error : Mirrors error Apdu.readError := by
  refine .get fun reader within => ?_
  rw [IndexedReader.nextIs_eq within]
  have rest (wrapped : Bool) :
      Mirrors
        (do
          let errorClass ← enumerated
          let errorCode ← enumerated
          pure (errorClass, errorCode, wrapped))
        (do
          let errorClass ← Read.enumerated
          let errorCode ← Read.enumerated
          pure (errorClass, errorCode, wrapped)) :=
    mirrors_enumerated.bind fun _ => mirrors_enumerated.bind fun _ => .pure _
  exact .ite _ (fun _ => (mirrors_openTag 0).bind fun _ => rest _) fun _ => rest _

end GuardedRead

namespace Guarded

section

variable [TextCodec]

/-- Reads the parameters of an error message. -/
def decodeError (data : Octets) : Guarded ApduError (ErrorClass × ErrorCode) := do
  let ((errorClass, errorCode, wrapped), reader) ←
    mapError .data (GuardedRead.error.run (IndexedReader.new data Reader.defaultMaxDepth))
  let narrowed ← of (Apdu.narrowError errorClass errorCode)
  if wrapped then
    let _ ← mapError .data (GuardedRead.closeError.run reader)
    pure narrowed
  else pure narrowed

theorem decodeError_eq {data : Octets} (fits : data.length ≤ maxCount) :
    decodeError data = of (Apdu.decodeError data) := by
  have ends : Agrees IndexedReader.view IndexedReader.Within
      (GuardedRead.error.run (IndexedReader.new data Reader.defaultMaxDepth))
      (Apdu.readError.outcome (Reader.ofOctets data)) :=
    GuardedRead.mirrors_error _ (IndexedReader.within_new fits Reader.defaultMaxDepth)
  unfold Read.outcome at ends
  unfold decodeError Apdu.decodeError
  cases reads : Apdu.readError (Reader.ofOctets data) with
  | error error behind =>
    rw [reads] at ends
    rw [show GuardedRead.error.run _ = _ from ends]
    rfl
  | ok result behind =>
    obtain ⟨errorClass, errorCode, wrapped⟩ := result
    rw [reads] at ends
    obtain ⟨reader, runs, rfl, within⟩ := ends
    rw [runs]
    have closes : Agrees IndexedReader.view IndexedReader.Within
        (GuardedRead.closeError.run reader) (Apdu.closeError.outcome reader.view) :=
      GuardedRead.mirrors_closeError reader within
    unfold Read.outcome at closes
    show (of (Apdu.narrowError errorClass errorCode) >>= _) = of (_ >>= _)
    cases Apdu.narrowError errorClass errorCode with
    | error error => rfl
    | ok narrowed =>
      cases wrapped with
      | false => rfl
      | true =>
        cases closed : Apdu.closeError reader.view with
        | error error behind =>
          rw [closed] at closes
          rw [show GuardedRead.closeError.run _ = _ from closes]
          rfl
        | ok result behind =>
          rw [closed] at closes
          obtain ⟨last, runs, -⟩ := closes
          rw [runs]
          rfl

end

/-! ## Messages -/

/-- Checks the number of octets of a message. -/
def need (type : ApduType) (count : Nat) (data : Octets) : Guarded ApduError Unit :=
  if data.length < count then throw (.malformed (.truncated type count data.length)) else pure ()

/-- Reads a confirmed request. -/
def decodeConfirmedRequest (first : UInt8) (data : Octets) : Guarded ApduError Apdu := do
  let segmented := Octets.bit first 3
  let header := if segmented then 6 else 4
  need .confirmedRequest header data
  let segment ←
    if segmented then
      pure (some (Apdu.segmentHeader first (← octet data 3) (← octet data 4)))
    else pure none
  let (maxSegments, maxApdu) ← of (Apdu.decodeLimits (← octet data 1))
  let invokeId ← octet data 2
  let service ← octet data (← minus header 1)
  let parameters ← sliceFrom data header
  pure (.confirmedRequest
    ⟨Octets.bit first 1, maxSegments, maxApdu, invokeId, segment, service, parameters⟩)

/-- Reads a complex acknowledgment. -/
def decodeComplexAck (first : UInt8) (data : Octets) : Guarded ApduError Apdu := do
  let segmented := Octets.bit first 3
  let header := if segmented then 5 else 3
  need .complexAck header data
  let segment ←
    if segmented then
      pure (some (Apdu.segmentHeader first (← octet data 2) (← octet data 3)))
    else pure none
  let invokeId ← octet data 1
  let service ← octet data (← minus header 1)
  let parameters ← sliceFrom data header
  pure (.complexAck ⟨invokeId, segment, service, parameters⟩)

theorem need_of_le {type : ApduType} {count : Nat} {data : Octets} (enough : count ≤ data.length) :
    need type count data = pure () :=
  if_neg (Nat.not_lt_of_le enough)

theorem decodeConfirmedRequest_eq (first : UInt8) (rest : Octets) :
    decodeConfirmedRequest first (first :: rest) = of (Apdu.decodeConfirmedRequest first rest) := by
  unfold decodeConfirmedRequest Apdu.decodeConfirmedRequest
  cases Octets.bit first 3 with
  | true =>
    match rest with
    | limits :: invokeId :: sequenceNumber :: windowSize :: service :: parameters =>
      dsimp only
      rw [if_pos rfl, need_of_le (by simp), sliceFrom_of_le (by simp)]
      show (of (Apdu.decodeLimits limits) >>= _) = of (Apdu.decodeLimits limits >>= _)
      rw [← of_bind]
      rfl
    | [] | [_] | [_, _] | [_, _, _] | [_, _, _, _] => rfl
  | false =>
    match rest with
    | limits :: invokeId :: service :: parameters =>
      dsimp only
      rw [if_neg Bool.false_ne_true, need_of_le (by simp), sliceFrom_of_le (by simp)]
      show (of (Apdu.decodeLimits limits) >>= _) = of (Apdu.decodeLimits limits >>= _)
      rw [← of_bind]
      rfl
    | [] | [_] | [_, _] => rfl

theorem decodeComplexAck_eq (first : UInt8) (rest : Octets) :
    decodeComplexAck first (first :: rest) = of (Apdu.decodeComplexAck first rest) := by
  unfold decodeComplexAck Apdu.decodeComplexAck
  cases Octets.bit first 3 with
  | true =>
    match rest with
    | invokeId :: sequenceNumber :: windowSize :: service :: parameters =>
      dsimp only
      rw [if_pos rfl, need_of_le (by simp), sliceFrom_of_le (by simp)]
      rfl
    | [] | [_] | [_, _] | [_, _, _] => rfl
  | false =>
    match rest with
    | invokeId :: service :: parameters =>
      dsimp only
      rw [if_neg Bool.false_ne_true, need_of_le (by simp), sliceFrom_of_le (by simp)]
      rfl
    | [] | [_] => rfl

variable [TextCodec]

/-- Reads a message of a kind. -/
def decodeMessage (type : ApduType) (first : UInt8) (data : Octets) : Guarded ApduError Apdu := do
  match type with
  | .confirmedRequest => decodeConfirmedRequest first data
  | .unconfirmedRequest =>
    need type 2 data
    pure (.unconfirmedRequest (← octet data 1) (← sliceFrom data 2))
  | .simpleAck =>
    need type 3 data
    pure (.simpleAck (← octet data 1) (← octet data 2))
  | .complexAck => decodeComplexAck first data
  | .segmentAck =>
    need type 4 data
    pure (.segmentAck ⟨Octets.bit first 1, Octets.bit first 0, ← octet data 1, ← octet data 2,
      ← octet data 3⟩)
  | .error =>
    need type 3 data
    let (errorClass, errorCode) ← decodeError (← sliceFrom data 3)
    pure (.error (← octet data 1) (← octet data 2) errorClass errorCode)
  | .reject =>
    need type 3 data
    pure (.reject (← octet data 1) ⟨← octet data 2⟩)
  | .abort =>
    need type 3 data
    pure (.abort (Octets.bit first 0) (← octet data 1) ⟨← octet data 2⟩)

/-- Reads an application message. -/
def decodeApdu (data : Octets) : Guarded ApduError Apdu := do
  let first ← orError (.malformed .empty) data[0]?
  let type ← of (ApduType.ofCode (Octets.field first 4 4))
  decodeMessage type first data

theorem decodeMessage_eq {first : UInt8} {rest : Octets} (fits : (first :: rest).length ≤ maxCount)
    (type : ApduType) :
    decodeMessage type first (first :: rest) = of (Apdu.decodeRest type first rest) := by
  cases type with
  | confirmedRequest => exact decodeConfirmedRequest_eq first rest
  | complexAck => exact decodeComplexAck_eq first rest
  | unconfirmedRequest =>
    match rest with
    | service :: parameters =>
      unfold decodeMessage
      dsimp only
      rw [need_of_le (by simp), sliceFrom_of_le (by simp)]
      rfl
    | [] => rfl
  | error =>
    match rest with
    | invokeId :: service :: parameters =>
      unfold decodeMessage Apdu.decodeRest
      dsimp only
      rw [need_of_le (by simp), sliceFrom_of_le (by simp)]
      simp only [List.length_cons] at fits
      simp only [pure_bind, List.drop_succ_cons, List.drop_zero]
      rw [decodeError_eq (by omega), ← of_bind]
      rfl
    | [] | [_] => rfl
  | segmentAck =>
    match rest with
    | invokeId :: sequenceNumber :: windowSize :: _ =>
      unfold decodeMessage
      dsimp only
      rw [need_of_le (by simp)]
      rfl
    | [] | [_] | [_, _] => rfl
  | simpleAck | reject | abort =>
    match rest with
    | _ :: _ :: _ =>
      unfold decodeMessage
      dsimp only
      rw [need_of_le (by simp)]
      rfl
    | [] | [_] => rfl

theorem decodeApdu_eq {data : Octets} (fits : data.length ≤ maxCount) :
    decodeApdu data = of (Apdu.decode data) := by
  cases data with
  | nil => rfl
  | cons first rest =>
    show (of (ApduType.ofCode (Octets.field first 4 4)) >>= _) = of (_ >>= _)
    rw [← of_bind]
    exact congrArg _ (funext fun type => decodeMessage_eq fits type)

end Guarded

end BACnet
