import BACnet.Data.Reader
import BACnet.Data.Typed
import BACnet.Apdu.Error
import BACnet.Apdu.Limits
import BACnet.Service.Reason

/-!
# Application messages

The messages with which devices ask for services and answer. The first octet holds the kind of the
message in its upper half and flags in its lower half; a few octets follow that depend on the kind,
and then the parameters of the service.

`Apdu.encode` writes every message, and `Apdu.decode` reads what it writes.
-/

namespace BACnet

/-- The place of a segment in a message that is sent in several pieces. -/
structure SegmentHeader where
  sequenceNumber : UInt8
  windowSize : UInt8
  moreFollows : Bool
  deriving DecidableEq, Repr

/-- A request that is answered. -/
structure ConfirmedRequest where
  segmentedResponseAccepted : Bool
  maxSegments : MaxSegments
  maxApdu : MaxApduSize
  invokeId : UInt8
  segment : Option SegmentHeader
  service : UInt8
  parameters : Octets
  deriving DecidableEq, Repr

/-- An answer with parameters. -/
structure ComplexAck where
  invokeId : UInt8
  segment : Option SegmentHeader
  service : UInt8
  parameters : Octets
  deriving DecidableEq, Repr

/-- An acknowledgment of segments. -/
structure SegmentAck where
  negative : Bool
  server : Bool
  invokeId : UInt8
  sequenceNumber : UInt8
  windowSize : UInt8
  deriving DecidableEq, Repr

/-- An application message. -/
inductive Apdu where
  | confirmedRequest (request : ConfirmedRequest)
  | unconfirmedRequest (service : UInt8) (parameters : Octets)
  | simpleAck (invokeId service : UInt8)
  | complexAck (ack : ComplexAck)
  | segmentAck (ack : SegmentAck)
  | error (invokeId service : UInt8) (errorClass : ErrorClass) (errorCode : ErrorCode)
  | reject (invokeId : UInt8) (reason : RejectReason)
  | abort (server : Bool) (invokeId : UInt8) (reason : AbortReason)
  deriving DecidableEq, Repr

namespace Apdu

/-- The kind of the message. -/
def type : Apdu → ApduType
  | confirmedRequest _ => .confirmedRequest
  | unconfirmedRequest _ _ => .unconfirmedRequest
  | simpleAck _ _ => .simpleAck
  | complexAck _ => .complexAck
  | segmentAck _ => .segmentAck
  | error _ _ _ _ => .error
  | reject _ _ => .reject
  | abort _ _ _ => .abort

/-- The number of the transaction, which only an unconfirmed request lacks. -/
def invokeId? : Apdu → Option UInt8
  | confirmedRequest request => some request.invokeId
  | unconfirmedRequest _ _ => none
  | simpleAck invokeId _ => some invokeId
  | complexAck ack => some ack.invokeId
  | segmentAck ack => some ack.invokeId
  | error invokeId _ _ _ => some invokeId
  | reject invokeId _ => some invokeId
  | abort _ invokeId _ => some invokeId

/-! ## Encoding -/

/-- The first octet: the kind, and the four flags from bit 3 down. -/
def firstOctet (type : ApduType) (bit3 bit2 bit1 bit0 : Bool) : UInt8 :=
  UInt8.ofNat (type.code * 16 + bit3.toNat * 8 + bit2.toNat * 4 + bit1.toNat * 2 + bit0.toNat)

/-- Whether a message is a segment that others follow. -/
def moreFollows (segment : Option SegmentHeader) : Bool := segment.any (·.moreFollows)

/-- The octets of the place of a segment. -/
def segmentOctets : Option SegmentHeader → Octets
  | none => []
  | some segment => [segment.sequenceNumber, segment.windowSize]

/-- The octets of an error class and an error code. -/
def errorOctets (errorClass : ErrorClass) (errorCode : ErrorCode) : Octets :=
  encodeEnumerated errorClass.number.toUInt32 ++ encodeEnumerated errorCode.number.toUInt32

/-- The octets of the message. -/
def encode (apdu : Apdu) : Octets :=
  match apdu with
  | confirmedRequest request =>
    firstOctet .confirmedRequest request.segment.isSome (moreFollows request.segment)
        request.segmentedResponseAccepted false ::
      UInt8.ofNat (request.maxSegments.code * 16 + request.maxApdu.code) ::
      request.invokeId :: segmentOctets request.segment ++ request.service :: request.parameters
  | unconfirmedRequest service parameters =>
    firstOctet .unconfirmedRequest false false false false :: service :: parameters
  | simpleAck invokeId service => [firstOctet .simpleAck false false false false, invokeId, service]
  | complexAck ack =>
    firstOctet .complexAck ack.segment.isSome (moreFollows ack.segment) false false ::
      ack.invokeId :: segmentOctets ack.segment ++ ack.service :: ack.parameters
  | segmentAck ack =>
    [firstOctet .segmentAck false false ack.negative ack.server, ack.invokeId, ack.sequenceNumber,
      ack.windowSize]
  | error invokeId service errorClass errorCode =>
    firstOctet .error false false false false :: invokeId :: service ::
      errorOctets errorClass errorCode
  | reject invokeId reason =>
    [firstOctet .reject false false false false, invokeId, reason.number]
  | abort server invokeId reason =>
    [firstOctet .abort false false false server, invokeId, reason.number]

variable [TextCodec]

/-! ## Decoding -/

/-- Skips elements until the tag that closes the constructed value `number`. At most `fuel` elements
are skipped; each takes an octet, so the number of octets suffices. -/
def skipUntilClosing (number : UInt8) : Nat → Read Unit
  | 0 => pure ()
  | fuel + 1 => do
    if (← get).nextIsClosing number then pure ()
    else
      Read.skip
      skipUntilClosing number fuel

/-- Reads an error class and an error code, as they are or as the head of a constructed value with
the number 0; what follows them is left out. -/
def readError : Read (UInt32 × UInt32 × Bool) := do
  let wrapped := (← get).nextIsOpening 0
  if wrapped then Read.openTag 0
  let errorClass ← Read.enumerated
  let errorCode ← Read.enumerated
  pure (errorClass, errorCode, wrapped)

/-- Reads the rest of a constructed value with the number 0. -/
def closeError : Read Unit := do
  skipUntilClosing 0 ((← get).rest.length + 1)
  Read.closeTag 0

/-- An error class and an error code of 16 bits each. -/
def narrowError (errorClass errorCode : UInt32) : Except ApduError (ErrorClass × ErrorCode) :=
  if 0x10000 ≤ errorClass.toNat then .error (.malformed (.errorClass errorClass))
  else if 0x10000 ≤ errorCode.toNat then .error (.malformed (.errorCode errorCode))
  else .ok (⟨errorClass.toUInt16⟩, ⟨errorCode.toUInt16⟩)

/-- Reads the parameters of an error message. -/
def decodeError (data : Octets) : Except ApduError (ErrorClass × ErrorCode) :=
  match readError (Reader.ofOctets data) with
  | .error fault _ => .error (.data fault)
  | .ok (errorClass, errorCode, wrapped) reader => do
    let narrowed ← narrowError errorClass errorCode
    if wrapped then
      match closeError reader with
      | .error fault _ => .error (.data fault)
      | .ok () _ => .ok narrowed
    else .ok narrowed

/-- The place of a segment, from its two octets. -/
def segmentHeader (first sequenceNumber windowSize : UInt8) : SegmentHeader :=
  ⟨sequenceNumber, windowSize, Octets.bit first 2⟩

/-- Reads the octet that tells what the sender of a request accepts. -/
def decodeLimits (octet : UInt8) : Except ApduError (MaxSegments × MaxApduSize) := do
  let maxSegments := (MaxSegments.ofCode? (Octets.field octet 4 3)).getD .greaterThan64
  let maxApdu ← MaxApduSize.ofCode (Octets.field octet 0 4)
  .ok (maxSegments, maxApdu)

/-- Reads a confirmed request behind its first octet. -/
def decodeConfirmedRequest (first : UInt8) (rest : Octets) : Except ApduError Apdu :=
  let available := rest.length + 1
  let accepted := Octets.bit first 1
  if Octets.bit first 3 then
    match rest with
    | limits :: invokeId :: sequenceNumber :: windowSize :: service :: parameters => do
      let (maxSegments, maxApdu) ← decodeLimits limits
      let segment := segmentHeader first sequenceNumber windowSize
      .ok (confirmedRequest
        ⟨accepted, maxSegments, maxApdu, invokeId, some segment, service, parameters⟩)
    | _ => .error (.malformed (.truncated .confirmedRequest 6 available))
  else
    match rest with
    | limits :: invokeId :: service :: parameters => do
      let (maxSegments, maxApdu) ← decodeLimits limits
      .ok (confirmedRequest
        ⟨accepted, maxSegments, maxApdu, invokeId, none, service, parameters⟩)
    | _ => .error (.malformed (.truncated .confirmedRequest 4 available))

/-- Reads a complex acknowledgment behind its first octet. -/
def decodeComplexAck (first : UInt8) (rest : Octets) : Except ApduError Apdu :=
  let available := rest.length + 1
  if Octets.bit first 3 then
    match rest with
    | invokeId :: sequenceNumber :: windowSize :: service :: parameters =>
      let segment := segmentHeader first sequenceNumber windowSize
      .ok (complexAck ⟨invokeId, some segment, service, parameters⟩)
    | _ => .error (.malformed (.truncated .complexAck 5 available))
  else
    match rest with
    | invokeId :: service :: parameters => .ok (complexAck ⟨invokeId, none, service, parameters⟩)
    | _ => .error (.malformed (.truncated .complexAck 3 available))

/-- Reads a message of a kind behind its first octet. Octets behind the last field of a message
without parameters are left out. -/
def decodeRest (type : ApduType) (first : UInt8) (rest : Octets) : Except ApduError Apdu :=
  let short (needed : Nat) : Except ApduError Apdu :=
    .error (.malformed (.truncated type needed (rest.length + 1)))
  match type with
  | .confirmedRequest => decodeConfirmedRequest first rest
  | .unconfirmedRequest =>
    match rest with
    | service :: parameters => .ok (unconfirmedRequest service parameters)
    | _ => short 2
  | .simpleAck =>
    match rest with
    | invokeId :: service :: _ => .ok (simpleAck invokeId service)
    | _ => short 3
  | .complexAck => decodeComplexAck first rest
  | .segmentAck =>
    match rest with
    | invokeId :: sequenceNumber :: windowSize :: _ =>
      .ok (segmentAck
        ⟨Octets.bit first 1, Octets.bit first 0, invokeId, sequenceNumber, windowSize⟩)
    | _ => short 4
  | .error =>
    match rest with
    | invokeId :: service :: parameters => do
      let (errorClass, errorCode) ← decodeError parameters
      .ok (error invokeId service errorClass errorCode)
    | _ => short 3
  | .reject =>
    match rest with
    | invokeId :: reason :: _ => .ok (reject invokeId ⟨reason⟩)
    | _ => short 3
  | .abort =>
    match rest with
    | invokeId :: reason :: _ => .ok (abort (Octets.bit first 0) invokeId ⟨reason⟩)
    | _ => short 3

/-- Reads a message from its octets. -/
def decode (data : Octets) : Except ApduError Apdu :=
  match data with
  | [] => .error (.malformed .empty)
  | first :: rest => do
    let type ← ApduType.ofCode (Octets.field first 4 4)
    decodeRest type first rest

end Apdu

end BACnet
