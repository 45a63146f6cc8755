import BACnet.Link.Crc
import BACnet.Link.Error

/-!
# MS/TP frames

The frames of the serial link: two octets of preamble, the frame type, the two station numbers, the
length of the data and a check of these five octets, and then, unless there are none, the data and
their own check, low octet first.
-/

namespace BACnet

/-- The frame types. -/
inductive MstpFrameType where
  | token
  | pollForMaster
  | replyToPollForMaster
  | testRequest
  | testResponse
  | bacnetDataExpectingReply
  | bacnetDataNotExpectingReply
  | replyPostponed
  deriving DecidableEq, Repr

namespace MstpFrameType

/-- The octet of the frame type. -/
def code : MstpFrameType → UInt8
  | token => 0
  | pollForMaster => 1
  | replyToPollForMaster => 2
  | testRequest => 3
  | testResponse => 4
  | bacnetDataExpectingReply => 5
  | bacnetDataNotExpectingReply => 6
  | replyPostponed => 7

/-- The frame type of an octet. -/
def ofCode (code : UInt8) : Except LinkError MstpFrameType :=
  match code.toNat with
  | 0 => .ok token
  | 1 => .ok pollForMaster
  | 2 => .ok replyToPollForMaster
  | 3 => .ok testRequest
  | 4 => .ok testResponse
  | 5 => .ok bacnetDataExpectingReply
  | 6 => .ok bacnetDataNotExpectingReply
  | 7 => .ok replyPostponed
  | _ => .error (.invalidFrame (.mstpType code))

end MstpFrameType

/-- A frame. -/
structure MstpFrame where
  frameType : MstpFrameType
  destination : UInt8
  source : UInt8
  data : Octets
  deriving DecidableEq, Repr

namespace MstpFrame

/-- The largest number of data octets. -/
def maxDataLength : Nat := 501

/-- The station number of all stations. -/
def broadcastStation : UInt8 := 255

/-- A frame whose data are not too long. -/
def new (frameType : MstpFrameType) (destination source : UInt8) (data : Octets) :
    Except LinkError MstpFrame :=
  if maxDataLength < data.length then .error (.frameTooLarge data.length)
  else .ok ⟨frameType, destination, source, data⟩

/-- The frame that hands on the right to send. -/
def token (destination source : UInt8) : MstpFrame := ⟨.token, destination, source, []⟩

/-- The frame that carries a network protocol data unit. -/
def ofNpdu (destination source : UInt8) (npdu : Octets) (expectingReply : Bool) :
    Except LinkError MstpFrame :=
  new (if expectingReply then .bacnetDataExpectingReply else .bacnetDataNotExpectingReply)
    destination source npdu

/-- Whether the frame hands on the right to send. -/
def isToken (frame : MstpFrame) : Bool := frame.frameType == .token

/-- Whether the frame carries a network protocol data unit. -/
def isData (frame : MstpFrame) : Bool :=
  frame.frameType == .bacnetDataExpectingReply || frame.frameType == .bacnetDataNotExpectingReply

/-- The five octets that the check of the head covers. -/
def header (frame : MstpFrame) : Octets :=
  [frame.frameType.code, frame.destination, frame.source] ++
    Octets.bigEndian 2 frame.data.length

/-- The data and their check, low octet first; nothing if there are no data. -/
def encodeData (data : Octets) : Octets :=
  if data.isEmpty then [] else data ++ (Octets.ofWord16 (dataCrc data)).reverse

/-- The octets of the frame. -/
def encode (frame : MstpFrame) : Except LinkError Octets :=
  if maxDataLength < frame.data.length then .error (.frameTooLarge frame.data.length)
  else
    .ok ([0x55, 0xFF] ++ frame.header ++ [headerCrc frame.header] ++ encodeData frame.data)

/-- What is said of a frame that is cut short. -/
def truncated {α : Type} : Except LinkError α := .error (.invalidFrame .mstpTruncated)

/-- Reads `length` data octets and their check, and gives back what follows them. -/
def decodeData (length : Nat) (rest : Octets) : Except LinkError (Octets × Octets) :=
  if length = 0 then .ok ([], rest)
  else
    match Octets.take? length rest, rest.drop length with
    | some data, low :: high :: behind =>
      let received := Octets.word16 high low
      if received = dataCrc data then .ok (data, behind)
      else .error (.crcError (dataCrc data) received)
    | _, _ => truncated

/-- Reads a frame behind its preamble. -/
def decodeFrame (data : Octets) : Except LinkError MstpFrame :=
  match data with
  | type :: destination :: source :: high :: low :: check :: rest => do
    let calculated := headerCrc [type, destination, source, high, low]
    if check ≠ calculated then .error (.crcError calculated.toUInt16 check.toUInt16)
    else
      let frameType ← MstpFrameType.ofCode type
      let length := (Octets.word16 high low).toNat
      if maxDataLength < length then .error (.frameTooLarge length)
      else
        let (data, behind) ← decodeData length rest
        if behind.isEmpty then .ok ⟨frameType, destination, source, data⟩
        else .error (.invalidFrame (.mstpTrailing behind.length))
  | _ => truncated

/-- Reads a frame from its octets. -/
def decode (data : Octets) : Except LinkError MstpFrame :=
  if data.take 2 = [0x55, 0xFF] then decodeFrame (data.drop 2)
  else .error (.invalidFrame .mstpPreamble)

/-- The station number of a MAC address; an empty one stands for all stations. -/
def stationOfMac : Octets → Except LinkError UInt8
  | [] => .ok broadcastStation
  | [station] => .ok station
  | mac => .error (.addressError (.mstpMac mac.length))

end MstpFrame

end BACnet
