import BACnet.Link.Error

/-!
# BACnet over IP

Every UDP datagram of BACnet/IP is a frame: a type octet, a function octet, the length of the whole
frame, and a body that depends on the function. Besides the frames that carry a network protocol
data unit there are those with which broadcasts are spread over several subnets.
-/

namespace BACnet

/-- The functions of a frame. -/
inductive BvlcFunction where
  | result
  | writeBroadcastDistributionTable
  | readBroadcastDistributionTable
  | readBroadcastDistributionTableAck
  | forwardedNpdu
  | registerForeignDevice
  | readForeignDeviceTable
  | readForeignDeviceTableAck
  | deleteForeignDeviceTableEntry
  | distributeBroadcastToNetwork
  | originalUnicastNpdu
  | originalBroadcastNpdu
  | secureBvll
  deriving DecidableEq, Repr

namespace BvlcFunction

/-- The octet of the function. -/
def code : BvlcFunction → UInt8
  | result => 0
  | writeBroadcastDistributionTable => 1
  | readBroadcastDistributionTable => 2
  | readBroadcastDistributionTableAck => 3
  | forwardedNpdu => 4
  | registerForeignDevice => 5
  | readForeignDeviceTable => 6
  | readForeignDeviceTableAck => 7
  | deleteForeignDeviceTableEntry => 8
  | distributeBroadcastToNetwork => 9
  | originalUnicastNpdu => 10
  | originalBroadcastNpdu => 11
  | secureBvll => 12

/-- The function of an octet. -/
def ofCode (code : UInt8) : Except LinkError BvlcFunction :=
  match code.toNat with
  | 0 => .ok result
  | 1 => .ok writeBroadcastDistributionTable
  | 2 => .ok readBroadcastDistributionTable
  | 3 => .ok readBroadcastDistributionTableAck
  | 4 => .ok forwardedNpdu
  | 5 => .ok registerForeignDevice
  | 6 => .ok readForeignDeviceTable
  | 7 => .ok readForeignDeviceTableAck
  | 8 => .ok deleteForeignDeviceTableEntry
  | 9 => .ok distributeBroadcastToNetwork
  | 10 => .ok originalUnicastNpdu
  | 11 => .ok originalBroadcastNpdu
  | 12 => .ok secureBvll
  | _ => .error (.invalidFrame (.bvlcFunction code))

end BvlcFunction

/-- The result of a request to change or read a table. A value is its number. -/
structure BvlcResult where
  number : UInt16
  deriving DecidableEq, Repr

namespace BvlcResult

/-- The name of the result; results beyond the standard have none. -/
def name (result : BvlcResult) : String :=
  match result.number.toNat with
  | 0 => "Successful"
  | 16 => "WriteBroadcastDistributionTableNak"
  | 32 => "ReadBroadcastDistributionTableNak"
  | 48 => "RegisterForeignDeviceNak"
  | 64 => "ReadForeignDeviceTableNak"
  | 80 => "DeleteForeignDeviceTableEntryNak"
  | 96 => "DistributeBroadcastToNetworkNak"
  | _ => "Unknown"

end BvlcResult

/-- An IPv4 address and a UDP port. -/
structure SocketAddress where
  a : UInt8
  b : UInt8
  c : UInt8
  d : UInt8
  port : UInt16
  deriving DecidableEq, Repr

namespace SocketAddress

/-- The address as people write it. -/
def text (address : SocketAddress) : String :=
  let a := address.a
  let b := address.b
  let c := address.c
  let d := address.d
  let port := address.port
  s!"{a}.{b}.{c}.{d}:{port}"

/-- The address in a text as people write it. -/
def ofText? (text : String) : Option SocketAddress :=
  match ((text.splitOn ":").flatMap (·.splitOn ".")).map String.toNat? with
  | [some a, some b, some c, some d, some port] =>
    some ⟨UInt8.ofNat a, UInt8.ofNat b, UInt8.ofNat c, UInt8.ofNat d, UInt16.ofNat port⟩
  | _ => none

/-- The six octets of the address as a MAC address. -/
def toMac (address : SocketAddress) : Octets :=
  [address.a, address.b, address.c, address.d] ++ Octets.ofWord16 address.port

/-- The address of a MAC address of six octets. -/
def ofMac : Octets → Except LinkError SocketAddress
  | [a, b, c, d, high, low] => .ok ⟨a, b, c, d, Octets.word16 high low⟩
  | octets => .error (.addressError (.ipMac octets.length))

end SocketAddress

/-- A line of a broadcast distribution table. -/
structure BroadcastEntry where
  address : SocketAddress
  /-- The four octets of the broadcast distribution mask. -/
  mask : UInt32
  deriving DecidableEq, Repr

/-- A line of a foreign device table: how many seconds the device registered for, and how many are
left. -/
structure ForeignEntry where
  address : SocketAddress
  timeToLive : UInt16
  remaining : UInt16
  deriving DecidableEq, Repr

/-- A frame. -/
inductive BvlcMessage where
  | result (code : BvlcResult)
  | writeBroadcastDistributionTable (entries : List BroadcastEntry)
  | readBroadcastDistributionTable
  | readBroadcastDistributionTableAck (entries : List BroadcastEntry)
  /-- A unit that a broadcast manager passes on for a station. -/
  | forwardedNpdu (origin : SocketAddress) (npdu : Octets)
  | registerForeignDevice (timeToLive : UInt16)
  | readForeignDeviceTable
  | readForeignDeviceTableAck (entries : List ForeignEntry)
  | deleteForeignDeviceTableEntry (address : SocketAddress)
  | distributeBroadcastToNetwork (npdu : Octets)
  | originalUnicastNpdu (npdu : Octets)
  | originalBroadcastNpdu (npdu : Octets)
  | secureBvll (data : Octets)
  deriving DecidableEq, Repr

/-- The head of a frame: its function and the length of the whole frame. -/
structure BvlcHeader where
  function : BvlcFunction
  length : UInt16
  deriving DecidableEq, Repr

namespace BvlcHeader

/-- The type octet of BACnet/IP. -/
def typeOctet : UInt8 := 0x81

/-- The octets of the head. -/
def encode (header : BvlcHeader) : Octets :=
  typeOctet :: header.function.code :: Octets.ofWord16 header.length

/-- Reads the head of a frame. -/
def decode (data : Octets) : Except LinkError BvlcHeader :=
  match data with
  | [] => .error (.invalidFrame .bvlcHeader)
  | type :: rest =>
    if type = typeOctet then
      match rest with
      | [] => .error (.invalidFrame .bvlcHeader)
      | code :: rest => do
        let function ← BvlcFunction.ofCode code
        match rest with
        | high :: low :: _ => .ok ⟨function, Octets.word16 high low⟩
        | _ => .error (.invalidFrame .bvlcHeader)
    else .error (.invalidFrame (.bvlcType type))

end BvlcHeader

namespace BvlcMessage

/-- The function of the frame. -/
def function : BvlcMessage → BvlcFunction
  | result _ => .result
  | writeBroadcastDistributionTable _ => .writeBroadcastDistributionTable
  | readBroadcastDistributionTable => .readBroadcastDistributionTable
  | readBroadcastDistributionTableAck _ => .readBroadcastDistributionTableAck
  | forwardedNpdu _ _ => .forwardedNpdu
  | registerForeignDevice _ => .registerForeignDevice
  | readForeignDeviceTable => .readForeignDeviceTable
  | readForeignDeviceTableAck _ => .readForeignDeviceTableAck
  | deleteForeignDeviceTableEntry _ => .deleteForeignDeviceTableEntry
  | distributeBroadcastToNetwork _ => .distributeBroadcastToNetwork
  | originalUnicastNpdu _ => .originalUnicastNpdu
  | originalBroadcastNpdu _ => .originalBroadcastNpdu
  | secureBvll _ => .secureBvll

/-- The network protocol data unit that the frame carries, if any. -/
def npdu? : BvlcMessage → Option Octets
  | forwardedNpdu _ npdu => some npdu
  | distributeBroadcastToNetwork npdu => some npdu
  | originalUnicastNpdu npdu => some npdu
  | originalBroadcastNpdu npdu => some npdu
  | _ => none

/-! ## Encoding -/

/-- The ten octets of a line of a broadcast distribution table. -/
def encodeBroadcastEntry (entry : BroadcastEntry) : Octets :=
  entry.address.toMac ++ Octets.ofWord32 entry.mask

/-- The ten octets of a line of a foreign device table. -/
def encodeForeignEntry (entry : ForeignEntry) : Octets :=
  entry.address.toMac ++ Octets.ofWord16 entry.timeToLive ++ Octets.ofWord16 entry.remaining

/-- The body of the frame. -/
def body : BvlcMessage → Octets
  | result code => Octets.ofWord16 code.number
  | writeBroadcastDistributionTable entries => entries.flatMap encodeBroadcastEntry
  | readBroadcastDistributionTable => []
  | readBroadcastDistributionTableAck entries => entries.flatMap encodeBroadcastEntry
  | forwardedNpdu origin npdu => origin.toMac ++ npdu
  | registerForeignDevice timeToLive => Octets.ofWord16 timeToLive
  | readForeignDeviceTable => []
  | readForeignDeviceTableAck entries => entries.flatMap encodeForeignEntry
  | deleteForeignDeviceTableEntry address => address.toMac
  | distributeBroadcastToNetwork npdu => npdu
  | originalUnicastNpdu npdu => npdu
  | originalBroadcastNpdu npdu => npdu
  | secureBvll data => data

/-- The octets of the frame, whose length takes 16 bits. -/
def encode (message : BvlcMessage) : Except LinkError Octets :=
  let length := 4 + message.body.length
  if length < 0x10000 then
    .ok (BvlcHeader.encode ⟨message.function, UInt16.ofNat length⟩ ++ message.body)
  else .error (.frameTooLarge length)

/-! ## Decoding -/

/-- Reads a line of a broadcast distribution table from each ten octets; all octets must belong to a
line. -/
def decodeBroadcastEntries? : Octets → Option (List BroadcastEntry)
  | [] => some []
  | a :: b :: c :: d :: high :: low :: m1 :: m2 :: m3 :: m4 :: rest =>
    (decodeBroadcastEntries? rest).map
      (⟨⟨a, b, c, d, Octets.word16 high low⟩, Octets.word32 m1 m2 m3 m4⟩ :: ·)
  | _ => none

/-- Reads a line of a foreign device table from each ten octets; all octets must belong to a line.
-/
def decodeForeignEntries? : Octets → Option (List ForeignEntry)
  | [] => some []
  | a :: b :: c :: d :: high :: low :: t1 :: t2 :: r1 :: r2 :: rest =>
    (decodeForeignEntries? rest).map
      (⟨⟨a, b, c, d, Octets.word16 high low⟩, Octets.word16 t1 t2, Octets.word16 r1 r2⟩ :: ·)
  | _ => none

/-- A result, or the error that a body has the wrong length. -/
def orInvalid {α : Type} (part : BvlcPart) : Option α → Except LinkError α
  | some value => .ok value
  | none => .error (.invalidFrame (.bvlcBody part))

/-- Reads the body of a frame. A request for a table has no body, and one that comes with it is left
out. -/
def decodeBody (function : BvlcFunction) (data : Octets) : Except LinkError BvlcMessage :=
  match function with
  | .result =>
    match data with
    | [high, low] => .ok (result ⟨Octets.word16 high low⟩)
    | _ => .error (.invalidFrame (.bvlcBody .result))
  | .writeBroadcastDistributionTable =>
    writeBroadcastDistributionTable <$> orInvalid .broadcastTable (decodeBroadcastEntries? data)
  | .readBroadcastDistributionTable => .ok readBroadcastDistributionTable
  | .readBroadcastDistributionTableAck =>
    readBroadcastDistributionTableAck <$> orInvalid .broadcastTable (decodeBroadcastEntries? data)
  | .forwardedNpdu =>
    match data with
    | a :: b :: c :: d :: high :: low :: npdu =>
      .ok (forwardedNpdu ⟨a, b, c, d, Octets.word16 high low⟩ npdu)
    | _ => .error (.invalidFrame (.bvlcBody .forwardedNpdu))
  | .registerForeignDevice =>
    match data with
    | [high, low] => .ok (registerForeignDevice (Octets.word16 high low))
    | _ => .error (.invalidFrame (.bvlcBody .registerForeignDevice))
  | .readForeignDeviceTable => .ok readForeignDeviceTable
  | .readForeignDeviceTableAck =>
    readForeignDeviceTableAck <$> orInvalid .foreignDeviceTable (decodeForeignEntries? data)
  | .deleteForeignDeviceTableEntry =>
    match data with
    | [a, b, c, d, high, low] =>
      .ok (deleteForeignDeviceTableEntry ⟨a, b, c, d, Octets.word16 high low⟩)
    | _ => .error (.invalidFrame (.bvlcBody .deleteForeignDevice))
  | .distributeBroadcastToNetwork => .ok (distributeBroadcastToNetwork data)
  | .originalUnicastNpdu => .ok (originalUnicastNpdu data)
  | .originalBroadcastNpdu => .ok (originalBroadcastNpdu data)
  | .secureBvll => .ok (secureBvll data)

/-- Reads a frame, whose head must tell its length. -/
def decode (data : Octets) : Except LinkError BvlcMessage := do
  let header ← BvlcHeader.decode data
  if header.length.toNat = data.length then decodeBody header.function (data.drop 4)
  else .error (.invalidFrame (.bvlcLength header.length data.length))

end BvlcMessage

end BACnet
