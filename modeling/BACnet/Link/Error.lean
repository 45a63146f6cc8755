import BACnet.ErrorKind
import BACnet.Network.Error

/-!
# Errors of the links

Why a frame of a link cannot be read or written.
-/

namespace BACnet

/-- Four upper-case hexadecimal digits. -/
def hexWord (word : UInt16) : String :=
  hexOctet (UInt8.ofNat (word.toNat / 256)) ++ hexOctet (UInt8.ofNat word.toNat)

/-- The bodies of BACnet/IP frames whose length is checked. -/
inductive BvlcPart where
  | result
  | broadcastTable
  | forwardedNpdu
  | registerForeignDevice
  | foreignDeviceTable
  | deleteForeignDevice
  deriving DecidableEq, Repr

/-- The words for a body in error texts. -/
def BvlcPart.text : BvlcPart → String
  | result => "BVLC-Result"
  | broadcastTable => "broadcast distribution table"
  | forwardedNpdu => "Forwarded-NPDU"
  | registerForeignDevice => "Register-Foreign-Device"
  | foreignDeviceTable => "foreign device table"
  | deleteForeignDevice => "Delete-Foreign-Device-Table-Entry"

/-- Why octets do not form a frame. -/
inductive FrameFault where
  | bvlcHeader
  | bvlcType (octet : UInt8)
  | bvlcFunction (octet : UInt8)
  | bvlcLength (length : UInt16) (available : Nat)
  | bvlcBody (part : BvlcPart)
  | mstpPreamble
  | mstpTruncated
  | mstpType (octet : UInt8)
  | mstpTrailing (count : Nat)
  deriving DecidableEq, Repr

def FrameFault.message : FrameFault → String
  | bvlcHeader => "truncated BVLC header"
  | bvlcType octet => "BVLC type 0x" ++ hexOctet octet
  | bvlcFunction octet => "unknown BVLC function 0x" ++ hexOctet octet
  | bvlcLength length available => s!"BVLC length {length} but frame has {available} octets"
  | bvlcBody part => "invalid " ++ part.text
  | mstpPreamble => "missing MS/TP preamble"
  | mstpTruncated => "truncated MS/TP frame"
  | mstpType octet => s!"MS/TP frame type {octet}"
  | mstpTrailing count => s!"{count} trailing octets after MS/TP frame"

/-- Why a MAC address does not fit a link. -/
inductive LinkAddressFault where
  | ipMac (length : Nat)
  | mstpMac (length : Nat)
  deriving DecidableEq, Repr

def LinkAddressFault.message : LinkAddressFault → String
  | ipMac length => s!"B/IP MAC must be 6 octets, got {length}"
  | mstpMac length => s!"MS/TP MAC must be 1 octet, got {length}"

/-- What can go wrong on a link. -/
inductive LinkError where
  | invalidFrame (fault : FrameFault)
  /-- The check octets are not those of the frame. -/
  | crcError (expected actual : UInt16)
  | addressError (fault : LinkAddressFault)
  | frameTooLarge (length : Nat)
  deriving DecidableEq, Repr

namespace LinkError

def kind : LinkError → ErrorKind
  | invalidFrame _ | crcError _ _ => .malformedPdu
  | addressError _ | frameTooLarge _ => .invalidArgument

def message : LinkError → String
  | invalidFrame fault => "invalid frame: " ++ fault.message
  | crcError expected actual =>
    "CRC check failed: expected 0x" ++ hexWord expected ++ ", got 0x" ++ hexWord actual
  | addressError fault => "address error: " ++ fault.message
  | frameTooLarge length => s!"frame payload of {length} bytes is too large"

end LinkError

/-- Where on a link a frame goes. -/
inductive LinkDestination where
  /-- One station. -/
  | unicast (mac : Octets)
  /-- Every station on the link. -/
  | broadcast
  deriving DecidableEq, Repr

namespace LinkDestination

/-- The destination with a MAC address; an empty one stands for every station. -/
def ofMac (mac : Octets) : LinkDestination := if mac.isEmpty then broadcast else unicast mac

/-- The MAC address of the destination, if it is one station. -/
def mac? : LinkDestination → Option Octets
  | unicast mac => some mac
  | broadcast => none

/-- The destination in log lines. -/
def text : LinkDestination → String
  | unicast mac => Octets.hex mac
  | broadcast => "broadcast"

end LinkDestination

end BACnet
