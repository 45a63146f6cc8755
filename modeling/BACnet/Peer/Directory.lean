import BACnet.Apdu.Basic
import BACnet.Network.Address
import BACnet.Service.IAm
import BACnet.Table

/-!
# What is known about other devices

Devices tell what they accept: in an I-Am they announce it, and in the head of every confirmed
request they repeat part of it. The directory keeps what each address has told.
-/

namespace BACnet

/-- What another device is able to receive. -/
structure Peer where
  deviceNumber : Option UInt32
  maxApduLength : Nat
  segmentation : Segmentation
  /-- The number of segments, if there is a limit that is known. -/
  maxSegments : Option Nat
  vendor : Option UInt16
  deriving DecidableEq, Repr

namespace Peer

/-- The longest message of the protocol. -/
def longestApdu : Nat := 1476

/-- A device that has told nothing. -/
def unknown : Peer := ⟨none, longestApdu, .noSegmentation, none, none⟩

/-- The longest message as the device would encode it. -/
def maxApdu (peer : Peer) : MaxApduSize := .ofSize peer.maxApduLength

/-- The number of segments as the device would encode it. -/
def maxSegmentsCode (peer : Peer) : MaxSegments :=
  match peer.maxSegments with
  | none => .unspecified
  | some count => .ofCount count

/-- What is known after an I-Am. -/
def learnIAm (peer : Peer) (request : IAm) : Peer :=
  { peer with
    deviceNumber := some request.device.number
    maxApduLength := request.maxApduLength.toNat
    segmentation := request.segmentation
    vendor := some request.vendor }

/-- The segmentation of a device that turns out to receive segments. -/
def receiving : Segmentation → Segmentation
  | .both | .transmit => .both
  | .receive | .noSegmentation => .receive

/-- What is known after a confirmed request, whose head tells what its sender accepts. A smaller
length that is known already is kept. -/
def learnRequest (peer : Peer) (request : ConfirmedRequest) : Peer :=
  { peer with
    maxApduLength := min peer.maxApduLength request.maxApdu.size
    maxSegments :=
      if request.maxSegments = .unspecified then peer.maxSegments
      else request.maxSegments.count?
    segmentation :=
      if request.segmentedResponseAccepted then receiving peer.segmentation
      else peer.segmentation }

end Peer

/-- What is known about devices, by their addresses. -/
abbrev PeerDirectory := Table Address Peer

namespace PeerDirectory

/-- Changes what is known about an address. -/
def learn (directory : PeerDirectory) (address : Address) (change : Peer → Peer) :
    PeerDirectory :=
  directory.insert address (change ((directory.find? address).getD .unknown))

/-- Takes note of an I-Am from an address. -/
def learnIAm (directory : PeerDirectory) (address : Address) (request : IAm) : PeerDirectory :=
  directory.learn address (·.learnIAm request)

/-- Takes note of a confirmed request from an address. -/
def learnRequest (directory : PeerDirectory) (address : Address) (request : ConfirmedRequest) :
    PeerDirectory :=
  directory.learn address (·.learnRequest request)

end PeerDirectory

end BACnet
