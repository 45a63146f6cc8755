/-!
# Kinds of failure

Every layer has errors of its own. An `ErrorKind` is the coarse class of such an error, by which a
caller decides whether to drop a frame, to try again or to tell the operator.
-/

namespace BACnet

/-- What a failure means to the caller, whichever layer it comes from. -/
inductive ErrorKind where
  /-- A message is cut short or has an impossible structure. -/
  | malformedPdu
  /-- The type of an application message lies outside the defined range. -/
  | unsupportedPduType
  /-- A service choice is not implemented. -/
  | unsupportedService
  /-- A transaction gave up after its retries. -/
  | timeoutAbort
  /-- No route exists, the hop count ran out, or a router refused the message. -/
  | routingFailure
  /-- A segment arrived out of order. -/
  | sequenceViolation
  /-- A message needs segmentation that one of the two sides cannot do. -/
  | segmentation
  /-- A bounded table or queue is full. -/
  | resource
  /-- Communication has been switched off by a remote request. -/
  | communicationDisabled
  /-- The caller passed a value that cannot be used. -/
  | invalidArgument
  /-- The configuration is not valid. -/
  | configuration
  /-- The link layer refused a frame. -/
  | transport
  deriving DecidableEq, Repr

end BACnet
