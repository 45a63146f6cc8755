import BACnet.Transaction.Key

/-!
# What a device waits for
-/

namespace BACnet

/-- What a timer of a device is for. -/
inductive TimerEvent where
  /-- A transaction has waited long enough. -/
  | transaction (key : TransactionKey)
  /-- No router to the network has answered. -/
  | routeResolution (network : UInt16)
  /-- Communication is allowed again. -/
  | communicationControl
  deriving DecidableEq, Repr

end BACnet
