import BACnet.Octets
import BACnet.Service.Reason

/-!
# Outcomes

How a confirmed service ends: with an answer, or with one of four kinds of failure.
-/

namespace BACnet

/-- The answer of a confirmed service. -/
inductive ServiceAck where
  /-- The service was carried out. -/
  | simple
  /-- The service was carried out and answers with parameters. -/
  | complex (parameters : Octets)
  deriving DecidableEq, Repr

/-- Why a confirmed service has no answer. -/
inductive ServiceFailure where
  /-- The service failed. -/
  | error (errorClass : ErrorClass) (errorCode : ErrorCode)
  /-- The request was badly formed. -/
  | reject (reason : RejectReason)
  /-- The transaction was ended; `server` tells whether by the side that answers. -/
  | abort (reason : AbortReason) (server : Bool)
  /-- No answer came, after all retries. -/
  | timeout
  deriving DecidableEq, Repr

/-- How a confirmed service ends. -/
abbrev Outcome := Except ServiceFailure ServiceAck

/-- Outcomes can be told apart. -/
instance Outcome.instDecidableEq : DecidableEq Outcome
  | .ok a, .ok b => decidable_of_iff (a = b) (by simp)
  | .error a, .error b => decidable_of_iff (a = b) (by simp)
  | .ok _, .error _ => isFalse (by simp)
  | .error _, .ok _ => isFalse (by simp)

def ServiceFailure.message : ServiceFailure → String
  | error errorClass errorCode => "error " ++ errorClass.name ++ "/" ++ errorCode.name
  | reject reason => "rejected: " ++ reason.name
  | abort reason _ => "aborted: " ++ reason.name
  | timeout => "no response after all retries"

end BACnet
