import BACnet.Device.Communication

/-!
# Serving transactions

What the transactions of a device want done: messages are sent, requests are given to the
application, and outcomes are reported to it. If the application answers a request at once, the
answer is sent after all else that the transactions want at that time.
-/

namespace BACnet

namespace Activity

/-- Sends a message of a transaction, or reports that it cannot be delivered. -/
def sendForTransaction (activity : Activity) (environment : Environment) (now : Nat)
    (peer : Address) (apdu : Apdu) : Activity :=
  if activity.device.sends apdu then
    match activity.sendApdu environment now peer apdu with
    | (.ok (), sent) => sent
    | (.error error, failed) => failed.record (.routingFailure error)
  else activity

variable [TextCodec]

/-- The answer to a request, if there is one at once. The device itself answers requests for
services it does not know, and those to be silent. -/
def outcomeOf (activity : Activity) (environment : Environment) (now : Nat) (peer : Address)
    (invokeId service : UInt8) (parameters : Octets) : Option Outcome × Activity :=
  match ConfirmedService.ofCode? service with
  | none => (some (.error (.reject .unrecognizedService)), activity)
  | some .deviceCommunicationControl =>
    let (outcome, changed) := activity.controlCommunication now parameters
    (some outcome, changed)
  | some service =>
    let request := ServiceRequest.confirmed invokeId service parameters
    (environment.answer request peer, activity.record (.request request peer))

/-- Serves a request: what its transaction wants done with the answer, if there is one at once. -/
def serve (activity : Activity) (environment : Environment) (now : Nat) (peer : Address)
    (invokeId service : UInt8) (parameters : Octets) : List TransactionAction × Activity :=
  match activity.outcomeOf environment now peer invokeId service parameters with
  | (none, served) => ([], served)
  | (some outcome, served) =>
    match served.device.transactions.respond served.device.timers now peer invokeId outcome with
    | .error _ => ([], served)
    | .ok step => (step.actions, served.withTransactions step)

/-- Does what a transaction wants done: what is to be done later because of it. -/
def perform (activity : Activity) (environment : Environment) (now : Nat)
    (action : TransactionAction) : List TransactionAction × Activity :=
  match action.effect with
  | .send apdu => ([], activity.sendForTransaction environment now action.peer apdu)
  | .indicate service parameters =>
    activity.serve environment now action.peer action.invokeId service parameters
  | .confirm outcome => ([], activity.record (.confirmation action.invokeId action.peer outcome))

/-- Does what transactions want done, one after the other: what is to be done later because of it.
-/
def performAll (activity : Activity) (environment : Environment) (now : Nat) :
    List TransactionAction → List TransactionAction × Activity
  | [] => ([], activity)
  | action :: rest =>
    let (later, performed) := activity.perform environment now action
    let (more, finished) := performed.performAll environment now rest
    (later ++ more, finished)

/-- Takes over a step of the transactions and does what they want done. Answers come last; as they
contain no requests, nothing is left to be done after them. -/
def carryOut (activity : Activity) (environment : Environment) (now : Nat)
    (step : TransactionStep) : Activity :=
  let (later, performed) :=
    (activity.withTransactions step).performAll environment now step.actions
  (performed.performAll environment now later).2

end Activity

end BACnet
