import BACnet.Device.Service

/-!
# What a device reacts to

* `Device.receive` takes a frame from a link.
* `Device.send`, `Device.respond` and `Device.abort` do what the application asks for.
* `Device.perform` does any of these, given as a `DeviceCommand`.
* `Device.poll` handles the timers that are due.

A frame that cannot be read is reported and changes nothing else.
-/

namespace BACnet

variable [TextCodec]

namespace Activity

/-! ## Messages -/

/-- Takes an unconfirmed request. An I-Am is noted before the application sees it; a request for a
service that is not known is passed over, and so is whatever the application answers. -/
def receiveUnconfirmed (activity : Activity) (arrival : Arrival) (source : Address)
    (service : UInt8) (parameters : Octets) : Activity :=
  let give (activity : Activity) (service : UnconfirmedService) : Activity :=
    activity.record (.request (.unconfirmed service parameters) source)
  match UnconfirmedService.ofCode? service with
  | none => activity
  | some .iAm =>
    match IAm.decode parameters with
    | .error error => activity.record (.decodeError arrival.port arrival.mac (.data error))
    | .ok announcement =>
      let peers := activity.device.peers.learnIAm source announcement
      give { activity with device := { activity.device with peers } } .iAm
  | some service => give activity service

/-- Gives a message to the transactions. A request tells what its sender accepts. -/
def receiveForTransaction (activity : Activity) (environment : Environment) (now : Nat)
    (source : Address) (apdu : Apdu) : Activity :=
  let device := activity.device
  let noted := match apdu with
    | .confirmedRequest request =>
      { activity with device := { device with peers := device.peers.learnRequest source request } }
    | _ => activity
  noted.carryOut environment now (device.transactions.receive device.timers now source apdu)

/-- Takes an application message that is meant for this device. -/
def deliver (activity : Activity) (environment : Environment) (now : Nat) (arrival : Arrival)
    (source : Address) (data : Octets) : Activity :=
  match Apdu.decode data with
  | .error error => activity.record (.decodeError arrival.port arrival.mac (.apdu error))
  | .ok apdu =>
    if activity.device.accepts apdu then
      match apdu with
      | .unconfirmedRequest service parameters =>
        activity.receiveUnconfirmed arrival source service parameters
      | _ => activity.receiveForTransaction environment now source apdu
    else activity

/-- Does what the router wants done with a message that has arrived. -/
def arrivalOutput (activity : Activity) (environment : Environment) (now : Nat)
    (arrival : Arrival) : RouterOutput → Activity
  | .deliver source data _ _ => activity.deliver environment now arrival source data
  | output => activity.routerOutput environment output

/-! ## Time -/

/-- Handles a timer that has run out. -/
def expire (activity : Activity) (environment : Environment) (now : Nat) (timer : TimerHandle) :
    TimerEvent → Activity
  | .transaction key =>
    activity.carryOut environment now
      (activity.device.transactions.timeout activity.device.timers now timer key)
  | .routeResolution network =>
    let (outputs, router) := activity.device.router.giveUp network
    outputs.foldl (·.routerOutput environment ·)
      (activity.withRouter router activity.device.timers)
  | .communicationControl =>
    if activity.device.communicationTimer = some timer then
      let silent := { activity with device := { activity.device with communicationTimer := none } }
      silent.setCommunication now .enable none
    else activity

/-- Handles the timers that are due, at most `limit` of them, and counts them. -/
def expireDue (environment : Environment) (now : Nat) : (limit : Nat) → Activity → Nat × Activity
  | 0, activity => (0, activity)
  | limit + 1, activity =>
    match activity.device.timers.pop? now with
    | none => (0, activity)
    | some (timer, event, timers) =>
      let popped := { activity with device := { activity.device with timers } }
      let (count, finished) :=
        expireDue environment now limit (popped.expire environment now timer event)
      (count + 1, finished)

end Activity

namespace Device

/-- Takes a frame that has arrived on a link. -/
def receive (device : Device) (environment : Environment) (now : Nat) (arrival : Arrival)
    (frame : Octets) : Activity :=
  match Npdu.decode frame with
  | .error error =>
    (Activity.start device).record (.decodeError arrival.port arrival.mac (.network error))
  | .ok npdu =>
    let (_, routed) := (Routing.start device.router device.timers).receive now arrival npdu
    routed.outputs.foldl (·.arrivalOutput environment now arrival ·)
      ((Activity.start device).withRouter routed.router routed.timers)

/-- Sends a confirmed request; the answer is its invoke ID. -/
def sendConfirmed (device : Device) (environment : Environment) (now : Nat) (destination : Address)
    (service : ConfirmedService) (parameters : Octets) :
    Except DeviceError (Option UInt8) × Activity :=
  if device.communication ≠ .enable then (.error .communicationDisabled, .start device)
  else
    let (invokeId, step) :=
      device.transactions.request device.timers now destination service.code parameters
        (device.peers.find? destination)
    match invokeId with
    | .error error => (.error (.transaction error), (Activity.start device).withTransactions step)
    | .ok invokeId => (.ok (some invokeId), (Activity.start device).carryOut environment now step)

/-- Sends an unconfirmed request. A silent device can still announce itself. -/
def sendUnconfirmed (device : Device) (environment : Environment) (now : Nat)
    (destination : Address) (service : UnconfirmedService) (parameters : Octets) :
    Except DeviceError (Option UInt8) × Activity :=
  if device.communication ≠ .enable ∧ service ≠ .iAm then
    (.error .communicationDisabled, .start device)
  else
    match (Activity.start device).sendApdu environment now destination
      (.unconfirmedRequest service.code parameters) with
    | (.error error, failed) => (.error (.network error), failed)
    | (.ok (), sent) => (.ok none, sent)

/-- Sends a request of the application. -/
def send (device : Device) (environment : Environment) (now : Nat) (destination : Address) :
    OutgoingRequest → Except DeviceError (Option UInt8) × Activity
  | .confirmed service parameters =>
    device.sendConfirmed environment now destination service parameters
  | .unconfirmed service parameters =>
    device.sendUnconfirmed environment now destination service parameters

/-- Answers a request on which the application has been working. -/
def respond (device : Device) (environment : Environment) (now : Nat) (peer : Address)
    (invokeId : UInt8) (outcome : Outcome) : Except DeviceError Unit × Activity :=
  match device.transactions.respond device.timers now peer invokeId outcome with
  | .error error => (.error (.transaction error), .start device)
  | .ok step => (.ok (), (Activity.start device).carryOut environment now step)

/-- Gives up a request of the application, if it has no outcome yet. -/
def abort (device : Device) (environment : Environment) (now : Nat) (peer : Address)
    (invokeId : UInt8) (reason : AbortReason) : Activity :=
  (Activity.start device).carryOut environment now
    (device.transactions.abort device.timers now (.client peer invokeId) reason)

end Device

/-- What the links and the application can ask of a device. -/
inductive DeviceCommand where
  | receive (arrival : Arrival) (frame : Octets)
  | send (destination : Address) (request : OutgoingRequest)
  | respond (peer : Address) (invokeId : UInt8) (outcome : Outcome)
  | abort (peer : Address) (invokeId : UInt8) (reason : AbortReason)
  deriving DecidableEq, Repr

namespace Device

/-- Does what it is asked for; only a confirmed request is answered by an invoke ID. -/
def perform (device : Device) (environment : Environment) (now : Nat) :
    DeviceCommand → Except DeviceError (Option UInt8) × Activity
  | .receive arrival frame => (.ok none, device.receive environment now arrival frame)
  | .send destination request => device.send environment now destination request
  | .respond peer invokeId outcome =>
    let (answer, activity) := device.respond environment now peer invokeId outcome
    (answer.map fun () => none, activity)
  | .abort peer invokeId reason => (.ok none, device.abort environment now peer invokeId reason)

/-- Handles the timers that are due, and counts them. No timer that is started in the meantime is
due at once, so those that are in the queue suffice. -/
def poll (device : Device) (environment : Environment) (now : Nat) : Nat × Activity :=
  let (count, finished) :=
    Activity.expireDue environment now device.timers.size (.start device)
  let router := finished.device.router.expireRoutes now
  (count, finished.withRouter router finished.device.timers)

end Device

end BACnet
