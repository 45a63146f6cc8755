import BACnet.Device.Basic

/-!
# Falling silent

A device can be told to be silent, for some minutes or until further notice. It then takes only the
messages by which it can be found and be told to speak again. The request may need a password; one
that is refused changes nothing.
-/

namespace BACnet

namespace Device

/-- Whether the device takes a message in spite of being silent. -/
def isEssential : Apdu → Bool
  | .confirmedRequest request =>
    request.service = ConfirmedService.deviceCommunicationControl.code ∨
      request.service = ConfirmedService.reinitializeDevice.code
  | .unconfirmedRequest service _ => service = UnconfirmedService.whoIs.code
  | _ => false

/-- Whether the device takes a message. -/
def accepts (device : Device) (apdu : Apdu) : Bool :=
  device.communication ≠ .disable || isEssential apdu

/-- Whether the device sends a message of a transaction: a silent device makes no requests. -/
def sends (device : Device) (apdu : Apdu) : Bool :=
  device.communication ≠ .disable || apdu.type ≠ .confirmedRequest

/-- Whether a password opens the way to silence. -/
def admits (device : Device) (password : Option CharacterString) : Bool :=
  match device.config.password with
  | none => true
  | some expected => password.map (·.text) = some expected

/-- The timers after a request to be silent, and the one that ends the silence. -/
def scheduleSpeech (timers : TimerQueue TimerEvent) (now : Nat) (state : Communication)
    (minutes : Option UInt16) : Option TimerHandle × TimerQueue TimerEvent :=
  match state, minutes with
  | .enable, _ => (none, timers)
  | _, none => (none, timers)
  | _, some minutes =>
    let (timer, timers) :=
      timers.schedule (now + nanosOfSeconds (minutes.toNat * 60) 0) .communicationControl
    (some timer, timers)

end Device

namespace Activity

/-- Allows or forbids communication. What was said before about its end counts no more. -/
def setCommunication (activity : Activity) (now : Nat) (state : Communication)
    (minutes : Option UInt16) : Activity :=
  let device := activity.device
  let (communicationTimer, timers) :=
    Device.scheduleSpeech (device.timers.cancel? device.communicationTimer) now state minutes
  let changed :=
    { activity with
      device := { device with timers, communicationTimer, communication := state } }
  if device.communication = state then changed else changed.record (.communicationControl state)

variable [TextCodec]

/-- Answers a request to be silent. -/
def controlCommunication (activity : Activity) (now : Nat) (parameters : Octets) :
    Outcome × Activity :=
  match CommunicationControl.decode parameters with
  | .error _ => (.error (.reject .invalidParameterDataType), activity)
  | .ok request =>
    if activity.device.admits request.password then
      (.ok .simple, activity.setCommunication now request.state request.minutes)
    else (.error (.error .security .passwordFailure), activity)

end Activity

end BACnet
