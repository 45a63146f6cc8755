import BACnet.Device.Event
import BACnet.Peer.Directory
import BACnet.Routing.Traffic
import BACnet.Transaction.Live

/-!
# Devices

A device joins a router, the transactions and what is known about other devices. All of them share
one queue of timers. A device does nothing by itself: it reacts to frames, to requests of the
application, and to being polled when a timer is due.

An `Activity` is a device at work, with the events of its work so far.
-/

namespace BACnet

/-- A device, or a router with a device in it. -/
structure Device where
  config : Config
  router : Router
  transactions : Transactions
  timers : TimerQueue TimerEvent
  peers : PeerDirectory
  /-- Whether the device may communicate. -/
  communication : Communication
  /-- The timer that allows communication again. -/
  communicationTimer : Option TimerHandle
  deriving DecidableEq, Repr

namespace Device

/-- A device that has done nothing yet. -/
def start (config : Config) : Device where
  config := config
  router := .new config.ports config.router
  transactions := .new config
  timers := .empty
  peers := .empty
  communication := .enable
  communicationTimer := none

/-- A device with this set-up, if it can work. -/
def new (config : Config) : Except DeviceError Device :=
  match config.validate with
  | .ok () => .ok (start config)
  | .error error => .error (.config error)

/-- When the device is to be polled next. -/
def nextDeadline? (device : Device) : Option Nat := device.timers.nextDeadline?

end Device

/-- A device at work: its state, and what has happened so far. -/
structure Activity where
  device : Device
  events : List DeviceEvent
  deriving DecidableEq, Repr

namespace Activity

/-- A device at which nothing has happened. -/
def start (device : Device) : Activity := ⟨device, []⟩

/-- Something happens. -/
def record (activity : Activity) (event : DeviceEvent) : Activity :=
  { activity with events := activity.events ++ [event] }

/-- Takes over a router and its timers. -/
def withRouter (activity : Activity) (router : Router) (timers : TimerQueue TimerEvent) :
    Activity :=
  { activity with device := { activity.device with router, timers } }

/-- Takes over transactions and their timers. -/
def withTransactions (activity : Activity) (step : TransactionStep) : Activity :=
  { activity with
    device := { activity.device with transactions := step.transactions, timers := step.timers } }

/-! ## Sending -/

/-- Hands a message to a link. A message that has no encoding is not sent. -/
def transmit (activity : Activity) (environment : Environment) (transmission : Transmission) :
    Activity :=
  match transmission.npdu.encode with
  | .error _ => activity
  | .ok npdu =>
    let frame : Frame := ⟨transmission.port, transmission.destination, npdu⟩
    let sent := activity.record (.frame frame)
    match environment.refusal frame with
    | none => sent
    | some error => sent.record (.transmitFailed transmission.port error)

/-- Sends a message of this device. -/
def sendApdu (activity : Activity) (environment : Environment) (now : Nat) (peer : Address)
    (apdu : Apdu) : Except NetworkError Unit × Activity :=
  let message : Routing.Outgoing := ⟨.apdu apdu.encode, apdu.type = .confirmedRequest, .normal⟩
  let (sent, router, timers) :=
    Routing.send activity.device.router activity.device.timers now peer message
  let routed := activity.withRouter router timers
  match sent with
  | .error error => (.error error, routed)
  | .ok transmissions => (.ok (), transmissions.foldl (·.transmit environment ·) routed)

/-- Does what the router wants done on the links. -/
def routerOutput (activity : Activity) (environment : Environment) : RouterOutput → Activity
  | .transmit transmission => activity.transmit environment transmission
  | .failure error => activity.record (.routingFailure error)
  | .deliver _ _ _ _ => activity

end Activity

end BACnet
