import BACnet.Device.Traffic

/-!
# Devices that run by themselves

A running device has a clock and polls itself whenever one of its timers is due. It takes commands
until it is stopped; a stopped device refuses all of them, and its timers do not run out any more.
-/

namespace BACnet

/-- A device with its own clock. -/
structure RunningDevice where
  device : Device
  now : Nat
  stopped : Bool
  deriving DecidableEq, Repr

namespace RunningDevice

/-- A device that has just been started. -/
def start (device : Device) : RunningDevice := ⟨device, 0, false⟩

variable [TextCodec]

/-- Polls the device at every deadline up to a point in time, at most `limit` times, and tells what
happens. -/
def pollUntil (environment : Environment) (time : Nat) :
    (limit : Nat) → RunningDevice → List DeviceEvent × RunningDevice
  | 0, running => ([], running)
  | limit + 1, running =>
    match running.device.nextDeadline? with
    | none => ([], running)
    | some deadline =>
      if time < deadline then ([], running)
      else
        let now := max running.now deadline
        let (_, polled) := running.device.poll environment now
        let (events, finished) :=
          pollUntil environment time limit { running with device := polled.device, now }
        (polled.events ++ events, finished)

/-- Lets the clock run up to a point in time. The spans of the timers are whole milliseconds, so
that there are no more deadlines than milliseconds. -/
def runUntil (running : RunningDevice) (environment : Environment) (time : Nat) :
    List DeviceEvent × RunningDevice :=
  if running.stopped then ([], { running with now := time })
  else
    let limit := millisOfNanos (time - running.now) + 2
    let (events, finished) := pollUntil environment time limit running
    (events, { finished with now := time })

/-- Lets the clock run for a span. -/
def sleep (running : RunningDevice) (environment : Environment) (span : Nat) :
    List DeviceEvent × RunningDevice :=
  running.runUntil environment (running.now + span)

/-- Has the device do something, unless it has been stopped. Timers that are due thereafter run out
at once. -/
def perform (running : RunningDevice) (environment : Environment) (command : DeviceCommand) :
    Except DeviceError (Option UInt8) × List DeviceEvent × RunningDevice :=
  if running.stopped then (.error (.transport .closed), [], running)
  else
    let (answer, activity) := running.device.perform environment running.now command
    let (events, settled) :=
      { running with device := activity.device }.runUntil environment running.now
    (answer, activity.events ++ events, settled)

/-- Stops the device, unless it has been stopped already. -/
def stop (running : RunningDevice) :
    Except DeviceError Unit × List DeviceEvent × RunningDevice :=
  if running.stopped then (.error (.transport .closed), [], running)
  else (.ok (), [], { running with stopped := true })

end RunningDevice

end BACnet
