import BACnet.Proofs.Device.SilentTurns
import BACnet.Text.Chart

/-!
# What a silent device says

A silent device announces itself and answers the requests that are served in silence. It asks for
nothing, but it goes on with the exchanges that were going on when it fell silent: it answers, sends
segments again, and gives up. Messages that were waiting for a route leave it when the route is
found, its own requests among them (`Device.messages_of_silenced`).
-/

namespace BACnet

namespace Device

section

variable [TextCodec]

/-- As long as a device is silent, the application messages that leave it are those that pass, those
that were waiting at first, and those that it may say. -/
theorem messages_of_silenced (config : Config) (past : List (Environment × Nat × DeviceTurn))
    {more : List (Environment × Nat × DeviceTurn)}
    (silenced : ((start config).run past).Silenced more) (environment : Environment) (now : Nat)
    (turn : DeviceTurn) :
    let first := (start config).run past
    let last := first.run more
    ∀ frame, .frame frame ∈
        DeviceEvent.whileSilent last.communication (last.act environment now turn).events →
      frame.Bears (first.MayLeave (more ++ [(environment, now, turn)])) := by
  intro first last frame sent
  have sustains := sustains_of_silenced config past silenced environment now turn
  exact (course_act (meets_last _ more environment now turn) sustains environment).heeds.events _
    sent

end

open scoped Chart

/-- A device with one link that knows the number of its network. -/
def numbered : Config := { Config.standard with ports := [⟨some 1, none⟩] }

/-- The device asks a station on its link, and one on network 5 to which it knows no route, and a
third one asks it twice. -/
def busy : List (Environment × Nat × DeviceTurn) :=
  [(patient, 0, .command (.send (.ofMac [21]) (.confirmed .readProperty []))),
    (patient, 0, .command (.send ⟨5, [14]⟩ (.confirmed .readProperty []))),
    (patient, 0, hearing 20 [1, 4, 0, 5, 5, 12]), (patient, 0, hearing 20 [1, 4, 0, 5, 6, 12])]

/-- The application answers one of these requests. -/
def answers : DeviceTurn := .command (.respond (.ofMac [20]) 6 (.ok .simple))

/-- The frames and requests of a turn after the device has fallen silent. -/
def silentTraffic (now : Nat) (turn : DeviceTurn) : List DeviceEvent :=
  let last := ((start numbered).run busy).run hushed
  (DeviceEvent.whileSilent last.communication (last.act patient now turn).events).filter
    fun event => !event.isNote

/-- The answer may leave the device, as the request was going on when the device fell silent. -/
theorem messages_of_silenced_answer :
    ((start numbered).run busy).Silenced hushed ∧
      Frame.Bears (((start numbered).run busy).MayLeave (hushed ++ [(patient, 0, answers)]))
        ⟨0, .unicast [20], [1, 0, 0x20, 6, 12]⟩ := by
  have silenced : ((start numbered).run busy).Silenced hushed := ⟨by decide +kernel, trivial⟩
  refine ⟨silenced, messages_of_silenced numbered busy silenced patient 0 answers _ ?_⟩
  decide +kernel

/-- A silent device answers a request that it was given before. Its own request leaves it when it
hears of a router to the network. And it tells others that it gives up if its application does so
with a request, or has not answered one in time. -/
theorem exists_message_of_silenced :
    numbered.validate = .ok () ∧
      (((start numbered).run busy).run hushed).communication = .disable ∧
      silentTraffic 0 answers = [.frame ⟨0, .unicast [20], [1, 0, 0x20, 6, 12]⟩] ∧
      silentTraffic 0 (hearing 21 [1, 0x80, 1, 0, 5]) =
        [.frame ⟨0, .unicast [21], [1, 0x24, 0, 5, 1, 14, 255, 0, 20, 1, 12]⟩] ∧
      silentTraffic 0 (.command (.abort (.ofMac [21]) 1 ⟨0⟩)) =
        [.frame ⟨0, .unicast [21], [1, 0, 0x70, 1, 0]⟩] ∧
      silentTraffic 3000000000 .poll =
        [.frame ⟨0, .unicast [20], [1, 0, 0x71, 5, 8]⟩,
          .frame ⟨0, .unicast [20], [1, 0, 0x71, 6, 8]⟩] := by
  decide +kernel

end Device

end BACnet
