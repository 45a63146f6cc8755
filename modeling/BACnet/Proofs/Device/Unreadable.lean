import BACnet.Proofs.Device.Control
import BACnet.Text.Chart

/-!
# Frames that cannot be read

What a device cannot read it reports, and does nothing else with it. Of a frame that is no network
message nothing is left but the report. If the network message can be read and the message for the
device in it cannot, then the router has done its part, and all else in the device is as it was
(`Device.receive_of_unreadable`).
-/

namespace BACnet

/-! ## Faults -/

/-- Why the message for a device cannot be read: it is no application message, or it is the
announcement of a device in parameters that cannot be read. -/
def Device.fault? [TextCodec] (data : Octets) : Option DeviceError :=
  match Apdu.decode data with
  | .error error => some (.apdu error)
  | .ok (.unconfirmedRequest service parameters) =>
    match UnconfirmedService.ofCode? service, IAm.decode parameters with
    | some .iAm, .error error => some (.data error)
    | _, _ => none
  | .ok _ => none

/-- Whether the device notices a fault. A device that is silent passes over announcements, and so
over faults in their parameters. -/
def Device.notices (device : Device) : DeviceError → Bool
  | .data _ => device.communication ≠ .disable
  | _ => true

/-- Whether an event is the router's doing: a frame is sent, cannot be, or has no route. -/
def DeviceEvent.isTraffic : DeviceEvent → Bool
  | frame _ | transmitFailed _ _ | routingFailure _ => true
  | _ => false

/-- All but the router is as it was: the transactions, what is known of others and how far the
device may communicate, and all timers that do not belong to the router. -/
structure Device.SameBesideRouter (before after : Device) : Prop where
  config : after.config = before.config
  transactions : after.transactions = before.transactions
  peers : after.peers = before.peers
  communication : after.communication = before.communication
  communicationTimer : after.communicationTimer = before.communicationTimer
  timers : ∀ event : TimerEvent, event.isResolution = false →
    after.timers.handlesOf event = before.timers.handlesOf event

namespace Activity

variable {environment : Environment} {now : Nat} {arrival : Arrival}

theorem filter_transmit (activity : Activity) (environment : Environment)
    (transmission : Transmission) :
    (activity.transmit environment transmission).events.filter (!·.isTraffic) =
      activity.events.filter (!·.isTraffic) := by
  unfold transmit
  split
  · rfl
  · dsimp only
    split <;> simp [record, DeviceEvent.isTraffic]

/-- The router adds nothing but traffic to what has happened. -/
theorem filter_foldl_routerOutput (activity : Activity) (environment : Environment)
    (outputs : List RouterOutput) :
    (outputs.foldl (·.routerOutput environment ·) activity).events.filter (!·.isTraffic) =
      activity.events.filter (!·.isTraffic) := by
  induction outputs generalizing activity with
  | nil => rfl
  | cons first rest ih =>
    rw [List.foldl_cons, ih]
    cases first with
    | transmit sent => exact filter_transmit activity environment sent
    | failure error => simp [routerOutput, record, DeviceEvent.isTraffic]
    | deliver source data expectingReply priority => rfl

variable [TextCodec]

/-- A message that cannot be read is reported if its fault is noticed, and means nothing else. -/
theorem deliver_of_fault? (activity : Activity) {source : Address} {data : Octets}
    {error : DeviceError} (fault : Device.fault? data = some error) :
    activity.deliver environment now arrival source data =
      if activity.device.notices error then
        activity.record (.decodeError arrival.port arrival.mac error)
      else activity := by
  unfold Device.fault? at fault
  unfold deliver
  split at fault
  · next unread =>
    cases fault
    rw [unread]
    rfl
  · next service parameters read =>
    split at fault
    · next unreadable names unread =>
      cases fault
      have announces : service ≠ UnconfirmedService.whoIs.code := by
        rintro rfl
        cases names
      have accepts : activity.device.accepts (.unconfirmedRequest service parameters) =
          decide (activity.device.communication ≠ .disable) := by
        simp [Device.accepts, Device.isEssential, announces]
      have reports : activity.receiveUnconfirmed arrival source service parameters =
          activity.record (.decodeError arrival.port arrival.mac (.data unreadable)) := by
        unfold receiveUnconfirmed
        rw [names, unread]
      rw [read]
      dsimp only
      rw [accepts, reports]
      rfl
    · cases fault
  · cases fault

end Activity

namespace Device

variable {config : Config} {device : Device}

theorem sameBesideRouter_routed (timed : device.Timed config) (now : Nat) (arrival : Arrival)
    (npdu : Npdu) : device.SameBesideRouter (device.routed now arrival npdu) where
  config := rfl
  transactions := rfl
  peers := rfl
  communication := rfl
  communicationTimer := rfl
  timers event foreign :=
    (@Relay.keepsOthers_receive device.relay timed.router now arrival npdu).handlesOf event
      (Bool.not_eq_true _ ▸ foreign)

section

variable [TextCodec]

/-- The router does its part with a network message whose content the device cannot read; the fault
is reported if it is noticed. -/
theorem receive_of_fault? (timed : device.Timed config) (environment : Environment) (now : Nat)
    (arrival : Arrival) {frame : Octets} {npdu : Npdu} (decoded : Npdu.decode frame = .ok npdu)
    {source : Address} {data : Octets}
    (delivered : (source, data) ∈
      Routing.deliveries (device.relay.step now (.receive arrival npdu)).outputs)
    {error : DeviceError} (fault : fault? data = some error) :
    device.SameBesideRouter (device.receive environment now arrival frame).device ∧
      (device.receive environment now arrival frame).events.filter (!·.isTraffic) =
        if device.notices error then [.decodeError arrival.port arrival.mac error] else [] := by
  have result : device.receive environment now arrival frame =
      (device.relay.step now (.receive arrival npdu)).outputs.foldl
        (·.arrivalOutput environment now arrival ·)
        (Activity.start (device.routed now arrival npdu)) := by
    rw [receive, decoded]
    rfl
  obtain none | ⟨other, -, one⟩ :=
    Routing.hands_receive (.start device.router device.timers) now arrival npdu
  · change Routing.deliveries (device.relay.step now (.receive arrival npdu)).outputs = [] at none
    rw [none] at delivered
    cases delivered
  · change Routing.deliveries (device.relay.step now (.receive arrival npdu)).outputs =
      [(device.router.deliverySource arrival npdu, other)] at one
    rw [one, List.mem_singleton] at delivered
    cases delivered
    obtain ⟨before, expectingReply, priority, after, outputs, ahead, behind⟩ :=
      Routing.exists_split_of_deliveries one
    rw [result, outputs, List.foldl_append, List.foldl_cons,
      Activity.foldl_arrivalOutput_of_none _ ahead, Activity.foldl_arrivalOutput_of_none _ behind]
    dsimp only [Activity.arrivalOutput]
    rw [Activity.deliver_of_fault? _ fault, Activity.device_foldl_routerOutput,
      Activity.filter_foldl_routerOutput]
    have same := Activity.device_foldl_routerOutput
      (Activity.start (device.routed now arrival npdu)) environment before
    have quiet := Activity.filter_foldl_routerOutput
      (Activity.start (device.routed now arrival npdu)) environment before
    generalize before.foldl (·.routerOutput environment ·)
      (Activity.start (device.routed now arrival npdu)) = between at same quiet ⊢
    have notices : between.device.notices error = device.notices error := by
      rw [same]
      cases error <;> rfl
    rw [notices]
    have routed : device.SameBesideRouter between.device :=
      same ▸ sameBesideRouter_routed timed now arrival npdu
    split
    · refine ⟨routed, ?_⟩
      rw [Activity.record, List.filter_append, quiet]
      rfl
    · exact ⟨routed, quiet⟩

/-- A frame that is no network message is reported, once, and nothing else happens, whatever the
state that the device has reached. If there is a message for the device in the frame that it cannot
read, then all but the router stays as it was, and beside the traffic of the router nothing happens
but the report: the application is told nothing else, and is not asked for anything. -/
theorem receive_of_unreadable (config : Config) (turns : List (Environment × Nat × DeviceTurn))
    (environment : Environment) (now : Nat) (arrival : Arrival) (frame : Octets) :
    let device := (start config).run turns
    let received := device.receive environment now arrival frame
    (∀ error, Npdu.decode frame = .error error →
      received = ⟨device, [.decodeError arrival.port arrival.mac (.network error)]⟩) ∧
    ∀ npdu source data error, Npdu.decode frame = .ok npdu →
      (source, data) ∈
        Routing.deliveries (device.relay.step now (.receive arrival npdu)).outputs →
      fault? data = some error →
      device.SameBesideRouter received.device ∧
        received.events.filter (!·.isTraffic) =
          if device.notices error then [.decodeError arrival.port arrival.mac error] else [] := by
  intro device received
  refine ⟨fun error unread => ?_, fun npdu source data error decoded delivered fault => ?_⟩
  · show device.receive environment now arrival frame = _
    rw [receive, unread]
    rfl
  · exact receive_of_fault? (timed_run (timed_start config) turns) environment now arrival decoded
      delivered fault

end

open scoped Chart

/-- A device that waits for an answer hears an announcement from network 7 that cannot be read. -/
theorem receive_of_unreadable_announcement :
    let environment : Environment := ⟨fun _ => none, fun _ _ => none⟩
    let device := (start .standard).run
      [(environment, 0, .command (.send (.ofMac [9]) (.confirmed .readProperty [])))]
    let received := device.receive environment 5 ⟨primaryPort, [3]⟩ [1, 8, 0, 7, 1, 4, 16, 0, 255]
    device.SameBesideRouter received.device ∧
      received.events.filter (!·.isTraffic) =
        [.decodeError primaryPort [3] (.data (.unexpectedEndOfData 2 1))] :=
  (receive_of_unreadable .standard _ _ 5 _ _).2
    ⟨.normal, false, none, some ⟨7, [4]⟩, 255, .apdu [16, 0, 255]⟩ ⟨7, [4]⟩ [16, 0, 255]
    _ rfl (List.mem_singleton_self _) rfl

end Device

end BACnet
