import BACnet.Proofs.Device.Serving
import BACnet.Proofs.Routing.Replies

/-!
# What a device hears

A frame has at most one message for the device in it. `Device.heard?` is this message, if the device
can read it and takes it. All else that comes of a frame is done by the router
(`Device.receives`).
-/

namespace BACnet

namespace Device

variable [TextCodec]

/-- The message in the octets, if the device can read it and takes it. -/
def taken? (device : Device) (data : Octets) : Option Apdu :=
  (Apdu.decode data).toOption.filter device.accepts

/-- What the device hears when a frame arrives, and from whom. -/
def heard? (device : Device) (now : Nat) (arrival : Arrival) (frame : Octets) :
    Option (Address × Apdu) :=
  match Npdu.decode frame with
  | .error _ => none
  | .ok npdu =>
    match Routing.deliveries (device.relay.step now (.receive arrival npdu)).outputs with
    | [] => none
    | (source, data) :: _ => (device.taken? data).map (source, ·)

/-- Only the state of its silence tells which messages a device takes. -/
theorem taken?_eq {before after : Device} (same : after.communication = before.communication) :
    after.taken? = before.taken? := by
  have accepts : after.accepts = before.accepts := by
    funext apdu
    unfold Device.accepts
    rw [same]
  funext data
  unfold taken?
  rw [accepts]

end Device

/-! ## The message for the device -/

namespace Routing

/-- The message for the device among the outputs. -/
theorem exists_split_of_deliveries {outputs : List RouterOutput} {source : Address} {data : Octets}
    (one : deliveries outputs = [(source, data)]) :
    ∃ before expectingReply priority after,
      outputs = before ++ .deliver source data expectingReply priority :: after ∧
        deliveries before = [] ∧ deliveries after = [] := by
  induction outputs with
  | nil => cases one
  | cons first rest ih =>
    cases first with
    | deliver other octets expectingReply priority =>
      obtain ⟨same, none⟩ := List.cons.inj one
      cases same
      exact ⟨[], expectingReply, priority, rest, rfl, rfl, none⟩
    | transmit sent =>
      obtain ⟨before, expectingReply, priority, after, rfl, ahead, behind⟩ := ih one
      exact ⟨.transmit sent :: before, expectingReply, priority, after, rfl, ahead, behind⟩
    | failure error =>
      obtain ⟨before, expectingReply, priority, after, rfl, ahead, behind⟩ := ih one
      exact ⟨.failure error :: before, expectingReply, priority, after, rfl, ahead, behind⟩

end Routing

namespace Activity

variable {environment : Environment} {now : Nat} {arrival : Arrival}

theorem device_foldl_routerOutput (activity : Activity) (environment : Environment)
    (outputs : List RouterOutput) :
    (outputs.foldl (·.routerOutput environment ·) activity).device = activity.device := by
  induction outputs generalizing activity with
  | nil => rfl
  | cons first rest ih =>
    rw [List.foldl_cons, ih]
    cases first with
    | transmit sent => exact device_transmit activity environment sent
    | failure error => rfl
    | deliver source data expectingReply priority => rfl

variable [TextCodec]

/-- The device takes a message. -/
def take (activity : Activity) (environment : Environment) (now : Nat) (arrival : Arrival)
    (source : Address) (apdu : Apdu) : Activity :=
  match apdu with
  | .unconfirmedRequest service parameters =>
    activity.receiveUnconfirmed arrival source service parameters
  | _ => activity.receiveForTransaction environment now source apdu

/-- A message that the device does not take may be reported, and means nothing else. -/
theorem deliver_cases (activity : Activity) (environment : Environment) (now : Nat)
    (arrival : Arrival) (source : Address) (data : Octets) :
    activity.device.taken? data = none ∧
        (activity.deliver environment now arrival source data = activity ∨
          ∃ error, activity.deliver environment now arrival source data =
            activity.record (.decodeError arrival.port arrival.mac error)) ∨
      ∃ apdu, activity.device.taken? data = some apdu ∧
        activity.deliver environment now arrival source data =
          activity.take environment now arrival source apdu := by
  unfold deliver Device.taken?
  cases Apdu.decode data with
  | error error => exact .inl ⟨rfl, .inr ⟨_, rfl⟩⟩
  | ok apdu =>
    dsimp only
    rw [Except.toOption, Option.filter_some]
    by_cases accepted : activity.device.accepts apdu = true
    · rw [if_pos accepted, if_pos accepted]
      exact .inr ⟨apdu, rfl, rfl⟩
    · rw [if_neg accepted, if_neg accepted]
      exact .inl ⟨rfl, .inl rfl⟩

theorem foldl_arrivalOutput_of_none (activity : Activity) {outputs : List RouterOutput}
    (others : Routing.deliveries outputs = []) :
    outputs.foldl (·.arrivalOutput environment now arrival ·) activity =
      outputs.foldl (·.routerOutput environment ·) activity := by
  induction outputs generalizing activity with
  | nil => rfl
  | cons first rest ih =>
    cases first with
    | deliver source data expectingReply priority => cases others
    | transmit sent => exact ih _ others
    | failure error => exact ih _ others

end Activity

namespace Device

/-- The device after the router has decided about a message that has arrived. -/
def routed (device : Device) (now : Nat) (arrival : Arrival) (npdu : Npdu) : Device :=
  let step := device.relay.step now (.receive arrival npdu)
  { device with router := step.relay.router, timers := step.relay.timers }

variable [TextCodec]

/-- What comes of a frame, and what the device hears of it. -/
inductive Receives (device : Device) (environment : Environment) (now : Nat) (arrival : Arrival)
    (frame : Octets) : Option (Address × Apdu) → Activity → Prop where
  | unreadable {error : NetworkError} (decoded : Npdu.decode frame = .error error) :
    Receives device environment now arrival frame none
      ((Activity.start device).record (.decodeError arrival.port arrival.mac (.network error)))
  | passes {npdu : Npdu} (decoded : Npdu.decode frame = .ok npdu) :
    Receives device environment now arrival frame none
      ((device.relay.step now (.receive arrival npdu)).outputs.foldl (·.routerOutput environment ·)
        (Activity.start (device.routed now arrival npdu)))
  | refuses {npdu : Npdu} (decoded : Npdu.decode frame = .ok npdu)
    {before after : List RouterOutput} {source : Address} {data : Octets} {expectingReply : Bool}
    {priority : NetworkPriority}
    (outputs : (device.relay.step now (.receive arrival npdu)).outputs =
      before ++ .deliver source data expectingReply priority :: after)
    {notes : List DeviceEvent} (quiet : ∀ event ∈ notes, event.isNote = true) :
    Receives device environment now arrival frame none
      (after.foldl (·.routerOutput environment ·)
        (notes.foldl (·.record ·) (before.foldl (·.routerOutput environment ·)
          (Activity.start (device.routed now arrival npdu)))))
  | takes {npdu : Npdu} (decoded : Npdu.decode frame = .ok npdu)
    {before after : List RouterOutput} {source : Address} {data : Octets} {expectingReply : Bool}
    {priority : NetworkPriority} {apdu : Apdu}
    (outputs : (device.relay.step now (.receive arrival npdu)).outputs =
      before ++ .deliver source data expectingReply priority :: after)
    (taken : device.taken? data = some apdu) :
    Receives device environment now arrival frame (some (source, apdu))
      (after.foldl (·.routerOutput environment ·)
        ((before.foldl (·.routerOutput environment ·)
          (Activity.start (device.routed now arrival npdu))).take environment now arrival source
            apdu))

theorem receives (device : Device) (environment : Environment) (now : Nat) (arrival : Arrival)
    (frame : Octets) :
    device.Receives environment now arrival frame (device.heard? now arrival frame)
      (device.receive environment now arrival frame) := by
  cases decoded : Npdu.decode frame with
  | error error =>
    rw [receive, heard?, decoded]
    exact .unreadable decoded
  | ok npdu =>
    have result : device.receive environment now arrival frame =
        (device.relay.step now (.receive arrival npdu)).outputs.foldl
          (·.arrivalOutput environment now arrival ·)
          (Activity.start (device.routed now arrival npdu)) := by
      rw [receive, decoded]
      rfl
    rw [result, heard?, decoded]
    dsimp only
    rcases Routing.hands_receive (.start device.router device.timers) now arrival npdu with
      none | ⟨data, -, one⟩
    · change Routing.deliveries (device.relay.step now (.receive arrival npdu)).outputs = [] at none
      rw [none, Activity.foldl_arrivalOutput_of_none _ none]
      exact .passes decoded
    · change Routing.deliveries (device.relay.step now (.receive arrival npdu)).outputs =
        [(device.router.deliverySource arrival npdu, data)] at one
      obtain ⟨before, expectingReply, priority, after, outputs, ahead, behind⟩ :=
        Routing.exists_split_of_deliveries one
      rw [one, outputs, List.foldl_append, List.foldl_cons,
        Activity.foldl_arrivalOutput_of_none _ ahead,
        Activity.foldl_arrivalOutput_of_none _ behind]
      dsimp only [Activity.arrivalOutput]
      have same := Activity.device_foldl_routerOutput
        (Activity.start (device.routed now arrival npdu)) environment before
      have takes : (before.foldl (·.routerOutput environment ·)
          (Activity.start (device.routed now arrival npdu))).device.taken? data =
            device.taken? data := by
        rw [same]
        exact congrFun (@Device.taken?_eq _ device _ rfl) data
      rcases Activity.deliver_cases (before.foldl (·.routerOutput environment ·)
          (Activity.start (device.routed now arrival npdu))) environment now arrival
          (device.router.deliverySource arrival npdu) data with
        ⟨untaken, ignored | ⟨error, reported⟩⟩ | ⟨apdu, taken, delivered⟩
      · rw [← takes, untaken, ignored]
        exact @Receives.refuses _ device environment now arrival frame npdu decoded before after _ _ _
          _ outputs [] (List.forall_mem_nil _)
      · rw [← takes, untaken, reported]
        exact @Receives.refuses _ device environment now arrival frame npdu decoded before after _ _ _
          _ outputs [_] (List.forall_mem_singleton.mpr rfl)
      · rw [takes] at taken
        rw [taken, delivered]
        exact .takes decoded outputs taken

end Device

end BACnet
