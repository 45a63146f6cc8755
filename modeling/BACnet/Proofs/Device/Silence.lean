import BACnet.Proofs.Device.Control
import BACnet.Proofs.Routing.Accounts

/-!
# What happens while a device is silent

The events of a device tell when it falls silent and when it speaks again, so they tell which of
them happen while it is silent (`DeviceEvent.whileSilent`). For the work on an exchange it matters
whether the device is silent when it begins: if so, the messages of the exchange that it sends are
no requests (`Activity.Serves.heeds`), and if not, it becomes silent only because it obeys a request
to be so.
-/

namespace BACnet

/-! ## Events -/

namespace DeviceEvent

/-- How far the device may communicate after the event. -/
def stateAfter (state : Communication) : DeviceEvent → Communication
  | communicationControl next => next
  | _ => state

/-- The events that happen while the device is silent; before them its state is `state`. -/
def whileSilent (state : Communication) : List DeviceEvent → List DeviceEvent
  | [] => []
  | event :: rest =>
    if state = .disable then event :: whileSilent (stateAfter state event) rest
    else whileSilent (stateAfter state event) rest

theorem whileSilent_append (state : Communication) (first second : List DeviceEvent) :
    whileSilent state (first ++ second) =
      whileSilent state first ++ whileSilent (first.foldl stateAfter state) second := by
  induction first generalizing state with
  | nil => rfl
  | cons event rest ih =>
    rw [List.cons_append, whileSilent, whileSilent, ih]
    split <;> rfl

end DeviceEvent

/-- The frame has a message between routers in it, or a message that is allowed. -/
def Frame.Bears (allowed : PendingNpdu → Prop) (frame : Frame) : Prop :=
  ∃ npdu : Npdu, npdu.encode = .ok frame.npdu ∧
    (npdu.body.isNetwork = false → ∃ message, allowed message ∧ message.npdu.SameContent npdu)

/-- A frame has an allowed message in it, and a request may be given to the application. -/
def DeviceEvent.Fits (allowed : PendingNpdu → Prop) (asked : ServiceRequest → Address → Prop) :
    DeviceEvent → Prop
  | frame sent => sent.Bears allowed
  | request given source => asked given source
  | _ => True

/-- All messages of the application are allowed that say this. -/
def Apdu.AllowedBy (allowed : PendingNpdu → Prop) (apdu : Apdu) : Prop :=
  ∀ message : PendingNpdu, message.arrival = none → message.npdu.body = .apdu apdu.encode →
    allowed message

theorem Apdu.AllowedBy.allows {allowed : PendingNpdu → Prop} {apdu : Apdu}
    (may : apdu.AllowedBy allowed) (relay : Relay) (peer : Address) :
    relay.Allows allowed
      (.send peer ⟨.apdu apdu.encode, apdu.type = .confirmedRequest, .normal⟩) := by
  rintro network message ⟨⟩ -
  exact may _ rfl rfl

/-- The application messages that wait are allowed. -/
def Router.HoldsOnly (allowed : PendingNpdu → Prop) (router : Router) : Prop :=
  ∀ network, ∀ message ∈ router.waits network, message.npdu.body.isNetwork = false →
    allowed message ∧ message.BoundFor network

/-- What the device has done while it was silent is in order. It was in the state `begun` before. -/
structure Activity.Heeds (begun : Communication) (allowed : PendingNpdu → Prop)
    (asked : ServiceRequest → Address → Prop) (activity : Activity) : Prop where
  communication : activity.device.communication =
    activity.events.foldl DeviceEvent.stateAfter begun
  events : ∀ event ∈ DeviceEvent.whileSilent begun activity.events, event.Fits allowed asked

namespace Activity

variable {begun : Communication} {allowed : PendingNpdu → Prop}
  {asked : ServiceRequest → Address → Prop} {activity : Activity}

theorem heeds_start (device : Device) :
    (start device).Heeds device.communication allowed asked :=
  ⟨rfl, List.forall_mem_nil _⟩

theorem Heeds.of_device (heeds : activity.Heeds begun allowed asked) {device : Device}
    (same : device.communication = activity.device.communication) :
    Heeds begun allowed asked { activity with device } :=
  ⟨same.trans heeds.communication, heeds.events⟩

/-- Something happens that may happen while the device is silent, or it is not silent. -/
theorem Heeds.record (heeds : activity.Heeds begun allowed asked) {event : DeviceEvent}
    (same : DeviceEvent.stateAfter activity.device.communication event =
      activity.device.communication)
    (fits : activity.device.communication = .disable → event.Fits allowed asked) :
    (activity.record event).Heeds begun allowed asked := by
  have state := heeds.communication
  refine ⟨?_, ?_⟩
  · rw [Activity.record, List.foldl_append, ← state]
    exact same.symm
  · intro other member
    rw [Activity.record, DeviceEvent.whileSilent_append, ← state] at member
    rcases List.mem_append.mp member with old | new
    · exact heeds.events other old
    · rw [DeviceEvent.whileSilent] at new
      split at new
      · next silent =>
        rw [List.mem_singleton.mp new]
        exact fits silent
      · cases new

theorem Heeds.note (heeds : activity.Heeds begun allowed asked) {event : DeviceEvent}
    (note : event.isNote = true) : (activity.record event).Heeds begun allowed asked := by
  cases event with
  | frame _ | request _ _ | communicationControl _ => cases note
  | confirmation _ _ _ | decodeError _ _ _ | routingFailure _ | transmitFailed _ _ =>
    exact heeds.record rfl fun _ => trivial

/-- The silence begins or ends. -/
theorem Heeds.control (heeds : activity.Heeds begun allowed asked) (state : Communication)
    {device : Device} (changed : device.communication = state) :
    (Activity.record { activity with device } (.communicationControl state)).Heeds begun allowed
      asked := by
  have before := heeds.communication
  refine ⟨?_, ?_⟩
  · rw [Activity.record, List.foldl_append]
    exact changed
  · intro event member
    rw [Activity.record, DeviceEvent.whileSilent_append] at member
    rcases List.mem_append.mp member with old | new
    · exact heeds.events event old
    · rw [DeviceEvent.whileSilent] at new
      split at new
      · rw [List.mem_singleton.mp new]
        trivial
      · cases new

/-! ## Frames -/

theorem heeds_transmit (heeds : activity.Heeds begun allowed asked) (environment : Environment)
    {sent : Transmission}
    (bears : activity.device.communication = .disable → sent.npdu.body.isNetwork = false →
      ∃ message, allowed message ∧ message.npdu.SameContent sent.npdu) :
    (activity.transmit environment sent).Heeds begun allowed asked := by
  unfold transmit
  split
  · exact heeds
  · next npdu encoded =>
    have framed := @Heeds.record _ _ _ _ heeds (.frame ⟨sent.port, sent.destination, npdu⟩) rfl
      fun silent => ⟨sent.npdu, encoded, bears silent⟩
    dsimp only
    split
    · exact framed
    · exact framed.note rfl

theorem heeds_foldl_transmit (heeds : activity.Heeds begun allowed asked)
    (environment : Environment) {transmissions : List Transmission}
    (bear : activity.device.communication = .disable →
      ∀ sent ∈ transmissions, sent.npdu.body.isNetwork = false →
        ∃ message, allowed message ∧ message.npdu.SameContent sent.npdu) :
    (transmissions.foldl (·.transmit environment ·) activity).Heeds begun allowed asked := by
  induction transmissions generalizing activity with
  | nil => exact heeds
  | cons first rest ih =>
    refine ih (heeds_transmit heeds environment fun silent =>
      bear silent first List.mem_cons_self) ?_
    rw [device_transmit]
    exact fun silent sent member => bear silent sent (List.mem_cons_of_mem first member)

theorem heeds_foldl_routerOutput (heeds : activity.Heeds begun allowed asked)
    (environment : Environment) {outputs : List RouterOutput}
    (bear : activity.device.communication = .disable →
      ∀ sent, .transmit sent ∈ outputs → sent.npdu.body.isNetwork = false →
        ∃ message, allowed message ∧ message.npdu.SameContent sent.npdu) :
    (outputs.foldl (·.routerOutput environment ·) activity).Heeds begun allowed asked := by
  induction outputs generalizing activity with
  | nil => exact heeds
  | cons first rest ih =>
    have behind := fun silent sent member => bear silent sent (List.mem_cons_of_mem first member)
    cases first with
    | transmit sent =>
      refine ih (heeds_transmit heeds environment fun silent =>
        bear silent sent List.mem_cons_self) ?_
      rw [show (activity.routerOutput environment (.transmit sent)).device = _ from
        device_transmit activity environment sent]
      exact behind
    | failure error => exact ih (heeds.note rfl) behind
    | deliver source data expectingReply priority => exact ih heeds behind

theorem heeds_sendApdu (heeds : activity.Heeds begun allowed asked) (environment : Environment)
    (now : Nat) (peer : Address) {apdu : Apdu}
    (fine : activity.device.communication = .disable →
      activity.device.router.HoldsOnly allowed ∧ apdu.AllowedBy allowed) :
    (activity.sendApdu environment now peer apdu).2.Heeds begun allowed asked := by
  have routed : ∀ router timers,
      (activity.withRouter router timers).Heeds begun allowed asked :=
    fun router timers => heeds.of_device rfl
  unfold sendApdu
  dsimp only
  split
  · exact routed _ _
  · next transmissions result =>
    refine heeds_foldl_transmit (routed _ _) environment ?_
    intro silent sent member application
    obtain ⟨holds, may⟩ := fine silent
    have leaving : .transmit sent ∈ Relay.told (.ok transmissions) := List.mem_map_of_mem member
    rw [← result] at leaving
    obtain ⟨message, allows, sends⟩ := (@Relay.accounted_step allowed activity.relay holds now _
      (may.allows activity.relay peer)).2 sent leaving application
    exact ⟨message, allows, sends.content⟩

theorem holdsOnly_sendApdu (holds : activity.device.router.HoldsOnly allowed)
    (environment : Environment) (now : Nat) (peer : Address) {apdu : Apdu}
    (may : apdu.AllowedBy allowed) :
    (activity.sendApdu environment now peer apdu).2.device.router.HoldsOnly allowed := by
  rw [device_sendApdu]
  exact (@Relay.accounted_step allowed activity.relay holds now _
    (may.allows activity.relay peer)).1

/-! ## Exchanges -/

theorem heeds_setCommunication (heeds : activity.Heeds begun allowed asked) (now : Nat)
    (state : Communication) (minutes : Option UInt16) :
    (activity.setCommunication now state minutes).Heeds begun allowed asked := by
  unfold setCommunication
  dsimp only
  split
  · next same => exact heeds.of_device same.symm
  · exact heeds.control state rfl

variable {environment : Environment} {now : Nat} {key : TransactionKey} {service : UInt8}
  {heard : Prop} {finished : Activity} {orders : List CommunicationControl}

/-- A device that is silent when it begins the work on an exchange, or that answers, sends no
request in it. -/
theorem Serves.heeds
    (serves : Serves environment now key service heard activity orders finished)
    (guarded : activity.device.communication = .disable ∨ key.side = .server)
    (words : ∀ apdu : Apdu, apdu.BelongsTo key → apdu.type ≠ .confirmedRequest →
      apdu.AllowedBy allowed)
    (asks : heard → key.side = .server → ∀ known parameters,
      known ≠ .deviceCommunicationControl → known.code = service →
        asked (.confirmed key.invokeId known parameters) key.peer)
    (heeds : activity.Heeds begun allowed asked)
    (holds : activity.device.router.HoldsOnly allowed) :
    finished.Heeds begun allowed asked ∧ finished.device.router.HoldsOnly allowed := by
  induction serves with
  | done => exact ⟨heeds, holds⟩
  | notes note _ ih => exact ih guarded (heeds.note note) holds
  | @tells activity finished orders apdu own may _ ih =>
    -- A silent device holds its requests back, and the side that answers has none.
    have answer : apdu.type ≠ .confirmedRequest := by
      rcases guarded with silent | server
      · rw [Device.sends, silent] at may
        exact of_decide_eq_true may
      · intro request
        have side := own.side
        rw [server] at side
        cases apdu with
        | confirmedRequest _ => exact side rfl
        | _ => cases request
    have may := words apdu own answer
    have same : (activity.sendApdu environment now key.peer apdu).2.device.communication =
        activity.device.communication := by
      rw [device_sendApdu]
    rw [← same] at guarded
    exact ih guarded (heeds_sendApdu heeds environment now key.peer fun _ => ⟨holds, may⟩)
      (holdsOnly_sendApdu holds environment now key.peer may)
  | asks given side names other _ ih =>
    exact ih guarded (heeds.record rfl fun _ => asks given side _ _ other names) holds
  | obeys given side _ _ ih =>
    refine ih (.inr side) (heeds_setCommunication heeds now _ _) ?_
    rw [device_setCommunication]
    exact holds
  | answers _ _ _ ih => exact ih guarded (heeds.of_device rfl) holds

/-- A device that is not silent when it begins the work on an exchange, and is not asked to be so in
it, is not silent in between. -/
theorem Serves.heeds_of_speaking
    (serves : Serves environment now key service heard activity orders finished)
    (unasked : orders = []) (speaks : activity.device.communication ≠ .disable)
    (heeds : activity.Heeds begun allowed asked) :
    finished.Heeds begun allowed asked ∧ finished.device.communication ≠ .disable := by
  induction serves with
  | done => exact ⟨heeds, speaks⟩
  | notes note _ ih => exact ih unasked speaks (heeds.note note)
  | tells _ _ _ ih =>
    refine ih unasked ?_ (heeds_sendApdu heeds environment now key.peer fun silent =>
      absurd silent speaks)
    rw [device_sendApdu]
    exact speaks
  | asks _ _ _ _ _ ih =>
    exact ih unasked speaks (heeds.record rfl fun silent => absurd silent speaks)
  | obeys _ _ _ _ _ => cases unasked
  | answers _ _ _ ih => exact ih unasked speaks (heeds.of_device rfl)

/-! ## What transactions want -/

/-- The exchange is about a request to be silent, which has been heard. -/
def Controls (key : TransactionKey) (service : UInt8) (heard : Prop) : Prop :=
  heard ∧ key.side = .server ∧ service = ConfirmedService.deviceCommunicationControl.code

variable [TextCodec]

theorem controls_of_orders {step : TransactionStep}
    (voice : step.InVoice key service activity.device.transactions)
    (told : ∀ action ∈ step.actions, action.effect.isIndication = true → heard)
    (ordered : step.actions.filterMap activity.device.orderOf? ≠ []) :
    Controls key service heard := by
  obtain ⟨request, member⟩ := List.exists_mem_of_ne_nil _ ordered
  obtain ⟨action, caused, orders⟩ := List.mem_filterMap.mp member
  obtain ⟨-, -, own⟩ := voice.actions action caused
  have given := told action caused
  unfold Device.orderOf? at orders
  split at orders
  · next asked parameters effect =>
    rw [effect] at own given
    obtain ⟨side, rfl⟩ := own
    unfold Device.order? at orders
    split at orders
    · next control => exact ⟨given rfl, side, control⟩
    · cases orders
  · cases orders

/-- What the transactions want done is in order if the messages are allowed that may be sent, and
the requests that may be given to the application. This matters only if the device is silent, or
becomes so because it is asked for it. -/
theorem heeds_carryOut {step : TransactionStep}
    (voice : step.InVoice key service activity.device.transactions)
    (told : ∀ action ∈ step.actions, action.effect.isIndication = true → heard)
    (fine : activity.device.communication = .disable ∨ Controls key service heard →
      activity.device.router.HoldsOnly allowed ∧
        ∀ apdu : Apdu, apdu.BelongsTo key → apdu.type ≠ .confirmedRequest →
          apdu.AllowedBy allowed)
    (asks : activity.device.communication = .disable → heard → key.side = .server →
      ∀ known parameters, known ≠ .deviceCommunicationControl → known.code = service →
        asked (.confirmed key.invokeId known parameters) key.peer)
    (heeds : activity.Heeds begun allowed asked) :
    (activity.carryOut environment now step).Heeds begun allowed asked ∧
      ((activity.carryOut environment now step).device.communication = .disable →
        (activity.carryOut environment now step).device.router.HoldsOnly allowed ∧
          (activity.device.communication = .disable ∨ Controls key service heard)) := by
  have serves : Serves environment now key service heard _ _ _ := serves_carryOut voice told
  have begins : (activity.withTransactions step).Heeds begun allowed asked := heeds.of_device rfl
  by_cases silent : activity.device.communication = .disable
  · obtain ⟨holds, words⟩ := fine (.inl silent)
    obtain ⟨finished, held⟩ := serves.heeds (.inl silent) words (asks silent) begins holds
    exact ⟨finished, fun _ => ⟨held, .inl silent⟩⟩
  · by_cases unasked : step.actions.filterMap activity.device.orderOf? = []
    · obtain ⟨finished, speaks⟩ := serves.heeds_of_speaking unasked silent begins
      exact ⟨finished, fun falls => absurd falls speaks⟩
    · have controls := controls_of_orders voice told unasked
      obtain ⟨holds, words⟩ := fine (.inr controls)
      obtain ⟨finished, held⟩ := serves.heeds (.inr controls.2.1) words
        (fun _ _ known _ other names =>
          absurd (ConfirmedService.code_injective (names.trans controls.2.2)) other) begins holds
      exact ⟨finished, fun _ => ⟨held, .inr controls⟩⟩

end Activity

end BACnet
