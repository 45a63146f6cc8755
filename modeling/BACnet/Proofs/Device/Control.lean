import BACnet.Proofs.Device.Reception

/-!
# Falling silent and speaking again

How far a device may communicate, and until when it is limited, is changed by two things only: by a
request that the device accepts, which counts for itself whatever has been asked for before, and by
the end of the time that the last such request has given (`Device.communication_run`). There is a
timer for this end just as long as the device waits for it.
-/

namespace BACnet

open TimerQueue (KeepsOthers)

/-- When a device speaks again of itself after this request. -/
def CommunicationControl.until? (request : CommunicationControl) (now : Nat) : Option Nat :=
  if request.state = .enable then none
  else request.minutes.map fun minutes => now + nanosOfSeconds (minutes.toNat * 60) 0

namespace Device

/-- Whether the time for which the device was told to be silent is over. -/
def silenceOver (device : Device) (now : Nat) : Bool :=
  device.communicationTimer.any (·.deadline ≤ now)

/-- The device may communicate as far as before, and this is limited as long as before. -/
structure SameSilence (before after : Device) : Prop where
  communication : after.communication = before.communication
  communicationTimer : after.communicationTimer = before.communicationTimer

/-- The device has done what it was asked for, and nothing has changed if it was not asked. -/
def Obeys (now : Nat) (order : Option CommunicationControl) (before after : Device) : Prop :=
  match order with
  | none => before.SameSilence after
  | some request =>
    after.communication = request.state ∧
      after.communicationTimer.map (·.deadline) = request.until? now

variable {before between after : Device} {now : Nat} {order : Option CommunicationControl}

theorem SameSilence.refl (device : Device) : device.SameSilence device := ⟨rfl, rfl⟩

theorem SameSilence.trans (first : before.SameSilence between)
    (second : between.SameSilence after) : before.SameSilence after :=
  ⟨second.communication.trans first.communication,
    second.communicationTimer.trans first.communicationTimer⟩

theorem SameSilence.obeys (same : before.SameSilence between)
    (obeys : Obeys now order between after) : Obeys now order before after := by
  cases order with
  | none => exact same.trans obeys
  | some request => exact obeys

theorem deadline_scheduleSpeech (timers : TimerQueue TimerEvent) (now : Nat)
    (request : CommunicationControl) :
    (scheduleSpeech timers now request.state request.minutes).1.map (·.deadline) =
      request.until? now := by
  obtain ⟨minutes, state, password⟩ := request
  cases state <;> cases minutes <;> rfl

variable [TextCodec]

/-- The request to be silent, or to speak, that the device accepts with a command: one that is
complete with it, can be read, and has the password. -/
def accepted? (device : Device) (now : Nat) : DeviceCommand → Option CommunicationControl
  | .receive arrival frame =>
    match device.heard? now arrival frame with
    | none => none
    | some (source, apdu) =>
      ((device.transactions.receive device.timers now source apdu).actions.filterMap
        device.orderOf?).getLast?
  | _ => none

/-- A request that is accepted can be read and has the password, if there is one. -/
theorem readable_of_accepted? {device : Device} {command : DeviceCommand}
    {request : CommunicationControl} (accepted : device.accepted? now command = some request) :
    (∃ parameters, CommunicationControl.decode parameters = .ok request) ∧
      ∀ expected, device.config.password = some expected →
        request.password.map (·.text) = some expected := by
  unfold accepted? at accepted
  split at accepted
  · split at accepted
    · cases accepted
    · obtain ⟨action, -, orders⟩ := List.mem_filterMap.mp (List.mem_of_getLast? accepted)
      unfold orderOf? at orders
      split at orders
      · next parameters _ =>
        obtain ⟨decoded, admitted⟩ := readable_of_order? orders
        refine ⟨⟨parameters, decoded⟩, ?_⟩
        intro expected known
        rw [admits, known] at admitted
        exact of_decide_eq_true admitted
      · cases orders
  · cases accepted

end Device

/-! ## Requests -/

namespace Activity

variable {environment : Environment} {now : Nat} {key : TransactionKey} {service : UInt8}
  {heard : Prop} {activity finished : Activity} {orders : List CommunicationControl}
  {config : Config}

theorem device_foldl_record (activity : Activity) (events : List DeviceEvent) :
    (events.foldl (·.record ·) activity).device = activity.device := by
  induction events generalizing activity with
  | nil => rfl
  | cons first rest ih => exact ih _

/-- What has been learned of other devices does not matter. -/
theorem timed_withPeers {device : Device} (timed : device.Timed config) (peers : PeerDirectory) :
    Device.Timed config { device with peers } :=
  ⟨timed.config_eq, timed.endpoint, timed.router, timed.handlesOf, timed.enabled⟩

/-- The last request that is obeyed counts. -/
theorem Serves.obeyed
    (serves : Serves environment now key service heard activity orders finished) :
    Device.Obeys now orders.getLast? activity.device finished.device := by
  induction serves with
  | done => exact .refl _
  | notes _ _ ih => exact ih
  | tells _ _ _ ih =>
    refine Device.SameSilence.obeys ?_ ih
    rw [device_sendApdu]
    exact ⟨rfl, rfl⟩
  | asks _ _ _ _ _ ih => exact ih
  | @obeys activity finished orders request _ _ _ _ ih =>
    have changed : Device.Obeys now (some request) activity.device
        (activity.setCommunication now request.state request.minutes).device := by
      rw [device_setCommunication]
      exact ⟨rfl, Device.deadline_scheduleSpeech _ now request⟩
    rw [List.getLast?_cons]
    cases last : orders.getLast? with
    | none =>
      rw [last] at ih
      obtain ⟨communication, timer⟩ := ih
      exact ⟨communication.trans changed.1, (congrArg (·.map (·.deadline)) timer).trans changed.2⟩
    | some later =>
      rw [last] at ih
      exact ih
  | @answers activity finished orders outcome step _ _ _ ih =>
    have same : activity.device.SameSilence (activity.withTransactions step).device := ⟨rfl, rfl⟩
    exact same.obeys ih

variable [TextCodec]

/-- What the transactions want done is done with all timers known, and the device obeys the last
request among it that it obeys. -/
theorem controlled_carryOut {step : TransactionStep}
    (begun : (activity.withTransactions step).device.Timed config)
    (voice : step.Idle activity.device.transactions ∨
      ∃ key service, step.InVoice key service activity.device.transactions) :
    (activity.carryOut environment now step).device.Timed config ∧
      Device.Obeys now (step.actions.filterMap activity.device.orderOf?).getLast? activity.device
        (activity.carryOut environment now step).device := by
  rcases voice with idle | ⟨key, service, voice⟩
  · rw [carryOut_of_idle activity idle.actions, idle.actions]
    exact ⟨begun, rfl, rfl⟩
  · have serves : Serves environment now key service True _ _ _ :=
      serves_carryOut voice fun _ _ _ => trivial
    have same : activity.device.SameSilence (activity.withTransactions step).device := ⟨rfl, rfl⟩
    exact ⟨serves.timed begun, same.obeys serves.obeyed⟩

/-- A step that gives nothing to the application does not change the silence. -/
theorem controlled_carryOut_of_unheard {step : TransactionStep}
    (begun : (activity.withTransactions step).device.Timed config)
    (voice : step.Idle activity.device.transactions ∨
      ∃ key service, step.InVoice key service activity.device.transactions)
    (unheard : step.Unheard) :
    (activity.carryOut environment now step).device.Timed config ∧
      activity.device.SameSilence (activity.carryOut environment now step).device := by
  have controlled : _ ∧ Device.Obeys now _ _ _ :=
    @controlled_carryOut environment now activity config _ step begun voice
  rw [activity.device.filterMap_orderOf?_eq_nil unheard] at controlled
  exact controlled

theorem device_receiveUnconfirmed (activity : Activity) (arrival : Arrival) (source : Address)
    (service : UInt8) (parameters : Octets) :
    ∃ peers, (activity.receiveUnconfirmed arrival source service parameters).device =
      { activity.device with peers } := by
  unfold receiveUnconfirmed
  dsimp only
  split
  · exact ⟨_, rfl⟩
  · split <;> exact ⟨_, rfl⟩
  · exact ⟨_, rfl⟩

theorem exists_receiveForTransaction (activity : Activity) (environment : Environment) (now : Nat)
    (source : Address) (apdu : Apdu) :
    ∃ peers, activity.receiveForTransaction environment now source apdu =
      carryOut { activity with device := { activity.device with peers } } environment now
        (activity.device.transactions.receive activity.device.timers now source apdu) := by
  unfold receiveForTransaction
  cases apdu <;> exact ⟨_, rfl⟩

/-- A message that is taken may be, or complete, a request that is accepted. -/
theorem controlled_take (timed : activity.device.Timed config) (environment : Environment)
    (now : Nat) (arrival : Arrival) (source : Address) (apdu : Apdu) :
    (activity.take environment now arrival source apdu).device.Timed config ∧
      Device.Obeys now
        ((activity.device.transactions.receive activity.device.timers now source
          apdu).actions.filterMap activity.device.orderOf?).getLast? activity.device
        (activity.take environment now arrival source apdu).device := by
  have transacted : (activity.receiveForTransaction environment now source apdu).device.Timed
        config ∧
      Device.Obeys now
        ((activity.device.transactions.receive activity.device.timers now source
          apdu).actions.filterMap activity.device.orderOf?).getLast? activity.device
        (activity.receiveForTransaction environment now source apdu).device := by
    obtain ⟨peers, result⟩ := exists_receiveForTransaction activity environment now source apdu
    rw [result]
    have begun := timed_withPeers
      (timed.follow (timed.endpoint.follows_receive now source apdu)) peers
    have received := Transactions.inVoice_receive timed.endpoint.sound activity.device.timers now
      source apdu
    have controlled : _ ∧ Device.Obeys now _ _ _ := @controlled_carryOut environment now
      { activity with device := { activity.device with peers } } config _ _ begun
      (received.imp_right fun ⟨key, service, _, voice, _⟩ => ⟨key, service, voice⟩)
    rw [@Device.orderOf?_eq _ activity.device { activity.device with peers } rfl] at controlled
    have same : activity.device.SameSilence { activity.device with peers } := ⟨rfl, rfl⟩
    exact ⟨controlled.1, same.obeys controlled.2⟩
  cases apdu with
  | unconfirmedRequest service parameters =>
    obtain ⟨peers, result⟩ :=
      device_receiveUnconfirmed activity arrival source service parameters
    rw [take, result]
    exact ⟨timed_withPeers timed peers, rfl, rfl⟩
  | _ => exact transacted

end Activity

namespace Device

variable {config : Config} {device : Device}

theorem timed_routed (timed : device.Timed config) (now : Nat) (arrival : Arrival) (npdu : Npdu) :
    (device.routed now arrival npdu).Timed config :=
  timed.route (@Relay.timed_step device.relay timed.router now (.receive arrival npdu) trivial)
    (@Relay.keepsOthers_receive device.relay timed.router now arrival npdu)

/-- What a message wants done does not depend on the timers. -/
theorem actions_receive (transactions : Transactions) (timers others : TimerQueue TimerEvent)
    (now : Nat) (peer : Address) (apdu : Apdu) :
    (transactions.receive timers now peer apdu).actions =
      (transactions.receive others now peer apdu).actions := by
  unfold Transactions.receive
  split <;> rfl

variable [TextCodec]

theorem controlled_receive (timed : device.Timed config) (environment : Environment) (now : Nat)
    (arrival : Arrival) (frame : Octets) :
    (device.receive environment now arrival frame).device.Timed config ∧
      Obeys now (device.accepted? now (.receive arrival frame)) device
        (device.receive environment now arrival frame).device := by
  have receives := device.receives environment now arrival frame
  unfold accepted?
  dsimp only
  generalize device.heard? now arrival frame = heard at receives ⊢
  generalize device.receive environment now arrival frame = activity at receives ⊢
  cases receives with
  | unreadable decoded => exact ⟨timed, rfl, rfl⟩
  | @passes npdu decoded =>
    rw [Activity.device_foldl_routerOutput]
    exact ⟨timed_routed timed now arrival npdu, rfl, rfl⟩
  | @refuses npdu decoded _ _ _ _ _ _ outputs notes quiet =>
    rw [Activity.device_foldl_routerOutput, Activity.device_foldl_record,
      Activity.device_foldl_routerOutput]
    exact ⟨timed_routed timed now arrival npdu, rfl, rfl⟩
  | @takes npdu decoded before _ source data _ _ apdu outputs taken =>
    rw [Activity.device_foldl_routerOutput]
    have same := Activity.device_foldl_routerOutput
      (Activity.start (device.routed now arrival npdu)) environment before
    have routed := timed_routed timed now arrival npdu
    rw [← show _ = device.routed now arrival npdu from same] at routed
    have controlled := Activity.controlled_take routed environment now arrival source apdu
    rw [same, show (Activity.start (device.routed now arrival npdu)).device.orderOf? = _ from
      @orderOf?_eq _ device _ rfl] at controlled
    have actions := actions_receive device.transactions device.timers
      (device.routed now arrival npdu).timers now source apdu
    have unmoved : device.SameSilence (device.routed now arrival npdu) := ⟨rfl, rfl⟩
    dsimp only
    rw [actions]
    exact ⟨controlled.1, unmoved.obeys controlled.2⟩

theorem controlled_send (timed : device.Timed config) (environment : Environment) (now : Nat)
    (destination : Address) (request : OutgoingRequest) :
    (device.send environment now destination request).2.device.Timed config ∧
      device.SameSilence (device.send environment now destination request).2.device := by
  cases request with
  | confirmed service parameters =>
    have follows := timed.endpoint.follows_request now destination service.code parameters
      (device.peers.find? destination)
    have voice := Transactions.inVoice_request device.transactions device.timers now destination
      service.code parameters (device.peers.find? destination)
    unfold send sendConfirmed
    dsimp only
    split
    · exact ⟨timed, .refl device⟩
    · split
      · exact ⟨timed.follow follows, rfl, rfl⟩
      · refine Activity.controlled_carryOut_of_unheard (timed.follow follows) ?_
          (Transactions.unheard_request _ _ _ _)
        rcases voice with idle | ⟨id, -, voice⟩
        · exact .inl idle
        · exact .inr ⟨_, _, voice⟩
  | unconfirmed service parameters =>
    have sent := @Activity.timed_sendApdu (.start device) config timed environment now
      destination (.unconfirmedRequest service.code parameters)
    have same : device.SameSilence ((Activity.start device).sendApdu environment now destination
        (.unconfirmedRequest service.code parameters)).2.device := by
      rw [Activity.device_sendApdu]
      exact ⟨rfl, rfl⟩
    unfold send sendUnconfirmed
    dsimp only
    split
    · exact ⟨timed, .refl device⟩
    · split
      · next result =>
        rw [result] at sent same
        exact ⟨sent, same⟩
      · next result =>
        rw [result] at sent same
        exact ⟨sent, same⟩

theorem controlled_respond (timed : device.Timed config) (environment : Environment) (now : Nat)
    (peer : Address) (invokeId : UInt8) (outcome : Outcome) :
    (device.respond environment now peer invokeId outcome).2.device.Timed config ∧
      device.SameSilence (device.respond environment now peer invokeId outcome).2.device := by
  unfold respond
  split
  · exact ⟨timed, .refl device⟩
  · next step responds =>
    obtain ⟨service, -, voice⟩ := Transactions.inVoice_respond responds
    exact Activity.controlled_carryOut_of_unheard
      (timed.follow (timed.endpoint.follows_respond responds)) (.inr ⟨_, service, voice⟩)
      (Transactions.unheard_respond responds)

theorem controlled_abort (timed : device.Timed config) (environment : Environment) (now : Nat)
    (peer : Address) (invokeId : UInt8) (reason : AbortReason) :
    (device.abort environment now peer invokeId reason).device.Timed config ∧
      device.SameSilence (device.abort environment now peer invokeId reason).device := by
  refine Activity.controlled_carryOut_of_unheard
    (timed.follow (timed.endpoint.follows_abort now (.client peer invokeId) reason)) ?_
    (Transactions.unheard_abort _ reason)
  exact (Transactions.inVoice_abort timed.endpoint.sound device.timers now _ reason).imp_right
    fun ⟨service, _, voice⟩ => ⟨_, service, voice⟩

/-- With a command all timers stay known, and the device obeys what it accepts. -/
theorem controlled_perform (timed : device.Timed config) (environment : Environment) (now : Nat)
    (command : DeviceCommand) :
    (device.perform environment now command).2.device.Timed config ∧
      Obeys now (device.accepted? now command) device
        (device.perform environment now command).2.device := by
  cases command with
  | receive arrival frame => exact controlled_receive timed environment now arrival frame
  | send destination request => exact controlled_send timed environment now destination request
  | respond peer invokeId outcome =>
    exact controlled_respond timed environment now peer invokeId outcome
  | abort peer invokeId reason => exact controlled_abort timed environment now peer invokeId reason

end Device

/-! ## Time -/

theorem Transactions.later_timeout (transactions : Transactions) (timers : TimerQueue TimerEvent)
    (now : Nat) (handle : TimerHandle) (key : TransactionKey) :
    TimerQueue.Later now timers (transactions.timeout timers now handle key).timers := by
  unfold timeout
  split
  · split
    · exact Endpoint.later_proceed transactions timers now key _
    · exact .refl now timers
  · exact .refl now timers

namespace Activity

variable {environment : Environment} {now : Nat} {activity : Activity} {config : Config}

variable [TextCodec]

theorem later_carryOut {step : TransactionStep}
    (begun : (activity.withTransactions step).device.Timed config)
    (voice : step.Idle activity.device.transactions ∨
      ∃ key service, step.InVoice key service activity.device.transactions) :
    TimerQueue.Later now step.timers
      (activity.carryOut environment now step).device.timers := by
  rcases voice with idle | ⟨key, service, voice⟩
  · rw [carryOut_of_idle activity idle.actions]
    exact .refl now _
  · have serves : Serves environment now key service True _ _ _ :=
      serves_carryOut voice fun _ _ _ => trivial
    exact serves.later begun

/-- A timer that has run out for a transaction or for the router does not change the silence. -/
theorem controlled_expire (timed : activity.device.Timed config) {timer : TimerHandle}
    {event : TimerEvent} {timers : TimerQueue TimerEvent}
    (popped : activity.device.timers.pop? now = some (timer, event, timers))
    (other : event ≠ .communicationControl) (environment : Environment) :
    let expired := Activity.expire { activity with device := { activity.device with timers } }
      environment now timer event
    expired.device.Timed config ∧ activity.device.SameSilence expired.device ∧
      TimerQueue.Later now timers expired.device.timers := by
  cases event with
  | transaction key =>
    have follows := timed.endpoint.follows_expire popped
    have voice : (activity.device.transactions.timeout timers now timer key).Idle
          activity.device.transactions ∨
        ∃ key service, (activity.device.transactions.timeout timers now timer _).InVoice key service
          activity.device.transactions :=
      (Transactions.inVoice_timeout timed.endpoint.sound timers now timer key).imp_right
        fun ⟨service, _, voice⟩ => ⟨key, service, voice⟩
    have controlled : _ ∧ Device.SameSilence _ _ := @controlled_carryOut_of_unheard environment now
      { activity with device := { activity.device with timers } } config _ _ (timed.follow follows)
      voice (Transactions.unheard_timeout timer key)
    have waited := Transactions.later_timeout activity.device.transactions timers now timer key
    have later := @later_carryOut environment now
      { activity with device := { activity.device with timers } } config _ _ (timed.follow follows)
      voice
    exact ⟨controlled.1, ⟨controlled.2.communication, controlled.2.communicationTimer⟩,
      waited.trans later⟩
  | routeResolution network =>
    have expired := @Relay.timed_expire activity.device.relay timed.router now
    unfold Relay.step at expired
    rw [show activity.device.relay.timers.pop? now = _ from popped] at expired
    have keeps : KeepsOthers (·.isResolution) now activity.device.timers timers :=
      .pop timed.router.wellFormed popped rfl
    unfold expire
    dsimp only
    rw [device_foldl_routerOutput]
    exact ⟨timed.route expired keeps, ⟨rfl, rfl⟩, .refl now timers⟩
  | communicationControl => exact absurd rfl other

/-- The timer that ends the silence ends it. -/
theorem speaks_expire (timed : activity.device.Timed config) {timer : TimerHandle}
    {timers : TimerQueue TimerEvent}
    (popped : activity.device.timers.pop? now = some (timer, .communicationControl, timers))
    (environment : Environment) :
    let expired := Activity.expire { activity with device := { activity.device with timers } }
      environment now timer .communicationControl
    expired.device.Timed config ∧ expired.device.communication = .enable ∧
      expired.device.communicationTimer = none := by
  obtain ⟨own, free⟩ := timed.communicationTimer_of_pop? popped
  have keeps : KeepsOthers (· = .communicationControl) now activity.device.timers timers :=
    .pop timed.router.wellFormed popped rfl
  unfold expire
  dsimp only
  rw [if_pos own, device_setCommunication]
  exact ⟨@Device.Timed.control config _ timed _ _ keeps none free _ fun _ => rfl, rfl, rfl⟩

/-- When a timer has run out, all others are known. -/
theorem timed_expire (timed : activity.device.Timed config) {timer : TimerHandle}
    {event : TimerEvent} {timers : TimerQueue TimerEvent}
    (popped : activity.device.timers.pop? now = some (timer, event, timers))
    (environment : Environment) :
    (Activity.expire { activity with device := { activity.device with timers } } environment now
      timer event).device.Timed config := by
  by_cases control : event = .communicationControl
  · subst control
    exact (speaks_expire timed popped environment).1
  · exact (controlled_expire timed popped control environment).1

end Activity

namespace Device

/-- The silence has ended if its time is over, and nothing has changed otherwise. -/
def Wakes (now : Nat) (before after : Device) : Prop :=
  if before.silenceOver now then after.communication = .enable ∧ after.communicationTimer = none
  else before.SameSilence after

theorem silenceOver_eq_true {device : Device} {now : Nat} :
    device.silenceOver now = true ↔
      ∃ timer, device.communicationTimer = some timer ∧ timer.deadline ≤ now := by
  rw [silenceOver, Option.any_eq_true]
  exact exists_congr fun timer => and_congr_right fun _ => decide_eq_true_iff

variable {before between after : Device} {now : Nat}

/-- A device that speaks again goes on speaking. -/
theorem Wakes.spoken (wakes : between.Wakes now after)
    (communication : between.communication = .enable)
    (communicationTimer : between.communicationTimer = none) :
    after.communication = .enable ∧ after.communicationTimer = none := by
  rw [Wakes, silenceOver, communicationTimer] at wakes
  exact ⟨wakes.communication.trans communication,
    wakes.communicationTimer.trans communicationTimer⟩

theorem Wakes.refl {device : Device} (lasts : device.silenceOver now = false) :
    device.Wakes now device := by
  rw [Wakes, lasts]
  exact .refl device

theorem SameSilence.wakes (same : before.SameSilence between) (wakes : between.Wakes now after) :
    before.Wakes now after := by
  rw [Wakes, silenceOver, same.communicationTimer, ← silenceOver] at wakes
  by_cases ended : before.silenceOver now = true
  · rw [if_pos ended] at wakes
    rw [Wakes, if_pos ended]
    exact wakes
  · rw [if_neg ended] at wakes
    rw [Wakes, if_neg ended]
    exact same.trans wakes

theorem Wakes.same (wakes : before.Wakes now between) (same : between.SameSilence after) :
    before.Wakes now after := by
  unfold Wakes at wakes ⊢
  split at wakes
  · next ended =>
    rw [if_pos ended]
    exact ⟨same.communication.trans wakes.1, same.communicationTimer.trans wakes.2⟩
  · next lasts =>
    rw [if_neg lasts]
    exact wakes.trans same

end Device

namespace Activity

variable {now : Nat} {activity : Activity} {config : Config}

variable [TextCodec]

/-- The timer that ends the silence is handled if all timers ahead of it are handled, too. -/
theorem wakes_expireDue (environment : Environment) (now : Nat) {limit : Nat}
    (timed : activity.device.Timed config)
    (enough : ∀ timer, activity.device.communicationTimer = some timer → timer.deadline ≤ now →
      activity.device.timers.ahead timer < limit) :
    (expireDue environment now limit activity).2.device.Timed config ∧
      activity.device.Wakes now (expireDue environment now limit activity).2.device := by
  -- Every timer that is handled was ahead of the one that ends the silence, and none comes ahead of
  -- it any more once it is due: so `enough` holds with one less each time.
  induction limit generalizing activity with
  | zero =>
    refine ⟨timed, .refl ?_⟩
    rw [Bool.eq_false_iff, ne_eq, Device.silenceOver_eq_true]
    rintro ⟨timer, known, due⟩
    exact absurd (enough timer known due) (Nat.not_lt_zero _)
  | succ limit ih =>
    have entered : ∀ timer, activity.device.communicationTimer = some timer →
        (timer, .communicationControl) ∈ activity.device.timers.entries := by
      intro timer known
      rw [← TimerQueue.mem_handlesOf, timed.handlesOf, known]
      exact List.mem_singleton_self timer
    unfold expireDue
    split
    · next empty =>
      refine ⟨timed, .refl ?_⟩
      rw [Bool.eq_false_iff, ne_eq, Device.silenceOver_eq_true]
      rintro ⟨timer, known, due⟩
      have early := timed.router.wellFormed.lt_of_pop?_eq_none empty (entered timer known)
      exact absurd due (Nat.not_le.mpr early)
    · next first event timers popped =>
      dsimp only
      by_cases control : event = .communicationControl
      · subst control
        obtain ⟨kept, communication, communicationTimer⟩ := speaks_expire timed popped environment
        obtain ⟨known, -⟩ := timed.communicationTimer_of_pop? popped
        have finished := ih kept fun timer other => by cases communicationTimer.symm.trans other
        have ended := Device.silenceOver_eq_true.mpr ⟨first, known, TimerQueue.due_of_pop? popped⟩
        refine ⟨finished.1, ?_⟩
        rw [Device.Wakes, if_pos ended]
        exact finished.2.spoken communication communicationTimer
      · obtain ⟨kept, same, later⟩ := controlled_expire timed popped control environment
        refine (ih kept ?_).imp_right same.wakes
        intro timer known due
        rw [same.communicationTimer] at known
        obtain ⟨entries, scheduled⟩ := TimerQueue.entries_of_pop? popped
        have behind : (timer, .communicationControl) ∈ timers.entries := by
          have member := entered timer known
          rw [entries] at member
          exact (List.mem_cons.mp member).resolve_left fun same =>
            control (congrArg Prod.snd same).symm
        have given : timer.number < timers.scheduled :=
          (timed.router.wellFormed.pop? popped).numbered _ behind
        have moved := later.ahead timer due given
        have ahead := timed.router.wellFormed.ahead_of_pop? popped behind
        have counted := enough timer known due
        omega

end Activity

namespace Device

variable {config : Config} {device : Device}

variable [TextCodec]

/-- A poll does not change the silence unless its time is over. -/
theorem wakes_poll (timed : device.Timed config) (environment : Environment) (now : Nat) :
    (device.poll environment now).2.device.Timed config ∧
      device.Wakes now (device.poll environment now).2.device := by
  have enough : ∀ timer, device.communicationTimer = some timer → timer.deadline ≤ now →
      device.timers.ahead timer < device.timers.size := by
    intro timer known _
    have member : timer ∈ device.timers.handlesOf .communicationControl := by
      rw [timed.handlesOf, known]
      exact List.mem_singleton_self timer
    exact TimerQueue.ahead_lt_size (TimerQueue.mem_handlesOf.mp member)
  have expired := @Activity.wakes_expireDue (.start device) config _ environment now
    device.timers.size timed enough
  have kept : (device.poll environment now).2.device.Timed config :=
    expired.1.route (expired.1.router.of_pending rfl)
      (@KeepsOthers.refl _ now _ expired.1.router.wellFormed)
  exact ⟨kept, expired.2.same ⟨rfl, rfl⟩⟩

theorem timed_turn (timed : device.Timed config) (environment : Environment) (now : Nat)
    (turn : DeviceTurn) : (device.turn environment now turn).Timed config := by
  cases turn with
  | command command => exact (controlled_perform timed environment now command).1
  | poll => exact (wakes_poll timed environment now).1

theorem timed_run (timed : device.Timed config) (turns : List (Environment × Nat × DeviceTurn)) :
    (device.run turns).Timed config := by
  induction turns generalizing device with
  | nil => exact timed
  | cons entry rest ih => exact ih (timed_turn timed entry.1 entry.2.1 entry.2.2)

/-- In every state that a device can reach there is a timer for the end of its silence, one only, if
the device waits for this end, and there is none while it may communicate. With a command, how far
the device may communicate, and until when this is limited, changes as the request says that the
device accepts with it, whatever it was told before. Such a request can be read and has the
password; without one nothing of this changes, whatever requests are refused. Otherwise it changes
only by a poll when the time is over that the last accepted request has given: then the device may
communicate. -/
theorem communication_run (config : Config) (turns : List (Environment × Nat × DeviceTurn)) :
    let device := (start config).run turns
    device.timers.handlesOf .communicationControl = device.communicationTimer.toList ∧
      (device.communication = .enable → device.communicationTimer = none) ∧
      ∀ environment now,
        (∀ command,
          Obeys now (device.accepted? now command) device
              (device.turn environment now (.command command)) ∧
            ∀ request, device.accepted? now command = some request →
              (∃ parameters, CommunicationControl.decode parameters = .ok request) ∧
                ∀ expected, config.password = some expected →
                  request.password.map (·.text) = some expected) ∧
        device.Wakes now (device.turn environment now .poll) := by
  have timed := timed_run (timed_start config) turns
  refine ⟨timed.handlesOf, timed.enabled, fun environment now => ⟨fun command => ⟨?_, ?_⟩, ?_⟩⟩
  · exact (controlled_perform timed environment now command).2
  · intro request accepted
    rw [← timed.config_eq]
    exact readable_of_accepted? accepted
  · exact (wakes_poll timed environment now).2

end Device

end BACnet
