import BACnet.Device.Traffic
import BACnet.Proofs.Routing.Relay

/-!
# Runs of a device

Whatever happens at a device happens to its router and its timers as events of a relay
(`Device.reaches_run`): messages arrive and are sent, timers are set and run out. So what holds in
each run of a relay holds of the router in a device.
-/

namespace BACnet

/-! ## Relays -/

namespace Relay

variable {before between after : Relay}

theorem run_append (relay : Relay) (first second : List (Nat × RelayEvent)) :
    relay.run (first ++ second) = (relay.run first).run second := by
  induction first generalizing relay with
  | nil => rfl
  | cons entry rest ih => exact ih _

/-- A relay becomes another one by some events. -/
def Reaches (before after : Relay) : Prop := ∃ events, before.run events = after

namespace Reaches

theorem refl (relay : Relay) : relay.Reaches relay := ⟨[], rfl⟩

theorem trans (first : before.Reaches between) (second : between.Reaches after) :
    before.Reaches after := by
  obtain ⟨events, rfl⟩ := first
  obtain ⟨more, rfl⟩ := second
  exact ⟨events ++ more, run_append before events more⟩

theorem step (relay : Relay) (now : Nat) (event : RelayEvent) :
    relay.Reaches (relay.step now event).relay :=
  ⟨[(now, event)], rfl⟩

variable {router : Router} {timers : TimerQueue TimerEvent}

theorem schedule (router : Router) (timers : TimerQueue TimerEvent) (deadline : Nat)
    (event : TimerEvent) :
    Reaches ⟨router, timers⟩ ⟨router, (timers.schedule deadline event).2⟩ :=
  step ⟨router, timers⟩ 0 (.schedule deadline event)

theorem cancel? (router : Router) (timers : TimerQueue TimerEvent)
    (handle : Option TimerHandle) : Reaches ⟨router, timers⟩ ⟨router, timers.cancel? handle⟩ := by
  cases handle with
  | none => exact refl _
  | some handle => exact step ⟨router, timers⟩ 0 (.cancel handle)

/-- A timer of others is taken out of the queue. -/
theorem pop {now : Nat} {timer : TimerHandle} {event : TimerEvent} {rest : TimerQueue TimerEvent}
    (popped : timers.pop? now = some (timer, event, rest))
    (other : ∀ network, event ≠ .routeResolution network) :
    Reaches ⟨router, timers⟩ ⟨router, rest⟩ := by
  refine ⟨[(now, .expire)], ?_⟩
  rw [run, run, Relay.step]
  dsimp only
  rw [popped]
  cases event with
  | routeResolution network => exact absurd rfl (other network)
  | transaction key => rfl
  | communicationControl => rfl

theorem giveUp {now : Nat} {timer : TimerHandle} {network : UInt16}
    {rest : TimerQueue TimerEvent}
    (popped : timers.pop? now = some (timer, .routeResolution network, rest)) :
    Reaches ⟨router, timers⟩ ⟨(router.giveUp network).2, rest⟩ := by
  refine ⟨[(now, .expire)], ?_⟩
  rw [run, run, Relay.step]
  dsimp only
  rw [popped]

end Reaches

end Relay

/-! ## Transactions -/

namespace Transactions

variable (router : Router) (transactions : Transactions) (timers : TimerQueue TimerEvent) (now : Nat)

theorem reaches_react (key : TransactionKey) (reaction : Reaction Transaction) :
    Relay.Reaches ⟨router, timers⟩
      ⟨router, (transactions.react timers now key reaction).timers⟩ := by
  unfold react proceed
  cases reaction.progress with
  | keep => exact .refl _
  | finish => exact .cancel? router timers _
  | restart transaction span =>
    exact (Relay.Reaches.cancel? router timers _).trans (.schedule router _ _ _)

theorem reaches_request (peer : Address) (service : UInt8) (parameters : Octets)
    (known : Option Peer) :
    Relay.Reaches ⟨router, timers⟩
      ⟨router, (transactions.request timers now peer service parameters known).2.timers⟩ := by
  unfold request
  split
  · exact .refl _
  · dsimp only
    split
    · exact .refl _
    · exact reaches_react router _ timers now _ _

theorem reaches_receive (peer : Address) (apdu : Apdu) :
    Relay.Reaches ⟨router, timers⟩
      ⟨router, (transactions.receive timers now peer apdu).timers⟩ := by
  unfold receive
  split
  · exact .refl _
  · exact reaches_react router transactions timers now _ _

variable {transactions timers now} in
theorem reaches_respond {peer : Address} {invokeId : UInt8} {outcome : Outcome}
    {step : TransactionStep}
    (responds : transactions.respond timers now peer invokeId outcome = .ok step) :
    Relay.Reaches ⟨router, timers⟩ ⟨router, step.timers⟩ := by
  unfold respond at responds
  dsimp only at responds
  split at responds
  · split at responds
    · cases responds
      exact reaches_react router transactions timers now _ _
    · cases responds
  · cases responds

theorem reaches_abort (key : TransactionKey) (reason : AbortReason) :
    Relay.Reaches ⟨router, timers⟩
      ⟨router, (transactions.abort timers now key reason).timers⟩ := by
  unfold abort
  split
  · exact reaches_react router transactions timers now _ _
  · exact .refl _

theorem reaches_timeout (handle : TimerHandle) (key : TransactionKey) :
    Relay.Reaches ⟨router, timers⟩
      ⟨router, (transactions.timeout timers now handle key).timers⟩ := by
  unfold timeout
  split
  · split
    · exact reaches_react router transactions timers now _ _
    · exact .refl _
  · exact .refl _

end Transactions

/-! ## Activities -/

/-- The router of a device with the timers. -/
def Device.relay (device : Device) : Relay := ⟨device.router, device.timers⟩

/-- The router of a device at work with the timers. -/
def Activity.relay (activity : Activity) : Relay := activity.device.relay

namespace Activity

variable {activity : Activity} {environment : Environment} {now : Nat}

theorem relay_transmit (activity : Activity) (environment : Environment)
    (transmission : Transmission) :
    (activity.transmit environment transmission).relay = activity.relay := by
  unfold transmit
  split
  · rfl
  · dsimp only
    split <;> rfl

theorem relay_foldl_transmit (activity : Activity) (environment : Environment)
    (transmissions : List Transmission) :
    (transmissions.foldl (·.transmit environment ·) activity).relay = activity.relay := by
  induction transmissions generalizing activity with
  | nil => rfl
  | cons first rest ih => exact (ih _).trans (relay_transmit activity environment first)

theorem relay_routerOutput (activity : Activity) (environment : Environment)
    (output : RouterOutput) :
    (activity.routerOutput environment output).relay = activity.relay := by
  cases output with
  | transmit transmission => exact relay_transmit activity environment transmission
  | failure error => rfl
  | deliver source apdu expectingReply priority => rfl

theorem relay_foldl_routerOutput (activity : Activity) (environment : Environment)
    (outputs : List RouterOutput) :
    (outputs.foldl (·.routerOutput environment ·) activity).relay = activity.relay := by
  induction outputs generalizing activity with
  | nil => rfl
  | cons first rest ih => exact (ih _).trans (relay_routerOutput activity environment first)

theorem reaches_sendApdu (activity : Activity) (environment : Environment) (now : Nat)
    (peer : Address) (apdu : Apdu) :
    activity.relay.Reaches (activity.sendApdu environment now peer apdu).2.relay := by
  have sent := Relay.Reaches.step activity.relay now
    (.send peer ⟨.apdu apdu.encode, apdu.type = .confirmedRequest, .normal⟩)
  unfold sendApdu
  dsimp only
  split
  · exact sent
  · rw [relay_foldl_transmit]
    exact sent

theorem reaches_setCommunication (activity : Activity) (now : Nat) (state : Communication)
    (minutes : Option UInt16) :
    activity.relay.Reaches (activity.setCommunication now state minutes).relay := by
  have cancelled := Relay.Reaches.cancel? activity.device.router activity.device.timers
    activity.device.communicationTimer
  have scheduled : Relay.Reaches activity.relay ⟨activity.device.router, (Device.scheduleSpeech
      (activity.device.timers.cancel? activity.device.communicationTimer) now state
      minutes).2⟩ := by
    unfold Device.scheduleSpeech
    split
    · exact cancelled
    · exact cancelled
    · exact cancelled.trans (.schedule _ _ _ _)
  unfold setCommunication
  dsimp only
  split <;> exact scheduled

theorem reaches_sendForTransaction (activity : Activity) (environment : Environment) (now : Nat)
    (peer : Address) (apdu : Apdu) :
    activity.relay.Reaches (activity.sendForTransaction environment now peer apdu).relay := by
  have sent := reaches_sendApdu activity environment now peer apdu
  unfold sendForTransaction
  split
  · split
    · next result =>
      rw [result] at sent
      exact sent
    · next result =>
      rw [result] at sent
      exact sent
  · exact .refl _

variable [TextCodec]

theorem reaches_controlCommunication (activity : Activity) (now : Nat) (parameters : Octets) :
    activity.relay.Reaches (activity.controlCommunication now parameters).2.relay := by
  unfold controlCommunication
  split
  · exact .refl _
  · split
    · exact reaches_setCommunication ..
    · exact .refl _

theorem reaches_outcomeOf (activity : Activity) (environment : Environment) (now : Nat)
    (peer : Address) (invokeId service : UInt8) (parameters : Octets) :
    activity.relay.Reaches
      (activity.outcomeOf environment now peer invokeId service parameters).2.relay := by
  unfold outcomeOf
  split
  · exact .refl _
  · exact reaches_controlCommunication activity now parameters
  · exact .refl _

theorem reaches_serve (activity : Activity) (environment : Environment) (now : Nat)
    (peer : Address) (invokeId service : UInt8) (parameters : Octets) :
    activity.relay.Reaches
      (activity.serve environment now peer invokeId service parameters).2.relay := by
  have found := reaches_outcomeOf activity environment now peer invokeId service parameters
  unfold serve
  split
  · next result =>
    rw [result] at found
    exact found
  · next result =>
    rw [result] at found
    split
    · exact found
    · next responds => exact found.trans (Transactions.reaches_respond _ responds)

theorem reaches_perform (activity : Activity) (environment : Environment) (now : Nat)
    (action : TransactionAction) :
    activity.relay.Reaches (activity.perform environment now action).2.relay := by
  unfold perform
  split
  · exact reaches_sendForTransaction ..
  · exact reaches_serve ..
  · exact .refl _

theorem reaches_performAll (activity : Activity) (environment : Environment) (now : Nat)
    (actions : List TransactionAction) :
    activity.relay.Reaches (activity.performAll environment now actions).2.relay := by
  induction actions generalizing activity with
  | nil => exact .refl _
  | cons first rest ih => exact (reaches_perform activity environment now first).trans (ih _)

/-- Only the timers of the transactions change before they have things done. -/
theorem reaches_carryOut (activity : Activity) (environment : Environment) (now : Nat)
    {step : TransactionStep}
    (timed : activity.relay.Reaches ⟨activity.device.router, step.timers⟩) :
    activity.relay.Reaches (activity.carryOut environment now step).relay := by
  have first := reaches_performAll (activity.withTransactions step) environment now step.actions
  exact timed.trans (first.trans (reaches_performAll _ environment now _))

/-! ## Messages that arrive -/

theorem relay_receiveUnconfirmed (activity : Activity) (arrival : Arrival) (source : Address)
    (service : UInt8) (parameters : Octets) :
    (activity.receiveUnconfirmed arrival source service parameters).relay = activity.relay := by
  unfold receiveUnconfirmed
  dsimp only
  split
  · rfl
  · split <;> rfl
  · rfl

theorem reaches_receiveForTransaction (activity : Activity) (environment : Environment)
    (now : Nat) (source : Address) (apdu : Apdu) :
    activity.relay.Reaches
      (activity.receiveForTransaction environment now source apdu).relay := by
  have timed := Transactions.reaches_receive activity.device.router activity.device.transactions
    activity.device.timers now source apdu
  unfold receiveForTransaction
  dsimp only
  split
  · next request =>
    exact reaches_carryOut { activity with device := { activity.device with
      peers := activity.device.peers.learnRequest source request } } environment now timed
  · exact reaches_carryOut activity environment now timed

theorem reaches_deliver (activity : Activity) (environment : Environment) (now : Nat)
    (arrival : Arrival) (source : Address) (data : Octets) :
    activity.relay.Reaches (activity.deliver environment now arrival source data).relay := by
  unfold deliver
  split
  · exact .refl _
  · split
    · split
      · rw [relay_receiveUnconfirmed]
        exact .refl _
      · exact reaches_receiveForTransaction ..
    · exact .refl _

theorem reaches_foldl_arrivalOutput (activity : Activity) (environment : Environment) (now : Nat)
    (arrival : Arrival) (outputs : List RouterOutput) :
    activity.relay.Reaches
      (outputs.foldl (·.arrivalOutput environment now arrival ·) activity).relay := by
  induction outputs generalizing activity with
  | nil => exact .refl _
  | cons first rest ih =>
    refine Relay.Reaches.trans ?_ (ih _)
    cases first with
    | deliver source data expectingReply priority => exact reaches_deliver ..
    | transmit transmission => exact relay_transmit activity environment transmission ▸ .refl _
    | failure error => exact .refl _

/-! ## Time -/

/-- A timer that is due is taken out of the queue and handled. -/
theorem reaches_expire {timer : TimerHandle} {event : TimerEvent} {timers : TimerQueue TimerEvent}
    (popped : activity.device.timers.pop? now = some (timer, event, timers))
    (environment : Environment) :
    activity.relay.Reaches (Activity.expire
      { activity with device := { activity.device with timers } } environment now timer
      event).relay := by
  cases event with
  | transaction key =>
    have expired : activity.relay.Reaches ⟨activity.device.router, timers⟩ := .pop popped nofun
    refine expired.trans
      (reaches_carryOut { activity with device := { activity.device with timers } }
        environment now ?_)
    exact Transactions.reaches_timeout ..
  | routeResolution network =>
    unfold expire
    dsimp only
    rw [relay_foldl_routerOutput]
    exact .giveUp popped
  | communicationControl =>
    have expired : activity.relay.Reaches ⟨activity.device.router, timers⟩ := .pop popped nofun
    unfold expire
    dsimp only
    split
    · exact expired.trans (reaches_setCommunication { activity with device := { activity.device with
        timers, communicationTimer := none } } now .enable none)
    · exact expired

theorem reaches_expireDue (environment : Environment) (now limit : Nat) (activity : Activity) :
    activity.relay.Reaches (expireDue environment now limit activity).2.relay := by
  induction limit generalizing activity with
  | zero => exact .refl _
  | succ limit ih =>
    unfold expireDue
    split
    · exact .refl _
    · next popped => exact (reaches_expire popped environment).trans (ih _)

end Activity

/-! ## Devices -/

/-- What happens at a device: it is asked for something, or it is polled. -/
inductive DeviceTurn where
  | command (command : DeviceCommand)
  | poll
  deriving DecidableEq, Repr

namespace Device

variable [TextCodec]

/-- The device afterwards. -/
def turn (device : Device) (environment : Environment) (now : Nat) : DeviceTurn → Device
  | .command command => (device.perform environment now command).2.device
  | .poll => (device.poll environment now).2.device

/-- The device after turns one after the other, each at its time. Links and the application may
behave differently each time. -/
def run (device : Device) : List (Environment × Nat × DeviceTurn) → Device
  | [] => device
  | (environment, now, turn) :: rest => (device.turn environment now turn).run rest

variable {device : Device}

theorem reaches_receive (device : Device) (environment : Environment) (now : Nat)
    (arrival : Arrival) (frame : Octets) :
    device.relay.Reaches (device.receive environment now arrival frame).relay := by
  unfold receive
  split
  · exact .refl _
  · next npdu _ =>
    have routed := Relay.Reaches.step device.relay now (.receive arrival npdu)
    exact routed.trans (Activity.reaches_foldl_arrivalOutput ((Activity.start device).withRouter _ _)
      environment now arrival _)

theorem reaches_send (device : Device) (environment : Environment) (now : Nat)
    (destination : Address) (request : OutgoingRequest) :
    device.relay.Reaches (device.send environment now destination request).2.relay := by
  cases request with
  | confirmed service parameters =>
    have timed := Transactions.reaches_request device.router device.transactions device.timers now
      destination service.code parameters (device.peers.find? destination)
    unfold send sendConfirmed
    dsimp only
    split
    · exact .refl _
    · split
      · exact timed
      · exact Activity.reaches_carryOut (.start device) environment now timed
  | unconfirmed service parameters =>
    have sent := Activity.reaches_sendApdu (.start device) environment now destination
      (.unconfirmedRequest service.code parameters)
    unfold send sendUnconfirmed
    dsimp only
    split
    · exact .refl _
    · split
      · next result =>
        rw [result] at sent
        exact sent
      · next result =>
        rw [result] at sent
        exact sent

theorem reaches_perform (device : Device) (environment : Environment) (now : Nat)
    (command : DeviceCommand) :
    device.relay.Reaches (device.perform environment now command).2.relay := by
  cases command with
  | receive arrival frame => exact reaches_receive ..
  | send destination request => exact reaches_send ..
  | respond peer invokeId outcome =>
    unfold perform respond
    dsimp only
    split
    · exact .refl _
    · next responds =>
      exact Activity.reaches_carryOut (.start device) environment now
        (Transactions.reaches_respond device.router responds)
  | abort peer invokeId reason =>
    exact Activity.reaches_carryOut (.start device) environment now
      (Transactions.reaches_abort device.router device.transactions device.timers now _ reason)

theorem reaches_poll (device : Device) (environment : Environment) (now : Nat) :
    device.relay.Reaches (device.poll environment now).2.relay := by
  have handled := Activity.reaches_expireDue environment now device.timers.size (.start device)
  exact handled.trans (.step _ now .expireRoutes)

/-- The router and the timers of a device come to what they are by events of a relay. -/
theorem reaches_run (device : Device) (turns : List (Environment × Nat × DeviceTurn)) :
    device.relay.Reaches (device.run turns).relay := by
  induction turns generalizing device with
  | nil => exact .refl _
  | cons entry rest ih =>
    obtain ⟨environment, now, turn⟩ := entry
    refine Relay.Reaches.trans ?_ (ih _)
    cases turn with
    | command command => exact reaches_perform device environment now command
    | poll => exact reaches_poll device environment now

/-- The relay of a device that has been set up is one that has been set up. -/
theorem reaches_run_start (config : Config) (turns : List (Environment × Nat × DeviceTurn)) :
    (Relay.new config.ports config.router).Reaches ((start config).run turns).relay :=
  reaches_run (start config) turns

end Device

end BACnet
