import BACnet.Proofs.Device.Timers
import BACnet.Proofs.Transaction.Voice

/-!
# What a device does for a transaction

All that a device does because its transactions want it is done for one of them: it sends messages
of this exchange, it asks the application about its request, it obeys the request if it is one to be
silent, it answers, and it reports outcomes (`Activity.Serves`). This is said here once, for all
that transactions can want (`Activity.serves_carryOut`).
-/

namespace BACnet

open TimerQueue (KeepsOthers)

namespace ConfirmedService

theorem code_of_ofCode? {code : UInt8} {service : ConfirmedService}
    (names : ofCode? code = some service) : service.code = code := by
  unfold ofCode? at names
  split at names
  case h_28 => cases names
  all_goals
    next octet =>
    cases names
    exact UInt8.toNat_inj.mp octet.symm

theorem code_injective {service other : ConfirmedService} (same : service.code = other.code) :
    service = other := by
  have named := ofCode?_code service
  rw [same, ofCode?_code] at named
  exact (Option.some.inj named).symm

end ConfirmedService

/-- The event is neither a frame nor a request, and the silence does not change with it. -/
def DeviceEvent.isNote : DeviceEvent → Bool
  | frame _ | request _ _ | communicationControl _ => false
  | confirmation _ _ _ | decodeError _ _ _ | routingFailure _ | transmitFailed _ _ => true

section

variable [TextCodec]

/-- The request to be silent, or to speak, that a device obeys when it is given this request. -/
def Device.order? (device : Device) (service : UInt8) (parameters : Octets) :
    Option CommunicationControl :=
  if service = ConfirmedService.deviceCommunicationControl.code then
    match CommunicationControl.decode parameters with
    | .ok request => if device.admits request.password then some request else none
    | .error _ => none
  else none

/-- The request that the device obeys because a transaction wants it to be served. -/
def Device.orderOf? (device : Device) (action : TransactionAction) : Option CommunicationControl :=
  match action.effect with
  | .indicate service parameters => device.order? service parameters
  | _ => none

theorem Device.readable_of_order? {device : Device} {service : UInt8} {parameters : Octets}
    {request : CommunicationControl} (orders : device.order? service parameters = some request) :
    CommunicationControl.decode parameters = .ok request ∧
      device.admits request.password = true := by
  unfold order? at orders
  split at orders
  · split at orders
    · next decoded =>
      split at orders
      · next admitted =>
        cases orders
        exact ⟨decoded, admitted⟩
      · cases orders
    · cases orders
  · cases orders

/-- What is not given to the application is no request that is obeyed. -/
theorem Device.filterMap_orderOf?_eq_nil (device : Device) {actions : List TransactionAction}
    (unheard : ∀ action ∈ actions, action.effect.isIndication = false) :
    actions.filterMap device.orderOf? = [] := by
  rw [List.filterMap_eq_nil_iff]
  intro action member
  have silent := unheard action member
  unfold orderOf?
  split
  · next indicates =>
    rw [indicates] at silent
    cases silent
  · rfl

/-- Only the configuration tells which requests are obeyed. -/
theorem Device.orderOf?_eq {before after : Device} (same : after.config = before.config) :
    after.orderOf? = before.orderOf? := by
  funext action
  unfold orderOf? order? admits
  rw [same]

end

namespace Activity

/-- What a device does in the exchange with this name, which is about this service, and the requests
to be silent, or to speak, that it obeys in doing so. The application is asked, and such requests
are obeyed, only if a request has been `heard`. -/
inductive Serves (environment : Environment) (now : Nat) (key : TransactionKey) (service : UInt8)
    (heard : Prop) : Activity → List CommunicationControl → Activity → Prop where
  | done (activity : Activity) : Serves environment now key service heard activity [] activity
  | notes {activity finished : Activity} {orders : List CommunicationControl} {event : DeviceEvent}
    (note : event.isNote = true)
    (behind : Serves environment now key service heard (activity.record event) orders finished) :
    Serves environment now key service heard activity orders finished
  | tells {activity finished : Activity} {orders : List CommunicationControl} {apdu : Apdu}
    (own : apdu.BelongsTo key) (may : activity.device.sends apdu = true)
    (behind : Serves environment now key service heard
      (activity.sendApdu environment now key.peer apdu).2 orders finished) :
    Serves environment now key service heard activity orders finished
  | asks {activity finished : Activity} {orders : List CommunicationControl}
    {known : ConfirmedService} {parameters : Octets} (given : heard) (side : key.side = .server)
    (names : known.code = service) (other : known ≠ .deviceCommunicationControl)
    (behind : Serves environment now key service heard
      (activity.record (.request (.confirmed key.invokeId known parameters) key.peer)) orders
      finished) :
    Serves environment now key service heard activity orders finished
  | obeys {activity finished : Activity} {orders : List CommunicationControl}
    {request : CommunicationControl} (given : heard) (side : key.side = .server)
    (names : service = ConfirmedService.deviceCommunicationControl.code)
    (behind : Serves environment now key service heard
      (activity.setCommunication now request.state request.minutes) orders finished) :
    Serves environment now key service heard activity (request :: orders) finished
  | answers {activity finished : Activity} {orders : List CommunicationControl} {outcome : Outcome}
    {step : TransactionStep} (side : key.side = .server)
    (responds : activity.device.transactions.respond activity.device.timers now key.peer
      key.invokeId outcome = .ok step)
    (behind : Serves environment now key service heard (activity.withTransactions step) orders
      finished) :
    Serves environment now key service heard activity orders finished

/-! ## What stays the same -/

theorem device_transmit (activity : Activity) (environment : Environment)
    (transmission : Transmission) :
    (activity.transmit environment transmission).device = activity.device := by
  unfold transmit
  split
  · rfl
  · dsimp only
    split <;> rfl

theorem device_foldl_transmit (activity : Activity) (environment : Environment)
    (transmissions : List Transmission) :
    (transmissions.foldl (·.transmit environment ·) activity).device = activity.device := by
  induction transmissions generalizing activity with
  | nil => rfl
  | cons first rest ih => exact (ih _).trans (device_transmit activity environment first)

/-- A message that is sent changes the router and the timers. -/
theorem device_sendApdu (activity : Activity) (environment : Environment) (now : Nat)
    (peer : Address) (apdu : Apdu) :
    (activity.sendApdu environment now peer apdu).2.device =
      let sent := (activity.relay.step now
        (.send peer ⟨.apdu apdu.encode, apdu.type = .confirmedRequest, .normal⟩)).relay
      { activity.device with router := sent.router, timers := sent.timers } := by
  unfold sendApdu
  dsimp only
  split
  · rfl
  · rw [device_foldl_transmit]
    rfl

/-- What a change of the silence is to the device. -/
theorem device_setCommunication (activity : Activity) (now : Nat) (state : Communication)
    (minutes : Option UInt16) :
    (activity.setCommunication now state minutes).device =
      let speech := Device.scheduleSpeech
        (activity.device.timers.cancel? activity.device.communicationTimer) now state minutes
      { activity.device with
        timers := speech.2, communicationTimer := speech.1, communication := state } := by
  unfold setCommunication
  dsimp only
  split <;> rfl

namespace Serves

variable {environment : Environment} {now : Nat} {key : TransactionKey} {service : UInt8}
  {heard : Prop} {activity between finished : Activity} {orders more : List CommunicationControl}

theorem trans (first : Serves environment now key service heard activity orders between)
    (second : Serves environment now key service heard between more finished) :
    Serves environment now key service heard activity (orders ++ more) finished := by
  induction first with
  | done => exact second
  | notes note _ ih => exact .notes note (ih second)
  | tells own may _ ih => exact .tells own may (ih second)
  | asks given side names other _ ih => exact .asks given side names other (ih second)
  | obeys given side names _ ih => exact .obeys given side names (ih second)
  | answers side responds _ ih => exact .answers side responds (ih second)

theorem config_eq (serves : Serves environment now key service heard activity orders finished) :
    finished.device.config = activity.device.config := by
  induction serves with
  | done => rfl
  | notes _ _ ih => exact ih
  | tells _ _ _ ih => rw [ih, device_sendApdu]
  | asks _ _ _ _ _ ih => exact ih
  | obeys _ _ _ _ ih => rw [ih, device_setCommunication]
  | answers _ _ _ ih => exact ih

/-- The exchange is about this service, if it is going on. -/
def Owns (key : TransactionKey) (service : UInt8) (activity : Activity) : Prop :=
  ∀ transaction, activity.device.transactions.find? key = some transaction →
    transaction.service = service

/-- An answer is given in the exchange, and in no other one. -/
theorem inVoice_answer (owns : Owns key service activity) (side : key.side = .server)
    {outcome : Outcome} {step : TransactionStep}
    (responds : activity.device.transactions.respond activity.device.timers now key.peer
      key.invokeId outcome = .ok step) :
    step.InVoice key service activity.device.transactions := by
  obtain ⟨peer, invokeId, _⟩ := key
  cases side
  obtain ⟨named, ⟨transaction, found, rfl⟩, voice⟩ := Transactions.inVoice_respond responds
  rw [← owns transaction found]
  exact voice

theorem Owns.sendApdu (owns : Owns key service activity) (environment : Environment) (now : Nat)
    (peer : Address) (apdu : Apdu) :
    Owns key service (activity.sendApdu environment now peer apdu).2 := by
  rw [Owns, device_sendApdu]
  exact owns

theorem Owns.setCommunication (owns : Owns key service activity) (now : Nat)
    (state : Communication) (minutes : Option UInt16) :
    Owns key service (activity.setCommunication now state minutes) := by
  rw [Owns, device_setCommunication]
  exact owns

theorem owns (serves : Serves environment now key service heard activity orders finished)
    (before : Owns key service activity) : Owns key service finished := by
  induction serves with
  | done => exact before
  | notes _ _ ih => exact ih before
  | tells _ _ _ ih => exact ih (before.sendApdu environment now key.peer _)
  | asks _ _ _ _ _ ih => exact ih before
  | obeys _ _ _ _ ih => exact ih (before.setCommunication now _ _)
  | answers side responds _ ih => exact ih (inVoice_answer before side responds).own

/-- No other exchange changes. -/
theorem others (serves : Serves environment now key service heard activity orders finished)
    (before : Owns key service activity) {other : TransactionKey} (ne : key ≠ other) :
    finished.device.transactions.find? other = activity.device.transactions.find? other := by
  induction serves with
  | done => rfl
  | notes _ _ ih => exact ih before
  | tells _ _ _ ih =>
    rw [ih (before.sendApdu environment now key.peer _), device_sendApdu]
  | asks _ _ _ _ _ ih => exact ih before
  | obeys _ _ _ _ ih =>
    rw [ih (before.setCommunication now _ _), device_setCommunication]
  | answers side responds _ ih =>
    have voice := inVoice_answer before side responds
    exact (ih voice.own).trans (voice.others other ne)

end Serves

/-! ## What transactions want -/

section

variable {environment : Environment} {now : Nat} {key : TransactionKey} {service : UInt8}
  {heard : Prop} {activity : Activity}

theorem serves_sendForTransaction (activity : Activity) {apdu : Apdu}
    (own : apdu.BelongsTo key) :
    Serves environment now key service heard activity []
      (activity.sendForTransaction environment now key.peer apdu) := by
  unfold sendForTransaction
  split
  · next may =>
    split
    · next sent result =>
      refine .tells own may ?_
      rw [result]
      exact .done sent
    · next error failed result =>
      refine .tells own may ?_
      rw [result]
      exact .notes rfl (.done (failed.record (.routingFailure error)))
  · exact .done activity

/-- What is done later is done in the same exchange, and nothing is given to the application. -/
def Answers (key : TransactionKey) (service : UInt8) (actions : List TransactionAction) : Prop :=
  ∀ action ∈ actions, action.peer = key.peer ∧ action.invokeId = key.invokeId ∧
    action.effect.IsOf key service ∧ action.effect.isIndication = false

theorem answers_nil : Answers key service [] := List.forall_mem_nil _

variable [TextCodec]

theorem serves_controlCommunication (activity : Activity) (given : heard)
    (side : key.side = .server) (names : service = ConfirmedService.deviceCommunicationControl.code)
    (parameters : Octets) :
    Serves environment now key service heard activity
      (activity.device.order? service parameters).toList
      (activity.controlCommunication now parameters).2 := by
  unfold controlCommunication Device.order?
  rw [if_pos names]
  cases CommunicationControl.decode parameters with
  | error error => exact .done activity
  | ok request =>
    dsimp only
    split
    · exact .obeys given side names (.done _)
    · exact .done activity

theorem serves_outcomeOf (activity : Activity) (given : heard) (side : key.side = .server)
    (parameters : Octets) :
    Serves environment now key service heard activity
      (activity.device.order? service parameters).toList
      (activity.outcomeOf environment now key.peer key.invokeId service parameters).2 := by
  have unnamed {found : Option ConfirmedService} (names : ConfirmedService.ofCode? service = found)
      (other : found ≠ some .deviceCommunicationControl) :
      activity.device.order? service parameters = none := by
    refine if_neg ?_
    rintro rfl
    rw [ConfirmedService.ofCode?_code] at names
    exact other names.symm
  unfold outcomeOf
  split
  · next names =>
    rw [unnamed names nofun]
    exact .done activity
  · next names =>
    exact serves_controlCommunication activity given side
      (ConfirmedService.code_of_ofCode? names).symm parameters
  · next known other names =>
    rw [unnamed names fun same => other (Option.some.inj same)]
    exact .asks given side (ConfirmedService.code_of_ofCode? names) other (.done _)

theorem serves_serve (activity : Activity) (given : heard) (side : key.side = .server)
    (owns : Serves.Owns key service activity) (parameters : Octets) :
    Serves environment now key service heard activity
      (activity.device.order? service parameters).toList
        (activity.serve environment now key.peer key.invokeId service parameters).2 ∧
      Answers key service
        (activity.serve environment now key.peer key.invokeId service parameters).1 := by
  have served : Serves environment now key service heard activity _ _ :=
    serves_outcomeOf activity given side parameters
  unfold serve
  split
  · next result =>
    rw [result] at served
    exact ⟨served, answers_nil⟩
  · next outcome between result =>
    rw [result] at served
    split
    · exact ⟨served, answers_nil⟩
    · next step responds =>
      have voice := Serves.inVoice_answer (served.owns owns) side responds
      have answered := served.trans (.answers side responds (.done _))
      rw [List.append_nil] at answered
      refine ⟨answered, ?_⟩
      intro action member
      obtain ⟨peer, invokeId, own⟩ := voice.actions action member
      exact ⟨peer, invokeId, own, Transactions.unheard_respond responds action member⟩

theorem serves_perform (activity : Activity) (owns : Serves.Owns key service activity)
    {action : TransactionAction} (peer : action.peer = key.peer)
    (invokeId : action.invokeId = key.invokeId) (own : action.effect.IsOf key service)
    (told : action.effect.isIndication = true → heard) :
    Serves environment now key service heard activity (activity.device.orderOf? action).toList
        (activity.perform environment now action).2 ∧
      Answers key service (activity.perform environment now action).1 := by
  unfold perform Device.orderOf?
  rw [peer, invokeId]
  cases effect : action.effect with
  | send apdu =>
    rw [effect] at own
    exact ⟨serves_sendForTransaction activity own, answers_nil⟩
  | indicate asked parameters =>
    rw [effect] at own told
    obtain ⟨side, rfl⟩ := own
    exact serves_serve activity (told rfl) side owns parameters
  | confirm outcome => exact ⟨.notes rfl (.done _), answers_nil⟩

theorem serves_performAll (activity : Activity) (owns : Serves.Owns key service activity)
    {actions : List TransactionAction}
    (voice : ∀ action ∈ actions, action.peer = key.peer ∧ action.invokeId = key.invokeId ∧
      action.effect.IsOf key service)
    (told : ∀ action ∈ actions, action.effect.isIndication = true → heard) :
    Serves environment now key service heard activity (actions.filterMap activity.device.orderOf?)
        (activity.performAll environment now actions).2 ∧
      Answers key service (activity.performAll environment now actions).1 := by
  induction actions generalizing activity with
  | nil => exact ⟨.done activity, answers_nil⟩
  | cons first rest ih =>
    obtain ⟨peer, invokeId, own⟩ := voice first List.mem_cons_self
    obtain ⟨performed, later⟩ := serves_perform activity owns peer invokeId own
      (told first List.mem_cons_self)
    obtain ⟨finished, more⟩ := ih _ (performed.owns owns)
      (fun action member => voice action (List.mem_cons_of_mem first member))
      fun action member => told action (List.mem_cons_of_mem first member)
    rw [Device.orderOf?_eq performed.config_eq] at finished
    refine ⟨?_, List.forall_mem_append.mpr ⟨later, more⟩⟩
    have split : (first :: rest).filterMap activity.device.orderOf? =
        (activity.device.orderOf? first).toList ++ rest.filterMap activity.device.orderOf? := by
      rw [List.filterMap_cons]
      cases activity.device.orderOf? first <;> rfl
    rw [split]
    exact performed.trans finished

/-- All that a step of the transactions wants done is done in the exchange in which the step is. The
device obeys the requests among it that it obeys, in their order. -/
theorem serves_carryOut {step : TransactionStep}
    (voice : step.InVoice key service activity.device.transactions)
    (told : ∀ action ∈ step.actions, action.effect.isIndication = true → heard) :
    Serves environment now key service heard (activity.withTransactions step)
      (step.actions.filterMap activity.device.orderOf?)
      (activity.carryOut environment now step) := by
  obtain ⟨performed, later⟩ :
      Serves environment now key service heard (activity.withTransactions step) _ _ ∧ _ :=
    serves_performAll (activity.withTransactions step) voice.own voice.actions told
  have unheard : ∀ action ∈ ((activity.withTransactions step).performAll environment now
      step.actions).1, action.effect.isIndication = false :=
    fun action member => (later action member).2.2.2
  obtain ⟨finished, -⟩ : Serves environment now key service heard _ _ _ ∧ _ :=
    serves_performAll _ (performed.owns voice.own)
      (fun action member =>
        let ⟨peer, invokeId, own, _⟩ := later action member
        ⟨peer, invokeId, own⟩)
      fun action member indicates => by cases (unheard action member).symm.trans indicates
  rw [Device.filterMap_orderOf?_eq_nil _ unheard] at finished
  have all := performed.trans finished
  rw [List.append_nil] at all
  exact all

/-- No other exchange changes. -/
theorem others_carryOut {step : TransactionStep}
    (voice : step.InVoice key service activity.device.transactions) {other : TransactionKey}
    (ne : key ≠ other) :
    (activity.carryOut environment now step).device.transactions.find? other =
      activity.device.transactions.find? other := by
  have serves : Serves environment now key service True _ _ _ :=
    serves_carryOut voice fun _ _ _ => trivial
  exact (serves.others voice.own ne).trans (voice.others other ne)

/-- An exchange that is going on afterwards has been going on before, or is the one that is
served. -/
theorem carries_carryOut {step : TransactionStep}
    (voice : step.InVoice key service activity.device.transactions) {other : TransactionKey}
    {asked : UInt8}
    (carries :
      (activity.carryOut environment now step).device.transactions.Carries other asked) :
    activity.device.transactions.Carries other asked ∨ other = key ∧ asked = service := by
  obtain ⟨transaction, found, rfl⟩ := carries
  by_cases same : key = other
  · subst same
    have serves : Serves environment now key service True _ _ _ :=
      serves_carryOut voice fun _ _ _ => trivial
    exact .inr ⟨rfl, serves.owns voice.own transaction found⟩
  · rw [others_carryOut voice same] at found
    exact .inl ⟨transaction, found, rfl⟩

/-- A step with which nothing is to be done only changes the transactions. -/
theorem carryOut_of_idle (activity : Activity) {step : TransactionStep}
    (idle : step.actions = []) :
    activity.carryOut environment now step = activity.withTransactions step := by
  rw [carryOut, idle]
  rfl

end

/-! ## Timers -/

section

variable {environment : Environment} {now : Nat} {key : TransactionKey} {service : UInt8}
  {heard : Prop} {activity finished : Activity} {orders : List CommunicationControl}
  {config : Config}

theorem timed_sendApdu (timed : activity.device.Timed config) (environment : Environment)
    (now : Nat) (peer : Address) (apdu : Apdu) :
    (activity.sendApdu environment now peer apdu).2.device.Timed config := by
  have sent := @Relay.timed_step activity.relay timed.router now
    (.send peer ⟨.apdu apdu.encode, apdu.type = .confirmedRequest, .normal⟩) trivial
  rw [device_sendApdu]
  exact timed.route sent (@Relay.keepsOthers_send activity.relay timed.router now peer _)

/-- A message that is sent puts no timer ahead of one that is due. -/
theorem later_sendApdu (timed : activity.device.Timed config) (environment : Environment)
    (now : Nat) (peer : Address) (apdu : Apdu) :
    TimerQueue.Later now activity.device.timers
      (activity.sendApdu environment now peer apdu).2.device.timers := by
  rw [device_sendApdu]
  exact (@Relay.keepsOthers_send activity.relay timed.router now peer _).later

theorem later_setCommunication (activity : Activity) (now : Nat) (state : Communication)
    (minutes : Option UInt16) :
    TimerQueue.Later now activity.device.timers
      (activity.setCommunication now state minutes).device.timers := by
  have cancelled := TimerQueue.Later.cancel? now activity.device.timers
    activity.device.communicationTimer
  rw [device_setCommunication]
  unfold Device.scheduleSpeech
  dsimp only
  split
  · exact cancelled
  · exact cancelled
  · exact cancelled.trans (.schedule _ (Nat.le_add_right now _) _)

theorem timed_setCommunication (timed : activity.device.Timed config) (now : Nat)
    (state : Communication) (minutes : Option UInt16) :
    (activity.setCommunication now state minutes).device.Timed config := by
  obtain ⟨cancelled, free⟩ :
      KeepsOthers (· = .communicationControl) now activity.device.timers
        (activity.device.timers.cancel? activity.device.communicationTimer) ∧
      (activity.device.timers.cancel? activity.device.communicationTimer).handlesOf
        .communicationControl = [] := by
    have handles := timed.handlesOf
    cases known : activity.device.communicationTimer with
    | none =>
      rw [known] at handles
      exact ⟨.refl timed.router.wellFormed, handles⟩
    | some timer =>
      rw [known] at handles
      have member : timer ∈ activity.device.timers.handlesOf .communicationControl :=
        handles ▸ List.mem_singleton_self timer
      refine ⟨.cancel timed.router.wellFormed member rfl, ?_⟩
      show (activity.device.timers.cancel timer).handlesOf _ = []
      rw [TimerQueue.handlesOf_cancel, handles]
      simp
  rw [device_setCommunication]
  have idle : ∀ communication, Device.Timed config { activity.device with
      timers := activity.device.timers.cancel? activity.device.communicationTimer,
      communicationTimer := none, communication } := fun communication =>
    @Device.Timed.control config activity.device timed _ _ cancelled none free communication
      fun _ => rfl
  unfold Device.scheduleSpeech
  dsimp only
  split
  · exact idle _
  · exact idle _
  · next speaks =>
    exact timed.control
      (cancelled.trans (.schedule cancelled.wellFormed (Nat.le_add_right now _) rfl))
      (TimerQueue.handlesOf_schedule_of_none _ free) fun same => absurd same speaks

/-- Whatever is done for a transaction, all timers are known afterwards. -/
theorem Serves.timed (serves : Serves environment now key service heard activity orders finished)
    (timed : activity.device.Timed config) : finished.device.Timed config := by
  induction serves with
  | done => exact timed
  | notes _ _ ih => exact ih timed
  | tells _ _ _ ih => exact ih (timed_sendApdu timed environment now key.peer _)
  | asks _ _ _ _ _ ih => exact ih timed
  | obeys _ _ _ _ ih => exact ih (timed_setCommunication timed now _ _)
  | answers _ responds _ ih => exact ih (timed.follow (timed.endpoint.follows_respond responds))

/-- Whatever is done for a transaction, no timer comes ahead of one that is due. -/
theorem Serves.later (serves : Serves environment now key service heard activity orders finished)
    (timed : activity.device.Timed config) :
    TimerQueue.Later now activity.device.timers finished.device.timers := by
  induction serves with
  | done => exact .refl now _
  | notes _ _ ih => exact ih timed
  | tells _ _ _ ih =>
    exact (later_sendApdu timed environment now key.peer _).trans
      (ih (timed_sendApdu timed environment now key.peer _))
  | asks _ _ _ _ _ ih => exact ih timed
  | obeys _ _ _ _ ih =>
    exact (later_setCommunication _ now _ _).trans (ih (timed_setCommunication timed now _ _))
  | answers _ responds _ ih =>
    have follows := timed.endpoint.follows_respond responds
    exact follows.keeps.later.trans (ih (timed.follow follows))

end

end Activity

end BACnet
