import BACnet.Proofs.Device.Reception
import BACnet.Proofs.Device.Silence

/-!
# Turns of a silent device

A stretch of silence is given by the state before it, `first`, and by turns after each of which the
device is silent (`Device.Silenced`). The silence may begin with the first of these turns. What may
leave the device meanwhile (`Device.MayLeave`) and what its application may be asked
(`Device.MayAsk`) depends on the exchanges and on the messages of `first`. Each turn keeps to this
(`Device.course_act`), so all turns do (`Device.sustains_of_silenced`).

All exchanges that begin in silence are about services that are served in it. So the other ones that
are going on were so at first (`Device.Stands`).
-/

namespace BACnet

/-! ## Requests that are collected -/

/-- Only the segment of a request that is being collected completes it. -/
theorem ServerTransaction.collecting_of_indicates {server : ServerTransaction} {config : Config}
    {invokeId : UInt8} {request : ConfirmedRequest} {effect : TransactionEffect}
    (caused : effect ∈ (server.receive config invokeId (.confirmedRequest request)).effects)
    (indicates : effect.isIndication = true) :
    (Transaction.server server).state = .segmentedReceive ∧ request.segment.isSome = true := by
  obtain ⟨service, segmented, maxApdu, maxSegments, phase⟩ := server
  unfold receive at caused
  cases phase with
  | segmentedReceive window =>
    cases segment : request.segment with
    | some header => exact ⟨rfl, rfl⟩
    | none =>
      dsimp only at caused
      rw [segment] at caused
      rw [List.mem_singleton.mp caused] at indicates
      cases indicates
  | processing | segmentedResponse _ => cases caused

namespace Transactions

variable {transactions : Transactions} {timers : TimerQueue TimerEvent} {now : Nat}
  {config : Config}

theorem collecting_of_indicates (sound : transactions.Sound config) {peer : Address}
    {request : ConfirmedRequest} {transaction : Transaction}
    (found : transactions.find? (.server peer request.invokeId) = some transaction)
    {action : TransactionAction}
    (caused : action ∈ (transactions.receive timers now peer (.confirmedRequest request)).actions)
    (indicates : action.effect.isIndication = true) :
    transactions.state? (.server peer request.invokeId) = some .segmentedReceive ∧
      request.segment.isSome = true := by
  have side := (sound.fits _ transaction found).side_eq
  unfold receive keyOf? at caused
  dsimp only at caused
  rw [found] at caused
  obtain ⟨effect, reacted, rfl⟩ := List.mem_map.mp caused
  rw [state?, found]
  cases transaction with
  | client _ => cases side
  | server server =>
    obtain ⟨state, segment⟩ := server.collecting_of_indicates reacted indicates
    exact ⟨congrArg some state, segment⟩

end Transactions

/-! ## Exchanges of a silent device -/

namespace Device

/-- Whether requests for the service are served in silence. -/
def servesInSilence (service : UInt8) : Prop :=
  service = ConfirmedService.deviceCommunicationControl.code ∨
    service = ConfirmedService.reinitializeDevice.code

theorem isEssential_confirmedRequest (request : ConfirmedRequest) :
    isEssential (.confirmedRequest request) = true ↔ servesInSilence request.service :=
  decide_eq_true_iff

section

variable [TextCodec]

/-- The device at work in a turn. -/
def act (device : Device) (environment : Environment) (now : Nat) : DeviceTurn → Activity
  | .command command => (device.perform environment now command).2
  | .poll => (device.poll environment now).2

theorem device_act (device : Device) (environment : Environment) (now : Nat) (turn : DeviceTurn) :
    (device.act environment now turn).device = device.turn environment now turn := by
  cases turn <;> rfl

/-- What the device hears in a turn, and from whom. -/
def hears? (device : Device) (now : Nat) : DeviceTurn → Option (Address × Apdu)
  | .command (.receive arrival frame) => device.heard? now arrival frame
  | _ => none

/-- The exchange with this name, about this service, is going on, or begins with what is heard. -/
def Engages (device : Device) (now : Nat) (turn : DeviceTurn) (key : TransactionKey)
    (service : UInt8) : Prop :=
  device.transactions.Carries key service ∨
    device.transactions.find? key = none ∧ ∃ source request,
      device.hears? now turn = some (source, .confirmedRequest request) ∧
        key = .server source request.invokeId ∧ request.service = service

/-- The device is silent after each of the turns. -/
def Silenced (device : Device) : List (Environment × Nat × DeviceTurn) → Prop
  | [] => True
  | (environment, now, turn) :: rest =>
    (device.turn environment now turn).communication = .disable ∧
      (device.turn environment now turn).Silenced rest

/-- In the course of the turns the device comes to this state, and this turn is the next one. -/
def Meets (first : Device) (turns : List (Environment × Nat × DeviceTurn)) (device : Device)
    (now : Nat) (turn : DeviceTurn) : Prop :=
  ∃ before environment after,
    turns = before ++ (environment, now, turn) :: after ∧ first.run before = device

/-- What a device says in these turns if it is silent in between: it announces itself, it answers
requests that are served in silence, and it goes on with the exchanges that were going on at first,
but asks for nothing. -/
inductive Voices (first : Device) (turns : List (Environment × Nat × DeviceTurn)) :
    Apdu → Prop where
  | announces (parameters : Octets) :
    Voices first turns (.unconfirmedRequest UnconfirmedService.iAm.code parameters)
  | serves {device : Device} {now : Nat} {turn : DeviceTurn} {key : TransactionKey}
    {service : UInt8} {apdu : Apdu} (meets : first.Meets turns device now turn)
    (engages : device.Engages now turn key service) (side : key.side = .server)
    (served : servesInSilence service) (own : apdu.BelongsTo key) : Voices first turns apdu
  | goesOn {key : TransactionKey} {service : UInt8} {apdu : Apdu}
    (earlier : first.transactions.Carries key service) (own : apdu.BelongsTo key)
    (answer : apdu.type ≠ .confirmedRequest) : Voices first turns apdu

/-- The messages that leave the device in these turns if it is silent in between: those that have
waited for a route at first, those that pass, and those that it says itself. -/
inductive MayLeave (first : Device) (turns : List (Environment × Nat × DeviceTurn))
    (message : PendingNpdu) : Prop where
  | waited {network : UInt16} (waits : message ∈ first.router.waits network)
  | passes {device : Device} {now : Nat} {arrival : Arrival} {frame : Octets} {npdu : Npdu}
    {network : UInt16} (meets : first.Meets turns device now (.command (.receive arrival frame)))
    (decoded : Npdu.decode frame = .ok npdu)
    (joins : device.router.joins? arrival npdu = some (network, message))
  | own {apdu : Apdu} (voices : first.Voices turns apdu) (originates : message.arrival = none)
    (body : message.npdu.body = .apdu apdu.encode)

/-- The requests that a silent device gives to its application in a turn. The last case is that of a
request that was collected when the silence began; it is completed by a segment that names another
service. -/
inductive MayAsk (first device : Device) (now : Nat) (turn : DeviceTurn) :
    ServiceRequest → Address → Prop where
  | whoIs (parameters : Octets) (source : Address) :
    MayAsk first device now turn (.unconfirmed .whoIs parameters) source
  | reinitializeDevice (invokeId : UInt8) (parameters : Octets) (source : Address) :
    MayAsk first device now turn (.confirmed invokeId .reinitializeDevice parameters) source
  | misnamed {service : ConfirmedService} {parameters : Octets} {source : Address}
    {request : ConfirmedRequest}
    (earlier : first.transactions.Carries (.server source request.invokeId) service.code)
    (collecting : device.transactions.state? (.server source request.invokeId) =
      some .segmentedReceive)
    (hears : device.hears? now turn = some (source, .confirmedRequest request))
    (segment : request.segment.isSome = true) (served : servesInSilence request.service) :
    MayAsk first device now turn (.confirmed request.invokeId service parameters) source

/-- The exchange was going on at first, or is about a service that is served in silence. -/
def Stands (first : Device) (key : TransactionKey) (service : UInt8) : Prop :=
  first.transactions.Carries key service ∨ key.side = .server ∧ servesInSilence service

/-- A state that the device comes to in these turns: its timers are known, the messages that wait may
leave it, and exchanges that have begun in between are about services that are served in silence. -/
structure Sustains (first : Device) (turns : List (Environment × Nat × DeviceTurn))
    (config : Config) (device : Device) : Prop where
  timed : device.Timed config
  holds : device.router.HoldsOnly (first.MayLeave turns)
  stands : ∀ key service, device.transactions.Carries key service → first.Stands key service

/-- A device at work in a turn: what it has done meets the bounds of silence, and if it is silent,
its state does. -/
structure Course (first : Device) (turns : List (Environment × Nat × DeviceTurn))
    (device : Device) (now : Nat) (turn : DeviceTurn) (activity : Activity) : Prop where
  heeds : activity.Heeds device.communication (first.MayLeave turns)
    (first.MayAsk device now turn)
  holds : activity.device.communication = .disable →
    activity.device.router.HoldsOnly (first.MayLeave turns)
  stands : activity.device.communication = .disable →
    ∀ key service, activity.device.transactions.Carries key service → first.Stands key service

variable {first device : Device} {turns : List (Environment × Nat × DeviceTurn)} {now : Nat}
  {turn : DeviceTurn} {config : Config} {key : TransactionKey} {service : UInt8}
  {environment : Environment}

theorem Sustains.course_start (sustains : first.Sustains turns config device) :
    first.Course turns device now turn (.start device) :=
  ⟨Activity.heeds_start device, fun _ => sustains.holds, fun _ => sustains.stands⟩

theorem allowedBy_of_engages (meets : first.Meets turns device now turn)
    (engages : device.Engages now turn key service) (stands : first.Stands key service)
    {apdu : Apdu} (own : apdu.BelongsTo key) (answer : apdu.type ≠ .confirmedRequest) :
    apdu.AllowedBy (first.MayLeave turns) := by
  intro message originates body
  refine .own ?_ originates body
  rcases stands with earlier | ⟨side, served⟩
  · exact .goesOn earlier own answer
  · exact .serves meets engages side served own

/-- Nothing is given to the application by a step in an exchange that is going on. -/
theorem Course.carryOut_unheard {activity : Activity} {step : TransactionStep}
    (course : first.Course turns device now turn activity)
    (meets : first.Meets turns device now turn)
    (carries : activity.device.transactions.Carries key service)
    (engages : device.Engages now turn key service)
    (voice : step.InVoice key service activity.device.transactions) (unheard : step.Unheard) :
    first.Course turns device now turn (activity.carryOut environment now step) := by
  obtain ⟨heeds, holds⟩ := @Activity.heeds_carryOut _ _ _ activity environment now key service False
    _ _ voice unheard.not_indicates
    (fun begins => by
      rcases begins with silent | ⟨⟨⟩, -⟩
      exact ⟨course.holds silent, fun apdu own answer =>
        allowedBy_of_engages meets engages (course.stands silent key service carries) own answer⟩)
    (fun _ never => never.elim) course.heeds
  refine ⟨heeds, fun silent => (holds silent).1, ?_⟩
  intro silent other asked carried
  rcases (holds silent).2 with begins | ⟨⟨⟩, -⟩
  rcases Activity.carries_carryOut voice carried with before | ⟨rfl, rfl⟩
  · exact course.stands begins other asked before
  · exact course.stands begins _ _ carries

/-- The device may be another one if its silence, its router and its exchanges are the same. -/
theorem Course.of_device {activity : Activity}
    (course : first.Course turns device now turn activity) {other : Device}
    (communication : other.communication = activity.device.communication)
    (waits : other.router.waits = activity.device.router.waits)
    (carries : ∀ key service, other.transactions.Carries key service →
      activity.device.transactions.Carries key service) :
    first.Course turns device now turn { activity with device := other } := by
  refine ⟨course.heeds.of_device communication, ?_, ?_⟩
  · intro silent network message member
    exact course.holds (communication.symm.trans silent) network message (waits ▸ member)
  · intro silent key service carried
    exact course.stands (communication.symm.trans silent) key service
      (carries key service carried)

theorem Course.carryOut_idle {activity : Activity} {step : TransactionStep}
    (course : first.Course turns device now turn activity)
    (idle : step.Idle activity.device.transactions) :
    first.Course turns device now turn (activity.carryOut environment now step) := by
  rw [Activity.carryOut_of_idle activity idle.actions]
  exact course.of_device rfl rfl fun _ _ => Transactions.carries_of_idle idle

/-! ## Time -/

/-- Messages are given up, and only messages between routers are sent. -/
theorem Course.giveUp {activity : Activity} (course : first.Course turns device now turn activity)
    {timer : TimerHandle} {network : UInt16} {timers : TimerQueue TimerEvent}
    (popped : activity.device.timers.pop? now = some (timer, .routeResolution network, timers))
    (environment : Environment) :
    first.Course turns device now turn (Activity.expire
      { activity with device := { activity.device with timers } } environment now timer
      (.routeResolution network)) := by
  obtain ⟨waits, administrative⟩ := Relay.expire_spec activity.device.relay now
  unfold Relay.step at waits administrative
  rw [show activity.device.relay.timers.pop? now = _ from popped] at waits administrative
  have routed : ∀ router timers, (activity.withRouter router timers).Heeds device.communication
      (first.MayLeave turns) (first.MayAsk device now turn) :=
    fun router timers => course.heeds.of_device rfl
  unfold Activity.expire
  dsimp only
  refine ⟨Activity.heeds_foldl_routerOutput (routed _ _) environment ?_, ?_, ?_⟩
  · intro _ sent member application
    rw [administrative sent member] at application
    cases application
  · rw [Activity.device_foldl_routerOutput]
    intro silent other message member
    exact course.holds silent other message (waits other message member)
  · rw [Activity.device_foldl_routerOutput]
    exact course.stands

/-- A timer that runs out. No exchange begins with it. -/
theorem Course.expire {activity : Activity} (course : first.Course turns device now turn activity)
    (meets : first.Meets turns device now turn) (timed : activity.device.Timed config)
    (carried : ∀ key service, activity.device.transactions.Carries key service →
      device.transactions.Carries key service)
    {timer : TimerHandle} {event : TimerEvent} {timers : TimerQueue TimerEvent}
    (popped : activity.device.timers.pop? now = some (timer, event, timers))
    (environment : Environment) :
    let expired := Activity.expire { activity with device := { activity.device with timers } }
      environment now timer event
    first.Course turns device now turn expired ∧
      ∀ key service, expired.device.transactions.Carries key service →
        device.transactions.Carries key service := by
  have begins : first.Course turns device now turn
      { activity with device := { activity.device with timers } } :=
    course.of_device rfl rfl fun _ _ => id
  cases event with
  | transaction key =>
    rcases Transactions.inVoice_timeout timed.endpoint.sound timers now timer key with
      idle | ⟨service, carries, voice⟩
    · refine ⟨begins.carryOut_idle idle, ?_⟩
      intro other asked finished
      rw [Activity.expire, Activity.carryOut_of_idle _ idle.actions] at finished
      exact carried other asked (Transactions.carries_of_idle idle finished)
    · refine ⟨begins.carryOut_unheard meets carries (.inl (carried key service carries)) voice
        (Transactions.unheard_timeout timer key), ?_⟩
      intro other asked finished
      rcases Activity.carries_carryOut voice finished with before | ⟨rfl, rfl⟩
      · exact carried other asked before
      · exact carried _ _ carries
  | routeResolution network =>
    refine ⟨course.giveUp popped environment, ?_⟩
    unfold Activity.expire
    dsimp only
    rw [Activity.device_foldl_routerOutput]
    exact carried
  | communicationControl =>
    unfold Activity.expire
    dsimp only
    split
    · have speaks := Activity.heeds_setCommunication (@Activity.Heeds.of_device _ _ _ _ course.heeds
        { activity.device with timers, communicationTimer := none } rfl) now .enable none
      refine ⟨⟨speaks, ?_, ?_⟩, ?_⟩
      all_goals rw [Activity.device_setCommunication]
      · exact nofun
      · exact nofun
      · exact carried
    · exact ⟨begins, carried⟩

theorem course_expireDue (meets : first.Meets turns device now turn) (environment : Environment)
    (limit : Nat) {activity : Activity} (timed : activity.device.Timed config)
    (course : first.Course turns device now turn activity)
    (carried : ∀ key service, activity.device.transactions.Carries key service →
      device.transactions.Carries key service) :
    first.Course turns device now turn (Activity.expireDue environment now limit activity).2 := by
  induction limit generalizing activity with
  | zero => exact course
  | succ limit ih =>
    unfold Activity.expireDue
    split
    · exact course
    · next timer event timers popped =>
      obtain ⟨expired, kept⟩ := course.expire meets timed carried popped environment
      exact ih (Activity.timed_expire timed popped environment) expired kept

theorem course_poll (meets : first.Meets turns device now turn)
    (sustains : first.Sustains turns config device) (environment : Environment) :
    first.Course turns device now turn (device.poll environment now).2 := by
  have expired := course_expireDue meets environment device.timers.size sustains.timed
    sustains.course_start fun _ _ => id
  exact expired.of_device rfl rfl fun _ _ => id

/-! ## What the application asks for -/

theorem course_respond (meets : first.Meets turns device now turn)
    (sustains : first.Sustains turns config device) (environment : Environment) (peer : Address)
    (invokeId : UInt8) (outcome : Outcome) :
    first.Course turns device now turn
      (device.respond environment now peer invokeId outcome).2 := by
  unfold respond
  split
  · exact sustains.course_start
  · next step responds =>
    obtain ⟨service, carries, voice⟩ := Transactions.inVoice_respond responds
    exact sustains.course_start.carryOut_unheard meets carries (.inl carries) voice
      (Transactions.unheard_respond responds)

theorem course_abort (meets : first.Meets turns device now turn)
    (sustains : first.Sustains turns config device) (environment : Environment) (peer : Address)
    (invokeId : UInt8) (reason : AbortReason) :
    first.Course turns device now turn (device.abort environment now peer invokeId reason) := by
  rcases Transactions.inVoice_abort sustains.timed.endpoint.sound device.timers now
      (.client peer invokeId) reason with idle | ⟨service, carries, voice⟩
  · exact sustains.course_start.carryOut_idle idle
  · exact sustains.course_start.carryOut_unheard meets carries (.inl carries) voice
      (Transactions.unheard_abort _ reason)

theorem course_sendConfirmed (sustains : first.Sustains turns config device)
    (environment : Environment) (destination : Address) (service : ConfirmedService)
    (parameters : Octets) :
    first.Course turns device now turn
      (device.sendConfirmed environment now destination service parameters).2 := by
  have voice := Transactions.inVoice_request device.transactions device.timers now destination
    service.code parameters (device.peers.find? destination)
  have unheard : (device.transactions.request device.timers now destination service.code parameters
    (device.peers.find? destination)).2.Unheard := Transactions.unheard_request _ _ _ _
  unfold sendConfirmed
  dsimp only
  split
  · exact sustains.course_start
  · next enabled =>
    have speaks : device.communication ≠ .disable := by
      rw [not_not.mp enabled]
      decide
    generalize device.transactions.request device.timers now destination service.code parameters
      (device.peers.find? destination) = requested at voice unheard
    obtain ⟨invokeId, step⟩ := requested
    have silenced : ∀ {activity : Activity},
        activity.Heeds device.communication (first.MayLeave turns) (first.MayAsk device now turn) →
          activity.device.communication ≠ .disable →
            first.Course turns device now turn activity := fun heeds speaks =>
      ⟨heeds, fun silent => absurd silent speaks, fun silent => absurd silent speaks⟩
    cases invokeId with
    | error error => exact silenced (sustains.course_start.heeds.of_device rfl) speaks
    | ok invokeId =>
      rcases voice with idle | ⟨id, -, voice⟩
      · exact sustains.course_start.carryOut_idle idle
      · have unbegun : ¬ (device.communication = .disable ∨
            Activity.Controls (.client destination id) service.code False) := by
          rintro (silent | ⟨⟨⟩, -⟩)
          exact speaks silent
        obtain ⟨heeds, falls⟩ := @Activity.heeds_carryOut _ _ _ (.start device) environment now _ _
          False _ _ voice unheard.not_indicates (fun begins => absurd begins unbegun)
          (fun _ never => never.elim) sustains.course_start.heeds
        exact silenced heeds fun silent => unbegun (falls silent).2

/-- A silent device sends no requests but announces itself. -/
theorem course_send (sustains : first.Sustains turns config device) (environment : Environment)
    (destination : Address) (request : OutgoingRequest) :
    first.Course turns device now turn (device.send environment now destination request).2 := by
  cases request with
  | confirmed service parameters =>
    exact course_sendConfirmed sustains environment destination service parameters
  | unconfirmed service parameters =>
    unfold send sendUnconfirmed
    dsimp only
    split
    · exact sustains.course_start
    · next permitted =>
      have announces : device.communication = .disable →
          (Apdu.unconfirmedRequest service.code parameters).AllowedBy (first.MayLeave turns) := by
        intro silent message originates body
        have announcement : service = .iAm := by
          by_contra other
          refine permitted ⟨?_, other⟩
          rw [silent]
          exact nofun
        subst announcement
        exact .own (.announces parameters) originates body
      have sent : first.Course turns device now turn ((Activity.start device).sendApdu environment
          now destination (.unconfirmedRequest service.code parameters)).2 := by
        refine ⟨Activity.heeds_sendApdu sustains.course_start.heeds environment now destination
          fun silent => ⟨sustains.holds, announces silent⟩, ?_, ?_⟩
        · intro silent
          rw [Activity.device_sendApdu] at silent
          exact @Activity.holdsOnly_sendApdu _ (.start device) sustains.holds environment now
            destination _ (announces silent)
        · rw [Activity.device_sendApdu]
          exact fun _ => sustains.stands
      split
      · next result =>
        rw [result] at sent
        exact sent
      · next result =>
        rw [result] at sent
        exact sent

/-! ## Frames -/

/-- A silent device takes only the messages by which it can be found and be told to speak again. -/
theorem isEssential_of_taken? (silent : device.communication = .disable) {data : Octets}
    {apdu : Apdu} (taken : device.taken? data = some apdu) : isEssential apdu = true := by
  obtain ⟨-, accepted⟩ := Option.filter_eq_some_iff.mp taken
  rw [accepts, silent] at accepted
  exact accepted

variable {arrival : Arrival} {frame : Octets} {npdu : Npdu}

/-- Of the application messages that come of a frame in the router, all may leave the device. -/
theorem routed_spec (meets : first.Meets turns device now (.command (.receive arrival frame)))
    (sustains : first.Sustains turns config device) (decoded : Npdu.decode frame = .ok npdu) :
    (device.routed now arrival npdu).router.HoldsOnly (first.MayLeave turns) ∧
      ∀ sent, .transmit sent ∈ (device.relay.step now (.receive arrival npdu)).outputs →
        sent.npdu.body.isNetwork = false →
          ∃ message, first.MayLeave turns message ∧ message.npdu.SameContent sent.npdu := by
  have allows : device.relay.Allows (first.MayLeave turns) (.receive arrival npdu) :=
    fun network message joins _ => .passes meets decoded joins
  obtain ⟨waits, leaves⟩ := @Relay.accounted_step _ device.relay sustains.holds now _ allows
  refine ⟨waits, fun sent member application => ?_⟩
  obtain ⟨message, may, sends⟩ := leaves sent member application
  exact ⟨message, may, sends.content⟩

theorem Course.routerOutputs {activity : Activity}
    (course : first.Course turns device now turn activity) (environment : Environment)
    {outputs : List RouterOutput}
    (leave : ∀ sent, .transmit sent ∈ outputs → sent.npdu.body.isNetwork = false →
      ∃ message, first.MayLeave turns message ∧ message.npdu.SameContent sent.npdu) :
    first.Course turns device now turn
      (outputs.foldl (·.routerOutput environment ·) activity) := by
  refine ⟨Activity.heeds_foldl_routerOutput course.heeds environment fun _ => leave, ?_, ?_⟩
  all_goals rw [Activity.device_foldl_routerOutput]
  · exact course.holds
  · exact course.stands

theorem Course.notes {activity : Activity} (course : first.Course turns device now turn activity)
    {events : List DeviceEvent} (quiet : ∀ event ∈ events, event.isNote = true) :
    first.Course turns device now turn (events.foldl (·.record ·) activity) := by
  induction events generalizing activity with
  | nil => exact course
  | cons event rest ih =>
    refine ih ⟨course.heeds.note (quiet event List.mem_cons_self), course.holds, course.stands⟩ ?_
    exact fun other member => quiet other (List.mem_cons_of_mem event member)

/-- A silent device gives only one unconfirmed request to its application. -/
theorem Course.receiveUnconfirmed {activity : Activity}
    (course : first.Course turns device now turn activity) (arrival : Arrival) (source : Address)
    {code : UInt8} (parameters : Octets)
    (essential : activity.device.communication = .disable →
      isEssential (.unconfirmedRequest code parameters) = true) :
    first.Course turns device now turn
      (activity.receiveUnconfirmed arrival source code parameters) := by
  have named : activity.device.communication = .disable →
      UnconfirmedService.ofCode? code = some .whoIs := by
    intro silent
    rw [of_decide_eq_true (essential silent)]
    exact UnconfirmedService.ofCode?_code .whoIs
  have given : ∀ {device' : Device} {known : UnconfirmedService},
      device'.communication = activity.device.communication →
      UnconfirmedService.ofCode? code = some known →
        (Activity.record { activity with device := device' }
          (.request (.unconfirmed known parameters) source)).Heeds device.communication
            (first.MayLeave turns) (first.MayAsk device now turn) := by
    intro device' known same names
    refine (course.heeds.of_device same).record rfl fun silent => ?_
    cases (named (same.symm.trans silent)).symm.trans names
    exact .whoIs parameters source
  unfold Activity.receiveUnconfirmed
  dsimp only
  split
  · exact course
  · next names =>
    split
    · exact ⟨course.heeds.note rfl, course.holds, course.stands⟩
    · exact ⟨given rfl names, course.holds, course.stands⟩
  · next known _ names => exact ⟨given rfl names, course.holds, course.stands⟩

/-- An exchange in which a silent device hears something was going on at first, or is served in
silence. -/
theorem stands_of_heard (sustains : first.Sustains turns config device) {source : Address}
    {apdu : Apdu} (silent : device.communication = .disable → isEssential apdu = true)
    (origin : device.transactions.Carries key service ∨ device.transactions.find? key = none ∧
      ∃ request, apdu = .confirmedRequest request ∧ key = .server source request.invokeId ∧
        request.service = service)
    {heard : Prop}
    (begins : device.communication = .disable ∨ Activity.Controls key service heard) :
    first.Stands key service := by
  rcases origin with carries | ⟨-, request, rfl, rfl, rfl⟩
  · exact sustains.stands key service carries
  · rcases begins with falls | ⟨-, side, control⟩
    · exact .inr ⟨rfl, (isEssential_confirmedRequest request).mp (silent falls)⟩
    · exact .inr ⟨side, .inl control⟩

/-- A silent device gives to its application what it has been asked for in an exchange. -/
theorem mayAsk_of_heard (sustains : first.Sustains turns config device) {source : Address}
    {apdu : Apdu} (hears : device.hears? now turn = some (source, apdu))
    (essential : isEssential apdu = true) (named : Transactions.keyOf? source apdu = some key)
    (stands : first.Stands key service)
    (origin : device.transactions.Carries key service ∨ device.transactions.find? key = none ∧
      ∃ request, apdu = .confirmedRequest request ∧ key = .server source request.invokeId ∧
        request.service = service)
    {timers : TimerQueue TimerEvent} {action : TransactionAction}
    (caused : action ∈ (device.transactions.receive timers now source apdu).actions)
    (indicates : action.effect.isIndication = true) {known : ConfirmedService}
    (parameters : Octets) (other : known ≠ .deviceCommunicationControl)
    (names : known.code = service) :
    first.MayAsk device now turn (.confirmed key.invokeId known parameters) key.peer := by
  by_cases served : servesInSilence service
  · rcases served with control | restart
    · exact absurd (ConfirmedService.code_injective (names.trans control)) other
    · rw [ConfirmedService.code_injective (names.trans restart)]
      exact .reinitializeDevice key.invokeId parameters key.peer
  -- Exchanges about other services do not begin in silence, so this one was going on at first.
  · have earlier := stands.resolve_right fun ⟨_, fine⟩ => served fine
    cases apdu with
    | confirmedRequest request =>
      cases named
      have essential := (isEssential_confirmedRequest request).mp essential
      rcases origin with ⟨transaction, found, -⟩ | ⟨-, _, ⟨⟩, -, same⟩
      · obtain ⟨collecting, segment⟩ := Transactions.collecting_of_indicates
          sustains.timed.endpoint.sound found caused indicates
        rw [← names] at earlier
        exact .misnamed earlier collecting hears segment essential
      · exact absurd (same ▸ essential) served
    | unconfirmedRequest _ _ => cases named
    | _ => cases essential

theorem Course.receiveForTransaction {router : Router} {timers : TimerQueue TimerEvent}
    {events : List DeviceEvent}
    (course : first.Course turns device now turn ⟨{ device with router, timers }, events⟩)
    (meets : first.Meets turns device now turn) (sustains : first.Sustains turns config device)
    (holds : router.HoldsOnly (first.MayLeave turns)) {source : Address} {apdu : Apdu}
    (hears : device.hears? now turn = some (source, apdu))
    (essential : device.communication = .disable → isEssential apdu = true)
    (environment : Environment) :
    first.Course turns device now turn
      (Activity.receiveForTransaction ⟨{ device with router, timers }, events⟩ environment now
        source apdu) := by
  obtain ⟨peers, result⟩ := Activity.exists_receiveForTransaction
    ⟨{ device with router, timers }, events⟩ environment now source apdu
  have begins :
      first.Course turns device now turn ⟨{ device with router, timers, peers }, events⟩ :=
    course.of_device rfl rfl fun _ _ => id
  rw [result]
  rcases Transactions.inVoice_receive sustains.timed.endpoint.sound timers now source apdu with
    idle | ⟨key, service, named, voice, origin⟩
  · exact begins.carryOut_idle idle
  · have engages : device.Engages now turn key service := by
      rcases origin with carries | ⟨absent, request, rfl, same, asked⟩
      · exact .inl carries
      · exact .inr ⟨absent, source, request, hears, same, asked⟩
    have stands : ∀ {heard : Prop}, device.communication = .disable ∨
        Activity.Controls key service heard → first.Stands key service :=
      fun begins => stands_of_heard sustains essential origin begins
    obtain ⟨heeds, falls⟩ := @Activity.heeds_carryOut _ _ _
      ⟨{ device with router, timers, peers }, events⟩ environment now key service
      (∃ action ∈ (device.transactions.receive timers now source apdu).actions,
        action.effect.isIndication = true) _ _ voice
      (fun action member indicates => ⟨action, member, indicates⟩)
      (fun fine => ⟨holds, fun _ own answer =>
        allowedBy_of_engages meets engages (stands fine) own answer⟩)
      (fun silent ⟨_, caused, indicates⟩ _ _ parameters other names =>
        mayAsk_of_heard sustains hears (essential silent) named (@stands False (.inl silent)) origin
          caused indicates parameters other names)
      begins.heeds
    refine ⟨heeds, fun silent => (falls silent).1, ?_⟩
    intro silent other asked carried
    rcases Activity.carries_carryOut voice carried with before | ⟨rfl, rfl⟩
    · exact sustains.stands other asked before
    · exact stands (falls silent).2

theorem Course.take {router : Router} {timers : TimerQueue TimerEvent}
    {events : List DeviceEvent}
    (course : first.Course turns device now turn ⟨{ device with router, timers }, events⟩)
    (meets : first.Meets turns device now turn) (sustains : first.Sustains turns config device)
    (holds : router.HoldsOnly (first.MayLeave turns)) {source : Address} {apdu : Apdu}
    (hears : device.hears? now turn = some (source, apdu))
    (essential : device.communication = .disable → isEssential apdu = true)
    (environment : Environment) (arrival : Arrival) :
    first.Course turns device now turn
      (Activity.take ⟨{ device with router, timers }, events⟩ environment now arrival source
        apdu) := by
  have transacted := course.receiveForTransaction meets sustains holds hears essential environment
  cases apdu with
  | unconfirmedRequest service parameters =>
    exact course.receiveUnconfirmed arrival source parameters essential
  | _ => exact transacted

theorem course_receive (meets : first.Meets turns device now (.command (.receive arrival frame)))
    (sustains : first.Sustains turns config device) (environment : Environment) :
    first.Course turns device now (.command (.receive arrival frame))
      (device.receive environment now arrival frame) := by
  have receives := device.receives environment now arrival frame
  generalize hears : device.heard? now arrival frame = heard at receives
  have begun : ∀ {npdu}, Npdu.decode frame = .ok npdu → first.Course turns device now
      (.command (.receive arrival frame)) (.start (device.routed now arrival npdu)) :=
    fun decoded => ⟨Activity.heeds_start device |>.of_device rfl,
      fun _ => (routed_spec meets sustains decoded).1, fun _ => sustains.stands⟩
  generalize device.receive environment now arrival frame = activity at receives ⊢
  cases receives with
  | unreadable decoded =>
    have begins : first.Course turns device now (.command (.receive arrival frame)) _ :=
      sustains.course_start
    exact ⟨begins.heeds.note rfl, begins.holds, begins.stands⟩
  | passes decoded =>
    exact (begun decoded).routerOutputs environment (routed_spec meets sustains decoded).2
  | @refuses npdu decoded before after _ _ _ _ outputs _ quiet =>
    have leaves := (routed_spec meets sustains decoded).2
    rw [outputs] at leaves
    have ahead := (begun decoded).routerOutputs environment fun sent member =>
      leaves sent (List.mem_append_left _ member)
    exact (ahead.notes quiet).routerOutputs environment fun sent member =>
      leaves sent (List.mem_append_right _ (List.mem_cons_of_mem _ member))
  | @takes npdu decoded before after source _ _ _ apdu outputs taken =>
    obtain ⟨holds, leaves⟩ := routed_spec meets sustains decoded
    rw [outputs] at leaves
    have ahead := (begun decoded).routerOutputs environment fun sent member =>
      leaves sent (List.mem_append_left _ member)
    have same := Activity.device_foldl_routerOutput
      (Activity.start (device.routed now arrival npdu)) environment before
    refine Course.routerOutputs ?_ environment fun sent member =>
      leaves sent (List.mem_append_right _ (List.mem_cons_of_mem _ member))
    generalize before.foldl (·.routerOutput environment ·)
      (Activity.start (device.routed now arrival npdu)) = between at ahead same ⊢
    obtain ⟨own, events⟩ := between
    cases same
    exact ahead.take meets sustains holds hears
      (fun silent => isEssential_of_taken? silent taken) environment arrival

/-! ## Turns -/

/-- With each turn a silent device says and asks only what it may, and so does one that falls
silent. -/
theorem course_act (meets : first.Meets turns device now turn)
    (sustains : first.Sustains turns config device) (environment : Environment) :
    first.Course turns device now turn (device.act environment now turn) := by
  cases turn with
  | poll => exact course_poll meets sustains environment
  | command command =>
    cases command with
    | receive arrival frame => exact course_receive meets sustains environment
    | send destination request => exact course_send sustains environment destination request
    | respond peer invokeId outcome =>
      exact course_respond meets sustains environment peer invokeId outcome
    | abort peer invokeId reason =>
      exact course_abort meets sustains environment peer invokeId reason

theorem sustains_turn (meets : first.Meets turns device now turn)
    (sustains : first.Sustains turns config device) (environment : Environment)
    (silent : (device.turn environment now turn).communication = .disable) :
    first.Sustains turns config (device.turn environment now turn) := by
  have course := course_act meets sustains environment
  have timed := timed_turn sustains.timed environment now turn
  rw [← device_act] at silent timed ⊢
  exact ⟨timed, course.holds silent, course.stands silent⟩

theorem run_append (device : Device) (before after : List (Environment × Nat × DeviceTurn)) :
    device.run (before ++ after) = (device.run before).run after := by
  induction before generalizing device with
  | nil => rfl
  | cons entry rest ih => exact ih _

/-- A device is in such a state whenever it comes to be silent in these turns. -/
theorem sustains_run {before more after : List (Environment × Nat × DeviceTurn)}
    (all : turns = before ++ more ++ after)
    (sustains : first.Sustains turns config (first.run before))
    (silenced : (first.run before).Silenced more) :
    first.Sustains turns config (first.run (before ++ more)) := by
  -- All of `turns` stays in view; `before` is the part of it that is done.
  induction more generalizing before with
  | nil =>
    rw [List.append_nil]
    exact sustains
  | cons entry rest ih =>
    obtain ⟨environment, now, turn⟩ := entry
    obtain ⟨silent, silenced⟩ := silenced
    have next : first.run (before ++ [(environment, now, turn)]) =
        (first.run before).turn environment now turn := run_append first before _
    have meets : first.Meets turns (first.run before) now turn := by
      refine ⟨before, environment, rest ++ after, ?_, rfl⟩
      rw [all, List.append_assoc]
      rfl
    have turned := sustains_turn meets sustains environment silent
    rw [← next] at silenced turned
    have finished := ih (by rw [all]; simp) turned silenced
    rw [List.append_assoc] at finished
    exact finished

/-- At first all messages that wait may leave, and all exchanges were going on. -/
theorem sustains_first (config : Config) (past turns : List (Environment × Nat × DeviceTurn)) :
    ((start config).run past).Sustains turns config ((start config).run past) := by
  refine ⟨timed_run (timed_start config) past, ?_, fun _ _ carries => .inl carries⟩
  intro network message waits application
  refine ⟨.waited waits, ?_⟩
  obtain ⟨events, reached⟩ := reaches_run_start config past
  have bound := @Relay.boundFor_run (Relay.new config.ports config.router)
    (fun _ _ member => absurd member List.not_mem_nil) events
  rw [reached] at bound
  exact bound network message waits application

/-- The state after turns between which the device is silent, and before one more. -/
theorem sustains_of_silenced (config : Config) (past : List (Environment × Nat × DeviceTurn))
    {more : List (Environment × Nat × DeviceTurn)}
    (silenced : ((start config).run past).Silenced more) (environment : Environment) (now : Nat)
    (turn : DeviceTurn) :
    ((start config).run past).Sustains (more ++ [(environment, now, turn)]) config
      (((start config).run past).run more) :=
  @sustains_run _ _ _ config [] more [(environment, now, turn)] rfl (sustains_first config past _)
    silenced

theorem meets_last (first : Device) (more : List (Environment × Nat × DeviceTurn))
    (environment : Environment) (now : Nat) (turn : DeviceTurn) :
    first.Meets (more ++ [(environment, now, turn)]) (first.run more) now turn :=
  ⟨more, environment, [], rfl, rfl⟩

/-! ## A device that falls silent -/

end

/-- The links take all frames, and the application answers later. -/
def patient : Environment := ⟨fun _ => none, fun _ _ => none⟩

/-- A frame arrives from a station on the first link. -/
def hearing (station : UInt8) (frame : Octets) : DeviceTurn :=
  .command (.receive ⟨0, [station]⟩ frame)

/-- The device is told to be silent until further notice. -/
def hushed : List (Environment × Nat × DeviceTurn) :=
  [(patient, 0, hearing 21 [1, 4, 0, 5, 1, 17, 0x19, 1])]

end Device

end BACnet
