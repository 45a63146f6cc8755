import BACnet.Proofs.Device.SilentTurns
import BACnet.Text.Chart

/-!
# What a silent device is asked

A silent device looks at each message by itself: it takes those that name a service that is served
in silence. A request in segments is about the service that its first segment has named. So if it
was begun before the silence, and its other segments name such a service, it is completed in
silence, whatever it is about. No other requests but those that are served in silence are given to
the application, and none make progress (`Device.requests_of_silenced`).
-/

namespace BACnet

namespace Transactions

/-- Nothing has been given to the application in the exchange: it has not begun, or its request is
still being collected. -/
def Unasked (transactions : Transactions) (key : TransactionKey) : Prop :=
  transactions.state? key = none ∨ transactions.state? key = some .segmentedReceive

/-- The exchange makes no progress: it stays as it is, or is over. -/
def Halts (key : TransactionKey) (before after : Transactions) : Prop :=
  after.find? key = before.find? key ∨ after.find? key = none

variable {before between after transactions : Transactions} {timers : TimerQueue TimerEvent}
  {now : Nat} {key : TransactionKey} {peer : Address} {invokeId : UInt8}

theorem Halts.trans (first : Halts key before between) (second : Halts key between after) :
    Halts key before after := by
  rcases second with same | ended
  · rcases first with kept | ended
    · exact .inl (same.trans kept)
    · exact .inr (same.trans ended)
  · exact .inr ended

theorem Halts.unasked (halts : Halts key before after) (unasked : before.Unasked key) :
    after.Unasked key := by
  unfold Unasked state? at *
  rcases halts with same | ended
  · rw [same]
    exact unasked
  · rw [ended]
    exact .inl rfl

/-- The application answers only what it has been given. -/
theorem not_unasked_of_respond {outcome : Outcome} {step : TransactionStep}
    (responds : transactions.respond timers now peer invokeId outcome = .ok step) :
    ¬ transactions.Unasked (.server peer invokeId) := by
  unfold respond at responds
  dsimp only at responds
  split at responds
  · next server found =>
    split at responds
    · next processing =>
      obtain ⟨service, segmented, maxApdu, maxSegments, phase⟩ := server
      cases processing
      rw [Unasked, state?, found]
      rintro (⟨⟨⟩⟩ | ⟨⟨⟩⟩)
    · cases responds
  · cases responds

/-- A request that is being collected is given up when its timer runs out. -/
theorem halts_timeout {config : Config} (sound : transactions.Sound config)
    (unasked : transactions.Unasked (.server peer invokeId)) (timers : TimerQueue TimerEvent)
    (now : Nat) (handle : TimerHandle) :
    (transactions.timeout timers now handle (.server peer invokeId)).actions = [] ∧
      Halts (.server peer invokeId) transactions
        (transactions.timeout timers now handle (.server peer invokeId)).transactions := by
  unfold timeout
  split
  · next live found =>
    split
    · have standing := Transactions.find?_of_live found
      have side := (sound.fits _ live.transaction standing).side_eq
      cases exchange : live.transaction with
      | client _ =>
        rw [exchange] at side
        cases side
      | server server =>
        obtain ⟨service, segmented, maxApdu, maxSegments, phase⟩ := server
        rw [Unasked, state?, standing, exchange] at unasked
        cases phase with
        | segmentedReceive window =>
          refine ⟨rfl, .inr ?_⟩
          show (transactions.proceed timers now _ .finish).1.find? _ = none
          rw [find?_proceed_self]
          rfl
        | processing | segmentedResponse _ => exact absurd unasked (by simp [Transaction.state])
    · exact ⟨rfl, .inl rfl⟩
  · exact ⟨rfl, .inl rfl⟩

end Transactions

open Transactions (Halts)

/-! ## Time -/

namespace Activity

variable {activity : Activity} {environment : Environment} {now : Nat} {config : Config}
  {key : TransactionKey} {service : UInt8}

variable [TextCodec]

theorem halts_of_idle {step : TransactionStep} (idle : step.Idle activity.device.transactions)
    (key : TransactionKey) :
    Halts key activity.device.transactions
      (activity.carryOut environment now step).device.transactions := by
  rw [carryOut_of_idle activity idle.actions]
  exact .inl (Transactions.find?_of_idle idle key)

variable {peer : Address} {invokeId : UInt8}

/-- No request is completed because a timer runs out. -/
theorem halts_expire (timed : activity.device.Timed config)
    (unasked : activity.device.transactions.Unasked (.server peer invokeId)) {timer : TimerHandle}
    {event : TimerEvent} (timers : TimerQueue TimerEvent) (environment : Environment) (now : Nat) :
    Halts (.server peer invokeId) activity.device.transactions
      (Activity.expire { activity with device := { activity.device with timers } } environment now
        timer event).device.transactions := by
  cases event with
  | transaction key =>
    by_cases same : key = .server peer invokeId
    · subst same
      obtain ⟨nothing, halts⟩ :=
        Transactions.halts_timeout timed.endpoint.sound unasked timers now timer
      rw [expire, carryOut_of_idle _ nothing]
      exact halts
    · have voice := Transactions.inVoice_timeout timed.endpoint.sound timers now timer key
      rw [expire]
      rcases voice with idle | ⟨service, -, voice⟩
      · exact @halts_of_idle { activity with device := { activity.device with timers } } _ _ _
          _ idle _
      · exact .inl (@others_carryOut environment now key service
          { activity with device := { activity.device with timers } } _ _ voice _ same)
  | routeResolution network =>
    unfold expire
    dsimp only
    rw [device_foldl_routerOutput]
    exact .inl rfl
  | communicationControl =>
    unfold expire
    dsimp only
    split
    · rw [device_setCommunication]
      exact .inl rfl
    · exact .inl rfl

theorem halts_expireDue (environment : Environment) (now limit : Nat)
    (timed : activity.device.Timed config)
    (unasked : activity.device.transactions.Unasked (.server peer invokeId)) :
    Halts (.server peer invokeId) activity.device.transactions
      (expireDue environment now limit activity).2.device.transactions := by
  induction limit generalizing activity with
  | zero => exact .inl rfl
  | succ limit ih =>
    unfold expireDue
    split
    · exact .inl rfl
    · next timer event timers popped =>
      have expired := @halts_expire activity config _ peer invokeId timed unasked timer event timers
        environment now
      exact expired.trans (ih (timed_expire timed popped environment) (expired.unasked unasked))

/-! ## Messages -/

/-- A message that is taken is about one exchange. -/
theorem halts_take {router : Router} {timers : TimerQueue TimerEvent} {events : List DeviceEvent}
    {device : Device} (timed : device.Timed config) (environment : Environment) (now : Nat)
    (arrival : Arrival) {source : Address} {apdu : Apdu}
    (other : Transactions.keyOf? source apdu ≠ some key) :
    Halts key device.transactions (take ⟨{ device with router, timers }, events⟩ environment now
      arrival source apdu).device.transactions := by
  have transacted : Halts key device.transactions
      (receiveForTransaction ⟨{ device with router, timers }, events⟩ environment now source
        apdu).device.transactions := by
    obtain ⟨peers, result⟩ := exists_receiveForTransaction
      ⟨{ device with router, timers }, events⟩ environment now source apdu
    rw [result]
    rcases Transactions.inVoice_receive timed.endpoint.sound timers now source apdu with
      idle | ⟨own, service, named, voice, -⟩
    · exact @halts_of_idle ⟨{ device with router, timers, peers }, events⟩ _ _ _ _ idle _
    · refine .inl (@others_carryOut environment now own service
        ⟨{ device with router, timers, peers }, events⟩ _ _ voice _ ?_)
      rintro rfl
      exact other named
  cases apdu with
  | unconfirmedRequest code parameters =>
    obtain ⟨peers, result⟩ := device_receiveUnconfirmed ⟨{ device with router, timers }, events⟩
      arrival source code parameters
    rw [take, result]
    exact .inl rfl
  | _ => exact transacted

end Activity

namespace Device

variable {device : Device} {config : Config} {environment : Environment} {now : Nat}
  {turn : DeviceTurn} {peer : Address} {invokeId : UInt8}

section

variable [TextCodec]

/-- With a turn the device hears a request of the peer under this number that is served in silence.
-/
def HearsServed (device : Device) (now : Nat) (turn : DeviceTurn) (peer : Address)
    (invokeId : UInt8) : Prop :=
  ∃ request, device.hears? now turn = some (peer, .confirmedRequest request) ∧
    request.invokeId = invokeId ∧ servesInSilence request.service

theorem halts_receive (timed : device.Timed config) (silent : device.communication = .disable)
    (environment : Environment) (now : Nat) (arrival : Arrival) (frame : Octets) (peer : Address)
    (invokeId : UInt8) :
    Halts (.server peer invokeId) device.transactions
        (device.receive environment now arrival frame).device.transactions ∨
      device.HearsServed now (.command (.receive arrival frame)) peer invokeId := by
  have receives := device.receives environment now arrival frame
  generalize hears : device.heard? now arrival frame = heard at receives
  generalize device.receive environment now arrival frame = activity at receives ⊢
  cases receives with
  | unreadable decoded => exact .inl (.inl rfl)
  | passes decoded =>
    rw [Activity.device_foldl_routerOutput]
    exact .inl (.inl rfl)
  | refuses decoded outputs quiet =>
    rw [Activity.device_foldl_routerOutput, Activity.device_foldl_record,
      Activity.device_foldl_routerOutput]
    exact .inl (.inl rfl)
  | @takes npdu decoded before after source _ _ _ apdu outputs taken =>
    rw [Activity.device_foldl_routerOutput]
    have same := Activity.device_foldl_routerOutput
      (Activity.start (device.routed now arrival npdu)) environment before
    generalize before.foldl (·.routerOutput environment ·)
      (Activity.start (device.routed now arrival npdu)) = between at same ⊢
    obtain ⟨own, events⟩ := between
    cases same
    by_cases named : Transactions.keyOf? source apdu = some (.server peer invokeId)
    · have essential := isEssential_of_taken? silent taken
      cases apdu with
      | confirmedRequest request =>
        cases named
        exact .inr ⟨request, hears, rfl, (isEssential_confirmedRequest request).mp essential⟩
      | unconfirmedRequest _ _ => cases named
      | _ => cases essential
    · exact .inl (Activity.halts_take timed environment now arrival named)

theorem halts_send (silent : device.communication = .disable) (environment : Environment)
    (now : Nat) (destination : Address) (request : OutgoingRequest) (key : TransactionKey) :
    Halts key device.transactions
      (device.send environment now destination request).2.device.transactions := by
  cases request with
  | confirmed service parameters =>
    have refused : device.communication ≠ .enable := by
      rw [silent]
      exact nofun
    rw [send, sendConfirmed, if_pos refused]
    exact .inl rfl
  | unconfirmed service parameters =>
    have sent : ((Activity.start device).sendApdu environment now destination
        (.unconfirmedRequest service.code parameters)).2.device.transactions =
          device.transactions := by
      rw [Activity.device_sendApdu]
      rfl
    unfold send sendUnconfirmed
    dsimp only
    split
    · exact .inl rfl
    · split
      · next result =>
        rw [result] at sent
        exact .inl (congrArg (·.find? key) sent)
      · next result =>
        rw [result] at sent
        exact .inl (congrArg (·.find? key) sent)

/-- A silent device makes no progress with a request that its application has not been given, unless
it hears a message under its number that names a service that is served in silence. -/
theorem halts_turn (timed : device.Timed config) (silent : device.communication = .disable)
    (unasked : device.transactions.Unasked (.server peer invokeId)) (environment : Environment)
    (now : Nat) (turn : DeviceTurn) :
    Halts (.server peer invokeId) device.transactions
        (device.turn environment now turn).transactions ∨
      device.HearsServed now turn peer invokeId := by
  cases turn with
  | poll => exact .inl (Activity.halts_expireDue environment now device.timers.size timed unasked)
  | command command =>
    cases command with
    | receive arrival frame =>
      exact halts_receive timed silent environment now arrival frame peer invokeId
    | send destination request =>
      exact .inl (halts_send silent environment now destination request _)
    | respond other id outcome =>
      unfold turn perform respond
      dsimp only
      split
      · exact .inl (.inl rfl)
      · next step responds =>
        obtain ⟨service, -, voice⟩ := Transactions.inVoice_respond responds
        refine .inl (.inl (@Activity.others_carryOut _ _ _ _ (.start device) _ _ voice _ ?_))
        intro same
        rw [← same] at unasked
        exact Transactions.not_unasked_of_respond responds unasked
    | abort other id reason =>
      rcases Transactions.inVoice_abort timed.endpoint.sound device.timers now (.client other id)
        reason with idle | ⟨service, -, voice⟩
      · exact .inl (@Activity.halts_of_idle (.start device) _ _ _ _ idle _)
      · refine .inl (.inl (@Activity.others_carryOut _ _ _ _ (.start device) _ _ voice _ ?_))
        intro same
        cases congrArg TransactionKey.side same

/-- As long as a device is silent, it gives to its application only what it may ask, and no request
that it has not given to its application comes nearer to it unless it hears a message under its
number that names a service that is served in silence. All exchanges that are going on were so at
first, or are about such a service. -/
theorem requests_of_silenced (config : Config) (past : List (Environment × Nat × DeviceTurn))
    {more : List (Environment × Nat × DeviceTurn)}
    (silenced : ((start config).run past).Silenced more) (environment : Environment) (now : Nat)
    (turn : DeviceTurn) :
    let first := (start config).run past
    let last := first.run more
    (∀ request source,
      .request request source ∈
        DeviceEvent.whileSilent last.communication (last.act environment now turn).events →
      first.MayAsk last now turn request source) ∧
    (last.communication = .disable → ∀ peer invokeId,
      last.transactions.Unasked (.server peer invokeId) →
        Halts (.server peer invokeId) last.transactions
            (last.turn environment now turn).transactions ∨
          last.HearsServed now turn peer invokeId) ∧
    ∀ key service, last.transactions.Carries key service → first.Stands key service := by
  have sustains := sustains_of_silenced config past silenced environment now turn
  have course := course_act (meets_last _ more environment now turn) sustains environment
  refine ⟨fun request source member => course.heeds.events _ member, ?_, sustains.stands⟩
  intro silent peer invokeId unasked
  exact halts_turn sustains.timed silent unasked environment now turn

end

open scoped Chart

/-- A device with one link that takes and sends segments. -/
def segmenting : Config := { Config.standard with ports := [.unknown], segmentation := .both }

/-- The first segment of a request to write a property. -/
def beginsWriting : List (Environment × Nat × DeviceTurn) :=
  [(patient, 0, hearing 20 [1, 4, 0x0e, 0x75, 5, 0, 4, 15, 0xaa, 0xbb])]

/-- The last segment of this request. It names the service that restarts a device. -/
def endsAsRestart : DeviceTurn := hearing 20 [1, 4, 0x0a, 0x75, 5, 1, 4, 20, 0xcc]

/-- The request to write a property may be given to the application, as it was being collected when
the device fell silent. -/
theorem requests_of_silenced_misnamed :
    ((start segmenting).run beginsWriting).Silenced hushed ∧
      ((start segmenting).run beginsWriting).MayAsk
        (((start segmenting).run beginsWriting).run hushed) 0 endsAsRestart
        (.confirmed 5 .writeProperty [0xaa, 0xbb, 0xcc]) (.ofMac [20]) := by
  have silenced : ((start segmenting).run beginsWriting).Silenced hushed :=
    ⟨by decide +kernel, trivial⟩
  refine ⟨silenced, ?_⟩
  refine (requests_of_silenced segmenting beginsWriting silenced patient 0 endsAsRestart).1 _ _ ?_
  decide +kernel

/-- A silent device gives a request to write a property to its application. -/
theorem exists_misnamed_request :
    let last := ((start segmenting).run beginsWriting).run hushed
    segmenting.validate = .ok () ∧ last.communication = .disable ∧
      .request (.confirmed 5 .writeProperty [0xaa, 0xbb, 0xcc]) (.ofMac [20]) ∈
        DeviceEvent.whileSilent last.communication (last.act patient 0 endsAsRestart).events := by
  decide +kernel

end Device

end BACnet
