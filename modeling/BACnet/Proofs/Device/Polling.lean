import BACnet.Proofs.Device.Control
import BACnet.Text.Chart

/-!
# A poll comes to an end

While the timers that are due are handled, new ones are set: a transaction that tries again waits
again, and a message that it sends may have to wait for a route. All of these waits have a length in
a set-up that can work, so none of their timers is due at once. And a timer that is due is cancelled
by nothing but its own handling. So a poll handles those timers that were due when it began, each of
them once and in their order, and leaves none that is due (`Device.poll_drains`).
-/

namespace BACnet

/-! ## Timers that are due -/

namespace TimerQueue

variable {ε : Type} {now : Nat} {queue rest : TimerQueue ε} {handle : TimerHandle} {event : ε}

/-- The timers that are due, in the order in which they are handed out. -/
def due (queue : TimerQueue ε) (now : Nat) : List (TimerHandle × ε) :=
  queue.entries.filter (·.1.deadline ≤ now)

theorem due_schedule (queue : TimerQueue ε) {deadline : Nat} (later : now < deadline) (event : ε) :
    (queue.schedule deadline event).2.due now = queue.due now :=
  filter_place_of_dropped (decide_eq_false (Nat.not_le.mpr later)) queue.entries

theorem due_eq_cons_of_pop? (popped : queue.pop? now = some (handle, event, rest)) :
    queue.due now = (handle, event) :: rest.due now := by
  rw [due, (entries_of_pop? popped).1, List.filter_cons, if_pos (decide_eq_true (due_of_pop? popped))]
  rfl

/-- If no timer is handed out, then none is due. -/
theorem WellFormed.due_eq_nil (wellFormed : queue.WellFormed) (none : queue.pop? now = none) :
    queue.due now = [] := by
  refine List.filter_eq_nil_iff.mpr ?_
  intro entry member
  exact ne_true_of_eq_false
    (decide_eq_false (Nat.not_le.mpr (wellFormed.lt_of_pop?_eq_none none member)))

/-- If no timer is due, then the first one is due later. -/
theorem lt_of_nextDeadline? (none : queue.due now = []) {deadline : Nat}
    (next : queue.nextDeadline? = some deadline) : now < deadline := by
  obtain ⟨entry, first, rfl⟩ := Option.map_eq_some_iff.mp next
  have early := List.filter_eq_nil_iff.mp none entry (List.mem_of_mem_head? first)
  exact Nat.lt_of_not_le fun due => early (decide_eq_true due)

/-- A timer that has been handed out is not there any more. -/
theorem WellFormed.cancel_handed (wellFormed : queue.WellFormed)
    (popped : queue.pop? now = some (handle, event, rest)) : rest.cancel handle = rest := by
  rw [← wellFormed.cancel_of_pop? popped, cancel_cancel]

end TimerQueue

/-! ## Waits have a length -/

/-- A device never waits for no time at all. -/
structure Config.Patient (config : Config) : Prop where
  answer : 0 < config.answerSpan
  segment : 0 < config.segmentSpan
  application : 0 < config.applicationSpan
  resolution : 0 < nanosOfMillis config.router.resolutionTimeout.toNat

theorem Config.positive_of_validate {config : Config} (valid : config.validate = .ok ()) :
    ∀ setting ∈ config.positiveSettings, setting.2 ≠ 0 := by
  have checked : config.validatePositive = .ok () := by
    obtain ⟨ports, networks⟩ := links_of_validate valid
    unfold validate at valid
    cases window : validateWindow config.proposedWindow with
    | ok =>
      simpa [List.isEmpty_eq_false_iff.mpr ports, networks, window, bind, Except.bind] using valid
    | error error =>
      simp [List.isEmpty_eq_false_iff.mpr ports, networks, window, bind, Except.bind] at valid
  unfold validatePositive at checked
  split at checked
  · cases checked
  · next absent =>
    intro setting member
    simpa using List.find?_eq_none.mp absent setting member

theorem nanosOfMillis_pos {setting : UInt64} (positive : setting ≠ 0) :
    0 < nanosOfMillis setting.toNat := by
  refine Nat.mul_pos (Nat.pos_of_ne_zero fun zero => positive ?_) (by decide)
  exact UInt64.toNat_inj.mp zero

/-- A set-up that can work makes a device wait. -/
theorem Config.patient_of_validate {config : Config} (valid : config.validate = .ok ()) :
    config.Patient := by
  have positive := positive_of_validate valid
  simp only [positiveSettings, List.forall_mem_cons] at positive
  obtain ⟨answer, segment, application, resolution, -⟩ := positive
  exact ⟨nanosOfMillis_pos answer, nanosOfMillis_pos segment, nanosOfMillis_pos application,
    nanosOfMillis_pos resolution⟩

/-! ## Transactions -/

/-- A transaction that goes on waits for some time. -/
def Reaction.Lasts {σ : Type} (reaction : Reaction σ) : Prop :=
  ∀ state span, reaction.progress = .restart state span → 0 < span

namespace Reaction

variable {σ τ : Type} {reaction : Reaction σ}

theorem lasts_restart (effects : List TransactionEffect) (state : σ) {span : Nat}
    (positive : 0 < span) : Lasts ⟨effects, .restart state span⟩ := by
  rintro _ _ ⟨⟩
  exact positive

theorem lasts_finish (effects : List TransactionEffect) :
    Lasts (⟨effects, .finish⟩ : Reaction σ) := nofun

theorem Lasts.map (lasts : reaction.Lasts) (embed : σ → τ) : (reaction.map embed).Lasts := by
  obtain ⟨effects, progress⟩ := reaction
  cases progress with
  | restart state span => exact lasts_restart effects _ (lasts state span rfl)
  | keep | finish => nofun

end Reaction

section

variable {config : Config} {invokeId : UInt8}

theorem ClientTransaction.lasts_timeout (patient : config.Patient) (client : ClientTransaction) :
    (client.timeout config invokeId).Lasts := by
  unfold timeout
  split
  · split
    · exact Reaction.lasts_restart _ _ patient.segment
    · exact Reaction.lasts_finish _
  · split
    · unfold transmit
      dsimp only
      split
      · exact Reaction.lasts_restart _ _ patient.segment
      · exact Reaction.lasts_restart _ _ patient.answer
    · exact Reaction.lasts_finish _
  · exact Reaction.lasts_finish _

theorem ServerTransaction.lasts_timeout (patient : config.Patient) (server : ServerTransaction) :
    (server.timeout config invokeId).Lasts := by
  unfold timeout
  split
  · exact Reaction.lasts_finish _
  · exact Reaction.lasts_finish _
  · split
    · exact Reaction.lasts_restart _ _ patient.segment
    · exact Reaction.lasts_finish _

/-- A transaction that goes on when it has waited long enough waits again. -/
theorem Transaction.lasts_timeout (patient : config.Patient) (transaction : Transaction) :
    (transaction.timeout config invokeId).Lasts := by
  cases transaction with
  | client client => exact (client.lasts_timeout patient).map Transaction.client
  | server server => exact (server.lasts_timeout patient).map Transaction.server

end

namespace Transactions

variable {transactions : Transactions} {timers : TimerQueue TimerEvent} {now : Nat}
  {handle : TimerHandle} {key : TransactionKey}

/-- The handling of a timer that has been handed out changes no other timer that is due. -/
theorem due_timeout (patient : transactions.config.Patient)
    (handed : timers.cancel handle = timers) :
    (transactions.timeout timers now handle key).timers.due now = timers.due now := by
  unfold timeout
  split
  · next live found =>
    split
    · next own =>
      have cancelled : timers.cancel? (transactions.timer? key) = timers := by
        rw [timer?_of_live found, own]
        exact handed
      show (transactions.proceed timers now key
        (live.transaction.timeout transactions.config key.invokeId).progress).2.due now = _
      cases goesOn : (live.transaction.timeout transactions.config key.invokeId).progress with
      | keep => rfl
      | finish =>
        rw [proceed, cancelled]
      | restart state span =>
        rw [proceed, cancelled]
        exact TimerQueue.due_schedule timers
          (Nat.lt_add_of_pos_right (live.transaction.lasts_timeout patient state span goesOn)) _
    · rfl
  · rfl

end Transactions

/-! ## Messages -/

namespace Routing

/-- A message that waits for a route waits for some time. -/
theorem due_enqueue {state : Routing}
    (patient : 0 < nanosOfMillis state.router.config.resolutionTimeout.toNat) (now : Nat)
    (network : UInt16) (message : PendingNpdu) (ask : Bool) :
    (state.enqueue now network message ask).2.timers.due now = state.timers.due now := by
  unfold enqueue
  split
  · rfl
  · split
    · rfl
    · exact TimerQueue.due_schedule state.timers (Nat.lt_add_of_pos_right patient) _

theorem due_forward {state : Routing}
    (patient : 0 < nanosOfMillis state.router.config.resolutionTimeout.toNat) (now : Nat)
    (network : UInt16) (message : PendingNpdu) :
    (state.forward now network message).2.timers.due now = state.timers.due now := by
  cases reached : state.router.carrier? network with
  | none =>
    rw [forward_of_not_reaches reached]
    exact due_enqueue patient now network message _
  | some carry =>
    rw [forward_of_carrier? reached]
    rfl

theorem due_dispatch {state : Routing}
    (patient : 0 < nanosOfMillis state.router.config.resolutionTimeout.toNat) (now : Nat)
    (destination : Address) (message : Outgoing) :
    (state.dispatch now destination message).timers.due now = state.timers.due now := by
  unfold dispatch
  dsimp only
  split
  · rfl
  · split
    · rfl
    · exact due_forward patient now _ _

end Routing

/-! ## Devices -/

/-- The device never waits for no time at all, and neither does its router. -/
structure Device.Waits (config : Config) (device : Device) : Prop where
  timed : device.Timed config
  patient : config.Patient
  router : device.router.config = config.router

namespace Activity

variable {config : Config} {environment : Environment} {now : Nat} {activity : Activity}

/-- A message that is sent changes no timer that is due. -/
theorem waits_sendApdu (waits : activity.device.Waits config) (environment : Environment)
    (now : Nat) (peer : Address) (apdu : Apdu) :
    (activity.sendApdu environment now peer apdu).2.device.Waits config ∧
      (activity.sendApdu environment now peer apdu).2.device.timers.due now =
        activity.device.timers.due now := by
  have timed := timed_sendApdu waits.timed environment now peer apdu
  have resolution := waits.patient.resolution
  rw [← waits.router] at resolution
  rw [device_sendApdu] at timed ⊢
  exact ⟨⟨timed, waits.patient, (Relay.config_step activity.relay now _).trans waits.router⟩,
    @Routing.due_dispatch (.start activity.device.router activity.device.timers) resolution now peer
      _⟩

theorem waits_sendForTransaction (waits : activity.device.Waits config)
    (environment : Environment) (now : Nat) (peer : Address) (apdu : Apdu) :
    (activity.sendForTransaction environment now peer apdu).device.Waits config ∧
      (activity.sendForTransaction environment now peer apdu).device.timers.due now =
        activity.device.timers.due now := by
  have sent := waits_sendApdu waits environment now peer apdu
  unfold sendForTransaction
  split
  · split
    · next result =>
      rw [result] at sent
      exact sent
    · next result =>
      rw [result] at sent
      exact sent
  · exact ⟨waits, rfl⟩

variable [TextCodec]

/-- What transactions want done changes no timer that is due as long as nothing is given to the
application. -/
theorem waits_performAll (waits : activity.device.Waits config) (environment : Environment)
    (now : Nat) {actions : List TransactionAction}
    (unheard : ∀ action ∈ actions, action.effect.isIndication = false) :
    (activity.performAll environment now actions).1 = [] ∧
      (activity.performAll environment now actions).2.device.Waits config ∧
      (activity.performAll environment now actions).2.device.timers.due now =
        activity.device.timers.due now := by
  induction actions generalizing activity with
  | nil => exact ⟨rfl, waits, rfl⟩
  | cons first rest ih =>
    obtain ⟨silent, unheard⟩ := List.forall_mem_cons.mp unheard
    obtain ⟨nothing, kept, same⟩ :
        (activity.perform environment now first).1 = [] ∧
          (activity.perform environment now first).2.device.Waits config ∧
          (activity.perform environment now first).2.device.timers.due now =
            activity.device.timers.due now := by
      unfold perform
      split
      · exact ⟨rfl, waits_sendForTransaction waits environment now _ _⟩
      · next indicates =>
        rw [indicates] at silent
        cases silent
      · exact ⟨rfl, ⟨waits.timed, waits.patient, waits.router⟩, rfl⟩
    obtain ⟨more, finished, unmoved⟩ := ih kept unheard
    exact ⟨List.append_eq_nil_iff.mpr ⟨nothing, more⟩, finished, unmoved.trans same⟩

/-- The timers that are due stay due until they are handled themselves, and no other becomes due. -/
theorem waits_expire (waits : activity.device.Waits config) {timer : TimerHandle}
    {event : TimerEvent} {timers : TimerQueue TimerEvent}
    (popped : activity.device.timers.pop? now = some (timer, event, timers))
    (environment : Environment) :
    let expired := Activity.expire { activity with device := { activity.device with timers } }
      environment now timer event
    expired.device.Waits config ∧ expired.device.timers.due now = timers.due now := by
  have wellFormed := waits.timed.router.wellFormed
  have handed := wellFormed.cancel_handed popped
  have timed := timed_expire waits.timed popped environment
  cases event with
  | transaction key =>
    have patient : activity.device.transactions.config.Patient :=
      waits.timed.endpoint.sound.config_eq.symm ▸ waits.patient
    have same : (activity.device.transactions.timeout timers now timer key).timers.due now =
        timers.due now := Transactions.due_timeout patient handed
    have unheard : (activity.device.transactions.timeout timers now timer key).Unheard :=
      Transactions.unheard_timeout timer key
    have begun : (withTransactions { activity with device := { activity.device with timers } }
        (activity.device.transactions.timeout timers now timer key)).device.Waits config :=
      ⟨waits.timed.follow (waits.timed.endpoint.follows_expire popped), waits.patient,
        waits.router⟩
    obtain ⟨nothing, finished, unmoved⟩ := waits_performAll begun environment now unheard
    unfold expire carryOut
    dsimp only
    rw [nothing]
    exact ⟨finished, unmoved.trans same⟩
  | routeResolution network =>
    unfold expire at timed ⊢
    dsimp only at timed ⊢
    rw [device_foldl_routerOutput] at timed ⊢
    refine ⟨⟨timed, waits.patient, ?_⟩, rfl⟩
    show (activity.device.router.giveUp network).2.config = config.router
    rw [← waits.router]
    unfold Router.giveUp
    split <;> rfl
  | communicationControl =>
    obtain ⟨own, -⟩ := waits.timed.communicationTimer_of_pop? popped
    unfold expire at timed ⊢
    dsimp only at timed ⊢
    rw [if_pos own, device_setCommunication] at timed ⊢
    exact ⟨⟨timed, waits.patient, waits.router⟩, rfl⟩

/-! ## Polls -/

/-- Timers are handled for as long as one is due: these are handled, one after the other. Nothing
limits their number. -/
inductive Drains (environment : Environment) (now : Nat) :
    Activity → List (TimerHandle × TimerEvent) → Activity → Prop where
  | done {activity : Activity} (none : activity.device.timers.pop? now = none) :
    Drains environment now activity [] activity
  | handles {activity finished : Activity} {timer : TimerHandle} {event : TimerEvent}
    {timers : TimerQueue TimerEvent} {handled : List (TimerHandle × TimerEvent)}
    (popped : activity.device.timers.pop? now = some (timer, event, timers))
    (rest : Drains environment now
      (Activity.expire { activity with device := { activity.device with timers } } environment now
        timer event) handled finished) :
    Drains environment now activity ((timer, event) :: handled) finished

/-- There is one way only to handle timers. -/
theorem Drains.unique {handled others : List (TimerHandle × TimerEvent)}
    {finished other : Activity} (drains : Drains environment now activity handled finished)
    (again : Drains environment now activity others other) :
    others = handled ∧ other = finished := by
  induction drains generalizing others other with
  | done none =>
    cases again with
    | done => exact ⟨rfl, rfl⟩
    | handles popped => cases none.symm.trans popped
  | handles popped rest ih =>
    cases again with
    | done none => cases none.symm.trans popped
    | handles once more =>
      cases popped.symm.trans once
      obtain ⟨rfl, rfl⟩ := ih more
      exact ⟨rfl, rfl⟩

/-- Those timers are handled that were due at the beginning, and none that is due is left. -/
theorem drains_due (environment : Environment) (waits : activity.device.Waits config) {limit : Nat}
    (enough : (activity.device.timers.due now).length ≤ limit) :
    ∃ finished, Drains environment now activity (activity.device.timers.due now) finished ∧
      expireDue environment now limit activity =
        ((activity.device.timers.due now).length, finished) ∧
      finished.device.timers.due now = [] := by
  -- Every timer that is handled leaves one less that is due, so `enough` holds until none is.
  induction limit generalizing activity with
  | zero =>
    have none : activity.device.timers.due now = [] :=
      List.eq_nil_of_length_eq_zero (Nat.le_zero.mp enough)
    have empty : activity.device.timers.pop? now = Option.none := by
      cases popped : activity.device.timers.pop? now with
      | none => rfl
      | some first =>
        rw [TimerQueue.due_eq_cons_of_pop? popped] at none
        cases none
    rw [none]
    exact ⟨activity, .done empty, rfl, none⟩
  | succ limit ih =>
    unfold expireDue
    cases popped : activity.device.timers.pop? now with
    | none =>
      have none := waits.timed.router.wellFormed.due_eq_nil popped
      rw [none]
      exact ⟨activity, .done popped, rfl, none⟩
    | some first =>
      obtain ⟨timer, event, timers⟩ := first
      obtain ⟨kept, same⟩ := waits_expire waits popped environment
      have due := TimerQueue.due_eq_cons_of_pop? popped
      rw [due] at enough ⊢
      rw [← same] at enough ⊢
      obtain ⟨finished, drains, result, empty⟩ := ih kept (Nat.le_of_succ_le_succ enough)
      refine ⟨finished, .handles popped drains, ?_, empty⟩
      dsimp only
      rw [result]
      rfl

end Activity

namespace Device

section

variable [TextCodec]

/-- A device that has been built never waits for no time at all, whatever happens at it. -/
theorem waits_run {config : Config} (valid : config.validate = .ok ())
    (turns : List (Environment × Nat × DeviceTurn)) :
    ((start config).run turns).Waits config := by
  obtain ⟨events, reached⟩ := reaches_run_start config turns
  have same := Relay.config_run (.new config.ports config.router) events
  rw [reached] at same
  exact ⟨timed_run (timed_start config) turns, Config.patient_of_validate valid, same⟩

/-- In every state that a device can reach once it has been built, and at every time, a poll comes to
an end: there is one way to handle timers for as long as one is due, and those that are handled are
those that were due at the beginning, in their order. So no timer that is set in the meantime is
due, and none that is due is cancelled instead of being handled. The poll does just this, tells the
number of these timers, and leaves none that is due. -/
theorem poll_drains {config : Config} {device : Device} (built : new config = .ok device)
    (turns : List (Environment × Nat × DeviceTurn)) (environment : Environment) (now : Nat) :
    let running := device.run turns
    let due := running.timers.entries.filter (·.1.deadline ≤ now)
    (∃ finished,
      (∀ handled last, Activity.Drains environment now (.start running) handled last ↔
        handled = due ∧ last = finished) ∧
      running.poll environment now = (due.length,
        finished.withRouter (finished.device.router.expireRoutes now) finished.device.timers)) ∧
    ∀ deadline, (running.poll environment now).2.device.nextDeadline? = some deadline →
      now < deadline := by
  intro running due
  have started : device = start config ∧ config.validate = .ok () := by
    unfold new at built
    split at built
    · next valid => exact ⟨(Except.ok.inj built).symm, valid⟩
    · cases built
  obtain ⟨rfl, valid⟩ := started
  have waits : running.Waits config := waits_run valid turns
  obtain ⟨finished, drains, handled, empty⟩ :=
    @Activity.drains_due config now (.start running) _ environment waits running.timers.size
      (List.length_filter_le ..)
  have polled : running.poll environment now = (due.length,
      finished.withRouter (finished.device.router.expireRoutes now) finished.device.timers) := by
    rw [poll, handled]
    rfl
  refine ⟨⟨finished, fun handled last => ⟨drains.unique, ?_⟩, polled⟩, ?_⟩
  · rintro ⟨rfl, rfl⟩
    exact drains
  · intro deadline next
    rw [polled] at next
    exact TimerQueue.lt_of_nextDeadline? empty next

end

open scoped Chart

/-- Links that take every frame, and an application that never answers at once. -/
def lateAnswers : Environment := ⟨fun _ => none, fun _ _ => none⟩

/-- A station on a network to which no router is known. -/
def farStation : Address := ⟨7, [1]⟩

/-- A device has made a request to this station, and has given up the search for a router once. -/
def searchedOnce : List (Environment × Nat × DeviceTurn) :=
  [(lateAnswers, 0, .command (.send farStation (.confirmed .readProperty []))),
    (lateAnswers, 6000 * nanosPerMilli, .poll)]

/-- After three more seconds the request is due to be made again. Its timer is the only one that is
handled then, although two others are set: one for the next attempt, and one for the search for a
router, which begins again. -/
theorem poll_drains_searchedOnce :
    new .standard = .ok (start .standard) ∧
      let searching := (start .standard).run searchedOnce
      let polled := searching.poll lateAnswers (9000 * nanosPerMilli)
      polled.1 = 1 ∧ polled.2.device.timers.entries.map (·.2) =
          [.transaction (.client farStation 1), .routeResolution 7] ∧
        ∀ deadline, polled.2.device.nextDeadline? = some deadline →
          9000 * nanosPerMilli < deadline := by
  have drained := poll_drains (rfl : new .standard = .ok (start .standard)) searchedOnce
    lateAnswers (9000 * nanosPerMilli)
  obtain ⟨⟨finished, -, polled⟩, later⟩ := drained
  have due : (((start .standard).run searchedOnce).timers.entries.filter
      (·.1.deadline ≤ 9000 * nanosPerMilli)).length = 1 := by decide +kernel
  exact ⟨rfl, (congrArg Prod.fst polled).trans due, by decide +kernel, later⟩

end Device

end BACnet
