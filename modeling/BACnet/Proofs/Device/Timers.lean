import BACnet.Proofs.Device.Run
import BACnet.Proofs.Routing.Deadlines
import BACnet.Proofs.Transaction.Isolation

/-!
# The timers of a device

The transactions of a device, its router and its silence share one queue of timers. Each of the
three puts timers of its own kind into the queue, takes out none but its own, and leaves those of
the other two where they are (`TimerQueue.KeepsOthers`). So each timer in the queue belongs to one
of them, which knows it (`Device.Timed`).
-/

namespace BACnet

/-! ## Sharing a queue -/

namespace TimerQueue

variable {ε : Type} {now : Nat} {queue before between after : TimerQueue ε}

/-- The number of timers that are handed out before this one. -/
def ahead (queue : TimerQueue ε) (handle : TimerHandle) : Nat :=
  queue.entries.countP (·.1.before handle)

/-- No timer has come ahead of one that is due now. -/
structure Later (now : Nat) (before after : TimerQueue ε) : Prop where
  scheduled : before.scheduled ≤ after.scheduled
  ahead : ∀ handle, handle.deadline ≤ now → handle.number < before.scheduled →
    after.ahead handle ≤ before.ahead handle

namespace Later

theorem refl (now : Nat) (queue : TimerQueue ε) : Later now queue queue :=
  ⟨Nat.le_refl _, fun _ _ _ => Nat.le_refl _⟩

theorem trans (first : Later now before between) (second : Later now between after) :
    Later now before after := by
  refine ⟨Nat.le_trans first.scheduled second.scheduled, ?_⟩
  intro handle due given
  exact Nat.le_trans (second.ahead handle due (Nat.lt_of_lt_of_le given first.scheduled))
    (first.ahead handle due given)

theorem of_sublist (sublist : after.entries.Sublist before.entries)
    (scheduled : after.scheduled = before.scheduled) : Later now before after :=
  ⟨Nat.le_of_eq scheduled.symm, fun _ _ _ => sublist.countP_le⟩

theorem cancel (now : Nat) (queue : TimerQueue ε) (handle : TimerHandle) :
    Later now queue (queue.cancel handle) :=
  of_sublist List.filter_sublist rfl

theorem cancel? (now : Nat) (queue : TimerQueue ε) (handle : Option TimerHandle) :
    Later now queue (queue.cancel? handle) := by
  cases handle with
  | none => exact refl now queue
  | some handle => exact cancel now queue handle

theorem pop {time : Nat} {handle : TimerHandle} {event : ε}
    (popped : queue.pop? time = some (handle, event, after)) : Later now queue after := by
  obtain ⟨entries, scheduled⟩ := entries_of_pop? popped
  refine of_sublist ?_ scheduled
  rw [entries]
  exact List.sublist_cons_self _ _

theorem schedule (queue : TimerQueue ε) {deadline : Nat} (later : now ≤ deadline) (event : ε) :
    Later now queue (queue.schedule deadline event).2 := by
  refine ⟨Nat.le_succ _, ?_⟩
  intro handle due given
  have behind : TimerHandle.before ⟨deadline, queue.scheduled⟩ handle = false := by
    apply decide_eq_false
    rintro (sooner | ⟨-, older⟩)
    · exact absurd (Nat.lt_of_lt_of_le sooner due) (Nat.not_lt.mpr later)
    · exact absurd (Nat.lt_trans older given) (Nat.lt_irrefl _)
  show (place _ event queue.entries).countP _ ≤ queue.entries.countP _
  generalize queue.entries = entries
  induction entries with
  | nil => simp [place, behind]
  | cons first rest ih =>
    unfold place
    split
    · rw [List.countP_cons, behind]
      exact Nat.le_refl _
    · rw [List.countP_cons, List.countP_cons]
      exact Nat.add_le_add_right ih _

end Later

/-! ## The first timer -/

theorem ahead_lt_size {handle : TimerHandle} {event : ε}
    (member : (handle, event) ∈ queue.entries) :
    queue.ahead handle < queue.size := by
  refine Nat.lt_of_le_of_ne List.countP_le_length fun all => ?_
  have before := List.countP_eq_length.mp all (handle, event) member
  simp [TimerHandle.before] at before

/-- The timer that is handed out was ahead of all others. -/
theorem WellFormed.ahead_of_pop? (wellFormed : queue.WellFormed) {first : TimerHandle} {event : ε}
    (popped : queue.pop? now = some (first, event, after)) {handle : TimerHandle} {other : ε}
    (member : (handle, other) ∈ after.entries) :
    queue.ahead handle = after.ahead handle + 1 := by
  obtain ⟨entries, -⟩ := entries_of_pop? popped
  have ordered := wellFormed.ordered
  rw [entries] at ordered
  rw [ahead, entries, List.countP_cons_of_pos]
  · rfl
  · exact decide_eq_true ((List.pairwise_cons.mp ordered).1 _ member)

end TimerQueue

/-- The queue is in order, all events that are not of one kind have the timers that they had, and no
timer has come ahead of one that is due. -/
structure TimerQueue.KeepsOthers (mine : TimerEvent → Prop) (now : Nat)
    (before after : TimerQueue TimerEvent) : Prop where
  wellFormed : after.WellFormed
  handlesOf : ∀ event, ¬ mine event → after.handlesOf event = before.handlesOf event
  later : Later now before after

namespace TimerQueue

variable {mine : TimerEvent → Prop} {now : Nat} {queue before between after : TimerQueue TimerEvent}

namespace KeepsOthers

theorem refl (wellFormed : queue.WellFormed) : KeepsOthers mine now queue queue :=
  ⟨wellFormed, fun _ _ => rfl, .refl now queue⟩

theorem trans (first : KeepsOthers mine now before between)
    (second : KeepsOthers mine now between after) : KeepsOthers mine now before after :=
  ⟨second.wellFormed, fun event other =>
    (second.handlesOf event other).trans (first.handlesOf event other),
    first.later.trans second.later⟩

theorem schedule (wellFormed : queue.WellFormed) {deadline : Nat} (later : now ≤ deadline)
    {event : TimerEvent} (own : mine event) :
    KeepsOthers mine now queue (queue.schedule deadline event).2 := by
  refine ⟨wellFormed.schedule deadline event, fun other foreign => ?_, .schedule queue later event⟩
  apply handlesOf_schedule_of_ne
  rintro rfl
  exact foreign own

theorem cancel (wellFormed : queue.WellFormed) {handle : TimerHandle} {event : TimerEvent}
    (member : handle ∈ queue.handlesOf event) (own : mine event) :
    KeepsOthers mine now queue (queue.cancel handle) := by
  refine ⟨wellFormed.cancel handle, fun other foreign => ?_, .cancel now queue handle⟩
  apply handlesOf_cancel_of_not_mem
  intro shared
  have same := wellFormed.event_unique (mem_handlesOf.mp member) (mem_handlesOf.mp shared)
  exact foreign (same ▸ own)

theorem pop (wellFormed : queue.WellFormed) {time : Nat} {handle : TimerHandle}
    {event : TimerEvent} (popped : queue.pop? time = some (handle, event, after))
    (own : mine event) : KeepsOthers mine now queue after := by
  refine ⟨wellFormed.pop? popped, fun other foreign => ?_, .pop popped⟩
  rw [handlesOf_of_pop? popped, if_neg]
  rintro rfl
  exact foreign own

end KeepsOthers

end TimerQueue

open TimerQueue (KeepsOthers)

/-! ## The router -/

/-- Whether a timer belongs to a router. -/
def TimerEvent.isResolution : TimerEvent → Bool
  | routeResolution _ => true
  | _ => false

namespace Routing

variable {state : Routing}

theorem keepsOthers_enqueue (timed : state.router.Timed state.timers) (now : Nat)
    (network : UInt16) (message : PendingNpdu) (ask : Bool) :
    KeepsOthers (·.isResolution) now state.timers
      (state.enqueue now network message ask).2.timers := by
  unfold enqueue
  split
  · exact .refl timed.wellFormed
  · split
    · exact .refl timed.wellFormed
    · exact .schedule timed.wellFormed (Nat.le_add_right _ _) rfl

theorem keepsOthers_forward (timed : state.router.Timed state.timers) (now : Nat)
    (network : UInt16) (message : PendingNpdu) :
    KeepsOthers (·.isResolution) now state.timers (state.forward now network message).2.timers := by
  cases reached : state.router.carrier? network with
  | none =>
    rw [forward_of_not_reaches reached]
    exact keepsOthers_enqueue timed now network message _
  | some carry =>
    rw [forward_of_carrier? reached]
    exact .refl timed.wellFormed

theorem keepsOthers_flush (timed : state.router.Timed state.timers) (now : Nat)
    (network : UInt16) :
    KeepsOthers (·.isResolution) now state.timers (state.flush now network).timers := by
  unfold flush
  split
  · exact .refl timed.wellFormed
  · next queue found =>
    have own : queue.timer ∈ state.timers.handlesOf (.routeResolution network) := by
      rw [timed.handlesOf, Router.timer?, found]
      exact List.mem_singleton_self _
    have cancelled : KeepsOthers (·.isResolution) now state.timers
        (state.dropQueue network queue).timers := .cancel timed.wellFormed own rfl
    have dropped : (state.dropQueue network queue).router.Timed
        (state.dropQueue network queue).timers := timed.erase found
    generalize state.dropQueue network queue = dropping at cancelled dropped
    induction queue.waiting generalizing dropping with
    | nil => exact cancelled
    | cons first rest ih =>
      exact ih _ (cancelled.trans (keepsOthers_forward dropped now network first))
        (timed_forward dropped now network first)

theorem keepsOthers_perform (timed : state.router.Timed state.timers) (now : Nat) (chore : Chore) :
    KeepsOthers (·.isResolution) now state.timers (state.perform now chore).timers := by
  cases chore with
  | tells outputs => exact .refl timed.wellFormed
  | adopts ports table => exact .refl timed.wellFormed
  | releases table network =>
    exact @keepsOthers_flush (state.mapRouter fun router => { router with table })
      (timed.of_pending rfl) now network

theorem keepsOthers_performAll (timed : state.router.Timed state.timers) (now : Nat)
    (chores : List Chore) :
    KeepsOthers (·.isResolution) now state.timers (state.performAll now chores).timers := by
  induction chores generalizing state with
  | nil => exact .refl timed.wellFormed
  | cons chore rest ih =>
    exact (keepsOthers_perform timed now chore).trans (ih (timed_perform timed now chore))

end Routing

theorem Planned.keepsOthers {lesson : Lesson} {now : Nat} {state : Routing}
    {handle : Routing → RoutingDecision × Routing} {joining : Option (UInt16 × PendingNpdu)}
    (planned : Planned lesson now state.router.bare handle joining)
    (timed : state.router.Timed state.timers) :
    KeepsOthers (·.isResolution) now state.timers (handle state).2.timers := by
  cases planned with
  | settled decision chores decided fair does =>
    rw [does state rfl]
    exact Routing.keepsOthers_performAll timed now chores
  | queued chores network message ask fair before after kept does =>
    rw [does state rfl]
    exact (Routing.keepsOthers_performAll timed now chores).trans
      (Routing.keepsOthers_enqueue (Routing.timed_performAll timed now chores) now network message
        ask)

namespace Relay

variable {relay : Relay}

/-- A message leaves the timers of others alone, whether it arrives or is sent. -/
theorem keepsOthers_receive (timed : relay.router.Timed relay.timers) (now : Nat)
    (arrival : Arrival) (npdu : Npdu) :
    KeepsOthers (·.isResolution) now relay.timers
      (relay.step now (.receive arrival npdu)).relay.timers := by
  obtain ⟨joining, planned, -⟩ := decides_receive now relay.router.bare arrival npdu
  exact @Planned.keepsOthers _ now (.start relay.router relay.timers) _ _ planned timed

theorem keepsOthers_send (timed : relay.router.Timed relay.timers) (now : Nat)
    (destination : Address) (message : Routing.Outgoing) :
    KeepsOthers (·.isResolution) now relay.timers
      (relay.step now (.send destination message)).relay.timers := by
  obtain ⟨joining, planned, -⟩ := decides_dispatch now relay.router.bare destination message
  exact @Planned.keepsOthers _ now (.start relay.router relay.timers) _ _ planned timed

end Relay

/-! ## The transactions -/

namespace Endpoint

variable {config : Config} {endpoint : Endpoint} {key : TransactionKey}

/-- The timers of others do not matter to the transactions. -/
theorem Invariant.of_keepsOthers (invariant : endpoint.Invariant config)
    {mine : TimerEvent → Prop} {now : Nat} {timers : TimerQueue TimerEvent}
    (keeps : KeepsOthers mine now endpoint.timers timers)
    (foreign : ∀ key, ¬ mine (.transaction key)) :
    Invariant config ⟨endpoint.transactions, timers⟩ :=
  ⟨invariant.sound, keeps.wellFormed, fun key =>
    (keeps.handlesOf _ (foreign key)).trans (invariant.timed key)⟩

theorem later_proceed (transactions : Transactions) (timers : TimerQueue TimerEvent) (now : Nat)
    (key : TransactionKey) (progress : Progress Transaction) :
    TimerQueue.Later now timers (transactions.proceed timers now key progress).2 := by
  have cancelled := TimerQueue.Later.cancel? now timers (transactions.timer? key)
  cases progress with
  | keep => exact .refl now timers
  | finish => exact cancelled
  | restart transaction span =>
    exact cancelled.trans (.schedule _ (Nat.le_add_right now span) _)

/-- The transactions leave the timers of others alone. -/
theorem Isolated.keepsOthers {after : EndpointStep} (isolated : Isolated key endpoint after)
    (wellFormed : after.endpoint.timers.WellFormed) {now : Nat}
    (later : TimerQueue.Later now endpoint.timers after.endpoint.timers) :
    KeepsOthers (·.isTransaction) now endpoint.timers after.endpoint.timers := by
  refine ⟨wellFormed, fun event foreign => ?_, later⟩
  have other : event ≠ .transaction key := by
    rintro rfl
    exact foreign rfl
  have view : ∀ queue : TimerQueue TimerEvent, queue.handlesOf event =
      ((queue.others key).filter (·.2 = event)).map (·.1) := by
    intro queue
    rw [TimerQueue.handlesOf, TimerQueue.others, List.filter_filter]
    congr 2
    funext entry
    by_cases same : entry.2 = event
    · simp [same, other]
    · simp [same]
  rw [view, view, isolated.foreign]

/-- A step of the transactions: they and their timers are in order after it, and the timers of
others are as they were. -/
structure Follows (config : Config) (now : Nat) (timers : TimerQueue TimerEvent)
    (step : TransactionStep) : Prop where
  invariant : Invariant config ⟨step.transactions, step.timers⟩
  keeps : KeepsOthers (·.isTransaction) now timers step.timers

variable {now : Nat}

theorem Invariant.follows_unchanged (invariant : endpoint.Invariant config) (now : Nat) :
    Follows config now endpoint.timers (endpoint.transactions.unchanged endpoint.timers) :=
  ⟨invariant, .refl invariant.wellFormed⟩

/-- An event that is meant for a transaction. -/
theorem Invariant.follows_of_selects (invariant : endpoint.Invariant config) (now : Nat)
    (event : EndpointEvent) (selected : endpoint.selects? now event = some key)
    {step : TransactionStep} (does : endpoint.step now event = took step) :
    Follows config now endpoint.timers step := by
  obtain ⟨timers, waits, result⟩ := invariant.step_eq selected
  have isolated := invariant.isolated_react waits
  have after := invariant_of_effect (effect_step endpoint now event) invariant
  have waited : TimerQueue.Later now endpoint.timers timers := by
    rcases waits with rfl | ⟨handle, popped, -, -⟩
    · exact .refl now _
    · exact .pop popped
  have later := waited.trans (later_proceed endpoint.transactions timers now key
    (event.reaction config key (endpoint.transactions.find? key)).progress)
  change TimerQueue.Later now _
    (took (endpoint.transactions.react timers now key _)).endpoint.timers at later
  rw [← result, does] at isolated later
  rw [does] at after
  exact ⟨after, isolated.keepsOthers after.wellFormed later⟩

theorem Invariant.follows_receive (invariant : endpoint.Invariant config) (now : Nat)
    (peer : Address) (apdu : Apdu) :
    Follows config now endpoint.timers
      (endpoint.transactions.receive endpoint.timers now peer apdu) := by
  cases named : Transactions.keyOf? peer apdu with
  | none =>
    rw [Transactions.receive, named]
    exact invariant.follows_unchanged now
  | some key => exact invariant.follows_of_selects now (.receive peer apdu) named rfl

theorem Invariant.follows_respond (invariant : endpoint.Invariant config) {peer : Address}
    {invokeId : UInt8} {outcome : Outcome} {step : TransactionStep}
    (responds : endpoint.transactions.respond endpoint.timers now peer invokeId outcome =
      .ok step) : Follows config now endpoint.timers step := by
  refine invariant.follows_of_selects now (.respond peer invokeId outcome) rfl ?_
  rw [Endpoint.step, responds]

theorem Invariant.follows_abort (invariant : endpoint.Invariant config) (now : Nat)
    (key : TransactionKey) (reason : AbortReason) :
    Follows config now endpoint.timers
      (endpoint.transactions.abort endpoint.timers now key reason) :=
  invariant.follows_of_selects now (.abort key reason) rfl rfl

/-- A timer of a transaction that is due is taken out of the queue and handled. -/
theorem Invariant.follows_expire (invariant : endpoint.Invariant config) {handle : TimerHandle}
    {timers : TimerQueue TimerEvent}
    (popped : endpoint.timers.pop? now = some (handle, .transaction key, timers)) :
    Follows config now endpoint.timers (endpoint.transactions.timeout timers now handle key) := by
  have selected : endpoint.selects? now .expire = some key := by rw [selects?, popped]
  refine invariant.follows_of_selects now .expire selected ?_
  rw [step, popped]

theorem Invariant.follows_request (invariant : endpoint.Invariant config) (now : Nat)
    (peer : Address) (service : UInt8) (parameters : Octets) (known : Option Peer) :
    Follows config now endpoint.timers
      (endpoint.transactions.request endpoint.timers now peer service parameters known).2 := by
  have after := invariant_of_effect
    (effect_step endpoint now (.request peer service parameters known)) invariant
  have begun : ∀ invokeIds, Invariant config
      ⟨{ endpoint.transactions with invokeIds }, endpoint.timers⟩ := fun invokeIds =>
    ⟨invariant.sound.of_live rfl rfl, invariant.wellFormed, invariant.timed⟩
  refine ⟨after, ?_⟩
  have wellFormed := after.wellFormed
  rw [step] at wellFormed
  dsimp only [took] at wellFormed
  unfold Transactions.request at wellFormed ⊢
  split
  · exact .refl invariant.wellFormed
  · next plan planned =>
    rw [planned] at wellFormed
    dsimp only at wellFormed ⊢
    split
    · exact .refl invariant.wellFormed
    · next id given =>
      rw [given] at wellFormed
      exact Isolated.keepsOthers
        (@Invariant.isolated_react config _ (.client peer id) (begun _) now _ _ (.inl rfl))
        wellFormed (later_proceed _ endpoint.timers now (.client peer id) _)

end Endpoint

/-! ## The device -/

/-- Every timer in the queue belongs to a transaction, to the router or to the silence, which knows
it. A device that may communicate has none that would end its silence. -/
structure Device.Timed (config : Config) (device : Device) : Prop where
  config_eq : device.config = config
  endpoint : Endpoint.Invariant config ⟨device.transactions, device.timers⟩
  router : device.router.Timed device.timers
  handlesOf : device.timers.handlesOf .communicationControl = device.communicationTimer.toList
  enabled : device.communication = .enable → device.communicationTimer = none

namespace Device

variable {config : Config} {device : Device}

theorem timed_start (config : Config) : (start config).Timed config :=
  ⟨rfl, Endpoint.invariant_new config, ⟨TimerQueue.wellFormed_empty, fun _ => rfl⟩, rfl,
    fun _ => rfl⟩

/-- The transactions have made a step. -/
theorem Timed.follow (timed : device.Timed config) {step : TransactionStep}
    {now : Nat} (follows : Endpoint.Follows config now device.timers step) :
    Timed config { device with transactions := step.transactions, timers := step.timers } where
  config_eq := timed.config_eq
  endpoint := follows.invariant
  router := timed.router.of_handlesOf follows.keeps.wellFormed
    fun _ => follows.keeps.handlesOf _ Bool.false_ne_true
  handlesOf :=
    (follows.keeps.handlesOf .communicationControl Bool.false_ne_true).trans timed.handlesOf
  enabled := timed.enabled

/-- The router has done something. -/
theorem Timed.route (timed : device.Timed config) {router : Router}
    {timers : TimerQueue TimerEvent} (own : router.Timed timers) {now : Nat}
    (keeps : KeepsOthers (·.isResolution) now device.timers timers) :
    Timed config { device with router, timers } where
  config_eq := timed.config_eq
  endpoint := timed.endpoint.of_keepsOthers keeps fun _ => Bool.false_ne_true
  router := own
  handlesOf := (keeps.handlesOf .communicationControl Bool.false_ne_true).trans timed.handlesOf
  enabled := timed.enabled

/-- The silence has changed its timer. -/
theorem Timed.control (timed : device.Timed config) {timers : TimerQueue TimerEvent} {now : Nat}
    (keeps : KeepsOthers (· = .communicationControl) now device.timers timers)
    {communicationTimer : Option TimerHandle}
    (own : timers.handlesOf .communicationControl = communicationTimer.toList)
    {communication : Communication}
    (enabled : communication = .enable → communicationTimer = none) :
    Timed config { device with timers, communicationTimer, communication } where
  config_eq := timed.config_eq
  endpoint := timed.endpoint.of_keepsOthers keeps nofun
  router := timed.router.of_handlesOf keeps.wellFormed fun _ => keeps.handlesOf _ nofun
  handlesOf := own
  enabled := enabled

/-- A timer that ends the silence is the one that the device knows. -/
theorem Timed.communicationTimer_of_pop? (timed : device.Timed config) {now : Nat}
    {timer : TimerHandle} {timers : TimerQueue TimerEvent}
    (popped : device.timers.pop? now = some (timer, .communicationControl, timers)) :
    device.communicationTimer = some timer ∧ timers.handlesOf .communicationControl = [] := by
  have handles := timed.handlesOf
  rw [TimerQueue.handlesOf_of_pop? popped, if_pos rfl] at handles
  cases known : device.communicationTimer with
  | none =>
    rw [known] at handles
    cases handles
  | some own =>
    rw [known] at handles
    obtain ⟨rfl, none⟩ := List.cons.inj handles
    exact ⟨rfl, none⟩

end Device

end BACnet
