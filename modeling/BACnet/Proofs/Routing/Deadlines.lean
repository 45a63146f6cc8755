import BACnet.Proofs.Routing.Links
import BACnet.Proofs.Routing.Unreached
import BACnet.Proofs.Timer.Queue

/-!
# Messages wait for a limited time

Every queue of messages that wait for a network has its timer, and every timer for a network has its
queue (`Router.Timed`). When the timer runs out, it is the messages of this queue that are given up,
and not those of one that has been begun later.
-/

namespace BACnet

namespace Router

/-- The timer that ends the wait for a network, if messages wait for it. -/
def timer? (router : Router) (network : UInt16) : Option TimerHandle :=
  (router.pending.find? network).map (·.timer)

/-- Every queue has its timer, the only one for its network, and there are no others. -/
structure Timed (router : Router) (timers : TimerQueue TimerEvent) : Prop where
  wellFormed : timers.WellFormed
  handlesOf : ∀ network,
    timers.handlesOf (.routeResolution network) = (router.timer? network).toList

variable {router : Router} {timers : TimerQueue TimerEvent} {network : UInt16}

/-- The links and the routes do not matter. -/
theorem Timed.of_pending {after : Router} (timed : router.Timed timers)
    (pending : after.pending = router.pending) : after.Timed timers := by
  refine ⟨timed.wellFormed, ?_⟩
  intro network
  rw [timer?, pending]
  exact timed.handlesOf network

/-- The timer of a queue is for nothing else. -/
theorem Timed.not_mem_handlesOf (timed : router.Timed timers) {queue : PendingQueue}
    (found : router.pending.find? network = some queue) {other : UInt16} (ne : network ≠ other) :
    queue.timer ∉ timers.handlesOf (.routeResolution other) := by
  intro member
  have own : queue.timer ∈ timers.handlesOf (.routeResolution network) := by
    rw [timed.handlesOf, timer?, found]
    exact List.mem_singleton_self _
  have same := timed.wellFormed.event_unique (TimerQueue.mem_handlesOf.mp own)
    (TimerQueue.mem_handlesOf.mp member)
  exact ne (TimerEvent.routeResolution.inj same)

/-- A queue and its timer disappear together. -/
theorem Timed.erase {queue : PendingQueue} (timed : router.Timed timers)
    (found : router.pending.find? network = some queue) :
    Timed { router with pending := router.pending.erase network } (timers.cancel queue.timer) := by
  refine ⟨timed.wellFormed.cancel queue.timer, ?_⟩
  intro other
  rw [timer?, Table.find?_erase]
  by_cases same : network = other
  · subst same
    rw [TimerQueue.handlesOf_cancel, timed.handlesOf, timer?, found, if_pos rfl]
    simp
  · rw [TimerQueue.handlesOf_cancel_of_not_mem (timed.not_mem_handlesOf found same),
      timed.handlesOf, if_neg same]
    rfl

/-- A queue that is begun gets a timer. -/
theorem Timed.begin (timed : router.Timed timers) (absent : router.pending.find? network = none)
    (deadline : Nat) (waiting : List PendingNpdu) :
    Timed { router with
        pending := router.pending.insert network
          ⟨waiting, (timers.schedule deadline (.routeResolution network)).1⟩ }
      (timers.schedule deadline (.routeResolution network)).2 := by
  refine ⟨timed.wellFormed.schedule deadline _, ?_⟩
  intro other
  rw [timer?, Table.find?_insert]
  by_cases same : network = other
  · subst same
    have free : timers.handlesOf (.routeResolution network) = [] := by
      rw [timed.handlesOf, timer?, absent]
      rfl
    rw [TimerQueue.handlesOf_schedule_of_none deadline free, if_pos rfl]
    rfl
  · have differs : TimerEvent.routeResolution network ≠ .routeResolution other :=
      fun equal => same (TimerEvent.routeResolution.inj equal)
    rw [TimerQueue.handlesOf_schedule_of_ne timers deadline differs, timed.handlesOf, if_neg same]
    rfl

/-- A queue that grows keeps its timer. -/
theorem Timed.grow (timed : router.Timed timers) {queue : PendingQueue}
    (found : router.pending.find? network = some queue) (waiting : List PendingNpdu) :
    Timed { router with
      pending := router.pending.insert network { queue with waiting } } timers := by
  refine ⟨timed.wellFormed, ?_⟩
  intro other
  rw [timed.handlesOf, timer?, timer?, Table.find?_insert]
  by_cases same : network = other
  · subst same
    rw [found, if_pos rfl]
    rfl
  · rw [if_neg same]

/-- Other users of the timers may change what they want except the timers for networks. -/
theorem Timed.of_handlesOf {others : TimerQueue TimerEvent} (timed : router.Timed timers)
    (wellFormed : others.WellFormed)
    (same : ∀ network, others.handlesOf (.routeResolution network) =
      timers.handlesOf (.routeResolution network)) : router.Timed others :=
  ⟨wellFormed, fun network => (same network).trans (timed.handlesOf network)⟩

end Router

/-! ## Messages -/

namespace Routing

variable {state : Routing}

theorem timed_enqueue (timed : state.router.Timed state.timers) (now : Nat) (network : UInt16)
    (message : PendingNpdu) (ask : Bool) :
    (state.enqueue now network message ask).2.router.Timed
      (state.enqueue now network message ask).2.timers := by
  unfold enqueue
  split
  · exact timed
  · split
    · next queue found => exact timed.grow found _
    · next absent => exact timed.begin absent _ [message]

theorem timed_forward (timed : state.router.Timed state.timers) (now : Nat) (network : UInt16)
    (message : PendingNpdu) :
    (state.forward now network message).2.router.Timed
      (state.forward now network message).2.timers := by
  cases reached : state.router.carrier? network with
  | none =>
    rw [forward_of_not_reaches reached]
    exact timed_enqueue timed now network message _
  | some carry =>
    rw [forward_of_carrier? reached]
    exact timed

theorem timed_flush (timed : state.router.Timed state.timers) (now : Nat) (network : UInt16) :
    (state.flush now network).router.Timed (state.flush now network).timers := by
  unfold flush
  split
  · exact timed
  · next queue found =>
    -- The old timer is gone before the first message is sent or begins a new queue.
    have dropped : (state.dropQueue network queue).router.Timed
        (state.dropQueue network queue).timers := timed.erase found
    generalize state.dropQueue network queue = dropping at dropped
    induction queue.waiting generalizing dropping with
    | nil => exact dropped
    | cons first rest ih => exact ih _ (timed_forward dropped now network first)

theorem timed_perform (timed : state.router.Timed state.timers) (now : Nat) (chore : Chore) :
    (state.perform now chore).router.Timed (state.perform now chore).timers := by
  cases chore with
  | tells outputs => exact timed
  | adopts ports table => exact timed.of_pending rfl
  | releases table network =>
    exact @timed_flush (state.mapRouter fun router => { router with table }) (timed.of_pending rfl)
      now network

theorem timed_performAll (timed : state.router.Timed state.timers) (now : Nat)
    (chores : List Chore) :
    (state.performAll now chores).router.Timed (state.performAll now chores).timers := by
  induction chores generalizing state with
  | nil => exact timed
  | cons chore rest ih => exact ih (timed_perform timed now chore)

end Routing

theorem Planned.timed {lesson : Lesson} {now : Nat} {state : Routing}
    {handle : Routing → RoutingDecision × Routing} {joining : Option (UInt16 × PendingNpdu)}
    (planned : Planned lesson now state.router.bare handle joining)
    (timed : state.router.Timed state.timers) :
    (handle state).2.router.Timed (handle state).2.timers := by
  cases planned with
  | settled decision chores decided fair does =>
    rw [does state rfl]
    exact Routing.timed_performAll timed now chores
  | queued chores network message ask fair before after kept does =>
    rw [does state rfl]
    exact Routing.timed_enqueue (Routing.timed_performAll timed now chores) now network message ask

/-! ## Runs -/

/-- The other users of the timers leave those for networks alone. -/
def RelayEvent.Spares (timers : TimerQueue TimerEvent) : RelayEvent → Prop
  | schedule _ event => ∀ network, event ≠ .routeResolution network
  | cancel handle => ∀ network, handle ∉ timers.handlesOf (.routeResolution network)
  | _ => True

namespace Relay

variable {relay : Relay}

/-- In all that happens the other users of the timers leave those for networks alone. -/
def SparingRun (relay : Relay) : List (Nat × RelayEvent) → Prop
  | [] => True
  | (now, event) :: rest =>
    event.Spares relay.timers ∧ (relay.step now event).relay.SparingRun rest

/-- A timer that runs out is that of the queue for its network. -/
theorem exists_queue_of_pop? (timed : relay.router.Timed relay.timers) {now : Nat}
    {handle : TimerHandle} {network : UInt16} {rest : TimerQueue TimerEvent}
    (popped : relay.timers.pop? now = some (handle, .routeResolution network, rest)) :
    ∃ queue, relay.router.pending.find? network = some queue ∧ queue.timer = handle := by
  have entered : handle ∈ relay.timers.handlesOf (.routeResolution network) := by
    rw [TimerQueue.handlesOf_of_pop? popped, if_pos rfl]
    exact List.mem_cons_self
  rw [timed.handlesOf, Option.mem_toList] at entered
  exact Option.map_eq_some_iff.mp entered

theorem timed_expire (timed : relay.router.Timed relay.timers) (now : Nat) :
    (relay.step now .expire).relay.router.Timed (relay.step now .expire).relay.timers := by
  unfold step
  dsimp only
  split
  · exact timed
  · next handle network timers popped =>
    obtain ⟨queue, found, own⟩ := exists_queue_of_pop? timed popped
    have erased := timed.erase found
    rw [own, timed.wellFormed.cancel_of_pop? popped] at erased
    unfold Router.giveUp
    rw [found]
    exact erased
  · next handle event timers foreign popped =>
    refine timed.of_handlesOf (timed.wellFormed.pop? popped) ?_
    intro network
    rw [TimerQueue.handlesOf_of_pop? popped, if_neg fun same => foreign network same]

theorem timed_step (timed : relay.router.Timed relay.timers) (now : Nat) {event : RelayEvent}
    (spares : event.Spares relay.timers) :
    (relay.step now event).relay.router.Timed (relay.step now event).relay.timers := by
  cases event with
  | receive arrival npdu =>
    obtain ⟨joining, planned, -⟩ := decides_receive now relay.router.bare arrival npdu
    exact @Planned.timed _ now (.start relay.router relay.timers) _ _ planned timed
  | send destination message =>
    obtain ⟨joining, planned, -⟩ := decides_dispatch now relay.router.bare destination message
    exact @Planned.timed _ now (.start relay.router relay.timers) _ _ planned timed
  | expireRoutes => exact timed.of_pending rfl
  | expire => exact timed_expire timed now
  | schedule deadline event =>
    exact timed.of_handlesOf (timed.wellFormed.schedule deadline event) fun network =>
      TimerQueue.handlesOf_schedule_of_ne relay.timers deadline (spares network)
  | cancel handle =>
    exact timed.of_handlesOf (timed.wellFormed.cancel handle) fun network =>
      TimerQueue.handlesOf_cancel_of_not_mem (spares network)

theorem timed_new (ports : List PortConfig) (config : RouterConfig) :
    (new ports config).router.Timed (new ports config).timers :=
  ⟨TimerQueue.wellFormed_empty, fun _ => rfl⟩

theorem timed_run (timed : relay.router.Timed relay.timers) {events : List (Nat × RelayEvent)}
    (sparing : relay.SparingRun events) :
    (relay.run events).router.Timed (relay.run events).timers := by
  induction events generalizing relay with
  | nil => exact timed
  | cons entry rest ih => exact ih (timed_step timed entry.1 sparing.1) sparing.2

/-- In every state that a router can reach, the queue for a network has a timer, the only one for
this network, and without a queue there is none. A queue is neither empty nor longer than it may be.
A timer that runs out is that of the queue for its network, and not of an earlier one. -/
theorem deadlines_of_run (ports : List PortConfig) (config : RouterConfig)
    {events : List (Nat × RelayEvent)} (sparing : (new ports config).SparingRun events)
    (network : UInt16) :
    ((new ports config).run events).timers.handlesOf (.routeResolution network) =
        (((new ports config).run events).router.timer? network).toList ∧
      (∀ queue, ((new ports config).run events).router.pending.find? network = some queue →
        1 ≤ queue.waiting.length ∧ queue.waiting.length ≤ config.pendingLimit.toNat) ∧
      ∀ now handle rest,
        ((new ports config).run events).timers.pop? now =
          some (handle, .routeResolution network, rest) →
        ∃ queue, ((new ports config).run events).router.pending.find? network = some queue ∧
          queue.timer = handle := by
  have timed := timed_run (timed_new ports config) sparing
  have tidy := tidy_run (tidy_new ports config) events
  refine ⟨timed.handlesOf network, ?_, fun now handle rest => exists_queue_of_pop? timed⟩
  intro queue found
  have limit : ((new ports config).run events).router.config = config := config_run _ events
  refine ⟨List.length_pos_iff.mpr (tidy.nonempty network queue found), ?_⟩
  rw [← limit]
  exact tidy.length_le network queue found

/-- A message waits, something else is put into the queue of timers, and the network is said to be
available although there is no route to it. -/
def falselyAvailable : List (Nat × RelayEvent) :=
  [(0, inquiry), (1, .schedule 9 .communicationControl),
    (2, heard 0 (.routerAvailableToNetwork [5]))]

/-- The message goes on waiting in a new queue, for which the old timer does not count any more. -/
theorem deadlines_of_run_newQueue :
    (twoLinks (some 2)).SparingRun falselyAvailable ∧
      ((twoLinks (some 2)).run falselyAvailable).timers.handlesOf (.routeResolution 5) =
        [⟨5000000002, 2⟩] := by
  have sparing : (twoLinks (some 2)).SparingRun falselyAvailable := ⟨trivial, nofun, trivial, trivial⟩
  have own : ((twoLinks (some 2)).run falselyAvailable).router.timer? 5 = some ⟨5000000002, 2⟩ := by
    decide +kernel
  refine ⟨sparing, ?_⟩
  rw [← Option.toList_some, ← own]
  exact (deadlines_of_run _ _ sparing 5).1

end Relay

end BACnet
