import BACnet.Proofs.Routing.Refill

/-!
# Relays

A router together with the timers of its device, and all that can happen to it. The queue of timers
has other users, who may put anything into it and take anything out of it.
-/

namespace BACnet

/-- A router and the timers of its device. -/
structure Relay where
  router : Router
  timers : TimerQueue TimerEvent
  deriving DecidableEq, Repr

/-- What happens at a relay. -/
inductive RelayEvent where
  /-- A message arrives from a link. -/
  | receive (arrival : Arrival) (npdu : Npdu)
  /-- The application sends a message. -/
  | send (destination : Address) (message : Routing.Outgoing)
  /-- Routes that have not been heard of for too long become old. -/
  | expireRoutes
  /-- The first timer is taken out of the queue if it is due. -/
  | expire
  /-- Something is put into the queue of timers. -/
  | schedule (deadline : Nat) (event : TimerEvent)
  /-- Something is taken out of the queue of timers. -/
  | cancel (handle : TimerHandle)
  deriving DecidableEq

/-- What has come of it. -/
structure RelayStep where
  /-- What has been decided about a message. -/
  decision : Option RoutingDecision
  outputs : List RouterOutput
  relay : Relay
  deriving DecidableEq, Repr

namespace Relay

/-- A router that is set up, without timers. -/
def new (ports : List PortConfig) (config : RouterConfig) : Relay := ⟨.new ports config, .empty⟩

/-- What the application learns about a message that it has sent. -/
def told : Except NetworkError (List Transmission) → List RouterOutput
  | .ok transmissions => transmissions.map .transmit
  | .error error => [.failure error]

/-- What comes of an event. -/
def step (relay : Relay) (now : Nat) : RelayEvent → RelayStep
  | .receive arrival npdu =>
    let (decision, state) := (Routing.start relay.router relay.timers).receive now arrival npdu
    ⟨some decision, state.outputs, ⟨state.router, state.timers⟩⟩
  | .send destination message =>
    let (result, router, timers) :=
      Routing.send relay.router relay.timers now destination message
    ⟨(Routing.start relay.router relay.timers).decision? now destination message, told result,
      ⟨router, timers⟩⟩
  | .expireRoutes => ⟨none, [], ⟨relay.router.expireRoutes now, relay.timers⟩⟩
  | .expire =>
    match relay.timers.pop? now with
    | none => ⟨none, [], relay⟩
    | some (_, .routeResolution network, timers) =>
      let (outputs, router) := relay.router.giveUp network
      ⟨none, outputs, ⟨router, timers⟩⟩
    | some (_, _, timers) => ⟨none, [], { relay with timers }⟩
  | .schedule deadline event =>
    ⟨none, [], { relay with timers := (relay.timers.schedule deadline event).2 }⟩
  | .cancel handle => ⟨none, [], { relay with timers := relay.timers.cancel handle }⟩

/-- The relay after events one after the other, each at its time. -/
def run (relay : Relay) : List (Nat × RelayEvent) → Relay
  | [] => relay
  | (now, event) :: rest => (relay.step now event).relay.run rest

/-- The message that may have to wait after an event, and the network for which it does. -/
def candidate? (relay : Relay) : RelayEvent → Option (UInt16 × PendingNpdu)
  | .receive arrival npdu => relay.router.joins? arrival npdu
  | .send destination message =>
    some (destination.network, ⟨Routing.outgoing relay.router destination message, none⟩)
  | _ => none

/-- The messages, one at most, that begin to wait for a network with an event: those about which it
has been decided that they wait. -/
def entering (relay : Relay) (now : Nat) (event : RelayEvent) (network : UInt16) :
    List PendingNpdu :=
  if (relay.step now event).decision = some .pending then
    ((relay.candidate? event).toList.filter (·.1 = network)).map (·.2)
  else []

/-- The relay with other messages in a queue. -/
def refill (relay : Relay) (network : UInt16) (waiting : List PendingNpdu) : Relay :=
  { relay with router := relay.router.refill network waiting }

end Relay

/-! ## Queues stay tidy -/

theorem Routing.tidy_enqueue {state : Routing} (tidy : state.router.Tidy) (now : Nat)
    (network : UInt16) (message : PendingNpdu) (ask : Bool) :
    (state.enqueue now network message ask).2.router.Tidy := by
  by_cases full : state.router.config.pendingLimit.toNat ≤ state.router.pendingCount network
  · rw [enqueue_of_full full]
    exact tidy
  · have room : state.router.pendingCount network < state.router.config.pendingLimit.toNat :=
      Nat.lt_of_not_le full
    cases found : state.router.pending.find? network with
    | none =>
      rw [enqueue_first full found]
      exact tidy.insert (List.cons_ne_nil message []) (Nat.zero_lt_of_lt room)
    | some queue =>
      rw [enqueue_behind full found]
      rw [Router.pendingCount_eq, Router.waits_of_find? found] at room
      refine tidy.insert (List.append_ne_nil_of_right_ne_nil _ (List.cons_ne_nil message [])) ?_
      rw [List.length_append]
      exact room

theorem Planned.tidy {lesson : Lesson} {now : Nat} {state : Routing}
    {handle : Routing → RoutingDecision × Routing} {joining : Option (UInt16 × PendingNpdu)}
    (planned : Planned lesson now state.router.bare handle joining)
    (tidy : state.router.Tidy) : (handle state).2.router.Tidy := by
  cases planned with
  | settled decision chores decided fair does =>
    rw [does state rfl]
    exact Routing.tidy_performAll tidy fair now
  | queued chores network message ask fair before after kept does =>
    rw [does state rfl]
    exact Routing.tidy_enqueue (Routing.tidy_performAll tidy fair now) now network message ask

namespace Relay

variable {relay : Relay}

theorem tidy_new (ports : List PortConfig) (config : RouterConfig) :
    (new ports config).router.Tidy :=
  ⟨nofun, nofun⟩

theorem tidy_step (tidy : relay.router.Tidy) (now : Nat) (event : RelayEvent) :
    (relay.step now event).relay.router.Tidy := by
  cases event with
  | receive arrival npdu =>
    obtain ⟨joining, planned, -⟩ := decides_receive now relay.router.bare arrival npdu
    exact @Planned.tidy _ now (.start relay.router relay.timers) _ _ planned tidy
  | send destination message =>
    obtain ⟨joining, planned, -⟩ := decides_dispatch now relay.router.bare destination message
    exact @Planned.tidy _ now (.start relay.router relay.timers) _ _ planned tidy
  | expireRoutes => exact tidy.of_pending rfl rfl
  | expire =>
    unfold step
    dsimp only
    split
    · exact tidy
    · next network timers popped =>
      show (relay.router.giveUp network).2.Tidy
      unfold Router.giveUp
      split
      · exact tidy
      · exact tidy.erase network
    · exact tidy
  | schedule deadline event => exact tidy
  | cancel handle => exact tidy

theorem tidy_run (tidy : relay.router.Tidy) (events : List (Nat × RelayEvent)) :
    (relay.run events).router.Tidy := by
  induction events generalizing relay with
  | nil => exact tidy
  | cons entry rest ih => exact ih (tidy_step tidy entry.1 entry.2)

end Relay

end BACnet
