import BACnet.Proofs.Routing.Relay

/-!
# Messages wait only for networks that are not reached

When a network becomes reached, the messages that wait for it are sent. This holds for a route that
is announced, that is learned from the source of a message, or that is available again. It does not
hold for the lines of a routing table, for a network number that is told, and for a busy route to
which a message is refused (`NetworkMessage.revealed`): the messages that wait at this time go on
waiting, until they are told that their network cannot be reached.
-/

namespace BACnet

/-- Messages wait only for networks that are not reached. -/
def Router.OnlyUnreachedWait (router : Router) : Prop :=
  ∀ network, router.waits network ≠ [] → router.reaches network = false

namespace Routing

variable {state : Routing} {lesson : Lesson} {now : Nat}

/-- A chore lets no further messages wait. -/
theorem waits_perform (tidy : state.router.Tidy) {chore : Chore}
    (fair : chore.Fair lesson state.router.bare) (now : Nat) (network : UInt16) :
    (state.perform now chore).router.waits network = state.router.waits network ∨
      (state.perform now chore).router.waits network = [] := by
  rcases perform_cases tidy fair now network with kept | ⟨sent, -⟩
  · exact .inl (kept.waits.trans (List.append_nil _))
  · exact .inr sent.waits

/-- No message waits for a network that is reached after its queue has been flushed. -/
theorem waits_flush_of_reaches {network : UInt16} (fresh : state.router.Fresh network)
    (reached : state.router.reaches network = true) (now : Nat) :
    (state.flush now network).router.waits network = [] := by
  obtain ⟨carry, carries⟩ := Option.isSome_iff_exists.mp reached
  cases found : state.router.pending.find? network with
  | none =>
    rw [flush_of_none found]
    exact Router.waits_of_none found
  | some queue =>
    rw [flush_of_carrier? fresh found carries]
    exact state.router.waits_erase_self network

theorem onlyUnreachedWait_perform (tidy : state.router.Tidy) {chore : Chore}
    (fair : chore.Fair lesson state.router.bare) (only : state.router.OnlyUnreachedWait)
    (quiet : ∀ network ∈ lesson.revealed, state.router.waits network = []) :
    (state.perform now chore).router.OnlyUnreachedWait := by
  intro network waits
  have before : state.router.waits network ≠ [] := by
    rcases waits_perform tidy fair now network with same | empty
    · rwa [← same]
    · exact absurd empty waits
  have unreached := only network before
  show (state.perform now chore).router.bare.reaches network = false
  rw [bare_perform, Bool.eq_false_iff]
  intro reached
  cases chore with
  | tells outputs =>
    exact Bool.eq_false_iff.mp unreached reached
  | adopts ports table =>
    rcases Chore.FairlyAdopts.reveals fair network reached with already | told
    · exact Bool.eq_false_iff.mp unreached already
    · exact before (quiet network told)
  | releases table other =>
    by_cases same : network = other
    · subst same
      exact waits (@waits_flush_of_reaches (state.mapRouter fun router => { router with table })
        network fair.fresh reached now)
    · refine Bool.eq_false_iff.mp unreached (Router.reaches_of_table reached ?_)
      intro route found free
      exact ⟨route, fair.others network same ▸ found, free⟩

theorem onlyUnreachedWait_performAll (tidy : state.router.Tidy) {chores : List Chore}
    (fair : Chore.AllFair lesson state.router.bare chores)
    (only : state.router.OnlyUnreachedWait)
    (quiet : ∀ network ∈ lesson.revealed, state.router.waits network = []) :
    (state.performAll now chores).router.OnlyUnreachedWait := by
  induction chores generalizing state with
  | nil => exact only
  | cons chore rest ih =>
    refine ih (tidy_perform tidy fair.1 now) ?_
      (onlyUnreachedWait_perform tidy fair.1 only quiet) ?_
    · rw [bare_perform]
      exact fair.2
    · intro network told
      rcases waits_perform tidy fair.1 now network with same | empty
      · exact same.trans (quiet network told)
      · exact empty

/-- A message that waits for a network that is not reached is no exception. -/
theorem onlyUnreachedWait_enqueue (only : state.router.OnlyUnreachedWait) {target : UInt16}
    (unreached : state.router.reaches target = false) (message : PendingNpdu) (ask : Bool) :
    (state.enqueue now target message ask).2.router.OnlyUnreachedWait := by
  intro network waits
  show (state.enqueue now target message ask).2.router.bare.reaches network = false
  rw [bare_enqueue]
  by_cases same : network = target
  · exact same ▸ unreached
  · have kept := (keeps_enqueue state now network target message ask).waits
    rw [if_neg fun both => same both.1, List.append_nil] at kept
    exact only network (kept ▸ waits)

end Routing

theorem Planned.onlyUnreachedWait {lesson : Lesson} {now : Nat} {state : Routing}
    {handle : Routing → RoutingDecision × Routing} {joining : Option (UInt16 × PendingNpdu)}
    (planned : Planned lesson now state.router.bare handle joining)
    (tidy : state.router.Tidy) (only : state.router.OnlyUnreachedWait)
    (quiet : ∀ network ∈ lesson.revealed, state.router.waits network = []) :
    (handle state).2.router.OnlyUnreachedWait := by
  cases planned with
  | settled decision chores decided fair does =>
    rw [does state rfl]
    exact Routing.onlyUnreachedWait_performAll tidy fair only quiet
  | queued chores network message ask fair before after kept does =>
    rw [does state rfl]
    refine Routing.onlyUnreachedWait_enqueue
      (Routing.onlyUnreachedWait_performAll tidy fair only quiet) ?_ message ask
    show (state.performAll now chores).router.bare.reaches network = false
    rw [Routing.bare_performAll]
    exact after

/-! ## Runs -/

/-- The networks that an event can make reached although the messages that wait for them are not
sent. -/
def RelayEvent.revealed : RelayEvent → List UInt16
  | receive _ npdu => npdu.revealed
  | _ => []

namespace Relay

variable {relay : Relay}

/-- Whenever a message reveals networks, no message waits for one of them. -/
def QuietRun (relay : Relay) : List (Nat × RelayEvent) → Prop
  | [] => True
  | (now, event) :: rest =>
    (∀ network ∈ event.revealed, relay.router.waits network = []) ∧
      (relay.step now event).relay.QuietRun rest

/-- A route that becomes old was not busy. -/
theorem expire_status_eq_busy_iff (route : Route) (staleAfter now : Nat) :
    (route.expire staleAfter now).status = .busy ↔ route.status = .busy := by
  unfold Route.expire
  split
  · next overdue =>
    have status : route.status = .reachable := (of_decide_eq_true overdue).1
    rw [status]
    exact ⟨nofun, nofun⟩
  · exact Iff.rfl

theorem reaches_expireRoutes (router : Router) (now : Nat) (network : UInt16) :
    (router.expireRoutes now).reaches network = router.reaches network := by
  rw [Bool.eq_iff_iff, Router.reaches_iff, Router.reaches_iff]
  refine or_congr Iff.rfl ?_
  rw [Router.expireRoutes, Table.find?_mapValues]
  cases router.table.find? network with
  | none => simp
  | some route => simp [expire_status_eq_busy_iff]

theorem onlyUnreachedWait_giveUp {router : Router} (only : router.OnlyUnreachedWait)
    (target : UInt16) : (router.giveUp target).2.OnlyUnreachedWait := by
  unfold Router.giveUp
  split
  · exact only
  · intro network waits
    refine only network ?_
    by_cases same : network = target
    · subst same
      exact absurd (router.waits_erase_self network) waits
    · exact router.waits_erase_of_ne same ▸ waits

theorem onlyUnreachedWait_step (tidy : relay.router.Tidy) (only : relay.router.OnlyUnreachedWait)
    (now : Nat) {event : RelayEvent}
    (quiet : ∀ network ∈ event.revealed, relay.router.waits network = []) :
    (relay.step now event).relay.router.OnlyUnreachedWait := by
  cases event with
  | receive arrival npdu =>
    obtain ⟨joining, planned, -⟩ := decides_receive now relay.router.bare arrival npdu
    exact @Planned.onlyUnreachedWait _ now (.start relay.router relay.timers) _ _ planned tidy only
      quiet
  | send destination message =>
    obtain ⟨joining, planned, -⟩ := decides_dispatch now relay.router.bare destination message
    exact @Planned.onlyUnreachedWait _ now (.start relay.router relay.timers) _ _ planned tidy only
      quiet
  | expireRoutes =>
    intro network waits
    exact (reaches_expireRoutes relay.router now network).trans (only network waits)
  | expire =>
    unfold step
    dsimp only
    split
    · exact only
    · exact onlyUnreachedWait_giveUp only _
    · exact only
  | schedule deadline event => exact only
  | cancel handle => exact only

theorem onlyUnreachedWait_run (tidy : relay.router.Tidy) (only : relay.router.OnlyUnreachedWait)
    {events : List (Nat × RelayEvent)} (quiet : relay.QuietRun events) :
    (relay.run events).router.OnlyUnreachedWait := by
  induction events generalizing relay with
  | nil => exact only
  | cons entry rest ih =>
    exact ih (tidy_step tidy entry.1 entry.2)
      (onlyUnreachedWait_step tidy only entry.1 quiet.1) quiet.2

/-- As long as no message reveals a network for which messages wait, a network for which messages
wait is neither attached nor is there a route to it, unless this route is busy; and a further
message to this network does not overtake them. -/
theorem unreached_of_waits (ports : List PortConfig) (config : RouterConfig)
    (events : List (Nat × RelayEvent)) (quiet : (new ports config).QuietRun events)
    (network : UInt16) (waits : ((new ports config).run events).router.waits network ≠ []) :
    ((new ports config).run events).router.directPort? network = none ∧
      (∀ route, ((new ports config).run events).router.table.find? network = some route →
        route.status = .busy) ∧
      ∀ now message timers,
        ((Routing.start ((new ports config).run events).router timers).forward now network
          message).1 ≠ .forward := by
  have only : ((new ports config).run events).router.OnlyUnreachedWait :=
    onlyUnreachedWait_run (tidy_new ports config) (fun _ some => absurd rfl some) quiet
  have unreached := Bool.eq_false_iff.mp (only network waits)
  rw [ne_eq, Router.reaches_iff, not_or] at unreached
  obtain ⟨unattached, unrouted⟩ := unreached
  refine ⟨?_, ?_, ?_⟩
  · simpa using unattached
  · intro route found
    by_contra free
    exact unrouted ⟨route, found, free⟩
  · intro now message timers
    have carries := Option.isSome_eq_false_iff.mp (only network waits)
    rw [Routing.forward_of_not_reaches (Option.isNone_iff_eq_none.mp carries),
      Routing.decision_enqueue]
    split <;> nofun

/-- A router with two links. The network behind the second one may have no number yet. -/
def twoLinks (second : Option UInt16) : Relay :=
  new [⟨some 1, none⟩, ⟨second, none⟩] ⟨8, 5000, 60000, 255, true⟩

/-- A message of the application to a network that is not attached. -/
def inquiry : RelayEvent := .send ⟨5, [1]⟩ ⟨.apdu [16, 8], false, .normal⟩

/-- A message of another router on a link. -/
def heard (port : PortId) (message : NetworkMessage) : RelayEvent :=
  .receive ⟨port, [11]⟩ (.ofMessage message)

/-- A message waits, and then the line of a routing table leads to a network. -/
def lineHeard (network : UInt16) : List (Nat × RelayEvent) :=
  [(0, inquiry), (0, heard 0 (.initializeRoutingTableAck [⟨network, 1, []⟩]))]

/-- A message waits, and then the number of its network is told. -/
def numberHeard : List (Nat × RelayEvent) :=
  [(0, inquiry), (0, heard 1 (.networkNumberIs 5 true))]

/-- A message waits because the route to its network is busy, and then a message is refused. -/
def refusalHeard : List (Nat × RelayEvent) :=
  [(0, heard 0 (.iAmRouterToNetwork [5])), (0, heard 0 (.routerBusyToNetwork [5])), (0, inquiry),
    (0, heard 0 (.rejectMessageToNetwork .other 5))]

/-- A route to another network does not matter for a message that waits. -/
theorem unreached_of_waits_otherRoute :
    (twoLinks (some 2)).QuietRun (lineHeard 6) ∧
      ((twoLinks (some 2)).run (lineHeard 6)).router.waits 5 ≠ [] ∧
      ((twoLinks (some 2)).run (lineHeard 6)).router.directPort? 5 = none := by
  have quiet : (twoLinks (some 2)).QuietRun (lineHeard 6) :=
    ⟨nofun, List.forall_mem_singleton.mpr (by decide +kernel), trivial⟩
  have waits : ((twoLinks (some 2)).run (lineHeard 6)).router.waits 5 ≠ [] := by decide +kernel
  exact ⟨quiet, waits, (unreached_of_waits _ _ _ quiet 5 waits).1⟩

/-- When the line of a routing table leads to the network for which a message waits, the message
goes on waiting: the next message overtakes it, and in the end the application is told that the
network cannot be reached. It goes on waiting as well when its network turns out to be attached, and
when a message to its busy network is refused, after which the route is used again. -/
theorem waits_while_reached :
    (((twoLinks (some 2)).run (lineHeard 5)).router.waits 5 ≠ [] ∧
        ((twoLinks (some 2)).run (lineHeard 5)).router.table.find? 5 =
          some ⟨0, [11], .reachable, 0⟩ ∧
        (((twoLinks (some 2)).run (lineHeard 5)).step 0 inquiry).decision = some .forward ∧
        (((twoLinks (some 2)).run (lineHeard 5)).step 5000000000 .expire).outputs =
          [.failure (.networkUnreachable 5)]) ∧
      (((twoLinks none).run numberHeard).router.waits 5 ≠ [] ∧
        ((twoLinks none).run numberHeard).router.directPort? 5 = some 1) ∧
      ((twoLinks (some 2)).run refusalHeard).router.waits 5 ≠ [] ∧
        ((twoLinks (some 2)).run refusalHeard).router.table.find? 5 =
          some ⟨0, [11], .stale, 0⟩ := by
  decide +kernel

end Relay

end BACnet
