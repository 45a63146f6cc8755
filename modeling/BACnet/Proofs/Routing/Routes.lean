import BACnet.Proofs.Routing.Numbers

/-!
# Routes

A route comes from a message that offers it, and leads to the sender of this message: on an attached
link, to a station with an address, and never to all networks. There is one route to a network at
most (`Router.WellRouted`).

A router does not learn a route to a network to which it is attached. But the number of an open
network may be told when there is a route to a network of this number already, and a route to the
network of the sender is learned like any other. As long as neither happens, routes lead to other
networks only (`Relay.wellRouted_run`).
-/

namespace BACnet

/-! ## Keys -/

namespace Table

variable {κ α : Type} [DecidableEq κ]

/-- The keys that have a value. -/
def keys (table : Table κ α) : List κ := table.entries.map (·.1)

theorem keys_write (key : κ) (value : α) (entries : List (κ × α)) :
    (write key value entries).map (·.1) =
      if key ∈ entries.map (·.1) then entries.map (·.1) else entries.map (·.1) ++ [key] := by
  induction entries with
  | nil => simp [write]
  | cons entry rest ih =>
    obtain ⟨first, old⟩ := entry
    by_cases same : first = key
    · subst same
      simp [write]
    · by_cases later : key ∈ rest.map (·.1)
      · simp_all [write, Ne.symm same]
      · simp_all [write, Ne.symm same]

theorem nodup_keys_insert {table : Table κ α} (distinct : table.keys.Nodup) (key : κ) (value : α) :
    (table.insert key value).keys.Nodup := by
  rw [keys, insert, keys_write]
  split
  · exact distinct
  · next new =>
    rw [List.nodup_append]
    refine ⟨distinct, by simp, ?_⟩
    intro old member other same
    rw [List.mem_singleton] at same
    rintro rfl
    exact new (same ▸ member)

theorem nodup_keys_erase {table : Table κ α} (distinct : table.keys.Nodup) (key : κ) :
    (table.erase key).keys.Nodup :=
  distinct.sublist (List.filter_sublist.map _)

omit [DecidableEq κ] in
theorem keys_mapValues (table : Table κ α) (change : α → α) :
    (table.mapValues change).keys = table.keys := by
  simp [keys, mapValues, Function.comp_def]

/-- Where no key occurs twice, each entry is the value of its key. -/
theorem find?_of_mem {table : Table κ α} (distinct : table.keys.Nodup) {key : κ} {value : α}
    (member : (key, value) ∈ table.entries) : table.find? key = some value := by
  obtain ⟨entries⟩ := table
  induction entries with
  | nil => cases member
  | cons entry rest ih =>
    obtain ⟨first, old⟩ := entry
    simp only [keys, List.map_cons, List.nodup_cons] at distinct
    rcases List.mem_cons.mp member with same | later
    · cases same
      simp [find?, lookup]
    · have other : first ≠ key := by
        rintro rfl
        exact distinct.1 (List.mem_map.mpr ⟨_, later, rfl⟩)
      simpa [find?, lookup, other] using ih distinct.2 later

end Table

/-! ## Routes that are learned -/

namespace RoutingTable

/-- The routes of a table are those of another one, with a status of their own, or they are
`allowed`. -/
structure Follows (allowed : UInt16 → Route → Prop) (before after : RoutingTable) : Prop where
  distinct : before.keys.Nodup → after.keys.Nodup
  routes : ∀ network route, after.find? network = some route →
    (∃ old, before.find? network = some old ∧ old.port = route.port ∧
      old.nextHop = route.nextHop) ∨ allowed network route

namespace Follows

variable {allowed : UInt16 → Route → Prop} {before between after : RoutingTable}

theorem refl (allowed : UInt16 → Route → Prop) (table : RoutingTable) :
    table.Follows allowed table :=
  ⟨id, fun _ route found => .inl ⟨route, found, rfl, rfl⟩⟩

theorem mono {wider : UInt16 → Route → Prop} (follows : before.Follows allowed after)
    (weaker : ∀ network route, allowed network route → wider network route) :
    before.Follows wider after :=
  ⟨follows.distinct, fun network route found =>
    (follows.routes network route found).imp_right (weaker network route)⟩

/-- What is allowed may depend on the link and on the next router alone. -/
theorem trans (first : before.Follows allowed between) (second : between.Follows allowed after)
    (stable : ∀ network old route, allowed network old → old.port = route.port →
      old.nextHop = route.nextHop → allowed network route) : before.Follows allowed after := by
  refine ⟨fun distinct => second.distinct (first.distinct distinct), ?_⟩
  intro network route found
  rcases second.routes network route found with ⟨middle, there, port, hop⟩ | new
  · rcases first.routes network middle there with ⟨old, known, oldPort, oldHop⟩ | learned
    · exact .inl ⟨old, known, oldPort.trans port, oldHop.trans hop⟩
    · exact .inr (stable network middle route learned port hop)
  · exact .inr new

theorem insert (table : RoutingTable) {network : UInt16} {route : Route}
    (fine : allowed network route ∨ ∃ old, table.find? network = some old ∧
      old.port = route.port ∧ old.nextHop = route.nextHop) :
    table.Follows allowed (table.insert network route) := by
  refine ⟨fun distinct => Table.nodup_keys_insert distinct network route, ?_⟩
  intro other found present
  rw [Table.find?_insert] at present
  split at present
  · next same =>
    subst same
    cases present
    exact fine.symm
  · exact .inl ⟨found, present, rfl, rfl⟩

theorem erase (allowed : UInt16 → Route → Prop) (table : RoutingTable) (network : UInt16) :
    table.Follows allowed (table.erase network) := by
  refine ⟨fun distinct => Table.nodup_keys_erase distinct network, ?_⟩
  intro other route found
  rw [Table.find?_erase] at found
  split at found
  · cases found
  · exact .inl ⟨route, found, rfl, rfl⟩

theorem setStatus (allowed : UInt16 → Route → Prop) (table : RoutingTable) (network : UInt16)
    (status : RouteStatus) : table.Follows allowed (table.setStatus network status) := by
  unfold RoutingTable.setStatus
  split
  · exact refl allowed table
  · next route found => exact insert table (.inr ⟨route, found, rfl, rfl⟩)

theorem refresh (allowed : UInt16 → Route → Prop) (table : RoutingTable) (network : UInt16)
    (now : Nat) : table.Follows allowed (table.refresh network now) := by
  unfold RoutingTable.refresh
  split
  · exact refl allowed table
  · next route found => exact insert table (.inr ⟨route, found, rfl, rfl⟩)

theorem expire (allowed : UInt16 → Route → Prop) (table : RoutingTable) (staleAfter now : Nat) :
    table.Follows allowed (table.mapValues (·.expire staleAfter now)) := by
  refine ⟨fun distinct => by rwa [Table.keys_mapValues], ?_⟩
  intro network route found
  rw [Table.find?_mapValues] at found
  obtain ⟨old, present, rfl⟩ := Option.map_eq_some_iff.mp found
  refine .inl ⟨old, present, ?_, ?_⟩
  · unfold Route.expire
    split <;> rfl
  · unfold Route.expire
    split <;> rfl

end Follows

end RoutingTable

namespace Router

/-- A router may learn the route from one of some offers. -/
structure Learns (router : Router) (offers : List (UInt16 × Arrival)) (network : UInt16)
    (route : Route) : Prop where
  offered : (network, ⟨route.port, route.nextHop⟩) ∈ offers
  attached : (router.port? route.port).isSome = true
  addressed : route.nextHop ≠ []
  notGlobal : network ≠ Address.globalNetwork
  unattached : router.directPort? network = none

variable {router : Router} {offers : List (UInt16 × Arrival)}

theorem Learns.stable (network : UInt16) (old route : Route)
    (learns : router.Learns offers network old) (port : old.port = route.port)
    (hop : old.nextHop = route.nextHop) : router.Learns offers network route := by
  obtain ⟨offered, attached, addressed, notGlobal, unattached⟩ := learns
  rw [port] at offered attached
  rw [hop] at offered addressed
  exact ⟨offered, attached, addressed, notGlobal, unattached⟩

end Router

/-- The networks to which a message between routers offers a route. -/
def NetworkMessage.offered : NetworkMessage → List UInt16
  | iAmRouterToNetwork networks => networks
  | initializeRoutingTable lines | initializeRoutingTableAck lines =>
    (lines.filter (·.portId ≠ 0)).map (·.network)
  | _ => []

/-- The networks to which a message that arrives offers a route: that of its source, and those that
it names. -/
def Npdu.offered (npdu : Npdu) : List UInt16 :=
  (npdu.source.map (·.network)).toList ++
    match npdu.body with
    | .apdu _ => []
    | .network message => message.offered

namespace Routing

variable {known : Router} {offers : List (UInt16 × Arrival)} {state : Routing} {arrival : Arrival}
  {npdu : Npdu} {now : Nat}

theorem table_releases (state : Routing) (now : Nat) (table : RoutingTable) (network : UInt16) :
    (state.perform now (.releases table network)).router.table = table :=
  congrArg (fun router => router.bare.table) (bare_perform state now (.releases table network))

theorem table_forward (state : Routing) (now : Nat) (network : UInt16) (message : PendingNpdu) :
    (state.forward now network message).2.router.table = state.router.table :=
  congrArg (fun router => router.bare.table) (bare_forward state now network message)

theorem table_dispatch (state : Routing) (now : Nat) (destination : Address) (message : Outgoing) :
    (state.dispatch now destination message).router.table = state.router.table := by
  unfold dispatch
  dsimp only
  split
  · rfl
  · split
    · rfl
    · exact table_forward ..

/-- A route that is offered is learned unless the sender has no address, the route leads to all
networks, or its network is attached. -/
theorem follows_learn (same : known.SameLinks state.router)
    (valid : (known.port? arrival.port).isSome = true) {network : UInt16}
    (offered : (network, arrival) ∈ offers) :
    state.router.table.Follows (known.Learns offers)
      (state.learn now arrival network).router.table := by
  rw [learn_eq]
  split
  · exact .refl _ _
  · next learnable =>
    rw [table_releases]
    simp only [not_or, List.isEmpty_iff, Option.not_isSome_iff_eq_none, same.directPort?_eq]
      at learnable
    exact .insert _ (.inl ⟨offered, valid, learnable.1, learnable.2.1, learnable.2.2⟩)

/-- What each item of a list does to the routes, all items do. -/
theorem follows_foldl {α : Type} {step : Routing → α → Routing} {items : List α}
    (sameLinks : ∀ (state : Routing) item, state.router.SameLinks (step state item).router)
    (follows : ∀ state : Routing, known.SameLinks state.router → ∀ item ∈ items,
      state.router.table.Follows (known.Learns offers) (step state item).router.table)
    (same : known.SameLinks state.router) :
    state.router.table.Follows (known.Learns offers) (items.foldl step state).router.table := by
  induction items generalizing state with
  | nil => exact .refl _ _
  | cons first rest ih =>
    have begun := follows state same first List.mem_cons_self
    have followed := ih (fun state same item member =>
      follows state same item (List.mem_cons_of_mem first member))
      (same.trans (sameLinks state first))
    exact begun.trans followed Router.Learns.stable

theorem follows_takeAnnouncement (same : known.SameLinks state.router)
    (valid : (known.port? arrival.port).isSome = true) {networks : List UInt16}
    (offered : ∀ network ∈ networks, (network, arrival) ∈ offers) :
    state.router.table.Follows (known.Learns offers)
      (state.takeAnnouncement now arrival networks).router.table := by
  have learned : state.router.table.Follows (known.Learns offers)
      (networks.foldl (fun state network => state.learn now arrival network)
        state).router.table := by
    apply follows_foldl _ _ same
    · intro state network
      exact sameLinks_learn state now arrival network
    · intro state same network member
      exact follows_learn same valid (offered network member)
  unfold takeAnnouncement
  dsimp only
  split
  · exact learned
  · exact learned

theorem follows_makeAvailable (same : known.SameLinks state.router) (networks : List UInt16) :
    state.router.table.Follows (known.Learns offers)
      (state.makeAvailable now networks).router.table := by
  apply follows_foldl _ _ same
  · intro state network
    exact sameLinks_releases state now _ network
  · intro state same network member
    have refreshed := table_releases state now (state.router.table.refresh network now) network
    exact refreshed ▸ .refresh _ _ network now

theorem follows_applyLine (router : Router) (now : Nat) (same : known.SameLinks router)
    (valid : (known.port? arrival.port).isSome = true) {line : RoutingTablePort}
    (offered : line.portId ≠ 0 → (line.network, arrival) ∈ offers) :
    router.table.Follows (known.Learns offers) (router.applyTable now arrival [line]).table := by
  rw [Router.applyTable, List.foldl_cons, List.foldl_nil]
  by_cases removes : line.portId = 0
  · rw [if_pos removes]
    exact .erase _ router.table line.network
  · rw [if_neg removes, Router.learnRoute?]
    split
    · exact .refl _ router.table
    · next learnable =>
      simp only [not_or, List.isEmpty_iff, Option.not_isSome_iff_eq_none, same.directPort?_eq]
        at learnable
      exact .insert _ (.inl
        ⟨offered removes, valid, learnable.1, learnable.2.1, learnable.2.2⟩)

theorem follows_applyTable (router : Router) (same : known.SameLinks router)
    (valid : (known.port? arrival.port).isSome = true) {lines : List RoutingTablePort}
    (offered : ∀ line ∈ lines, line.portId ≠ 0 → (line.network, arrival) ∈ offers) :
    router.table.Follows (known.Learns offers) (router.applyTable now arrival lines).table := by
  induction lines generalizing router with
  | nil => exact .refl _ _
  | cons line rest ih =>
    have first := follows_applyLine router now same valid (offered line List.mem_cons_self)
    have links := sameLinks_applyTable router now arrival [line]
    have others := ih (router.applyTable now arrival [line]) (same.trans links)
      fun line member => offered line (List.mem_cons_of_mem _ member)
    exact first.trans others Router.Learns.stable

theorem follows_initializeTable (same : known.SameLinks state.router)
    (valid : (known.port? arrival.port).isSome = true) {lines : List RoutingTablePort}
    (offered : ∀ line ∈ lines, line.portId ≠ 0 → (line.network, arrival) ∈ offers) :
    state.router.table.Follows (known.Learns offers)
      (state.initializeTable now arrival npdu lines).router.table := by
  unfold initializeTable
  split
  · exact .refl _ _
  · split
    · exact .refl _ _
    · exact follows_applyTable state.router same valid offered

theorem follows_setBusy (networks : List UInt16) (table : RoutingTable) :
    table.Follows (known.Learns offers) (networks.foldl (·.setStatus · .busy) table) := by
  induction networks generalizing table with
  | nil => exact .refl _ _
  | cons network rest ih =>
    have first := RoutingTable.Follows.setStatus (known.Learns offers) table network .busy
    exact first.trans (ih _) Router.Learns.stable

/-- A message between routers teaches the routes that it offers. -/
theorem follows_handleMessage (same : known.SameLinks state.router)
    (valid : (known.port? arrival.port).isSome = true) {message : NetworkMessage}
    (offered : ∀ network ∈ message.offered, (network, arrival) ∈ offers) :
    state.router.table.Follows (known.Learns offers)
      (state.handleMessage now arrival npdu message).router.table := by
  have lineOffered {lines : List RoutingTablePort}
      (all : ∀ network ∈ (lines.filter (·.portId ≠ 0)).map (·.network),
        (network, arrival) ∈ offers) :
      ∀ line ∈ lines, line.portId ≠ 0 → (line.network, arrival) ∈ offers := by
    intro line member leads
    apply all
    exact List.mem_map.mpr ⟨line, List.mem_filter.mpr ⟨member, decide_eq_true leads⟩, rfl⟩
  cases message with
  | iAmRouterToNetwork networks => exact follows_takeAnnouncement same valid offered
  | initializeRoutingTable lines => exact follows_initializeTable same valid (lineOffered offered)
  | initializeRoutingTableAck lines =>
    exact follows_applyTable state.router same valid (lineOffered offered)
  | rejectMessageToNetwork reason network => exact .setStatus _ _ network _
  | routerBusyToNetwork networks => exact follows_setBusy _ state.router.table
  | routerAvailableToNetwork networks => exact follows_makeAvailable same _
  | whoIsRouterToNetwork network | networkNumberIs network configured | other type data =>
    unfold handleMessage
    dsimp only
    split <;> exact .refl _ _
  | whatIsNetworkNumber | iCouldBeRouterToNetwork _ _ | establishConnectionToNetwork _ _
  | disconnectConnectionToNetwork _ | proprietary _ _ _ => exact .refl _ _

theorem follows_deliver (same : known.SameLinks state.router)
    (valid : (known.port? arrival.port).isSome = true)
    (offered : ∀ network ∈ npdu.offered, (network, arrival) ∈ offers) :
    state.router.table.Follows (known.Learns offers)
      (state.deliver now arrival npdu).router.table := by
  unfold deliver
  split
  · exact .refl _ _
  · next message body =>
    apply follows_handleMessage same valid
    intro network member
    apply offered
    simp [Npdu.offered, body, member]

theorem follows_learnSource (now : Nat) (same : known.SameLinks state.router)
    (valid : (known.port? arrival.port).isSome = true)
    (offered : ∀ network ∈ npdu.offered, (network, arrival) ∈ offers) :
    state.router.table.Follows (known.Learns offers)
      (state.learnSource now arrival npdu).router.table := by
  unfold learnSource
  split
  · exact .refl _ _
  · next source named =>
    split
    · exact .refl _ _
    · apply follows_learn same valid
      apply offered
      simp [Npdu.offered, named]

/-- What becomes of a message after it has been delivered, if it has been, does not change the
routes. -/
theorem table_receiveLearned (state : Routing) (now : Nat) (arrival : Arrival) (npdu : Npdu) :
    (state.receiveLearned now arrival npdu).2.router.table = state.router.table ∨
      (state.receiveLearned now arrival npdu).2.router.table =
        (state.deliver now arrival npdu).router.table := by
  unfold receiveLearned
  split
  · unfold receiveLocal
    split
    · exact .inr rfl
    · exact .inl rfl
  · split
    · unfold receiveGlobal
      dsimp only
      split <;> exact .inr rfl
    · unfold receiveRemote
      split
      · unfold receiveAttached
        dsimp only
        split
        · split
          · exact .inr rfl
          · exact .inl rfl
        · split
          · split
            · exact .inr (table_forwardArrival ..)
            · exact .inr rfl
          · exact .inl (table_forwardArrival ..)
      · split
        · exact .inl (table_forwardArrival ..)
        · exact .inl rfl

/-- A message from a link teaches the routes that it offers. -/
theorem follows_receive (same : known.SameLinks state.router)
    (offered : ∀ network ∈ npdu.offered, (network, arrival) ∈ offers) :
    state.router.table.Follows (known.Learns offers)
      (state.receive now arrival npdu).2.router.table := by
  by_cases missing : (state.router.port? arrival.port).isNone
  · rw [receive, if_pos missing]
    exact .refl _ _
  · have present : (state.router.port? arrival.port).isSome = true := by
      simpa [Option.isSome_iff_ne_none] using missing
    have valid : (known.port? arrival.port).isSome = true := by
      rw [← same.port?_eq]
      exact present
    have learned := follows_learnSource now same valid offered
    have links := same.trans (sameLinks_learnSource state now arrival npdu)
    rw [receive_of_valid present]
    rcases table_receiveLearned (state.learnSource now arrival npdu) now arrival npdu with
      kept | delivered
    · rw [kept]
      exact learned
    · rw [delivered]
      exact learned.trans (follows_deliver links valid offered) Router.Learns.stable

end Routing

/-! ## Routes of a run -/

/-- The routes that an event offers: those through the sender of a message that arrives. -/
def RelayEvent.offers : RelayEvent → List (UInt16 × Arrival)
  | receive arrival npdu => npdu.offered.map (·, arrival)
  | _ => []

namespace Router

/-- The route goes to one network, through a station on an attached link. -/
structure Leads (router : Router) (network : UInt16) (route : Route) : Prop where
  attached : (router.port? route.port).isSome = true
  addressed : route.nextHop ≠ []
  notGlobal : network ≠ Address.globalNetwork

/-- There is one route to a network at most, and it goes there through a station on an attached
link. -/
structure WellRouted (router : Router) : Prop where
  distinct : router.table.keys.Nodup
  leads : ∀ network route, router.table.find? network = some route → router.Leads network route

/-- No route goes to the network of the sender or to an attached one. -/
def RoutesApart (router : Router) : Prop :=
  ∀ network route, router.table.find? network = some route →
    network ≠ Address.localNetwork ∧ network ∉ router.networks

theorem directPort?_eq_none_iff {router : Router} {network : UInt16} :
    router.directPort? network = none ↔ network ∉ router.networks := by
  simp [directPort?, networks]

theorem isSome_port?_learnNetwork (router : Router) (port : PortId) (network : UInt16)
    (other : PortId) :
    ((router.learnNetwork port network).port? other).isSome = (router.port? other).isSome := by
  unfold port? learnNetwork
  rw [List.getElem?_modify]
  exact Option.isSome_map

end Router

namespace Relay

variable {relay : Relay}

/-- An event teaches the routes that it offers. -/
theorem follows_step (relay : Relay) (now : Nat) (event : RelayEvent) :
    relay.router.table.Follows (relay.router.Learns event.offers)
      (relay.step now event).relay.router.table := by
  cases event with
  | receive arrival npdu =>
    refine @Routing.follows_receive relay.router _ (.start relay.router relay.timers) arrival npdu
      now (.refl relay.router) ?_
    intro network offered
    exact List.mem_map.mpr ⟨network, offered, rfl⟩
  | send destination message =>
    show RoutingTable.Follows _ _
      ((Routing.start relay.router relay.timers).dispatch now destination message).router.table
    rw [Routing.table_dispatch]
    exact .refl _ relay.router.table
  | expireRoutes => exact .expire _ relay.router.table relay.router.staleAfter now
  | expire =>
    unfold step
    dsimp only
    split
    · exact .refl _ _
    · unfold Router.giveUp
      split <;> exact .refl _ _
    · exact .refl _ _
  | schedule _ _ | cancel _ => exact .refl _ _

theorem isSome_port?_step (relay : Relay) (now : Nat) (event : RelayEvent) (port : PortId) :
    ((relay.step now event).relay.router.port? port).isSome =
      (relay.router.port? port).isSome := by
  rcases step_links relay now event with same | ⟨told, network, -, does⟩
  · rw [same.port?_eq]
  · rw [does]
    exact relay.router.isSome_port?_learnNetwork told network port

theorem wellRouted_step (wellRouted : relay.router.WellRouted) (now : Nat) (event : RelayEvent) :
    (relay.step now event).relay.router.WellRouted := by
  have follows := follows_step relay now event
  refine ⟨follows.distinct wellRouted.distinct, ?_⟩
  intro network route found
  rcases follows.routes network route found with ⟨old, known, port, hop⟩ | learned
  · obtain ⟨attached, addressed, notGlobal⟩ := wellRouted.leads network old known
    refine ⟨?_, hop ▸ addressed, notGlobal⟩
    rw [isSome_port?_step, ← port]
    exact attached
  · refine ⟨?_, learned.addressed, learned.notGlobal⟩
    rw [isSome_port?_step]
    exact learned.attached

theorem wellRouted_run (ports : List PortConfig) (config : RouterConfig)
    (events : List (Nat × RelayEvent)) : ((new ports config).run events).router.WellRouted := by
  have runs {relay : Relay} (wellRouted : relay.router.WellRouted) :
      (relay.run events).router.WellRouted := by
    induction events generalizing relay with
    | nil => exact wellRouted
    | cons entry rest ih => exact ih (wellRouted_step wellRouted entry.1 entry.2)
  refine runs ⟨List.nodup_nil, ?_⟩
  intro network route found
  cases found

/-- An event offers no route to the network of the sender, and it does not tell a number to whose
network there is a route already. -/
structure KeepsApart (router : Router) (event : RelayEvent) : Prop where
  foreign : ∀ offer ∈ event.offers, offer.1 ≠ Address.localNetwork
  unrouted : ∀ port network, event.tells? = some (port, network) → router.Open port →
    router.table.find? network = none

/-- Each event of a run keeps the routes apart. -/
def KeptApart (relay : Relay) : List (Nat × RelayEvent) → Prop
  | [] => True
  | (now, event) :: rest =>
    KeepsApart relay.router event ∧ (relay.step now event).relay.KeptApart rest

theorem routesApart_step (apart : relay.router.RoutesApart) {event : RelayEvent}
    (keeps : KeepsApart relay.router event) (now : Nat) :
    (relay.step now event).relay.router.RoutesApart := by
  intro network route found
  rcases step_links relay now event with same | ⟨port, number, told, does⟩
  · have networks : (relay.step now event).relay.router.networks = relay.router.networks := by
      rw [Router.networks, same.ports, Router.networks]
    rw [networks]
    rcases (follows_step relay now event).routes network route found with
      ⟨old, known, -, -⟩ | ⟨offered, -, -, -, unattached⟩
    · exact apart network old known
    · refine ⟨?_, Router.directPort?_eq_none_iff.mp unattached⟩
      exact keeps.foreign _ offered
  · rw [does] at found ⊢
    have before := apart network route found
    refine ⟨before.1, ?_⟩
    by_cases unknown : relay.router.Open port
    · intro attached
      rw [(Router.networks_learnNetwork unknown number).mem_iff, List.mem_cons] at attached
      rcases attached with rfl | old
      · have unrouted := keeps.unrouted port network told unknown
        rw [show relay.router.table.find? network = some route from found] at unrouted
        cases unrouted
      · exact before.2 old
    · show network ∉ (relay.router.learnNetwork port number).networks
      rw [Router.learnNetwork_of_not_open unknown]
      exact before.2

/-- There is one route to a network at most, it goes through a station on an attached link, and it
does not go to all networks. Routes go to networks that are not attached as long as no event offers
one to the network of the sender, and none tells a number to whose network there is a route. -/
theorem routes_run (ports : List PortConfig) (config : RouterConfig)
    (events : List (Nat × RelayEvent)) :
    ((new ports config).run events).router.WellRouted ∧
      ((new ports config).KeptApart events →
        ((new ports config).run events).router.RoutesApart) := by
  refine ⟨wellRouted_run ports config events, ?_⟩
  have runs {relay : Relay} (apart : relay.router.RoutesApart) (kept : relay.KeptApart events) :
      (relay.run events).router.RoutesApart := by
    induction events generalizing relay with
    | nil => exact apart
    | cons entry rest ih => exact ih (routesApart_step apart kept.1 entry.1) kept.2
  refine runs ?_
  intro network route found
  cases found

/-- A router announces a network. -/
def announced (network : UInt16) : Nat × RelayEvent :=
  (0, .receive ⟨0, [11]⟩ (.ofMessage (.iAmRouterToNetwork [network])))

/-- A route to network 5 is learned before the number of the open network is told. -/
theorem routes_run_otherNumber :
    ((new openLink.ports openLink.router).run (announced 5 :: numberTold 6)).router.table.find? 5 =
        some ⟨0, [11], .reachable, 0⟩ ∧
      ((new openLink.ports openLink.router).run (announced 5 :: numberTold 6)).router.networks =
        [1, 6] ∧
      ((new openLink.ports openLink.router).run (announced 5 :: numberTold 6)).router.RoutesApart := by
  have kept : (new openLink.ports openLink.router).KeptApart (announced 5 :: numberTold 6) := by
    refine ⟨⟨?_, ?_⟩, ⟨?_, ?_⟩, trivial⟩
    · decide
    · rintro port network ⟨⟩
    · decide
    · rintro port network ⟨⟩ -
      decide
  exact ⟨by decide, by decide, (routes_run openLink.ports openLink.router _).2 kept⟩

/-- A route to the network of the sender is learned like any other, and a route to a network stays
when the network turns out to be attached. -/
theorem exists_useless_route :
    openLink.validate = .ok () ∧
      ((new openLink.ports openLink.router).run [announced 0]).router.table.find?
        Address.localNetwork = some ⟨0, [11], .reachable, 0⟩ ∧
      ((new openLink.ports openLink.router).run (announced 5 :: numberTold 5)).router.table.find? 5 =
        some ⟨0, [11], .reachable, 0⟩ ∧
      5 ∈ ((new openLink.ports openLink.router).run (announced 5 :: numberTold 5)).router.networks :=
  ⟨rfl, by decide, by decide, by decide⟩

end Relay

end BACnet
