import BACnet.Proofs.Routing.Passage

/-!
# The way back

A request that passes routers leaves a route to its source behind: the first router names the source,
and each of the others learns that the source lies behind the router before. A reply to the source
takes the same way back (`Returns`), as long as nothing else changes these routes.
-/

namespace BACnet

/-! ## Learning -/

namespace Router

variable {network : UInt16}

/-- Messages leave for the next router on the route to their network. -/
theorem carrier?_of_route (router : Router) (unattached : router.directPort? network = none) {route : Route}
    (found : router.table.find? network = some route) (free : route.status ≠ .busy) :
    router.carrier? network =
      some fun npdu => router.transmission route.port (.unicast route.nextHop) npdu := by
  rw [carrier?, unattached, found]
  exact if_neg free

/-- Messages to an attached network leave for their destination. -/
theorem carrier?_of_direct (router : Router) {port : PortId}
    (attached : router.directPort? network = some port) :
    router.carrier? network = some fun npdu => router.transmission port
      (match npdu.destination with
        | none => .broadcast
        | some address => .ofMac address.mac)
      { npdu with destination := none } := by
  unfold carrier?
  split
  · next port found =>
    cases attached.symm.trans found
    rfl
  · next missing =>
    rw [attached] at missing
    cases missing

theorem SameLinks.isOwnMac_eq {before after : Router} (same : before.SameLinks after)
    (mac : Octets) : after.isOwnMac mac = before.isOwnMac mac := by
  rw [isOwnMac, isOwnMac, port?, port?, same.ports]

/-- Messages that have waited for the network of a source leave for the router from which a message
with this source has come. -/
def Released (router : Router) (arrival : Arrival) (npdu : Npdu) (outputs : List RouterOutput) :
    Prop :=
  ∀ output ∈ outputs, ∃ source message, npdu.source = some source ∧
    message ∈ router.waits source.network ∧
      output = router.transmission arrival.port (.unicast arrival.mac) message.npdu

end Router

/-- A route that has just been heard of. -/
def Arrival.route (arrival : Arrival) (now : Nat) : Route :=
  ⟨arrival.port, arrival.mac, .reachable, now⟩

namespace Routing

variable {state : Routing} {now : Nat} {arrival : Arrival} {npdu : Npdu} {source : Address}

/-- A router learns where the source of a message is, and sends what has waited for its network. -/
theorem learnSource_eq (named : npdu.source = some source) (addressed : arrival.mac ≠ [])
    (single : source.network ≠ Address.globalNetwork)
    (unattached : state.router.directPort? source.network = none)
    (unknown : state.router.hasFreshRoute source.network = false) (now : Nat) :
    state.learnSource now arrival npdu = state.perform now
      (.releases (state.router.table.insert source.network (arrival.route now)) source.network) := by
  rw [learnSource, named]
  dsimp only
  rw [unknown, if_neg Bool.false_ne_true, learn_eq, if_neg]
  · rfl
  · simp [addressed, single, unattached]

/-- Or nothing comes of the source. -/
theorem learnSource_cases (state : Routing) (now : Nat) (arrival : Arrival) (npdu : Npdu) :
    state.learnSource now arrival npdu = state ∨
      ∃ source, npdu.source = some source ∧
        state.router.directPort? source.network = none ∧
        state.router.hasFreshRoute source.network = false ∧
        state.learnSource now arrival npdu = state.perform now
          (.releases (state.router.table.insert source.network (arrival.route now))
            source.network) := by
  cases named : npdu.source with
  | none => exact .inl (by rw [learnSource, named])
  | some source =>
    cases known : state.router.hasFreshRoute source.network with
    | true =>
      refine .inl ?_
      rw [learnSource, named]
      exact if_pos known
    | false =>
      by_cases skips : arrival.mac.isEmpty ∨ source.network = Address.globalNetwork ∨
        (state.router.directPort? source.network).isSome
      · refine .inl ?_
        rw [learnSource, named]
        dsimp only
        rw [known, if_neg Bool.false_ne_true, learn_eq, if_pos skips]
      · simp only [not_or, List.isEmpty_iff, Option.not_isSome_iff_eq_none] at skips
        obtain ⟨addressed, single, unattached⟩ := skips
        exact .inr ⟨source, rfl, unattached, known,
          learnSource_eq named addressed single unattached known now⟩

/-- A route that can be relied on is kept. -/
theorem find?_learnSource_of_fresh {network : UInt16}
    (fresh : state.router.hasFreshRoute network = true) (now : Nat) (arrival : Arrival)
    (npdu : Npdu) : (state.learnSource now arrival npdu).router.table.find? network =
      state.router.table.find? network := by
  rcases learnSource_cases state now arrival npdu with same | ⟨source, -, -, unknown, learns⟩
  · rw [same]
  · have other : source.network ≠ network := by
      rintro rfl
      rw [fresh] at unknown
      cases unknown
    show (state.learnSource now arrival npdu).router.bare.table.find? network = _
    rw [learns, bare_perform]
    exact (Table.find?_insert ..).trans (if_neg other)

/-- The messages that have waited for the network of the source leave when a route is learned. -/
theorem exists_released (state : Routing) (now : Nat) (arrival : Arrival) (npdu : Npdu) :
    ∃ released, (state.learnSource now arrival npdu).outputs = state.outputs ++ released ∧
      state.router.Released arrival npdu released := by
  rcases learnSource_cases state now arrival npdu with
    same | ⟨source, named, unattached, -, learns⟩
  · rw [same]
    exact ⟨[], (List.append_nil _).symm, fun _ member => absurd member List.not_mem_nil⟩
  · rw [learns, perform]
    let learned := state.mapRouter fun router => { router with
      table := router.table.insert source.network (arrival.route now) }
    have route : learned.router.table.find? source.network = some (arrival.route now) :=
      (Table.find?_insert ..).trans (if_pos rfl)
    have fresh : learned.router.Fresh source.network := by
      intro found present
      cases route.symm.trans present
      rfl
    have reached := learned.router.carrier?_of_route unattached route nofun
    cases found : state.router.pending.find? source.network with
    | none =>
      have idle := @flush_of_none learned source.network found now
      exact ⟨[], (congrArg (·.outputs) idle).trans (List.append_nil _).symm,
        fun _ member => absurd member List.not_mem_nil⟩
    | some queue =>
      have flushed := flush_of_carrier? fresh found reached now
      refine ⟨_, congrArg (·.outputs) flushed, ?_⟩
      intro output member
      obtain ⟨message, waits, rfl⟩ := List.mem_map.mp member
      rw [← Router.waits_of_find? found] at waits
      exact ⟨source, message, named, waits, rfl⟩

/-! ## Routes when a message arrives -/

theorem router_deliver_apdu {data : Octets} (body : npdu.body = .apdu data) (state : Routing)
    (now : Nat) (arrival : Arrival) : (state.deliver now arrival npdu).router = state.router := by
  rw [deliver, body]
  rfl

theorem table_receiveRemote_apdu {data : Octets} (body : npdu.body = .apdu data) (state : Routing)
    (now : Nat) (arrival : Arrival) (destination : Address) :
    (state.receiveRemote now arrival npdu destination).2.router.table = state.router.table := by
  have delivered := router_deliver_apdu body state now arrival
  unfold receiveRemote receiveAttached
  dsimp only
  split
  · split
    · split
      · rw [delivered]
      · rfl
    · split
      · split
        · rw [table_forwardArrival, delivered]
        · rw [delivered]
      · exact table_forwardArrival ..
  · split
    · exact table_forwardArrival ..
    · rfl

/-- An application message changes no routes but the one to its source. -/
theorem table_receive_apdu {data : Octets} (body : npdu.body = .apdu data)
    (valid : arrival.port ∈ state.router.portIds) (now : Nat) :
    (state.receive now arrival npdu).2.router.table =
      (state.learnSource now arrival npdu).router.table := by
  rw [receive_of_valid (Router.mem_portIds.mp valid), receiveLearned]
  split
  · unfold receiveLocal
    split
    · rw [router_deliver_apdu body]
    · rfl
  · split
    · rw [receiveGlobal_apdu _ now arrival body]
      rfl
    · exact table_receiveRemote_apdu body _ now arrival _

/-! ## Messages to one network -/

variable {destination : Address}

theorem receive_remote (valid : arrival.port ∈ state.router.portIds)
    (target : npdu.destination = some destination) (remote : destination.isGlobal = false)
    (now : Nat) : state.receive now arrival npdu =
      (state.learnSource now arrival npdu).receiveRemote now arrival npdu destination := by
  rw [receive_of_valid (Router.mem_portIds.mp valid), receiveLearned, target]
  dsimp only
  rw [remote, if_neg Bool.false_ne_true]

/-- A router sends a message on that is for a network to which it is not attached. -/
theorem receiveRemote_of_routes (unattached : state.router.directPort? destination.network = none)
    (routes : state.router.isRouter = true) (now : Nat) :
    state.receiveRemote now arrival npdu destination =
      state.forwardArrival now arrival npdu destination.network := by
  rw [receiveRemote, unattached]
  exact if_pos routes

/-- It sends a message on that is for another station of another network to which it is attached. -/
theorem receiveRemote_of_attached {port : PortId}
    (attached : state.router.directPort? destination.network = some port)
    (elsewhere : port ≠ arrival.port)
    (other : ¬(port = primaryPort ∧ state.router.isOwnMac destination.mac = true)) (now : Nat) :
    state.receiveRemote now arrival npdu destination =
      state.forwardArrival now arrival npdu destination.network := by
  rw [receiveRemote, attached]
  dsimp only
  rw [receiveAttached, if_neg elsewhere]
  exact if_neg other

/-- A message that may pass and whose source has a name leaves towards a network that is reached,
after the messages that have waited for the network of its source. -/
theorem exists_forwarded_of_named {network : UInt16} (addressed : arrival.mac ≠ [])
    (hops : npdu.hopCount ≠ 0)
    (named : npdu.source.isSome = true ∨ (state.router.network? arrival.port).isSome = true)
    {carry : Npdu → RouterOutput}
    (reached : (state.learnSource now arrival npdu).router.carrier? network = some carry)
    (certain : (state.learnSource now arrival npdu).router.doubts network = false) :
    ((state.learnSource now arrival npdu).forwardArrival now arrival npdu network).1 = .forward ∧
    ∃ released passed,
      ((state.learnSource now arrival npdu).forwardArrival now arrival npdu network).2.outputs =
        state.outputs ++ (released ++ [carry passed]) ∧
      state.router.Released arrival npdu released ∧ state.router.Passes arrival npdu passed := by
  obtain ⟨released, outputs, waited⟩ := exists_released state now arrival npdu
  have links := sameLinks_learnSource state now arrival npdu
  rw [← links.network?_eq] at named
  obtain ⟨passed, result⟩ := Router.exists_pass_eq_of_named addressed hops named network
  have before : (state.router.pass arrival npdu network).1 = some passed := by
    rw [← links.fst_pass_eq, result]
  have passes := Router.passes_of_pass before
  have sent := @forward_of_carrier? _ now _ _ reached ⟨passed, some arrival⟩
  rw [forwardArrival, result]
  dsimp only
  rw [emit, List.append_nil, sent, certain, emit, outputs, List.append_assoc]
  exact ⟨rfl, released, passed, rfl, waited, passes⟩

/-- If all links have numbers then every source has a name. -/
theorem exists_forwarded {network : UInt16} (numbered : state.router.Numbered)
    (valid : arrival.port ∈ state.router.portIds) (addressed : arrival.mac ≠ [])
    (hops : npdu.hopCount ≠ 0) {carry : Npdu → RouterOutput}
    (reached : (state.learnSource now arrival npdu).router.carrier? network = some carry)
    (certain : (state.learnSource now arrival npdu).router.doubts network = false) :
    ∃ released passed,
      ((state.learnSource now arrival npdu).forwardArrival now arrival npdu network).2.outputs =
        state.outputs ++ (released ++ [carry passed]) ∧
      state.router.Released arrival npdu released ∧ state.router.Passes arrival npdu passed := by
  obtain ⟨number, known⟩ := numbered.exists_network? valid
  exact (exists_forwarded_of_named addressed hops (.inr (Option.isSome_of_eq_some known)) reached
    certain).2

end Routing

namespace Relay

variable {relay : Relay} {arrival : Arrival} {npdu : Npdu} {destination : Address}

/-- A message to a network with a route that can be relied on leaves for the next router on this
route. -/
theorem outputs_of_route (numbered : relay.router.Numbered)
    (valid : arrival.port ∈ relay.router.portIds) (addressed : arrival.mac ≠ [])
    (target : npdu.destination = some destination) (remote : destination.isGlobal = false)
    (hops : npdu.hopCount ≠ 0)
    (unattached : relay.router.directPort? destination.network = none)
    (routes : relay.router.isRouter = true) {route : Route}
    (found : relay.router.table.find? destination.network = some route)
    (reliable : route.status = .reachable) (now : Nat) :
    ∃ released passed, (relay.step now (.receive arrival npdu)).outputs =
        released ++ [.transmit ⟨route.port, .unicast route.nextHop, passed⟩] ∧
      relay.router.Released arrival npdu released ∧ relay.router.Passes arrival npdu passed := by
  let state := Routing.start relay.router relay.timers
  have links : relay.router.SameLinks (state.learnSource now arrival npdu).router :=
    Routing.sameLinks_learnSource state now arrival npdu
  have kept : (state.learnSource now arrival npdu).router.table.find? destination.network =
      some route := by
    rw [Routing.find?_learnSource_of_fresh _ now arrival npdu]
    · exact found
    · show relay.router.hasFreshRoute destination.network = true
      simp [Router.hasFreshRoute, found, reliable]
  have apart : (state.learnSource now arrival npdu).router.directPort? destination.network =
      none := by rw [links.directPort?_eq, unattached]
  have reached := Router.carrier?_of_route _ apart kept (by simp [reliable])
  have certain : (state.learnSource now arrival npdu).router.doubts destination.network = false := by
    simp [Router.doubts, kept, reliable]
  obtain ⟨released, passed, outputs, waited, passes⟩ := @Routing.exists_forwarded state now arrival
    npdu _ numbered valid addressed hops _ reached certain
  have received := @Routing.receive_remote state arrival npdu _ valid target remote now
  rw [Routing.receiveRemote_of_routes apart (links.isRouter_eq.trans routes)] at received
  refine ⟨released, passed, ?_, waited, passes⟩
  rw [← received, Router.transmission_of_source _ _ passes.named] at outputs
  exact outputs

/-- A message to a station of an attached network leaves for this station. -/
theorem exists_step_of_attached (valid : arrival.port ∈ relay.router.portIds)
    (addressed : arrival.mac ≠ []) (target : npdu.destination = some destination)
    (remote : destination.isGlobal = false) (hops : npdu.hopCount ≠ 0)
    (named : npdu.source.isSome = true ∨ (relay.router.network? arrival.port).isSome = true)
    {port : PortId} (attached : relay.router.directPort? destination.network = some port)
    (elsewhere : port ≠ arrival.port)
    (other : ¬(port = primaryPort ∧ relay.router.isOwnMac destination.mac = true))
    (station : destination.mac ≠ []) (now : Nat) :
    (relay.step now (.receive arrival npdu)).decision = some .forward ∧
    ∃ released passed, (relay.step now (.receive arrival npdu)).outputs =
        released ++ [.transmit ⟨port, .unicast destination.mac, { passed with
          destination := none }⟩] ∧
      relay.router.Released arrival npdu released ∧ relay.router.Passes arrival npdu passed := by
  let state := Routing.start relay.router relay.timers
  have links : relay.router.SameLinks (state.learnSource now arrival npdu).router :=
    Routing.sameLinks_learnSource state now arrival npdu
  have near : (state.learnSource now arrival npdu).router.directPort? destination.network =
      some port := by rw [links.directPort?_eq, attached]
  have foreign : ¬(port = primaryPort ∧
      (state.learnSource now arrival npdu).router.isOwnMac destination.mac = true) := by
    rw [links.isOwnMac_eq]
    exact other
  have reached := Router.carrier?_of_direct _ near
  have certain : (state.learnSource now arrival npdu).router.doubts destination.network = false := by
    simp [Router.doubts, near]
  obtain ⟨forwards, released, passed, outputs, waited, passes⟩ :=
    @Routing.exists_forwarded_of_named state now arrival npdu _ addressed hops named _ reached certain
  have received := @Routing.receive_remote state arrival npdu _ valid target remote now
  rw [Routing.receiveRemote_of_attached near elsewhere foreign] at received
  have addressee : passed.destination = some destination := passes.destination.trans target
  have single : LinkDestination.ofMac destination.mac = .unicast destination.mac :=
    if_neg (by simpa using station)
  simp only [← received, addressee, single] at outputs
  rw [@Router.transmission_of_source _ { passed with destination := none } port _ passes.named]
    at outputs
  rw [← received] at forwards
  exact ⟨congrArg some forwards, released, passed, outputs, waited, passes⟩

theorem outputs_of_attached (numbered : relay.router.Numbered)
    (valid : arrival.port ∈ relay.router.portIds) (addressed : arrival.mac ≠ [])
    (target : npdu.destination = some destination) (remote : destination.isGlobal = false)
    (hops : npdu.hopCount ≠ 0) {port : PortId}
    (attached : relay.router.directPort? destination.network = some port)
    (elsewhere : port ≠ arrival.port)
    (other : ¬(port = primaryPort ∧ relay.router.isOwnMac destination.mac = true))
    (station : destination.mac ≠ []) (now : Nat) :
    ∃ released passed, (relay.step now (.receive arrival npdu)).outputs =
        released ++ [.transmit ⟨port, .unicast destination.mac, { passed with
          destination := none }⟩] ∧
      relay.router.Released arrival npdu released ∧ relay.router.Passes arrival npdu passed := by
  obtain ⟨number, known⟩ := numbered.exists_network? valid
  exact (exists_step_of_attached valid addressed target remote hops
    (.inr (Option.isSome_of_eq_some known)) attached elsewhere other station now).2

end Relay

/-! ## A chain of routers -/

/-- A router puts a message that it has received on a link: at once, or when it has waited for a
route. -/
def Relay.PassesOn (relay : Relay) (now : Nat) (arrival : Arrival) (npdu : Npdu)
    (later : List (Nat × RelayEvent)) (sent : Transmission) : Prop :=
  ∃ network message, relay.router.joins? arrival npdu = some (network, message) ∧
    ∃ before entry after, (now, .receive arrival npdu) :: later = before ++ entry :: after ∧
      (before = [] ∨ message ∈ (relay.run before).router.waits network) ∧
      .transmit sent ∈ ((relay.run before).step entry.1 entry.2).outputs ∧
      ∃ table carry,
        Router.carrier? { (relay.run before).router with table } network = some carry ∧
          carry message.npdu = .transmit sent

/-- A router on the way of a request. -/
structure Waypoint where
  /-- The router when the request arrives. -/
  relay : Relay
  time : Nat
  arrival : Arrival
  request : Npdu
  /-- What happens from then on until the reply arrives. -/
  later : List (Nat × RelayEvent)
  /-- The request as it leaves the router. -/
  sent : Transmission
  /-- When the reply arrives. -/
  replyTime : Nat
  /-- From where it arrives on the link on which the request has left. -/
  replyMac : Octets

namespace Waypoint

/-- The router when it has heard the request. -/
def learned (waypoint : Waypoint) : Relay :=
  (waypoint.relay.step waypoint.time (.receive waypoint.arrival waypoint.request)).relay

/-- The router when the reply arrives. -/
def after (waypoint : Waypoint) : Relay := waypoint.learned.run waypoint.later

/-- The link on which the request has left, and the next router there. -/
def returning (waypoint : Waypoint) : Arrival := ⟨waypoint.sent.port, waypoint.replyMac⟩

/-- An application message passes the router, all of whose links have numbers. -/
structure Passed (waypoint : Waypoint) : Prop where
  numbered : waypoint.relay.router.Numbered
  valid : waypoint.arrival.port ∈ waypoint.relay.router.portIds
  addressed : waypoint.arrival.mac ≠ []
  application : waypoint.request.body.isNetwork = false
  passes : waypoint.relay.PassesOn waypoint.time waypoint.arrival waypoint.request waypoint.later
    waypoint.sent

end Waypoint

/-- A request comes from a station of a network to which the first router is attached, and passes
one router after the other. The last one comes first in the list. None but the first is attached to
the network or knows a route to it that can be relied on, and what they learn about it when they hear
the request is not changed until the reply arrives. -/
inductive Trail (network : UInt16) (station : Octets) : Waypoint → List Waypoint → Prop where
  | first {waypoint : Waypoint} (passed : waypoint.Passed)
    (number : waypoint.relay.router.network? waypoint.arrival.port = some network)
    (sourceless : waypoint.request.source = none) (sender : waypoint.arrival.mac = station)
    (other : ∀ port link, waypoint.relay.router.port? port = some link →
      link.network = some network → link.mac ≠ some station)
    (primary : ((waypoint.relay.router.port? primaryPort).bind (·.mac)).isSome = true) :
    Trail network station waypoint []
  | next {waypoint previous : Waypoint} {rest : List Waypoint}
    (trail : Trail network station previous rest) (passed : waypoint.Passed)
    (request : waypoint.request = previous.sent.npdu)
    (joined : waypoint.relay.router.network? waypoint.arrival.port =
      previous.relay.router.network? previous.sent.port)
    (addressed : previous.replyMac ≠ []) (routes : waypoint.relay.router.isRouter = true)
    (unattached : waypoint.relay.router.directPort? network = none)
    (unknown : waypoint.relay.router.hasFreshRoute network = false)
    (kept : waypoint.after.router.table.find? network =
      waypoint.learned.router.table.find? network) :
    Trail network station waypoint (previous :: rest)

/-- What a router puts out when a reply arrives is the reply, after messages that have waited for
the network of its source. There is no question for a router to the network of the destination. -/
structure Waypoint.Answers (waypoint : Waypoint) (network : UInt16) (arrival : Arrival)
    (reply : Npdu) (sent : Transmission) : Prop where
  outputs : ∃ released,
    (waypoint.after.step waypoint.replyTime (.receive arrival reply)).outputs =
      released ++ [.transmit sent] ∧ waypoint.after.router.Released arrival reply released
  copies : waypoint.after.router.Copies arrival reply sent.npdu
  unasked : ∀ query ∈ waypoint.after.router.queries network none,
    query ∉ (waypoint.after.step waypoint.replyTime (.receive arrival reply)).outputs

/-- A reply goes back from router to router on the way of the request, and from the first router to
the station. -/
inductive Returns (network : UInt16) (station : Octets) :
    Waypoint → List Waypoint → Arrival → Npdu → Prop where
  | home {waypoint : Waypoint} {arrival : Arrival} {reply npdu : Npdu} {port : PortId}
    (answers : waypoint.Answers network arrival reply ⟨port, .unicast station, npdu⟩)
    (number : waypoint.after.router.network? port = some network)
    (near : npdu.destination = none) : Returns network station waypoint [] arrival reply
  | back {waypoint previous : Waypoint} {rest : List Waypoint} {arrival : Arrival}
    {reply npdu : Npdu}
    (answers : waypoint.Answers network arrival reply
      ⟨waypoint.arrival.port, .unicast waypoint.arrival.mac, npdu⟩)
    (kept : npdu.destination = reply.destination)
    (goesOn : Returns network station previous rest previous.returning npdu) :
    Returns network station waypoint (previous :: rest) arrival reply

/-! ## The request -/

/-- A message that is sent on names the source that it had, or the station from which it came. -/
theorem Relay.PassesOn.source {relay : Relay} {now : Nat} {arrival : Arrival} {npdu : Npdu}
    {later : List (Nat × RelayEvent)} {sent : Transmission}
    (passes : relay.PassesOn now arrival npdu later sent) :
    ∃ source, sent.npdu.source = some source ∧ (npdu.source = some source ∨
      npdu.source = none ∧ relay.router.network? arrival.port = some source.network ∧
        source.mac = arrival.mac) := by
  obtain ⟨network, message, joins, _, _, _, -, -, -, table, carry, reached, transmits⟩ := passes
  obtain ⟨destination, -, joined⟩ := Option.bind_eq_some_iff.mp joins
  obtain ⟨passed, passes, entry⟩ := Option.map_eq_some_iff.mp joined
  cases entry
  have named := (Router.passes_of_pass passes).named
  obtain ⟨source, origin⟩ := (Router.passes_of_pass passes).source
  obtain ⟨port, link, -, carries⟩ := Router.carrier?_eq reached passed
  obtain ⟨stamped, stamps, kept⟩ := Router.exists_stamp_eq _ port { passed with
    destination := _ }
  rw [carries, Router.transmission, stamps] at transmits
  cases transmits
  exact ⟨source, (kept named).trans origin.1, origin.2⟩

/-- All routers name the station as the source of the request. -/
theorem Trail.source {network : UInt16} {station : Octets} {waypoint : Waypoint}
    {rest : List Waypoint} (trail : Trail network station waypoint rest) :
    waypoint.sent.npdu.source = some ⟨network, station⟩ := by
  induction trail with
  | first passed number sourceless sender =>
    obtain ⟨source, named, kept | ⟨-, own, mac⟩⟩ := passed.passes.source
    · rw [sourceless] at kept
      cases kept
    · cases number.symm.trans own
      rw [named, ← sender, ← mac]
  | next _ passed request _ _ _ _ _ _ ih =>
    obtain ⟨source, named, kept | ⟨sourceless, -⟩⟩ := passed.passes.source
    · rw [named, ← kept, request, ih]
    · rw [request, ih] at sourceless
      cases sourceless

namespace Waypoint

variable {waypoint : Waypoint} {network : UInt16} {station : Octets}

theorem Passed.links (passed : waypoint.Passed) :
    waypoint.relay.router.SameLinks waypoint.after.router := by
  have first := Relay.sameLinks_step passed.numbered waypoint.time
    (.receive waypoint.arrival waypoint.request)
  exact first.trans (Relay.sameLinks_run (passed.numbered.of_sameLinks first) waypoint.later)

/-- A router that hears the request learns that its source lies where it has come from. -/
theorem Passed.route (passed : waypoint.Passed) (single : network ≠ Address.globalNetwork)
    (named : waypoint.request.source = some ⟨network, station⟩)
    (unattached : waypoint.relay.router.directPort? network = none)
    (unknown : waypoint.relay.router.hasFreshRoute network = false) :
    waypoint.learned.router.table.find? network = some (waypoint.arrival.route waypoint.time) := by
  have application := passed.application
  cases body : waypoint.request.body with
  | network message =>
    rw [body] at application
    cases application
  | apdu data =>
    have table := @Routing.table_receive_apdu (.start waypoint.relay.router waypoint.relay.timers)
      _ _ data body passed.valid waypoint.time
    have learns := @Routing.learnSource_eq (.start waypoint.relay.router waypoint.relay.timers)
      _ _ _ named passed.addressed single unattached unknown waypoint.time
    rw [learns] at table
    have known := congrArg (·.table) (Routing.bare_perform
      (.start waypoint.relay.router waypoint.relay.timers) waypoint.time
      (.releases (waypoint.relay.router.table.insert network
        (waypoint.arrival.route waypoint.time)) network))
    show Table.find? (Routing.receive _ _ _ _).2.router.table network = _
    rw [table]
    exact (congrArg (·.find? network) known).trans ((Table.find?_insert ..).trans (if_pos rfl))

/-! ## The reply -/

variable {arrival : Arrival} {reply : Npdu} {sent : Transmission}

/-- Questions are broadcast, and neither the reply is nor what has waited. -/
theorem answers_of_unicast {released : List RouterOutput} {mac : Octets}
    (outputs : (waypoint.after.step waypoint.replyTime (.receive arrival reply)).outputs =
      released ++ [.transmit sent])
    (waited : waypoint.after.router.Released arrival reply released)
    (copies : waypoint.after.router.Copies arrival reply sent.npdu)
    (single : sent.destination = .unicast mac) :
    waypoint.Answers network arrival reply sent := by
  refine ⟨⟨released, outputs, waited⟩, copies, ?_⟩
  intro query asked member
  obtain ⟨port, -, rfl⟩ := List.mem_map.mp asked
  rw [outputs] at member
  rcases List.mem_append.mp member with old | last
  · obtain ⟨source, message, -, -, same⟩ := waited _ old
    have links := congrArg (·.destination) (RouterOutput.transmit.inj same)
    cases links
  · have same := RouterOutput.transmit.inj (List.mem_singleton.mp last)
    rw [← same] at single
    cases single

end Waypoint

/-- A network behind one of the links is attached. -/
theorem Router.exists_directPort? {router : Router} {port : PortId} {network : UInt16}
    (number : router.network? port = some network) :
    ∃ first, router.directPort? network = some first ∧
      router.network? first = some network := by
  obtain ⟨link, found, numbered⟩ := Option.bind_eq_some_iff.mp number
  obtain ⟨inside, at_⟩ := List.getElem?_eq_some_iff.mp found
  cases least : router.ports.findIdx? (·.network = some network) with
  | none =>
    have absent := List.findIdx?_eq_none_iff.mp least link (List.mem_of_getElem? found)
    simp [numbered] at absent
  | some index =>
    obtain ⟨indexInside, numbers, before⟩ := List.findIdx?_eq_some_iff_getElem.mp least
    have small : index < UInt16.size := by
      have early : index ≤ port.toNat := by
        by_contra late
        exact before port.toNat (Nat.lt_of_not_le late) (by simp [at_, numbered])
      exact Nat.lt_of_le_of_lt early port.toNat_lt
    refine ⟨UInt16.ofNat index, by rw [directPort?, least]; rfl, ?_⟩
    rw [network?, port?, UInt16.toNat_ofNat_of_lt' small, List.getElem?_eq_getElem indexInside]
    exact of_decide_eq_true numbers

/-- A station with an address of its own is not the router on whose network it is. -/
theorem Router.not_own_of_other {router : Router} {port : PortId} {network : UInt16}
    {station : Octets} (home : router.network? port = some network) (addressed : station ≠ [])
    (other : ∀ port link, router.port? port = some link → link.network = some network →
      link.mac ≠ some station)
    (primary : ((router.port? primaryPort).bind (·.mac)).isSome = true) :
    ¬(port = primaryPort ∧ router.isOwnMac station = true) := by
  rintro ⟨rfl, own⟩
  obtain ⟨link, found, numbered⟩ := Option.bind_eq_some_iff.mp home
  have differs := other _ link found numbered
  rw [found, Option.bind_some] at primary
  obtain ⟨mac, known⟩ := Option.isSome_iff_exists.mp primary
  simp [Router.isOwnMac, found, known, addressed] at own
  exact differs (by rw [known, own])

/-- A reply to the station goes back the way that the request has come, and from the first router to
the station. -/
theorem returns_of_trail {network : UInt16} {station : Octets} {waypoint : Waypoint}
    {rest : List Waypoint} (trail : Trail network station waypoint rest)
    (single : network ≠ Address.globalNetwork) {arrival : Arrival} {reply : Npdu}
    (valid : arrival.port ∈ waypoint.relay.router.portIds) (addressed : arrival.mac ≠ [])
    (far : waypoint.relay.router.network? arrival.port ≠ some network)
    (target : reply.destination = some ⟨network, station⟩)
    (hops : rest.length + 1 ≤ reply.hopCount.toNat) :
    Returns network station waypoint rest arrival reply := by
  have remote : (⟨network, station⟩ : Address).isGlobal = false := by
    simpa [Address.isGlobal] using single
  have left {reply : Npdu} {length : Nat} (hops : length + 1 ≤ reply.hopCount.toNat) :
      reply.hopCount ≠ 0 := by
    rintro zero
    simp [zero] at hops
  induction trail generalizing arrival reply with
  | @first waypoint passed number sourceless sender other primary =>
    have links := passed.links
    obtain ⟨port, attached, home⟩ := Router.exists_directPort? number
    have elsewhere : port ≠ arrival.port := by
      rintro rfl
      exact far home
    have foreign : ¬(port = primaryPort ∧ waypoint.after.router.isOwnMac station = true) := by
      rw [links.isOwnMac_eq]
      exact Router.not_own_of_other home (sender ▸ passed.addressed) other primary
    obtain ⟨released, npdu, outputs, waited, passes⟩ := Relay.outputs_of_attached
      (passed.numbered.of_sameLinks links) (links.portIds_eq ▸ valid) addressed target remote (left hops)
      ((links.directPort?_eq network).trans attached) elsewhere foreign
      (sender ▸ passed.addressed) waypoint.replyTime
    refine .home (Waypoint.answers_of_unicast outputs waited ?_ rfl)
      ((links.network?_eq port).trans home) rfl
    refine passes.copies_near ?_
    simp [Router.attaches, target, remote, links.directPort?_eq, attached]
  | @next waypoint previous rest trail passed request joined heard routes unattached unknown kept ih =>
    have links := passed.links
    have apart := (links.directPort?_eq network).trans unattached
    have route : waypoint.after.router.table.find? network =
        some (waypoint.arrival.route waypoint.time) := by
      rw [kept]
      exact passed.route single (request ▸ trail.source) unattached unknown
    obtain ⟨released, npdu, outputs, waited, passes⟩ := Relay.outputs_of_route
      (passed.numbered.of_sameLinks links) (links.portIds_eq ▸ valid) addressed target remote (left hops)
      apart (links.isRouter_eq.trans routes) route rfl waypoint.replyTime
    obtain ⟨number, known⟩ := passed.numbered.exists_network? passed.valid
    have between : previous.relay.router.network? previous.sent.port = some number := by
      rw [← joined, known]
    refine .back (Waypoint.answers_of_unicast outputs waited ?_ rfl) passes.destination
      (ih ?_ heard ?_ (passes.destination.trans target) ?_)
    · refine passes.copies_self ?_
      simp [Router.attaches, target, apart]
    · rw [Router.mem_portIds]
      obtain ⟨link, found, -⟩ := Option.bind_eq_some_iff.mp between
      exact Option.isSome_of_eq_some found
    · show previous.relay.router.network? previous.sent.port ≠ some network
      rintro same
      obtain ⟨first, attached, -⟩ := Router.exists_directPort? (joined.trans same)
      rw [unattached] at attached
      cases attached
    · have fewer := passes.hopCount
      rw [List.length_cons] at hops
      omega

/-- A router between the networks 1 and 2. A request from the station 7 to network 3 waits at it until
the next router announces this network. -/
def nearRouter : Waypoint where
  relay := .new [⟨some 1, some [1]⟩, ⟨some 2, some [2]⟩] ⟨8, 5000, 60000, 255, true⟩
  time := 0
  arrival := ⟨0, [7]⟩
  request := ⟨.normal, true, some ⟨3, [9]⟩, none, 255, .apdu [0, 8]⟩
  later := [(1, .receive ⟨1, [3]⟩ (.ofMessage (.iAmRouterToNetwork [3])))]
  sent := ⟨1, .unicast [3], ⟨.normal, true, some ⟨3, [9]⟩, some ⟨1, [7]⟩, 254, .apdu [0, 8]⟩⟩
  replyTime := 3
  replyMac := [3]

/-- The next router, between the networks 2 and 3. -/
def farRouter : Waypoint where
  relay := .new [⟨some 2, some [3]⟩, ⟨some 3, some [4]⟩] ⟨8, 5000, 60000, 255, true⟩
  time := 2
  arrival := ⟨0, [2]⟩
  request := nearRouter.sent.npdu
  later := []
  sent := ⟨1, .unicast [9], ⟨.normal, true, none, some ⟨1, [7]⟩, 253, .apdu [0, 8]⟩⟩
  replyTime := 3
  replyMac := [9]

theorem passed_nearRouter : nearRouter.Passed where
  numbered := by
    unfold Router.Numbered
    decide
  valid := by decide
  addressed := by decide
  application := rfl
  passes := by
    let waiting := nearRouter.relay.run [(0, .receive nearRouter.arrival nearRouter.request)]
    let known : Router := { waiting.router with table := ⟨[(3, Arrival.route ⟨1, [3]⟩ 1)]⟩ }
    have unattached : known.directPort? 3 = none := by decide
    have found : known.table.find? 3 = some (Arrival.route ⟨1, [3]⟩ 1) := by decide
    exact ⟨3, ⟨nearRouter.sent.npdu, some ⟨0, [7]⟩⟩, by decide,
      [(0, .receive nearRouter.arrival nearRouter.request)],
      (1, .receive ⟨1, [3]⟩ (.ofMessage (.iAmRouterToNetwork [3]))), [], rfl, .inr (by decide),
      by decide, known.table, _, known.carrier?_of_route unattached found (by decide), by decide⟩

theorem passed_farRouter : farRouter.Passed where
  numbered := by
    unfold Router.Numbered
    decide
  valid := by decide
  addressed := by decide
  application := rfl
  passes := by
    have attached : farRouter.relay.router.directPort? 3 = some 1 := by decide
    exact ⟨3, ⟨⟨.normal, true, some ⟨3, [9]⟩, some ⟨1, [7]⟩, 253, .apdu [0, 8]⟩, some ⟨0, [2]⟩⟩,
      by decide, [], (2, .receive farRouter.arrival farRouter.request), [], rfl, .inl rfl,
      by decide, .empty, _, Router.carrier?_of_direct _ attached, by decide⟩

theorem trail_farRouter : Trail 1 [7] farRouter [nearRouter] := by
  have near : Trail 1 [7] nearRouter [] := by
    refine .first passed_nearRouter rfl rfl rfl ?_ rfl
    intro port link found
    have links : ∀ link ∈ nearRouter.relay.router.ports,
        link.network = some 1 → link.mac ≠ some [7] := by decide
    exact links link (List.mem_of_getElem? found)
  exact .next near passed_farRouter rfl rfl (by decide) rfl (by decide) (by decide) rfl

/-- A reply from the station 9 arrives at the station 7. -/
theorem returns_farRouter :
    Trail 1 [7] farRouter [nearRouter] ∧
      Returns 1 [7] farRouter [nearRouter] ⟨1, [9]⟩
        ⟨.normal, false, some ⟨1, [7]⟩, none, 2, .apdu [48, 8]⟩ :=
  ⟨trail_farRouter, returns_of_trail trail_farRouter (by decide) (by decide) (by decide) (by decide) rfl
    (by decide)⟩

end BACnet
