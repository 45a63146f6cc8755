import BACnet.Proofs.Routing.Relay

/-!
# Links

A router keeps its configuration and its links. Only the number of the network behind a link can
become known, by a message that tells it; nothing else comes of such a message. Where all numbers
are known, the links stay as they are.
-/

namespace BACnet

/-- The routers have the same links and the same configuration. -/
structure Router.SameLinks (before after : Router) : Prop where
  ports : after.ports = before.ports
  config : after.config = before.config

namespace Router.SameLinks

variable {before between after : Router}

theorem refl (router : Router) : router.SameLinks router := ⟨rfl, rfl⟩

theorem trans (first : before.SameLinks between) (second : between.SameLinks after) :
    before.SameLinks after :=
  ⟨second.ports.trans first.ports, second.config.trans first.config⟩

theorem symm (same : before.SameLinks after) : after.SameLinks before :=
  ⟨same.ports.symm, same.config.symm⟩

/-- The messages that wait do not matter. -/
theorem of_bare (same : after.bare = before.bare) : before.SameLinks after :=
  ⟨show after.bare.ports = before.bare.ports by rw [same],
    show after.bare.config = before.bare.config by rw [same]⟩

theorem port?_eq (same : before.SameLinks after) (port : PortId) :
    after.port? port = before.port? port := by
  rw [port?, port?, same.ports]

theorem network?_eq (same : before.SameLinks after) (port : PortId) :
    after.network? port = before.network? port := by
  rw [network?, network?, same.port?_eq]

theorem directPort?_eq (same : before.SameLinks after) (network : UInt16) :
    after.directPort? network = before.directPort? network := by
  rw [directPort?, directPort?, same.ports]

theorem isRouter_eq (same : before.SameLinks after) : after.isRouter = before.isRouter := by
  rw [isRouter, isRouter, same.ports]

end Router.SameLinks

/-! ## Messages from links -/

namespace Routing

variable {state : Routing} {now : Nat}

theorem sameLinks_forward (state : Routing) (now : Nat) (network : UInt16) (message : PendingNpdu) :
    state.router.SameLinks (state.forward now network message).2.router :=
  .of_bare (bare_forward state now network message)

theorem sameLinks_forwardArrival (state : Routing) (now : Nat) (arrival : Arrival) (npdu : Npdu)
    (network : UInt16) :
    state.router.SameLinks (state.forwardArrival now arrival npdu network).2.router := by
  unfold forwardArrival
  dsimp only
  split
  · exact .refl _
  · next passed _ =>
    exact sameLinks_forward (state.emit (state.router.pass arrival npdu network).2) now network
      ⟨passed, some arrival⟩

theorem table_forwardArrival (state : Routing) (now : Nat) (arrival : Arrival) (npdu : Npdu)
    (network : UInt16) :
    (state.forwardArrival now arrival npdu network).2.router.table = state.router.table := by
  unfold forwardArrival
  dsimp only
  split
  · rfl
  · next passed _ =>
    show (((state.emit _).forward now network ⟨passed, some arrival⟩).2.router.bare).table = _
    rw [bare_forward]
    rfl

theorem sameLinks_releases (state : Routing) (now : Nat) (table : RoutingTable) (network : UInt16) :
    state.router.SameLinks (state.perform now (.releases table network)).router := by
  have released := bare_perform state now (.releases table network)
  refine ⟨?_, ?_⟩
  · show (state.perform now (.releases table network)).router.bare.ports = _
    rw [released]
    rfl
  · show (state.perform now (.releases table network)).router.bare.config = _
    rw [released]
    rfl

theorem sameLinks_learn (state : Routing) (now : Nat) (arrival : Arrival) (network : UInt16) :
    state.router.SameLinks (state.learn now arrival network).router := by
  rw [learn_eq]
  split
  · exact .refl _
  · exact sameLinks_releases state now _ network

theorem sameLinks_foldl {α : Type} {step : Routing → α → Routing}
    (same : ∀ (state : Routing) item, state.router.SameLinks (step state item).router)
    (items : List α)
    (state : Routing) : state.router.SameLinks (items.foldl step state).router := by
  induction items generalizing state with
  | nil => exact .refl _
  | cons first rest ih => exact (same state first).trans (ih (step state first))

theorem sameLinks_makeAvailable (state : Routing) (now : Nat) (networks : List UInt16) :
    state.router.SameLinks (state.makeAvailable now networks).router := by
  refine sameLinks_foldl ?_ networks state
  intro state network
  exact sameLinks_releases state now (state.router.table.refresh network now) network

theorem sameLinks_takeAnnouncement (state : Routing) (now : Nat) (arrival : Arrival)
    (networks : List UInt16) :
    state.router.SameLinks (state.takeAnnouncement now arrival networks).router := by
  have learned := sameLinks_foldl (fun state network => sameLinks_learn state now arrival network)
    networks state
  unfold takeAnnouncement
  dsimp only
  split
  · exact learned
  · exact learned

theorem sameLinks_applyTable (router : Router) (now : Nat) (arrival : Arrival)
    (lines : List RoutingTablePort) : router.SameLinks (router.applyTable now arrival lines) := by
  obtain ⟨table, applied, -⟩ := router.applyTable_spec now arrival lines
  have result : router.applyTable now arrival lines = { router with table } :=
    applied router.pending
  rw [result]
  exact ⟨rfl, rfl⟩

theorem sameLinks_initializeTable (state : Routing) (now : Nat) (arrival : Arrival) (npdu : Npdu)
    (lines : List RoutingTablePort) :
    state.router.SameLinks (state.initializeTable now arrival npdu lines).router := by
  unfold initializeTable
  split
  · exact .refl _
  · split
    · exact .refl _
    · exact sameLinks_applyTable state.router now arrival lines

/-- Of the messages between routers only one changes the links: the one that tells the number of the
network behind a link. -/
theorem handleMessage_cases (state : Routing) (now : Nat) (arrival : Arrival) (npdu : Npdu)
    (message : NetworkMessage) :
    state.router.SameLinks (state.handleMessage now arrival npdu message).router ∨
      npdu.source = none ∧ npdu.destination = none ∧ ∃ network configured,
        message = .networkNumberIs network configured ∧
        state.handleMessage now arrival npdu message =
          state.mapRouter (·.learnNetwork arrival.port network) := by
  cases message with
  | networkNumberIs network configured =>
    unfold handleMessage
    dsimp only
    by_cases routed : npdu.source.isSome ∨ npdu.destination.isSome
    · rw [if_pos routed]
      exact .inl (.refl _)
    · obtain ⟨sourceless, near⟩ := not_or.mp routed
      exact .inr ⟨Option.not_isSome_iff_eq_none.mp sourceless, Option.not_isSome_iff_eq_none.mp near,
        network, configured, rfl, if_neg routed⟩
  | whoIsRouterToNetwork network =>
    refine .inl ?_
    unfold handleMessage
    dsimp only
    split <;> exact .refl _
  | iAmRouterToNetwork networks => exact .inl (sameLinks_takeAnnouncement state now arrival networks)
  | routerAvailableToNetwork networks => exact .inl (sameLinks_makeAvailable state now _)
  | initializeRoutingTable lines =>
    exact .inl (sameLinks_initializeTable state now arrival npdu lines)
  | initializeRoutingTableAck lines =>
    exact .inl (sameLinks_applyTable state.router now arrival lines)
  | other type data =>
    refine .inl ?_
    unfold handleMessage
    dsimp only
    split <;> exact .refl _
  | rejectMessageToNetwork _ _ | routerBusyToNetwork _ | whatIsNetworkNumber
  | iCouldBeRouterToNetwork _ _ | establishConnectionToNetwork _ _
  | disconnectConnectionToNetwork _ | proprietary _ _ _ => exact .inl ⟨rfl, rfl⟩

/-- A message that is handed to the device changes the links only if it tells the number of the
network from which it comes. -/
theorem deliver_cases (state : Routing) (now : Nat) (arrival : Arrival) (npdu : Npdu) :
    state.router.SameLinks (state.deliver now arrival npdu).router ∨
      ∃ network, npdu.tells? = some network ∧
        state.deliver now arrival npdu = state.mapRouter (·.learnNetwork arrival.port network) := by
  unfold deliver
  split
  · exact .inl (.refl _)
  · next message body =>
    refine (handleMessage_cases state now arrival npdu message).imp_right ?_
    rintro ⟨sourceless, near, network, configured, rfl, learned⟩
    exact ⟨network, by simp [Npdu.tells?, sourceless, near, body], learned⟩

theorem sameLinks_deliver (state : Routing) (now : Nat) (arrival : Arrival) {npdu : Npdu}
    (addressed : npdu.destination ≠ none) :
    state.router.SameLinks (state.deliver now arrival npdu).router := by
  rcases deliver_cases state now arrival npdu with same | ⟨network, told, -⟩
  · exact same
  · exact absurd (Npdu.tells?_eq_some told).2.1 addressed

theorem sameLinks_learnSource (state : Routing) (now : Nat) (arrival : Arrival) (npdu : Npdu) :
    state.router.SameLinks (state.learnSource now arrival npdu).router := by
  unfold learnSource
  split
  · exact .refl _
  · split
    · exact .refl _
    · exact sameLinks_learn state now arrival _

theorem sameLinks_receiveGlobal (state : Routing) (now : Nat) (arrival : Arrival) {npdu : Npdu}
    (addressed : npdu.destination ≠ none) :
    state.router.SameLinks (state.receiveGlobal now arrival npdu).2.router := by
  have delivered := sameLinks_deliver state now arrival addressed
  unfold receiveGlobal
  dsimp only
  split <;> exact delivered

theorem sameLinks_receiveAttached (state : Routing) (now : Nat) (arrival : Arrival) {npdu : Npdu}
    (addressed : npdu.destination ≠ none) (destination : Address) (target : PortId) :
    state.router.SameLinks (state.receiveAttached now arrival npdu destination target).2.router := by
  have delivered := sameLinks_deliver state now arrival addressed
  unfold receiveAttached
  dsimp only
  split
  · split
    · exact delivered
    · exact .refl _
  · split
    · split
      · exact delivered.trans (sameLinks_forwardArrival _ now arrival npdu _)
      · exact delivered
    · exact sameLinks_forwardArrival state now arrival npdu _

theorem sameLinks_receiveRemote (state : Routing) (now : Nat) (arrival : Arrival) {npdu : Npdu}
    (addressed : npdu.destination ≠ none) (destination : Address) :
    state.router.SameLinks (state.receiveRemote now arrival npdu destination).2.router := by
  unfold receiveRemote
  split
  · exact sameLinks_receiveAttached state now arrival addressed destination _
  · split
    · exact sameLinks_forwardArrival state now arrival npdu _
    · exact .refl _

/-- A message from a link leaves the links as they are, or it tells the number of the network from
which it comes and nothing else comes of it. -/
theorem receive_cases (state : Routing) (now : Nat) (arrival : Arrival) (npdu : Npdu) :
    state.router.SameLinks (state.receive now arrival npdu).2.router ∨
      ∃ network, npdu.tells? = some network ∧ state.receive now arrival npdu =
        (.deliver, state.mapRouter (·.learnNetwork arrival.port network)) := by
  by_cases unknown : (state.router.port? arrival.port).isNone = true
  · rw [receive, if_pos unknown]
    exact .inl (.refl _)
  · have learned := sameLinks_learnSource state now arrival npdu
    rw [receive, if_neg unknown]
    cases addressed : npdu.destination with
    | none =>
      dsimp only
      unfold receiveLocal
      split
      · rcases deliver_cases (state.learnSource now arrival npdu) now arrival npdu with
          same | ⟨network, told, does⟩
        · exact .inl (learned.trans same)
        · have idle : state.learnSource now arrival npdu = state := by
            rw [learnSource, (Npdu.tells?_eq_some told).1]
          rw [does, idle]
          exact .inr ⟨network, told, rfl⟩
      · exact .inl learned
    | some destination =>
      have routed : npdu.destination ≠ none := addressed ▸ Option.some_ne_none destination
      refine .inl (learned.trans ?_)
      dsimp only
      split
      · exact sameLinks_receiveGlobal _ now arrival routed
      · exact sameLinks_receiveRemote _ now arrival routed destination

theorem sameLinks_dispatch (state : Routing) (now : Nat) (destination : Address)
    (message : Outgoing) :
    state.router.SameLinks (state.dispatch now destination message).router := by
  unfold dispatch
  dsimp only
  split
  · exact .refl _
  · split
    · exact .refl _
    · exact sameLinks_forward state now _ _

end Routing

/-! ## Numbers that become known -/

namespace Router

/-- A number that is known stays. -/
theorem network?_learnNetwork (router : Router) (port : PortId) (number : UInt16)
    {other : PortId} {network : UInt16} (known : router.network? other = some network) :
    (router.learnNetwork port number).network? other = some network := by
  unfold network? port? learnNetwork at *
  rw [List.getElem?_modify]
  obtain ⟨link, found, numbered⟩ := Option.bind_eq_some_iff.mp known
  rw [found]
  split <;> simp [numbered]

/-- The number of the network behind a link is still open. -/
def Open (router : Router) (port : PortId) : Prop :=
  ∃ link, router.port? port = some link ∧ link.network = none

/-- There is nothing to learn about a network whose number is known. -/
theorem learnNetwork_of_not_open {router : Router} {port : PortId} (known : ¬router.Open port)
    (number : UInt16) : router.learnNetwork port number = router := by
  have unchanged : router.ports.modify port.toNat
      (fun link => { link with network := link.network <|> some number }) = router.ports := by
    refine List.ext_getElem? fun index => ?_
    rw [List.getElem?_modify]
    split
    · next same =>
      subst same
      cases found : router.ports[port.toNat]? with
      | none => rfl
      | some link =>
        obtain ⟨network, mac, configured⟩ := link
        cases network with
        | none => exact absurd ⟨_, found, rfl⟩ known
        | some network => rfl
    · simp
  exact congrArg (fun ports => { router with ports }) unchanged

/-- All links have a number. -/
def Numbered (router : Router) : Prop := ∀ link ∈ router.ports, link.network.isSome = true

theorem Numbered.learnNetwork_eq {router : Router} (numbered : router.Numbered) (port : PortId)
    (number : UInt16) : router.learnNetwork port number = router := by
  apply learnNetwork_of_not_open
  rintro ⟨link, found, unknown⟩
  have known := numbered link (List.mem_of_getElem? found)
  rw [unknown] at known
  cases known

theorem Numbered.of_sameLinks {before after : Router} (numbered : before.Numbered)
    (same : before.SameLinks after) : after.Numbered := by
  intro link member
  exact numbered link (same.ports ▸ member)

end Router

/-- The number that an event tells for the network behind a link. -/
def RelayEvent.tells? : RelayEvent → Option (PortId × UInt16)
  | receive arrival npdu => npdu.tells?.map (arrival.port, ·)
  | _ => none

namespace Relay

variable {relay : Relay}

/-- An event leaves the links as they are, or a number is told and nothing else comes of it. -/
theorem step_links (relay : Relay) (now : Nat) (event : RelayEvent) :
    relay.router.SameLinks (relay.step now event).relay.router ∨
      ∃ port network, event.tells? = some (port, network) ∧ relay.step now event =
        ⟨some .deliver, [], { relay with router := relay.router.learnNetwork port network }⟩ := by
  cases event with
  | receive arrival npdu =>
    refine (Routing.receive_cases (.start relay.router relay.timers) now arrival npdu).imp_right ?_
    rintro ⟨network, told, does⟩
    refine ⟨arrival.port, network, by simp [RelayEvent.tells?, told], ?_⟩
    rw [step, does]
    rfl
  | send destination message =>
    exact .inl (Routing.sameLinks_dispatch (.start relay.router relay.timers) now destination
      message)
  | expire =>
    refine .inl ?_
    unfold step
    dsimp only
    split
    · exact .refl _
    · unfold Router.giveUp
      split <;> exact ⟨rfl, rfl⟩
    · exact .refl _
  | expireRoutes | schedule _ _ | cancel _ => exact .inl ⟨rfl, rfl⟩

theorem config_step (relay : Relay) (now : Nat) (event : RelayEvent) :
    (relay.step now event).relay.router.config = relay.router.config := by
  rcases step_links relay now event with same | ⟨port, network, -, does⟩
  · exact same.config
  · rw [does]
    rfl

theorem config_run (relay : Relay) (events : List (Nat × RelayEvent)) :
    (relay.run events).router.config = relay.router.config := by
  induction events generalizing relay with
  | nil => rfl
  | cons entry rest ih => exact (ih _).trans (config_step relay entry.1 entry.2)

/-- A number that is known stays. -/
theorem network?_step {port : PortId} {network : UInt16}
    (known : relay.router.network? port = some network) (now : Nat) (event : RelayEvent) :
    (relay.step now event).relay.router.network? port = some network := by
  rcases step_links relay now event with same | ⟨other, number, -, does⟩
  · exact (same.network?_eq port).trans known
  · rw [does]
    exact relay.router.network?_learnNetwork other number known

theorem sameLinks_step (numbered : relay.router.Numbered) (now : Nat) (event : RelayEvent) :
    relay.router.SameLinks (relay.step now event).relay.router := by
  rcases step_links relay now event with same | ⟨port, network, -, does⟩
  · exact same
  · rw [does, numbered.learnNetwork_eq]
    exact .refl _

/-- Where all numbers are known, the links stay as they are. -/
theorem sameLinks_run (numbered : relay.router.Numbered) (events : List (Nat × RelayEvent)) :
    relay.router.SameLinks (relay.run events).router := by
  induction events generalizing relay with
  | nil => exact .refl _
  | cons entry rest ih =>
    have same := sameLinks_step numbered entry.1 entry.2
    exact same.trans (ih (numbered.of_sameLinks same))

end Relay

end BACnet
