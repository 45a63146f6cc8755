import BACnet.Proofs.Routing.Answers

/-!
# Replies

An application message without a source is handed to the application with the name that the router
has for its sender, and the application replies to this name. A reply goes back to the sender, on
the link on which the message has come, exactly if the name tells this link (`Router.NamesLink`):
on the first link it always does, and on another one only if its network has a number, which is
neither reserved nor that of an earlier link (`Relay.reply_goesBack_iff`).
-/

namespace BACnet

/-! ## What a message hands to the application -/

namespace Routing

variable {state before after : Routing} {arrival : Arrival} {npdu : Npdu}

/-- A message hands nothing to the application, or its data with the name of its sender. -/
def Hands (arrival : Arrival) (npdu : Npdu) (before after : Routing) : Prop :=
  deliveries after.outputs = deliveries before.outputs ∨
    ∃ data, npdu.body = .apdu data ∧ deliveries after.outputs =
      deliveries before.outputs ++ [(before.router.deliverySource arrival npdu, data)]

theorem Hands.trans {between : Routing} (first : Hands arrival npdu before between)
    (same : deliveries after.outputs = deliveries between.outputs) :
    Hands arrival npdu before after := by
  rwa [Hands, same]

theorem deliveries_foldl {α : Type} {step : Routing → α → Routing}
    (same : ∀ (state : Routing) item,
      deliveries (step state item).outputs = deliveries state.outputs)
    (items : List α) (state : Routing) :
    deliveries (items.foldl step state).outputs = deliveries state.outputs := by
  induction items generalizing state with
  | nil => rfl
  | cons first rest ih => rw [List.foldl_cons, ih, same]

theorem deliveries_flush (state : Routing) (now : Nat) (network : UInt16) :
    deliveries (state.flush now network).outputs = deliveries state.outputs := by
  unfold flush
  split
  · rfl
  · next queue _ =>
    exact deliveries_foldl (fun state message => deliveries_forward state now network message) _
      (state.dropQueue network queue)

theorem deliveries_learn (state : Routing) (now : Nat) (arrival : Arrival) (network : UInt16) :
    deliveries (state.learn now arrival network).outputs = deliveries state.outputs := by
  unfold learn
  split
  · rfl
  · exact deliveries_flush ..

theorem deliveries_takeAnnouncement (state : Routing) (now : Nat) (arrival : Arrival)
    (networks : List UInt16) :
    deliveries (state.takeAnnouncement now arrival networks).outputs =
      deliveries state.outputs := by
  have learned := deliveries_foldl (fun state network => deliveries_learn state now arrival network)
    networks state
  unfold takeAnnouncement
  dsimp only
  split
  · simp [emit, learned]
  · exact learned

theorem deliveries_makeAvailable (state : Routing) (now : Nat) (networks : List UInt16) :
    deliveries (state.makeAvailable now networks).outputs = deliveries state.outputs := by
  apply deliveries_foldl
  intro state network
  exact deliveries_flush ..

theorem deliveries_emit_of_none (state : Routing) {outputs : List RouterOutput}
    (others : deliveries outputs = []) :
    deliveries (state.emit outputs).outputs = deliveries state.outputs := by
  rw [emit, deliveries_append, others, List.append_nil]

theorem deliveries_answerWhoIs (router : Router) (arrival : Arrival) (npdu : Npdu)
    (network : Option UInt16) : deliveries (router.answerWhoIs arrival npdu network) = [] := by
  unfold Router.answerWhoIs
  dsimp only
  split
  · split
    · rfl
    · exact deliveries_broadcasts ..
  · split
    · exact deliveries_broadcasts ..
    · split
      · rfl
      · exact deliveries_broadcasts ..

theorem deliveries_answerNetworkNumber (router : Router) (arrival : Arrival) (npdu : Npdu) :
    deliveries (router.answerNetworkNumber arrival npdu) = [] := by
  unfold Router.answerNetworkNumber
  split
  · rfl
  · split
    · exact deliveries_broadcasts ..
    · rfl

/-- A message between routers is not for the application. -/
theorem deliveries_handleMessage (state : Routing) (now : Nat) (arrival : Arrival) (npdu : Npdu)
    (message : NetworkMessage) :
    deliveries (state.handleMessage now arrival npdu message).outputs =
      deliveries state.outputs := by
  unfold handleMessage
  split
  · split
    · exact deliveries_emit_of_none state (deliveries_answerWhoIs ..)
    · rfl
  · exact deliveries_takeAnnouncement ..
  · exact deliveries_emit_of_none (state.mapRouter _) rfl
  · rfl
  · exact deliveries_makeAvailable ..
  · unfold initializeTable
    split
    · rfl
    · split
      · exact deliveries_emit_of_none state rfl
      · exact deliveries_emit_of_none (state.mapRouter _) rfl
  · rfl
  · exact deliveries_emit_of_none state (deliveries_answerNetworkNumber ..)
  · split <;> rfl
  · split
    · rfl
    · exact deliveries_emit_of_none state rfl
  · rfl
  · rfl
  · rfl
  · rfl

theorem hands_deliver (state : Routing) (now : Nat) (arrival : Arrival) (npdu : Npdu) :
    Hands arrival npdu state (state.deliver now arrival npdu) := by
  cases body : npdu.body with
  | apdu data => exact .inr ⟨data, body, deliveries_deliver body state now arrival⟩
  | network message =>
    rw [deliver, body]
    exact .inl (deliveries_handleMessage state now arrival npdu message)

theorem hands_receiveGlobal (state : Routing) (now : Nat) (arrival : Arrival) (npdu : Npdu) :
    Hands arrival npdu state (state.receiveGlobal now arrival npdu).2 := by
  have delivered := hands_deliver state now arrival npdu
  unfold receiveGlobal
  dsimp only
  split
  · refine delivered.trans (deliveries_emit_of_none _ ?_)
    rw [deliveries_append, deliveries_pass]
    split
    · rfl
    · exact deliveries_broadcasts ..
  · exact delivered

theorem hands_receiveAttached (state : Routing) (now : Nat) (arrival : Arrival) (npdu : Npdu)
    (destination : Address) (target : PortId) :
    Hands arrival npdu state (state.receiveAttached now arrival npdu destination target).2 := by
  have delivered := hands_deliver state now arrival npdu
  unfold receiveAttached
  dsimp only
  split
  · split
    · exact delivered
    · exact .inl rfl
  · split
    · split
      · exact delivered.trans (deliveries_forwardArrival ..)
      · exact delivered
    · exact .inl (deliveries_forwardArrival ..)

theorem hands_receiveLearned (state : Routing) (now : Nat) (arrival : Arrival) (npdu : Npdu) :
    Hands arrival npdu state (state.receiveLearned now arrival npdu).2 := by
  unfold receiveLearned
  split
  · unfold receiveLocal
    split
    · exact hands_deliver state now arrival npdu
    · exact .inl rfl
  · split
    · exact hands_receiveGlobal state now arrival npdu
    · unfold receiveRemote
      split
      · exact hands_receiveAttached state now arrival npdu _ _
      · split
        · exact .inl (deliveries_forwardArrival ..)
        · exact .inl rfl

/-- A message from a link is handed to the application at most once, and only if the link is
attached. -/
theorem hands_receive (state : Routing) (now : Nat) (arrival : Arrival) (npdu : Npdu) :
    Hands arrival npdu state (state.receive now arrival npdu).2 := by
  by_cases valid : (state.router.port? arrival.port).isSome = true
  · have learned := deliveries_learnSource state now arrival npdu
    have source := (sameLinks_learnSource state now arrival npdu).deliverySource_eq arrival npdu
    rw [receive_of_valid valid, Hands, ← learned, ← source]
    exact hands_receiveLearned _ now arrival npdu
  · have unknown : (state.router.port? arrival.port).isNone = true := by simpa using valid
    rw [receive, if_pos unknown]
    exact .inl (deliveries_emit_of_none state rfl)

end Routing

/-! ## Replies to the name of a sender -/

/-- The message with this body goes back to a sender: on the link on which its message has come, to
its address there, and without a destination on another network. -/
structure Transmission.GoesBack (sent : Transmission) (arrival : Arrival) (body : NpduBody) :
    Prop where
  port : sent.port = arrival.port
  link : sent.destination = .unicast arrival.mac
  near : sent.npdu.destination = none
  body : sent.npdu.body = body

namespace Router

variable {router : Router} {arrival : Arrival} {npdu : Npdu} {port : PortId}

/-- The name of a sender tells that it is on this link: the link is the first one, or its network
has a number that is not reserved and that no earlier link has. -/
def NamesLink (router : Router) (port : PortId) : Prop :=
  port = primaryPort ∨ ∃ network, router.network? port = some network ∧
    network ≠ Address.localNetwork ∧ network ≠ Address.globalNetwork ∧
      router.directPort? network = some port

theorem SameLinks.namesLink_iff {before after : Router} (same : before.SameLinks after)
    (port : PortId) : after.NamesLink port ↔ before.NamesLink port := by
  simp only [NamesLink, same.network?_eq, same.directPort?_eq]

/-- If the networks have different numbers, only one link has this number. -/
theorem directPort?_of_distinct (distinct : router.networks.Nodup) {network : UInt16}
    (numbered : router.network? port = some network) : router.directPort? network = some port := by
  obtain ⟨link, found, number⟩ := Option.bind_eq_some_iff.mp numbered
  obtain ⟨inside, at_⟩ := List.getElem?_eq_some_iff.mp found
  have apart : router.ports.Pairwise fun first second =>
      ∀ network, first.network = some network → second.network ≠ some network := by
    refine (List.pairwise_filterMap.mp distinct).imp ?_
    intro first second differ network here there
    exact differ network here network there rfl
  have index : router.ports.findIdx? (·.network = some network) = some port.toNat := by
    refine List.findIdx?_eq_some_iff_getElem.mpr ⟨inside, by simp [at_, number], ?_⟩
    intro earlier before same
    have differ := List.pairwise_iff_getElem.mp apart earlier port.toNat
      (Nat.lt_trans before inside) inside before network (of_decide_eq_true same)
    exact differ (at_ ▸ number)
  rw [directPort?, index, Option.map_some, UInt16.ofNat_toNat]

theorem network?_ne_of_wellNumbered (wellNumbered : router.WellNumbered) {network : UInt16}
    (numbered : router.network? port = some network) :
    network ≠ Address.globalNetwork ∧
      (router.isRouter = true → network ≠ Address.localNetwork) := by
  obtain ⟨link, found, number⟩ := Option.bind_eq_some_iff.mp numbered
  have member : network ∈ router.networks :=
    List.mem_filterMap.mpr ⟨link, List.mem_of_getElem? found, number⟩
  constructor
  · rintro rfl
    exact wellNumbered.notGlobal member
  · rintro routes rfl
    exact wellNumbered.notLocal routes member

/-- If the numbers are those that a set-up may have, the name of a sender tells the link if the link
has a number at all. -/
theorem WellNumbered.namesLink_iff (wellNumbered : router.WellNumbered) :
    router.NamesLink port ↔ port = primaryPort ∨ (router.network? port).isSome = true := by
  constructor
  · rintro (primary | ⟨network, numbered, -⟩)
    · exact .inl primary
    · exact .inr (Option.isSome_of_eq_some numbered)
  · rintro (primary | known)
    · exact .inl primary
    · by_cases primary : port = primaryPort
      · exact .inl primary
      · obtain ⟨network, numbered⟩ := Option.isSome_iff_exists.mp known
        obtain ⟨single, named⟩ := network?_ne_of_wellNumbered wellNumbered numbered
        have valid := mem_portIds_of_network? numbered
        have routes := isRouter_of_ne valid (primaryPort_mem_portIds valid) primary
        exact .inr ⟨network, numbered, named routes, single,
          directPort?_of_distinct wellNumbered.distinct numbered⟩

end Router

namespace Routing

variable {router : Router} {arrival : Arrival} {npdu : Npdu} {station : Address} {port : PortId}

/-- A message without a destination goes to the one who has sent something on its link. -/
theorem exists_goesBack (router : Router) (arrival : Arrival) (near : npdu.destination = none) :
    ∃ sent, router.transmission arrival.port (.unicast arrival.mac) npdu = .transmit sent ∧
      sent.GoesBack arrival npdu.body := by
  obtain ⟨source, stamped, -⟩ := router.exists_stamp_eq arrival.port npdu
  refine ⟨_, rfl, ⟨rfl, rfl, ?_, ?_⟩⟩
  · rw [stamped]
    exact near
  · rw [stamped]

theorem ofMac_of_single {mac : Octets} (single : mac ≠ []) :
    LinkDestination.ofMac mac = .unicast mac :=
  if_neg (by simpa using single)

/-- What is sent to a station without the number of a network, or with that of the first one, leaves
on the first link. -/
theorem send_of_near (single : station.mac ≠ []) (near : isNear router station = true)
    (timers : TimerQueue TimerEvent) (now : Nat) (message : Outgoing) :
    ∃ sent, (send router timers now station message).1 = .ok [sent] ∧
      sent.GoesBack ⟨primaryPort, station.mac⟩ message.body := by
  have own : station.isLocal = true ∨
      some station.network = (start router timers).router.network? primaryPort :=
    of_decide_eq_true near
  obtain ⟨sent, transmits, back⟩ := @exists_goesBack
    ⟨message.priority, message.expectingReply, none, none, router.config.initialHopCount,
      message.body⟩ router ⟨primaryPort, station.mac⟩ rfl
  refine ⟨sent, ?_, back⟩
  rw [send, dispatch, if_pos own, ofMac_of_single single]
  exact congrArg (fun output => transmissions [output]) transmits

/-- What is sent to a station on another attached network leaves on the link to this network. -/
theorem send_of_attached (single : station.mac ≠ [])
    (far : ¬(isNear router station = true ∨ station.isGlobal = true))
    (attached : router.directPort? station.network = some port)
    (timers : TimerQueue TimerEvent) (now : Nat) (message : Outgoing) :
    ∃ sent, (send router timers now station message).1 = .ok [sent] ∧
      sent.GoesBack ⟨port, station.mac⟩ message.body := by
  obtain ⟨sent, transmits, back⟩ := @exists_goesBack
    { outgoing router station message with destination := none } router ⟨port, station.mac⟩ rfl
  refine ⟨sent, ?_, back⟩
  rw [send, (@dispatch_of_far now (start router timers) station message far).1, forward]
  dsimp only
  rw [show (start router timers).router.directPort? station.network = some port from attached]
  dsimp only [sendDirect, outgoing, Router.addressed]
  rw [ofMac_of_single single]
  exact congrArg (fun output => transmissions [output]) transmits

/-- What is sent to all networks has a destination on another network. -/
theorem destination_of_global {timers : TimerQueue TimerEvent} {now : Nat} {message : Outgoing}
    (far : ¬isNear router station = true) (everywhere : station.isGlobal = true)
    {sent : Transmission} (sends : (send router timers now station message).1 = .ok [sent]) :
    sent.npdu.destination ≠ none := by
  have own : ¬(station.isLocal = true ∨
      some station.network = (start router timers).router.network? primaryPort) :=
    fun near => far (decide_eq_true near)
  rw [send, dispatch, if_neg own] at sends
  dsimp only at sends
  rw [if_pos everywhere] at sends
  obtain ⟨port, -, transmits⟩ := List.mem_map.mp (mem_of_mem_transmissions sends (.head _))
  cases transmits
  rw [destination_stamp]
  exact Option.some_ne_none station

end Routing

namespace Router

variable {router : Router} {arrival : Arrival}

/-- The name of a sender on another link than the first one, for a message without a source. -/
theorem deliverySource_of_secondary (router : Router) {npdu : Npdu}
    (sourceless : npdu.source = none) (secondary : arrival.port ≠ primaryPort) :
    router.deliverySource arrival npdu =
      ⟨(router.network? arrival.port).getD Address.localNetwork, arrival.mac⟩ := by
  rw [deliverySource, sourceless]
  dsimp only
  cases router.network? arrival.port with
  | none => rfl
  | some network => exact if_neg secondary

theorem deliverySource_of_primary (router : Router) {npdu : Npdu}
    (sourceless : npdu.source = none) (primary : arrival.port = primaryPort) :
    router.deliverySource arrival npdu = .ofMac arrival.mac := by
  rw [deliverySource, sourceless]
  dsimp only
  cases router.network? arrival.port with
  | none => rfl
  | some network => exact if_pos primary

/-- A name that tells the link is neither near nor that of all. -/
theorem far_of_namesLink {network : UInt16} {port : PortId} {mac : Octets}
    (secondary : port ≠ primaryPort) (named : network ≠ Address.localNetwork)
    (single : network ≠ Address.globalNetwork) (attached : router.directPort? network = some port) :
    ¬(Routing.isNear router ⟨network, mac⟩ = true ∨ (Address.mk network mac).isGlobal = true) := by
  rintro (near | everywhere)
  · rcases of_decide_eq_true near with unnumbered | home
    · exact named (eq_of_beq unnumbered)
    · rw [directPort?_of_primary home.symm] at attached
      exact secondary (Option.some.inj attached).symm
  · exact single (eq_of_beq everywhere)

/-- What is sent to a name on another link than the first one goes back exactly if the name tells
this link. -/
theorem goesBack_iff_of_secondary (secondary : arrival.port ≠ primaryPort)
    (single : arrival.mac ≠ []) (timers : TimerQueue TimerEvent) (now : Nat)
    (message : Routing.Outgoing) :
    (∃ sent, (Routing.send router timers now
        ⟨(router.network? arrival.port).getD Address.localNetwork, arrival.mac⟩ message).1 =
        .ok [sent] ∧ sent.GoesBack arrival message.body) ↔ router.NamesLink arrival.port := by
  constructor
  · rintro ⟨sent, sends, back⟩
    by_cases near : Routing.isNear router
        ⟨(router.network? arrival.port).getD Address.localNetwork, arrival.mac⟩ = true
    · obtain ⟨other, leaves, first⟩ := Routing.send_of_near single near timers now message
      cases leaves.symm.trans sends
      exact absurd (back.port.symm.trans first.port) secondary
    · by_cases everywhere : (Address.mk ((router.network? arrival.port).getD Address.localNetwork)
          arrival.mac).isGlobal = true
      · exact absurd back.near (Routing.destination_of_global near everywhere sends)
      · cases known : router.network? arrival.port with
        | none =>
          rw [known] at near
          exact absurd (decide_eq_true (.inl rfl)) near
        | some network =>
          rw [known] at near everywhere sends
          obtain ⟨first, attached, -⟩ := exists_directPort? known
          obtain ⟨other, leaves, direct⟩ := Routing.send_of_attached single
            (not_or.mpr ⟨near, everywhere⟩) attached timers now message
          cases leaves.symm.trans sends
          have here : first = arrival.port := direct.port.symm.trans back.port
          refine .inr ⟨network, known, ?_, ?_, attached.trans (congrArg some here)⟩
          · rintro rfl
            exact near (decide_eq_true (.inl rfl))
          · rintro rfl
            exact everywhere rfl
  · rintro (primary | ⟨network, known, named, one, attached⟩)
    · exact absurd primary secondary
    · rw [known]
      exact Routing.send_of_attached single (far_of_namesLink secondary named one attached) attached
        timers now message

/-- What is sent to the name of a sender goes back to it exactly if the name tells its link. -/
theorem goesBack_iff (router : Router) {npdu : Npdu} (sourceless : npdu.source = none)
    (single : arrival.mac ≠ []) (timers : TimerQueue TimerEvent) (now : Nat)
    (message : Routing.Outgoing) :
    (∃ sent, (Routing.send router timers now (router.deliverySource arrival npdu) message).1 =
        .ok [sent] ∧ sent.GoesBack arrival message.body) ↔ router.NamesLink arrival.port := by
  by_cases primary : arrival.port = primaryPort
  · have near : Routing.isNear router (.ofMac arrival.mac) = true := decide_eq_true (.inl rfl)
    have back := Routing.send_of_near single near timers now message
    rw [deliverySource_of_primary router sourceless primary]
    rw [← primary] at back
    exact iff_of_true back (.inl primary)
  · rw [deliverySource_of_secondary router sourceless primary]
    exact goesBack_iff_of_secondary primary single timers now message

end Router

namespace Relay

/-- The application replies to a message that has come without a source. The reply goes back to the
sender, once and on the link on which the message has come, exactly if the name of the sender tells
this link; and as long as the numbers of the networks are those that a set-up may have, it does so
if it is the first link or the number of its network is known. -/
theorem reply_goesBack_iff (relay : Relay) {arrival : Arrival} {npdu : Npdu}
    (sourceless : npdu.source = none) (single : arrival.mac ≠ []) {now : Nat} {source : Address}
    {data : Octets} (handed : (source, data) ∈
      Routing.deliveries (relay.step now (.receive arrival npdu)).outputs)
    (later : Nat) (message : Routing.Outgoing) :
    ((∃ sent, (Routing.send (relay.step now (.receive arrival npdu)).relay.router
          (relay.step now (.receive arrival npdu)).relay.timers later source message).1 =
          .ok [sent] ∧ sent.GoesBack arrival message.body) ↔
        relay.router.NamesLink arrival.port) ∧
      (relay.router.WellNumbered → (relay.router.NamesLink arrival.port ↔
        arrival.port = primaryPort ∨ (relay.router.network? arrival.port).isSome = true)) := by
  refine ⟨?_, fun wellNumbered => wellNumbered.namesLink_iff⟩
  rcases Routing.hands_receive (.start relay.router relay.timers) now arrival npdu with
    nothing | ⟨octets, body, hands⟩
  · rw [show Routing.deliveries (relay.step now (.receive arrival npdu)).outputs = [] from nothing]
      at handed
    cases handed
  · rw [show Routing.deliveries (relay.step now (.receive arrival npdu)).outputs =
      [(relay.router.deliverySource arrival npdu, octets)] from hands, List.mem_singleton] at handed
    cases handed
    have links : relay.router.SameLinks
        (relay.step now (.receive arrival npdu)).relay.router := by
      rcases Routing.receive_cases (.start relay.router relay.timers) now arrival npdu with
        same | ⟨network, told, -⟩
      · exact same
      · obtain ⟨-, -, configured, tells⟩ := Npdu.tells?_eq_some told
        rw [body] at tells
        cases tells
    rw [← links.deliverySource_eq arrival npdu, ← links.namesLink_iff]
    exact Router.goesBack_iff _ sourceless single _ later message

/-- A message to all from a station on the open link. -/
def openInquiry : Npdu := { Npdu.ofBody (.apdu [16, 8]) with destination := some .globalBroadcast }

/-- What is handed to the application of it, when the open link has been told its number or not. -/
def openHeard (events : List (Nat × RelayEvent)) : List (Address × Octets) :=
  Routing.deliveries (((new openLink.ports openLink.router).run events).step 1
    (.receive ⟨1, [12]⟩ openInquiry)).outputs

/-- What the application sends to a station after it. -/
def openReply (events : List (Nat × RelayEvent)) (station : Address) :
    Except NetworkError (List Transmission) :=
  let relay := (((new openLink.ports openLink.router).run events).step 1
    (.receive ⟨1, [12]⟩ openInquiry)).relay
  (Routing.send relay.router relay.timers 2 station ⟨.apdu [16, 0], false, .normal⟩).1

/-- If the number of the link is 5, the reply to a station there goes back to it. -/
theorem reply_goesBack_iff_otherNumber :
    openHeard (numberTold 5) = [(⟨5, [12]⟩, [16, 8])] ∧
      ∃ sent, openReply (numberTold 5) ⟨5, [12]⟩ = .ok [sent] ∧
        sent.GoesBack ⟨1, [12]⟩ (.apdu [16, 0]) := by
  have handed : openHeard (numberTold 5) = [(⟨5, [12]⟩, [16, 8])] := by decide +kernel
  have named : ((new openLink.ports openLink.router).run (numberTold 5)).router.NamesLink 1 :=
    .inr ⟨5, by decide +kernel, by decide, by decide, by decide +kernel⟩
  refine ⟨handed, ?_⟩
  exact (reply_goesBack_iff _ rfl (List.cons_ne_nil _ _) (handed ▸ List.mem_singleton_self _) 2
    ⟨.apdu [16, 0], false, .normal⟩).1.mpr named

/-- As long as the number of the link is not known, the reply leaves on the first link. It does so
too if the link has been told the number of the first one, and if it has been told the number that
stands for all networks the reply leaves on all links. -/
theorem exists_stray_reply :
    openLink.validate = .ok () ∧
      openHeard [] = [(.ofMac [12], [16, 8])] ∧
      (openReply [] (.ofMac [12])).map (·.map fun sent => (sent.port, sent.destination)) =
        .ok [(0, .unicast [12])] ∧
      openHeard (numberTold 1) = [(⟨1, [12]⟩, [16, 8])] ∧
      (openReply (numberTold 1) ⟨1, [12]⟩).map (·.map fun sent => (sent.port, sent.destination)) =
        .ok [(0, .unicast [12])] ∧
      openHeard (numberTold 65535) = [(⟨65535, [12]⟩, [16, 8])] ∧
      (openReply (numberTold 65535) ⟨65535, [12]⟩).map
          (·.map fun sent => (sent.port, sent.destination)) =
        .ok [(0, .broadcast), (1, .broadcast)] := by
  exact ⟨rfl, by decide +kernel, rfl, by decide +kernel, rfl, by decide +kernel, rfl⟩

end Relay

end BACnet
