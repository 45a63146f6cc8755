import BACnet.Proofs.Routing.Echoes
import BACnet.Proofs.Routing.ReversePath
import BACnet.Proofs.Routing.Routes

/-!
# Answers

A station answers a message to the source that the message names, and as its destination, as far as
the message names them. Such an answer is handed to the application as one from the station to which
the message was sent, whatever has happened in the meantime (`Relay.deliveries_answer`), with two
exceptions: a message that leaves on another link than the first one has to name its source, and the
first network must not be addressed by its number.
-/

namespace BACnet

/-! ## What is handed to the application -/

/-- An application message for the application of this device, with its source. -/
def RouterOutput.delivery? : RouterOutput → Option (Address × Octets)
  | deliver source apdu _ _ => some (source, apdu)
  | _ => none

namespace Routing

/-- What is handed to the application. -/
def deliveries (outputs : List RouterOutput) : List (Address × Octets) :=
  outputs.filterMap (·.delivery?)

@[simp]
theorem deliveries_append (first second : List RouterOutput) :
    deliveries (first ++ second) = deliveries first ++ deliveries second :=
  List.filterMap_append

theorem deliveries_eq_nil {outputs : List RouterOutput}
    (others : ∀ output ∈ outputs, output.delivery? = none) : deliveries outputs = [] :=
  List.filterMap_eq_nil_iff.mpr others

variable {state : Routing} {router : Router} {now : Nat} {network : UInt16} {arrival : Arrival}
  {npdu : Npdu} {data : Octets}

@[simp]
theorem deliveries_broadcasts (router : Router) (ports : List PortId) (npdu : Npdu) :
    deliveries (router.broadcasts ports npdu) = [] := by
  apply deliveries_eq_nil
  intro output member
  obtain ⟨port, -, rfl⟩ := List.mem_map.mp member
  rfl

@[simp]
theorem deliveries_queries (router : Router) (network : UInt16) (except : Option PortId) :
    deliveries (router.queries network except) = [] :=
  deliveries_broadcasts ..

@[simp]
theorem deliveries_pass (router : Router) (arrival : Arrival) (npdu : Npdu) (network : UInt16) :
    deliveries (router.pass arrival npdu network).2 = [] := by
  unfold Router.pass Router.hopCountOutputs
  dsimp only
  split
  · split <;> rfl
  · rfl

theorem deliveries_enqueue (state : Routing) (now : Nat) (network : UInt16) (message : PendingNpdu)
    (ask : Bool) :
    deliveries (state.enqueue now network message ask).2.outputs = deliveries state.outputs := by
  unfold enqueue
  split
  · exact (deliveries_append ..).trans (List.append_nil _)
  · split
    · rfl
    · cases ask <;> simp [emit, enqueueFirst]

/-- What is sent on is not handed to the application. -/
theorem deliveries_forward (state : Routing) (now : Nat) (network : UInt16)
    (message : PendingNpdu) :
    deliveries (state.forward now network message).2.outputs = deliveries state.outputs := by
  cases reached : state.router.carrier? network with
  | none =>
    rw [forward_of_not_reaches reached]
    exact deliveries_enqueue ..
  | some carry =>
    obtain ⟨port, link, -, carries⟩ := Router.carrier?_eq reached message.npdu
    have asked : deliveries (if state.router.doubts network then
        state.router.queries network (message.arrival.map (·.port)) else []) = [] := by
      split
      · exact deliveries_queries ..
      · rfl
    rw [forward_of_carrier? reached, emit, deliveries_append, carries]
    exact (congrArg _ asked).trans (List.append_nil _)

theorem deliveries_forwardArrival (state : Routing) (now : Nat) (arrival : Arrival) (npdu : Npdu)
    (network : UInt16) :
    deliveries (state.forwardArrival now arrival npdu network).2.outputs =
      deliveries state.outputs := by
  have told : deliveries (state.emit (state.router.pass arrival npdu network).2).outputs =
      deliveries state.outputs := by simp [emit]
  unfold forwardArrival
  dsimp only
  split
  · exact told
  · rw [deliveries_forward]
    exact told

theorem deliveries_spread (router : Router) (arrival : Arrival) (npdu : Npdu) :
    deliveries (router.spread arrival npdu) = [] := by
  unfold Router.spread Router.repeats
  split
  · split <;> simp
  · rfl

theorem deliveries_learnSource (state : Routing) (now : Nat) (arrival : Arrival) (npdu : Npdu) :
    deliveries (state.learnSource now arrival npdu).outputs = deliveries state.outputs := by
  obtain ⟨released, outputs, waited⟩ := exists_released state now arrival npdu
  have sent : deliveries released = [] := by
    apply deliveries_eq_nil
    intro output member
    obtain ⟨source, message, -, -, rfl⟩ := waited output member
    rfl
  rw [outputs, deliveries_append, sent, List.append_nil]

end Routing

/-! ## Answers that arrive -/

namespace Router

/-- Only the links matter for the name of a sender. -/
theorem SameLinks.deliverySource_eq {before after : Router} (same : before.SameLinks after)
    (arrival : Arrival) (npdu : Npdu) :
    after.deliverySource arrival npdu = before.deliverySource arrival npdu := by
  rw [deliverySource, deliverySource, same.network?_eq]

variable {router : Router} {network : UInt16} {port : PortId}

theorem exists_of_ownAddress? {own : Address} (known : router.ownAddress? = some own) :
    ∃ link, router.port? primaryPort = some link ∧ link.network = some own.network ∧
      link.mac = some own.mac := by
  obtain ⟨link, found, rest⟩ := Option.bind_eq_some_iff.mp known
  obtain ⟨number, network, rest⟩ := Option.bind_eq_some_iff.mp rest
  obtain ⟨octets, mac, same⟩ := Option.bind_eq_some_iff.mp rest
  cases same
  exact ⟨link, found, network, mac⟩

theorem isOwnMac_ownAddress? {own : Address} (known : router.ownAddress? = some own) :
    router.isOwnMac own.mac = true := by
  obtain ⟨link, found, -, mac⟩ := exists_of_ownAddress? known
  simp [isOwnMac, found, mac]

/-- The network of the first link lies behind this link. -/
theorem directPort?_of_primary (known : router.network? primaryPort = some network) :
    router.directPort? network = some primaryPort := by
  obtain ⟨link, found, numbered⟩ := Option.bind_eq_some_iff.mp known
  unfold port? at found
  unfold directPort?
  cases links : router.ports with
  | nil =>
    rw [links] at found
    cases found
  | cons first rest =>
    rw [links] at found
    cases found
    simp [List.findIdx?_cons, numbered]
    rfl

/-- Links have numbers of 16 bits. -/
theorem network?_of_directPort? (few : router.ports.length ≤ UInt16.size)
    (attached : router.directPort? network = some port) : router.network? port = some network := by
  obtain ⟨index, first, rfl⟩ := Option.map_eq_some_iff.mp attached
  obtain ⟨inside, numbered, -⟩ := List.findIdx?_eq_some_iff_getElem.mp first
  have small : index < UInt16.size := Nat.lt_of_lt_of_le inside few
  rw [network?, port?, UInt16.toNat_ofNat_of_lt' small, List.getElem?_eq_getElem inside]
  exact of_decide_eq_true numbered

end Router

namespace Routing

variable {state : Routing} {now : Nat} {arrival : Arrival} {npdu : Npdu} {data : Octets}

theorem deliveries_deliver (body : npdu.body = .apdu data) (state : Routing) (now : Nat)
    (arrival : Arrival) :
    deliveries (state.deliver now arrival npdu).outputs =
      deliveries state.outputs ++ [(state.router.deliverySource arrival npdu, data)] := by
  rw [deliver, body]
  exact deliveries_append ..

/-- An application message to this device: one without a destination on the first link, or one to
its own address on another link. -/
def Meant (router : Router) (arrival : Arrival) (npdu : Npdu) : Prop :=
  (arrival.port = primaryPort ∧ npdu.destination = none) ∨
    (arrival.port ≠ primaryPort ∧ ∃ own, router.ownAddress? = some own ∧
      npdu.destination = some own)

theorem deliveries_receiveRemote (body : npdu.body = .apdu data)
    (secondary : arrival.port ≠ primaryPort) {own : Address}
    (known : state.router.ownAddress? = some own) :
    deliveries (state.receiveRemote now arrival npdu own).2.outputs =
      deliveries state.outputs ++ [(state.router.deliverySource arrival npdu, data)] := by
  obtain ⟨link, found, numbered, -⟩ := Router.exists_of_ownAddress? known
  have number : state.router.network? primaryPort = some own.network := by
    rw [Router.network?, found]
    exact numbered
  have home : primaryPort = primaryPort ∧ state.router.isOwnMac own.mac = true :=
    ⟨rfl, Router.isOwnMac_ownAddress? known⟩
  rw [receiveRemote, Router.directPort?_of_primary number]
  dsimp only
  rw [receiveAttached, if_neg (Ne.symm secondary), if_pos home]
  split
  · rw [deliveries_forwardArrival]
    exact deliveries_deliver body state now arrival
  · exact deliveries_deliver body state now arrival

/-- A message to this device is handed to the application once, and nothing else is. -/
theorem deliveries_receive (body : npdu.body = .apdu data)
    (valid : (state.router.port? arrival.port).isSome = true)
    (meant : Meant state.router arrival npdu) (now : Nat) :
    deliveries (state.receive now arrival npdu).2.outputs =
      deliveries state.outputs ++ [(state.router.deliverySource arrival npdu, data)] := by
  have links := sameLinks_learnSource state now arrival npdu
  have learned := deliveries_learnSource state now arrival npdu
  have source := links.deliverySource_eq arrival npdu
  rw [receive_of_valid valid, receiveLearned, ← learned, ← source]
  rcases meant with ⟨primary, near⟩ | ⟨secondary, own, address, far⟩
  · rw [near]
    dsimp only
    rw [receiveLocal, if_pos (.inl primary)]
    exact deliveries_deliver body _ now arrival
  · rw [far]
    dsimp only
    split
    · rw [receiveGlobal_apdu _ now arrival body, emit, deliveries_append]
      exact congrArg (_ ++ _ :: ·) (deliveries_spread ..)
    · have stays : (state.learnSource now arrival npdu).router.ownAddress? = some own := by
        rw [Router.ownAddress?, links.port?_eq]
        exact address
      exact deliveries_receiveRemote body secondary stays

end Routing

/-! ## What stays -/

/-- Links stay attached, and a link whose network has a number stays as it is. -/
structure Router.Extends (before after : Router) : Prop where
  attached : ∀ port, (before.port? port).isSome = true → (after.port? port).isSome = true
  numbered : ∀ port link, before.port? port = some link → link.network.isSome = true →
    after.port? port = some link

namespace Router.Extends

variable {before between after : Router}

theorem refl (router : Router) : router.Extends router :=
  ⟨fun _ attached => attached, fun _ _ found _ => found⟩

theorem trans (first : before.Extends between) (second : between.Extends after) :
    before.Extends after := by
  refine ⟨fun port attached => second.attached port (first.attached port attached), ?_⟩
  intro port link found numbered
  exact second.numbered port link (first.numbered port link found numbered) numbered

theorem learnNetwork (router : Router) (port : PortId) (network : UInt16) :
    router.Extends (router.learnNetwork port network) := by
  constructor
  · intro other attached
    rw [isSome_port?_learnNetwork]
    exact attached
  · intro other link found numbered
    obtain ⟨number, known⟩ := Option.isSome_iff_exists.mp numbered
    unfold port? Router.learnNetwork at *
    rw [List.getElem?_modify, found]
    split
    · obtain ⟨network, mac, configured⟩ := link
      cases known
      rfl
    · rfl

theorem network?_eq (extended : before.Extends after) {port : PortId} {network : UInt16}
    (known : before.network? port = some network) : after.network? port = some network := by
  obtain ⟨link, found, numbered⟩ := Option.bind_eq_some_iff.mp known
  rw [network?, extended.numbered port link found (by rw [numbered]; rfl)]
  exact numbered

theorem ownAddress?_eq (extended : before.Extends after) {own : Address}
    (known : before.ownAddress? = some own) : after.ownAddress? = some own := by
  obtain ⟨link, found, numbered, -⟩ := exists_of_ownAddress? known
  rw [← known, ownAddress?, ownAddress?, found,
    extended.numbered primaryPort link found (by rw [numbered]; rfl)]

end Router.Extends

theorem Relay.extends_step (relay : Relay) (now : Nat) (event : RelayEvent) :
    relay.router.Extends (relay.step now event).relay.router := by
  rcases step_links relay now event with same | ⟨port, network, -, does⟩
  · constructor
    · intro port attached
      rwa [same.port?_eq]
    · intro port link found _
      rwa [same.port?_eq]
  · rw [does]
    exact .learnNetwork relay.router port network

theorem Relay.extends_run (relay : Relay) (events : List (Nat × RelayEvent)) :
    relay.router.Extends (relay.run events).router := by
  induction events generalizing relay with
  | nil => exact .refl _
  | cons entry rest ih => exact (extends_step relay entry.1 entry.2).trans (ih _)

theorem Relay.length_ports_run (relay : Relay) (events : List (Nat × RelayEvent)) :
    (relay.run events).router.ports.length = relay.router.ports.length := by
  induction events generalizing relay with
  | nil => rfl
  | cons entry rest ih =>
    refine (ih _).trans ?_
    rcases step_links relay entry.1 entry.2 with same | ⟨port, network, -, does⟩
    · rw [same.ports]
    · rw [does]
      exact List.length_modify ..

/-! ## Messages that leave -/

/-- A message of the application leaves for a station: with its address as the destination, or
without a destination on its own network. On all links but the first one it names this device as its
source. -/
structure Router.SendsTo (router : Router) (station : Address) (sent : Transmission)
    (mac : Octets) : Prop where
  attached : (router.port? sent.port).isSome = true
  source : sent.npdu.source = if sent.port = primaryPort then none else router.ownAddress?
  addressee : sent.npdu.destination = some station ∨
    sent.npdu.destination = none ∧ mac = station.mac ∧
      (sent.port = primaryPort ∧ Routing.isNear router station = true ∨
        sent.port ≠ primaryPort ∧ router.network? sent.port = some station.network)

namespace Routing

variable {router : Router} {timers : TimerQueue TimerEvent} {now : Nat} {station : Address}
  {data : Octets} {expectingReply : Bool} {priority : NetworkPriority} {sent : Transmission}
  {mac : Octets}

theorem destination_stamp (router : Router) (port : PortId) (npdu : Npdu) :
    (router.stamp port npdu).destination = npdu.destination := by
  obtain ⟨source, stamped, -⟩ := router.exists_stamp_eq port npdu
  rw [stamped]

theorem source_stamp (router : Router) (port : PortId) {npdu : Npdu} (unnamed : npdu.source = none)
    (body : npdu.body = .apdu data) :
    (router.stamp port npdu).source = if port = primaryPort then none else router.ownAddress? := by
  unfold Router.stamp
  by_cases primary : port = primaryPort
  · rw [if_neg (fun other => other.1 primary), if_pos primary, unnamed]
  · rw [if_pos ⟨primary, by simp [unnamed], by simp [body, NpduBody.isNetwork]⟩, if_neg primary]

/-- An application message that goes towards another network leaves for the station on the link to
this network, or for the next router. -/
theorem sendsTo_of_carrier? (wellRouted : router.WellRouted)
    (few : router.ports.length ≤ UInt16.size) (single : station.mac ≠ [])
    (far : ¬isNear router station = true) {carry : Npdu → RouterOutput}
    (reached : router.carrier? station.network = some carry) {npdu : Npdu}
    (target : npdu.destination = some station) (unnamed : npdu.source = none)
    (body : npdu.body = .apdu data) (carried : carry npdu = .transmit sent)
    (link : sent.destination = .unicast mac) : router.SendsTo station sent mac := by
  cases direct : router.directPort? station.network with
  | some port =>
    have number := Router.network?_of_directPort? few direct
    have address : LinkDestination.ofMac station.mac = .unicast station.mac :=
      if_neg (by simpa using single)
    have secondary : port ≠ primaryPort := by
      rintro rfl
      exact far (decide_eq_true (.inr number.symm))
    rw [Router.carrier?_of_direct router direct] at reached
    cases reached
    dsimp only at carried
    rw [target] at carried
    dsimp only at carried
    rw [address] at carried
    cases carried
    cases link
    refine ⟨?_, source_stamp router port unnamed body, .inr ⟨?_, rfl, .inr ⟨secondary, number⟩⟩⟩
    · obtain ⟨link, found, -⟩ := Option.bind_eq_some_iff.mp number
      exact Option.isSome_of_eq_some found
    · exact destination_stamp router port _
  | none =>
    unfold Router.carrier? at reached
    rw [direct] at reached
    dsimp only at reached
    split at reached
    · cases reached
    · next route found =>
      split at reached
      · cases reached
      · cases reached
        cases carried
        exact ⟨(wellRouted.leads _ route found).attached,
          source_stamp router route.port unnamed body,
          .inl ((destination_stamp router route.port npdu).trans target)⟩

/-- An application message for one station leaves for this station, or for the next router on the
way to it. -/
theorem sendsTo_of_send (wellRouted : router.WellRouted) (few : router.ports.length ≤ UInt16.size)
    (links : router.ports ≠ []) (single : station.mac ≠ []) (remote : station.isGlobal = false)
    {transmissions : List Transmission} {after : Router × TimerQueue TimerEvent}
    (sends : send router timers now station ⟨.apdu data, expectingReply, priority⟩ =
      (.ok transmissions, after))
    (member : sent ∈ transmissions) (body : sent.npdu.body = .apdu data)
    (link : sent.destination = .unicast mac) : router.SendsTo station sent mac := by
  have result : Routing.transmissions ((start router timers).dispatch now station
      ⟨.apdu data, expectingReply, priority⟩).outputs = .ok transmissions := congrArg Prod.fst sends
  have output := mem_of_mem_transmissions result member
  have answered (asks : sent.npdu.body.Asks) : router.SendsTo station sent mac := by
    obtain ⟨requested, asked⟩ := asks
    rw [body] at asked
    cases asked
  by_cases near : isNear router station = true
  · -- The station is on the network of the first link.
    have own : station.isLocal = true ∨
        some station.network = (start router timers).router.network? primaryPort :=
      of_decide_eq_true near
    rw [dispatch, if_pos own] at output
    have address : LinkDestination.ofMac station.mac = .unicast station.mac :=
      if_neg (by simpa using single)
    rw [address] at output
    cases List.mem_singleton.mp output
    cases link
    refine ⟨?_, source_stamp router primaryPort rfl rfl, .inr ⟨?_, rfl, .inl ⟨rfl, near⟩⟩⟩
    · cases ports : router.ports with
      | nil => exact absurd ports links
      | cons first rest =>
        show (router.ports[primaryPort.toNat]?).isSome = true
        rw [ports]
        rfl
    · exact destination_stamp router primaryPort _
  · rw [(dispatch_of_far now _ (not_or.mpr ⟨near, Bool.eq_false_iff.mp remote⟩)).1] at output
    cases reached : router.carrier? station.network with
    | none =>
      rw [forward_of_not_reaches reached] at output
      obtain ⟨added, outputs, asks⟩ := outputs_enqueue (start router timers) now station.network
        ⟨outgoing (start router timers).router station
          ⟨.apdu data, expectingReply, priority⟩, none⟩
        ((start router timers).router.table.find? station.network).isNone
      rw [outputs] at output
      exact answered (asks sent output)
    | some carry =>
      rw [forward_of_carrier? reached] at output
      rcases List.mem_cons.mp output with carried | asked
      · exact sendsTo_of_carrier? wellRouted few single near reached rfl rfl rfl carried.symm link
      · split at asked
        · exact answered (asks_of_queries asked)
        · cases asked

end Routing

/-! ## Answers to them -/

/-- A message with these data answers another one: it comes from the destination of this message, as
far as it has one, and goes to the source that it names. -/
structure Npdu.Answers (answer request : Npdu) (data : Octets) : Prop where
  body : answer.body = .apdu data
  source : answer.source = request.destination
  destination : answer.destination = request.source

/-- The answer to a message can be told from others: the message names its source unless it leaves on
the first link, and the station is not addressed by the number of the first network. -/
structure Router.Answerable (router : Router) (station : Address) (sent : Transmission) : Prop where
  named : sent.port = primaryPort ∨ sent.npdu.source.isSome = true
  foreign : station.isLocal = true ∨ router.network? primaryPort ≠ some station.network

namespace Router.SendsTo

variable {router after : Router} {station : Address} {sent : Transmission} {mac data : Octets}
  {answer : Npdu}

/-- The answer is for this device. -/
theorem meant (sends : router.SendsTo station sent mac) (later : router.Extends after)
    (answerable : router.Answerable station sent)
    (answers : answer.Answers sent.npdu data) : Routing.Meant after ⟨sent.port, mac⟩ answer := by
  have source := sends.source
  by_cases primary : sent.port = primaryPort
  · rw [if_pos primary] at source
    exact .inl ⟨primary, answers.destination.trans source⟩
  · rw [if_neg primary] at source
    obtain ⟨own, known⟩ := Option.isSome_iff_exists.mp (answerable.named.resolve_left primary)
    refine .inr ⟨primary, own, ?_, answers.destination.trans known⟩
    exact later.ownAddress?_eq (source.symm.trans known)

/-- The answer comes from the station. -/
theorem deliverySource_eq (sends : router.SendsTo station sent mac) (later : router.Extends after)
    (answerable : router.Answerable station sent)
    (answers : answer.Answers sent.npdu data) :
    after.deliverySource ⟨sent.port, mac⟩ answer = station := by
  unfold deliverySource
  rw [answers.source]
  rcases sends.addressee with far | ⟨near, rfl, home⟩
  · rw [far]
  · rw [near]
    dsimp only
    rcases home with ⟨primary, own⟩ | ⟨secondary, number⟩
    · have unnumbered : station.isLocal = true := by
        rcases of_decide_eq_true own with unnumbered | numbered
        · exact unnumbered
        · exact answerable.foreign.resolve_right fun other => other numbered.symm
      have address : Address.ofMac station.mac = station :=
        congrArg (Address.mk · station.mac) (eq_of_beq unnumbered).symm
      cases after.network? sent.port with
      | none => exact address
      | some network =>
        dsimp only
        rw [if_pos primary]
        exact address
    · rw [later.network?_eq number]
      exact if_neg secondary

end Router.SendsTo

/-- The answer to an application message is handed to the application once, as one from the station
to which the message was sent, whatever has happened to the router in the meantime. -/
theorem Relay.deliveries_answer {router : Router} {station : Address} {sent : Transmission}
    {mac data : Octets} (sends : router.SendsTo station sent mac)
    (answerable : router.Answerable station sent)
    {relay : Relay} (later : router.Extends relay.router) {answer : Npdu}
    (answers : answer.Answers sent.npdu data) (now : Nat) :
    Routing.deliveries (relay.step now (.receive ⟨sent.port, mac⟩ answer)).outputs =
      [(station, data)] := by
  have received := @Routing.deliveries_receive (.start relay.router relay.timers)
    ⟨sent.port, mac⟩ answer data answers.body (later.attached _ sends.attached)
    (sends.meant later answerable answers) now
  exact received.trans (congrArg (fun source => [(source, data)])
    (sends.deliverySource_eq later answerable answers))

end BACnet
