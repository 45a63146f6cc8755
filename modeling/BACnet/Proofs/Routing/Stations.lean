import BACnet.Proofs.Routing.Replies
import BACnet.Proofs.Routing.ReversePath

/-!
# Traffic of other stations

A router delivers a message to a station of an attached network only if it is that station itself,
and sends it on to the station otherwise (`Relay.carriesTo_iff`): to one behind another link than
the first always, and to one on the first network if its own address there has been set up. If this
address has not been set up then it takes every station of the first network for itself
(`Relay.keeps_of_unknown_mac`).
-/

namespace BACnet

/-! ## Own addresses -/

/-- The address of the device on a link, if it is known. -/
def Router.mac? (router : Router) (port : PortId) : Option Octets :=
  (router.port? port).bind (·.mac)

namespace Router

theorem SameLinks.mac?_eq {before after : Router} (same : before.SameLinks after) (port : PortId) :
    after.mac? port = before.mac? port := by
  rw [mac?, mac?, same.port?_eq]

theorem mac?_learnNetwork (router : Router) (port : PortId) (network : UInt16) (other : PortId) :
    (router.learnNetwork port network).mac? other = router.mac? other := by
  unfold mac? port? learnNetwork
  dsimp only
  rw [List.getElem?_modify]
  cases router.ports[other.toNat]? with
  | none => rfl
  | some link => split <;> rfl

theorem mac?_new (ports : List PortConfig) (config : RouterConfig) :
    (new ports config).mac? primaryPort = ports.head?.bind (·.mac) := by
  cases ports <;> rfl

/-- A router is taken for a station that has its address, and for every station if it has none. -/
theorem isOwnMac_iff {router : Router} {mac : Octets} (station : mac ≠ []) :
    router.isOwnMac mac = true ↔ ∀ own, router.mac? primaryPort = some own → own = mac := by
  unfold isOwnMac mac?
  cases (router.port? primaryPort).bind (·.mac) <;> simp [station]

end Router

/-- The addresses of a device are those that have been set up. -/
theorem Relay.mac?_run (relay : Relay) (events : List (Nat × RelayEvent)) (port : PortId) :
    (relay.run events).router.mac? port = relay.router.mac? port := by
  induction events generalizing relay with
  | nil => rfl
  | cons entry rest ih =>
    refine (ih _).trans ?_
    rcases step_links relay entry.1 entry.2 with same | ⟨other, network, -, does⟩
    · exact same.mac?_eq port
    · rw [does]
      exact relay.router.mac?_learnNetwork other network port

/-! ## What becomes of a message -/

/-- The device keeps a message: it hands it to its application, if it is one for the application,
and to nobody else. -/
structure RelayStep.Keeps (result : RelayStep) (router : Router) (arrival : Arrival)
    (npdu : Npdu) : Prop where
  decision : result.decision = some .deliver
  delivers : Routing.deliveries result.outputs =
    match npdu.body with
    | .apdu data => [(router.deliverySource arrival npdu, data)]
    | .network _ => []

/-- The device sends a message on to a station: one copy of it on the link behind which the network
of the station lies. It hands nothing to its application. What it sends besides are messages that
have waited for the network from which this message has come, and these leave towards there. -/
structure RelayStep.CarriesTo (result : RelayStep) (router : Router) (arrival : Arrival)
    (npdu : Npdu) (station : Address) : Prop where
  decision : result.decision = some .forward
  delivers : Routing.deliveries result.outputs = []
  copy : ∃ released port copy,
    result.outputs = released ++ [.transmit ⟨port, .unicast station.mac, copy⟩] ∧
      router.network? port = some station.network ∧ router.Copies arrival npdu copy ∧
      port ≠ arrival.port ∧ router.Released arrival npdu released

/-- A message from a station that may pass and that is to a station of another attached network than
that on which it has come. Its source has a name. -/
structure Router.Crosses (router : Router) (arrival : Arrival) (npdu : Npdu)
    (station : Address) : Prop where
  valid : arrival.port ∈ router.portIds
  addressed : arrival.mac ≠ []
  hops : npdu.hopCount ≠ 0
  destination : npdu.destination = some station
  unicast : station.mac ≠ []
  single : station.network ≠ Address.globalNetwork
  attached : ∃ port, router.network? port = some station.network
  elsewhere : router.network? arrival.port ≠ some station.network
  named : npdu.source.isSome = true ∨ (router.network? arrival.port).isSome = true

namespace Router.Crosses

variable {router : Router} {arrival : Arrival} {npdu : Npdu} {station : Address}

theorem remote (crosses : router.Crosses arrival npdu station) : station.isGlobal = false := by
  simpa [Address.isGlobal] using crosses.single

end Router.Crosses

theorem Routing.deliveries_of_released {router : Router} {arrival : Arrival} {npdu : Npdu}
    {released : List RouterOutput} (waited : router.Released arrival npdu released) :
    deliveries released = [] := by
  apply deliveries_eq_nil
  intro output member
  obtain ⟨source, message, -, -, rfl⟩ := waited output member
  rfl

namespace Relay

variable {relay : Relay} {arrival : Arrival} {npdu : Npdu} {station : Address}

/-- A message to a station of the first network that may be this device is kept. -/
theorem keeps_of_own (crosses : relay.router.Crosses arrival npdu station)
    (home : relay.router.network? primaryPort = some station.network)
    (own : relay.router.isOwnMac station.mac = true) (now : Nat) :
    (relay.step now (.receive arrival npdu)).Keeps relay.router arrival npdu := by
  let state := Routing.start relay.router relay.timers
  have links : relay.router.SameLinks (state.learnSource now arrival npdu).router :=
    Routing.sameLinks_learnSource state now arrival npdu
  have near := Router.directPort?_of_primary home
  have elsewhere : primaryPort ≠ arrival.port := fun same => crosses.elsewhere (same ▸ home)
  have received : state.receive now arrival npdu =
      (.deliver, (state.learnSource now arrival npdu).deliver now arrival npdu) := by
    have single : station.isBroadcast ≠ true := by
      simpa [Address.isBroadcast] using crosses.unicast
    rw [@Routing.receive_remote state arrival npdu _ crosses.valid crosses.destination
      crosses.remote, Routing.receiveRemote, links.directPort?_eq, near]
    dsimp only
    rw [Routing.receiveAttached, if_neg elsewhere, links.isOwnMac_eq, if_pos ⟨rfl, own⟩]
    exact if_neg single
  have learned : Routing.deliveries (state.learnSource now arrival npdu).outputs = [] :=
    Routing.deliveries_learnSource state now arrival npdu
  have delivered : (relay.step now (.receive arrival npdu)).outputs =
      ((state.learnSource now arrival npdu).deliver now arrival npdu).outputs :=
    congrArg (fun result : RoutingDecision × Routing => result.2.outputs) received
  refine ⟨congrArg (fun result : RoutingDecision × Routing => some result.1) received, ?_⟩
  rw [delivered]
  cases body : npdu.body with
  | apdu data =>
    rw [Routing.deliveries_deliver body, learned, links.deliverySource_eq]
    rfl
  | network message =>
    rw [Routing.deliver, body]
    exact (Routing.deliveries_handleMessage ..).trans learned

/-- A message to another station leaves for this station. -/
theorem carriesTo_of_other (crosses : relay.router.Crosses arrival npdu station)
    (other : ¬(relay.router.network? primaryPort = some station.network ∧
      relay.router.isOwnMac station.mac = true)) (now : Nat) :
    (relay.step now (.receive arrival npdu)).CarriesTo relay.router arrival npdu station := by
  obtain ⟨behind, number⟩ := crosses.attached
  obtain ⟨port, attached, home⟩ := Router.exists_directPort? number
  have elsewhere : port ≠ arrival.port := fun same => crosses.elsewhere (same ▸ home)
  obtain ⟨forwards, released, passed, outputs, waited, passes⟩ :=
    exists_step_of_attached crosses.valid crosses.addressed crosses.destination crosses.remote
      crosses.hops crosses.named attached elsewhere
      (fun ⟨first, own⟩ => other ⟨first ▸ home, own⟩) crosses.unicast now
  refine ⟨forwards, ?_, released, port, _, outputs, home, passes.copies_near ?_, elsewhere, waited⟩
  · rw [outputs, Routing.deliveries_append, Routing.deliveries_of_released waited]
    rfl
  · simp [Router.attaches, crosses.destination, crosses.remote, attached]

/-- A message to the station that has the address of this device on the first network is kept. One to
another station is sent on to it, and to nobody else, if and only if that station is not on the
first network or the address of this device there has been set up. -/
theorem carriesTo_iff (ports : List PortConfig) (config : RouterConfig)
    (events : List (Nat × RelayEvent)) (now : Nat) (arrival : Arrival) (npdu : Npdu)
    (station : Address)
    (crosses : ((new ports config).run events).router.Crosses arrival npdu station) :
    let relay := (new ports config).run events
    let result := relay.step now (.receive arrival npdu)
    let home := relay.router.network? primaryPort = some station.network
    let own := ports.head?.bind (·.mac)
    (home ∧ own = some station.mac → result.Keeps relay.router arrival npdu) ∧
      (¬(home ∧ own = some station.mac) →
        (result.CarriesTo relay.router arrival npdu station ↔ (home → own.isSome = true))) := by
  intro relay result home own
  have mac : relay.router.mac? primaryPort = own :=
    (mac?_run (new ports config) events primaryPort).trans (Router.mac?_new ports config)
  have taken := @Router.isOwnMac_iff relay.router _ crosses.unicast
  rw [mac] at taken
  refine ⟨fun ⟨here, same⟩ => ?_, fun foreign => ⟨fun carries here => ?_, fun known => ?_⟩⟩
  · refine keeps_of_own crosses here (taken.mpr fun address known => ?_) now
    exact Option.some.inj (known.symm.trans same)
  · by_contra unknown
    have none := Option.not_isSome_iff_eq_none.mp unknown
    have keeps := keeps_of_own crosses here
      (taken.mpr fun address known => nomatch none.symm.trans known) now
    cases keeps.decision.symm.trans carries.decision
  · refine carriesTo_of_other crosses (fun ⟨here, kept⟩ => foreign ⟨here, ?_⟩) now
    obtain ⟨address, known⟩ := Option.isSome_iff_exists.mp (known here)
    exact known.trans (congrArg some (taken.mp kept address known))

/-- A message from the station 11 of network 2 to the station 12 of network 1. -/
def inquiryAcross : Npdu := ⟨.normal, false, some ⟨1, [12]⟩, none, 255, .apdu [16, 8]⟩

/-- A router with the address 10 on the first network that has been told the number of the other. -/
theorem carriesTo_iff_toldNumber :
    let relay := (new [⟨some 1, some [10]⟩, ⟨none, none⟩] .standard).run
      [(0, .receive ⟨1, [13]⟩ (.ofMessage (.networkNumberIs 2 true)))]
    relay.router.Crosses ⟨1, [11]⟩ inquiryAcross ⟨1, [12]⟩ ∧
      (relay.step 1 (.receive ⟨1, [11]⟩ inquiryAcross)).CarriesTo relay.router ⟨1, [11]⟩
        inquiryAcross ⟨1, [12]⟩ := by
  intro relay
  have crosses : relay.router.Crosses ⟨1, [11]⟩ inquiryAcross ⟨1, [12]⟩ :=
    { valid := by decide, addressed := by decide, hops := by decide, destination := rfl,
      unicast := by decide, single := by decide, attached := ⟨0, by decide⟩,
      elsewhere := by decide, named := by decide }
  have foreign := (carriesTo_iff [⟨some 1, some [10]⟩, ⟨none, none⟩] .standard _ 1 _ _ _ crosses).2
  exact ⟨crosses, (foreign (by decide)).mpr fun _ => rfl⟩

/-- The set-up is valid, but a router that does not know its own address on the first network takes
the station 12 there for itself. -/
theorem keeps_of_unknown_mac :
    let config : Config := { Config.standard with ports := [⟨some 1, none⟩, ⟨some 2, none⟩] }
    let relay := new config.ports config.router
    let result := relay.step 0 (.receive ⟨1, [11]⟩ inquiryAcross)
    config.validate = .ok () ∧ relay.router.Crosses ⟨1, [11]⟩ inquiryAcross ⟨1, [12]⟩ ∧
      config.ports.head?.bind (·.mac) ≠ some [12] ∧
      result.outputs = [.deliver ⟨2, [11]⟩ [16, 8] false .normal] ∧
      ¬result.CarriesTo relay.router ⟨1, [11]⟩ inquiryAcross ⟨1, [12]⟩ := by
  intro config relay result
  have crosses : relay.router.Crosses ⟨1, [11]⟩ inquiryAcross ⟨1, [12]⟩ :=
    { valid := by decide, addressed := by decide, hops := by decide, destination := rfl,
      unicast := by decide, single := by decide, attached := ⟨0, by decide⟩,
      elsewhere := by decide, named := by decide }
  refine ⟨rfl, crosses, by decide, by decide, fun carries => ?_⟩
  have kept : result.decision = some .deliver := by decide
  cases kept.symm.trans carries.decision

end Relay

end BACnet
