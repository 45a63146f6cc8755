import BACnet.Proofs.Routing.Links

/-!
# Network numbers

A set-up names every network by one number, and by none that is reserved. The number of a network
that has been left open is told by a message, and a router takes it over unseen. So the numbers of
its links are those that a set-up may have exactly as long as every number that it has been told was
one (`Relay.wellNumbered_run_iff`).
-/

namespace BACnet

namespace Config

theorem validateNetworks_eq_ok_iff (isRouter : Bool) (seen networks : List UInt16) :
    validateNetworks isRouter seen networks = .ok () ↔
      networks.Nodup ∧ ∀ network ∈ networks, network ∉ seen ∧
        network ≠ Address.globalNetwork ∧ (isRouter = true → network ≠ Address.localNetwork) := by
  induction networks generalizing seen with
  | nil => simp [validateNetworks]
  | cons network rest ih =>
    unfold validateNetworks
    split
    · next reserved =>
      simp only [reduceCtorEq, false_iff, List.forall_mem_cons]
      rintro ⟨-, ⟨-, single, named⟩, -⟩
      rcases reserved with rfl | ⟨rfl, routes⟩
      · exact single rfl
      · exact named routes rfl
    · next free =>
      split
      · next old => simp [old]
      · next new =>
        rw [ih]
        grind

/-- A set-up that can work has links, and the numbers of their networks are in order. -/
theorem links_of_validate {config : Config} (valid : config.validate = .ok ()) :
    config.ports ≠ [] ∧ validateNetworks config.isRouter [] config.networks = .ok () := by
  unfold validate at valid
  cases links : config.ports with
  | nil => simp [links, bind, Except.bind] at valid
  | cons first rest =>
    refine ⟨nofun, ?_⟩
    cases checked : validateNetworks config.isRouter [] config.networks with
    | ok => rfl
    | error error => simp [links, checked, bind, Except.bind] at valid

end Config

namespace Router

variable {router : Router}

/-- The network numbers that are known, in the order of the links. -/
def networks (router : Router) : List UInt16 := router.ports.filterMap (·.network)

/-- The networks have different numbers, and none that is reserved. -/
structure WellNumbered (router : Router) : Prop where
  distinct : router.networks.Nodup
  notGlobal : Address.globalNetwork ∉ router.networks
  notLocal : router.isRouter = true → Address.localNetwork ∉ router.networks

/-- These are the conditions on the numbers of a set-up. -/
theorem wellNumbered_iff : router.WellNumbered ↔
    Config.validateNetworks router.isRouter [] router.networks = .ok () := by
  rw [Config.validateNetworks_eq_ok_iff]
  constructor
  · rintro ⟨distinct, notGlobal, notLocal⟩
    refine ⟨distinct, ?_⟩
    intro network known
    refine ⟨List.not_mem_nil, ?_, ?_⟩
    · rintro rfl
      exact notGlobal known
    · rintro routes rfl
      exact notLocal routes known
  · rintro ⟨distinct, allowed⟩
    refine ⟨distinct, ?_, ?_⟩
    · intro known
      exact (allowed _ known).2.1 rfl
    · intro routes known
      exact (allowed _ known).2.2 routes rfl

theorem wellNumbered_new {config : Config} (valid : config.validate = .ok ()) :
    (new config.ports config.router).WellNumbered := by
  have networks : (new config.ports config.router).networks = config.networks :=
    List.filterMap_map ..
  have isRouter : (new config.ports config.router).isRouter = config.isRouter := by
    simp [new, Router.isRouter, Config.isRouter]
  rw [wellNumbered_iff, networks, isRouter]
  exact (Config.links_of_validate valid).2

/-- A further network may have this number. -/
structure Admits (router : Router) (network : UInt16) : Prop where
  new : network ∉ router.networks
  notGlobal : network ≠ Address.globalNetwork
  notLocal : router.isRouter = true → network ≠ Address.localNetwork

/-! ## A number is told -/

theorem isRouter_learnNetwork (router : Router) (port : PortId) (network : UInt16) :
    (router.learnNetwork port network).isRouter = router.isRouter := by
  simp [learnNetwork, isRouter]

theorem filterMap_network_modify {links : List Port} {index : Nat} {link : Port}
    (found : links[index]? = some link) (unknown : link.network = none) (network : UInt16) :
    ((links.modify index fun link =>
      { link with network := link.network <|> some network }).filterMap (·.network)).Perm
        (network :: links.filterMap (·.network)) := by
  induction links generalizing index with
  | nil => simp at found
  | cons first rest ih =>
    cases index with
    | zero =>
      simp only [List.getElem?_cons_zero, Option.some.injEq] at found
      subst found
      simp [unknown]
    | succ index =>
      have inRest := ih (by simpa using found)
      rw [List.modify_succ_cons]
      cases number : first.network with
      | none => simpa [number] using inRest
      | some current => simpa [number] using (inRest.cons current).trans (.swap network current _)

/-- The number of an open network joins the others. -/
theorem networks_learnNetwork {port : PortId} (unknown : router.Open port) (network : UInt16) :
    (router.learnNetwork port network).networks.Perm (network :: router.networks) := by
  obtain ⟨link, found, number⟩ := unknown
  exact filterMap_network_modify found number network

theorem wellNumbered_learnNetwork_iff (port : PortId) (network : UInt16) :
    (router.learnNetwork port network).WellNumbered ↔
      router.WellNumbered ∧ (router.Open port → router.Admits network) := by
  by_cases unknown : router.Open port
  · have joined := networks_learnNetwork unknown network
    have members (number : UInt16) : number ∈ (router.learnNetwork port network).networks ↔
        number = network ∨ number ∈ router.networks := by
      rw [joined.mem_iff, List.mem_cons]
    have routes := router.isRouter_learnNetwork port network
    constructor
    · rintro ⟨distinct, notGlobal, notLocal⟩
      rw [joined.nodup_iff, List.nodup_cons] at distinct
      rw [members, not_or] at notGlobal
      rw [routes, members, not_or] at notLocal
      exact ⟨⟨distinct.2, notGlobal.2, fun routing => (notLocal routing).2⟩, fun _ =>
        ⟨distinct.1, Ne.symm notGlobal.1, fun routing => Ne.symm (notLocal routing).1⟩⟩
    · rintro ⟨⟨distinct, notGlobal, notLocal⟩, admits⟩
      obtain ⟨new, single, named⟩ := admits unknown
      refine ⟨?_, ?_, ?_⟩
      · rw [joined.nodup_iff, List.nodup_cons]
        exact ⟨new, distinct⟩
      · rw [members, not_or]
        exact ⟨single.symm, notGlobal⟩
      · intro routing
        rw [members, not_or]
        rw [routes] at routing
        exact ⟨(named routing).symm, notLocal routing⟩
  · rw [learnNetwork_of_not_open unknown]
    simp [unknown]

theorem WellNumbered.of_sameLinks {before after : Router} (wellNumbered : before.WellNumbered)
    (same : before.SameLinks after) : after.WellNumbered := by
  obtain ⟨distinct, notGlobal, notLocal⟩ := wellNumbered
  have networks : after.networks = before.networks := by
    rw [Router.networks, same.ports, Router.networks]
  rw [← networks] at distinct notGlobal notLocal
  rw [← same.isRouter_eq] at notLocal
  exact ⟨distinct, notGlobal, notLocal⟩

end Router

/-! ## Runs -/

/-- A number that is told is taken over, and nothing else comes of it. -/
theorem Routing.router_receive_of_tells {state : Routing} {arrival : Arrival} {npdu : Npdu}
    {network : UInt16} (told : npdu.tells? = some network) (now : Nat) :
    (state.receive now arrival npdu).2.router = state.router.learnNetwork arrival.port network := by
  obtain ⟨sourceless, near, configured, body⟩ := Npdu.tells?_eq_some told
  cases found : state.router.port? arrival.port with
  | none =>
    rw [Router.learnNetwork_of_not_open (by simp [Router.Open, found])]
    simp [receive, found, emit]
  | some link =>
    simp [receive, found, learnSource, receiveLocal, deliver, handleMessage, sourceless, near, body,
      NpduBody.isNetwork, mapRouter]

namespace Relay

variable {relay : Relay}

theorem router_step_of_tells {event : RelayEvent} {port : PortId} {network : UInt16}
    (told : event.tells? = some (port, network)) (now : Nat) :
    (relay.step now event).relay.router = relay.router.learnNetwork port network := by
  cases event with
  | receive arrival npdu =>
    obtain ⟨number, tells, same⟩ := Option.map_eq_some_iff.mp told
    cases same
    exact Routing.router_receive_of_tells tells now
  | send _ _ | expireRoutes | expire | schedule _ _ | cancel _ => cases told

/-- If an event tells the number of an open network, this network may have it. -/
def TellsSoundly (router : Router) (event : RelayEvent) : Prop :=
  ∀ port network, event.tells? = some (port, network) → router.Open port → router.Admits network

/-- Every number that is told for an open network is one that this network may have. -/
def ToldSoundly (relay : Relay) : List (Nat × RelayEvent) → Prop
  | [] => True
  | (now, event) :: rest =>
    TellsSoundly relay.router event ∧ (relay.step now event).relay.ToldSoundly rest

theorem wellNumbered_step_iff (relay : Relay) (now : Nat) (event : RelayEvent) :
    (relay.step now event).relay.router.WellNumbered ↔
      relay.router.WellNumbered ∧ TellsSoundly relay.router event := by
  cases told : event.tells? with
  | none =>
    have untold : TellsSoundly relay.router event := by
      intro port network tells
      rw [told] at tells
      cases tells
    rcases step_links relay now event with same | ⟨port, network, tells, -⟩
    · exact ⟨fun after => ⟨after.of_sameLinks same.symm, untold⟩, fun before =>
        before.1.of_sameLinks same⟩
    · rw [told] at tells
      cases tells
  | some number =>
    obtain ⟨port, network⟩ := number
    rw [router_step_of_tells told, Router.wellNumbered_learnNetwork_iff]
    simp [TellsSoundly, told]

/-- The network numbers of the links stay as a set-up may have them exactly as long as every number
that is told for an open network is one that this network may have. -/
theorem wellNumbered_run_iff {config : Config} (valid : config.validate = .ok ())
    (events : List (Nat × RelayEvent)) :
    ((new config.ports config.router).run events).router.WellNumbered ↔
      (new config.ports config.router).ToldSoundly events := by
  have runs (relay : Relay) : (relay.run events).router.WellNumbered ↔
      relay.router.WellNumbered ∧ relay.ToldSoundly events := by
    induction events generalizing relay with
    | nil => simp [run, ToldSoundly]
    | cons entry rest ih =>
      rw [run, ih, wellNumbered_step_iff, ToldSoundly, and_assoc]
  rw [runs]
  exact and_iff_right (Router.wellNumbered_new valid)

/-- A router between network 1 and a network whose number is still open. -/
def openLink : Config := { Config.standard with ports := [⟨some 1, none⟩, .unknown] }

/-- A number is told on the link to the open network. -/
def numberTold (network : UInt16) : List (Nat × RelayEvent) :=
  [(0, .receive ⟨1, [11]⟩ (.ofMessage (.networkNumberIs network true)))]

/-- The open network may have the number 5. -/
theorem wellNumbered_run_iff_otherNumber :
    openLink.validate = .ok () ∧
      ((new openLink.ports openLink.router).run (numberTold 5)).router.WellNumbered := by
  have sound : (new openLink.ports openLink.router).ToldSoundly (numberTold 5) := by
    refine ⟨?_, trivial⟩
    rintro port network ⟨⟩ -
    exact ⟨by decide, by decide, by decide⟩
  exact ⟨rfl, (wellNumbered_run_iff rfl _).mpr sound⟩

/-- It also takes over the number of the other network, the one that stands for all networks, and
the one that stands for the network of the sender. -/
theorem exists_wrong_number :
    openLink.validate = .ok () ∧
      ¬((new openLink.ports openLink.router).run (numberTold 1)).router.networks.Nodup ∧
      Address.globalNetwork ∈
        ((new openLink.ports openLink.router).run (numberTold 65535)).router.networks ∧
      ((new openLink.ports openLink.router).run (numberTold 0)).router.isRouter = true ∧
      Address.localNetwork ∈
        ((new openLink.ports openLink.router).run (numberTold 0)).router.networks := by
  exact ⟨rfl, by decide +kernel, by decide +kernel, by decide +kernel, by decide +kernel⟩

end Relay

end BACnet
