import BACnet.Proofs.Network.RoundTrip
import BACnet.Proofs.Routing.Stations

/-!
# Messages that can be written

Whatever a router puts on a link can be written in octets (`Relay.exists_encode_of_transmit`). It
takes the addresses of a message from one that it has read, from the link on which this one has come,
from the application, or from its set-up. Those that name a source are always names of single
stations: the networks of a router have numbers of their own, and the device has an address, if at
all, that is not the one of all stations (`Router.WellNamed`).
-/

namespace BACnet

/-! ## Names of stations -/

/-- The address names a single station, and can be sent as a source. -/
def Address.NamesStation (address : Address) : Prop :=
  address.network ≠ 0 ∧ address.network ≠ 65535 ∧ address.mac ≠ [] ∧ address.mac.length ≤ 255

/-- All networks have numbers, which are those that a set-up may give them, and the addresses of the
device there are such that can be sent. -/
structure Router.WellNamed (router : Router) : Prop extends router.WellNumbered where
  numbered : router.Numbered
  macs : ∀ port mac, router.mac? port = some mac → mac ≠ [] ∧ mac.length ≤ 255

namespace Router

variable {router : Router} {arrival : Arrival} {npdu : Npdu} {port : PortId} {network : UInt16}

theorem wellNamed_new {config : Config} (valid : config.validate = .ok ())
    (numbered : ∀ port ∈ config.ports, port.network.isSome = true)
    (macs : ∀ port ∈ config.ports, ∀ mac, port.mac = some mac → mac ≠ [] ∧ mac.length ≤ 255) :
    (new config.ports config.router).WellNamed := by
  refine { wellNumbered_new valid with numbered := ?_, macs := ?_ }
  · intro link member
    obtain ⟨port, present, rfl⟩ := List.mem_map.mp member
    exact numbered port present
  · intro port mac known
    obtain ⟨link, found, own⟩ := Option.bind_eq_some_iff.mp known
    obtain ⟨setup, present, rfl⟩ := List.mem_map.mp (List.mem_of_getElem? found)
    exact macs setup present mac own

theorem WellNamed.of_sameLinks {before after : Router} (named : before.WellNamed)
    (same : before.SameLinks after) : after.WellNamed := by
  refine { named.toWellNumbered.of_sameLinks same with
    numbered := named.numbered.of_sameLinks same
    macs := ?_ }
  intro port mac known
  rw [same.mac?_eq] at known
  exact named.macs port mac known

/-- A router has names for all stations on its links. -/
theorem WellNamed.namesStation (named : router.WellNamed) (routes : router.isRouter = true)
    (known : router.network? port = some network) {mac : Octets} (single : mac ≠ [])
    (short : mac.length ≤ 255) : Address.NamesStation ⟨network, mac⟩ := by
  obtain ⟨notGlobal, notLocal⟩ := network?_ne_of_wellNumbered named.toWellNumbered known
  exact ⟨notLocal routes, notGlobal, single, short⟩

theorem WellNamed.namesStation_ownAddress? (named : router.WellNamed)
    (routes : router.isRouter = true) {own : Address} (known : router.ownAddress? = some own) :
    own.NamesStation := by
  obtain ⟨link, found, number, mac⟩ := exists_of_ownAddress? known
  have home : router.network? primaryPort = some own.network := by
    rw [network?, found, Option.bind_some, number]
  obtain ⟨single, short⟩ := named.macs primaryPort own.mac (by
    rw [mac?, found, Option.bind_some, mac])
  exact named.namesStation routes home single short

end Router

/-! ## Messages that are put together -/

namespace Npdu.Addressable

variable {router : Router} {arrival : Arrival} {npdu : Npdu} {port : PortId}

/-- Without a source only the destination matters. -/
theorem of_sourceless (sourceless : npdu.source = none)
    (reachable : ∀ destination, npdu.destination = some destination →
      destination.network ≠ 0 ∧ destination.mac.length ≤ 255) : npdu.Addressable := by
  refine ⟨reachable, fun source named => ?_⟩
  rw [sourceless] at named
  cases named

theorem ofMessage (message : NetworkMessage) : (Npdu.ofMessage message).Addressable :=
  of_sourceless rfl (by simp [Npdu.ofMessage, ofBody])

/-- An answer to the source of a message can be sent. -/
theorem addressed_source (addressable : npdu.Addressable) {source : Address}
    (named : npdu.source = some source) (router : Router) (message : NetworkMessage) :
    (router.addressed source (.ofMessage message)).Addressable := by
  obtain ⟨single, -, -, short⟩ := addressable.source source named
  exact of_sourceless rfl (by simp [Router.addressed, single, short])

/-- A message can still be sent when the router has named itself as its source. It does so on its
links other than the first, with the messages of the application. -/
theorem stamp (addressable : npdu.Addressable) (fit : router.WellNamed)
    (valid : port ≠ primaryPort → npdu.body.isNetwork = false → port ∈ router.portIds) :
    (router.stamp port npdu).Addressable := by
  unfold Router.stamp
  split
  · next unnamed =>
    refine ⟨addressable.destination, fun own known => ?_⟩
    have present := valid unnamed.1 (Bool.eq_false_iff.mpr unnamed.2.2)
    have routes :=
      Router.isRouter_of_ne present (Router.primaryPort_mem_portIds present) unnamed.1
    exact fit.namesStation_ownAddress? routes known
  · exact addressable

/-- A message between routers carries no name of the one that sends it. -/
theorem stamp_network (addressable : npdu.Addressable) (network : npdu.body.isNetwork = true)
    (port : PortId) : (router.stamp port npdu).Addressable := by
  unfold Router.stamp
  rw [if_neg fun unnamed => unnamed.2.2 network]
  exact addressable

/-- A message can still be sent when it has passed a router. -/
theorem pass (addressable : npdu.Addressable) (fit : router.WellNamed)
    (routes : router.isRouter = true) (short : arrival.mac.length ≤ 255) {network : UInt16}
    {passed : Npdu} (result : (router.pass arrival npdu network).1 = some passed) :
    passed.Addressable := by
  unfold Router.pass at result
  split at result
  · cases result
  · unfold Router.nameSource? at result
    dsimp only at result
    split at result
    · cases result
      exact ⟨addressable.destination, addressable.source⟩
    · split at result
      · cases result
      · next number known =>
        split at result
        · cases result
        · next single =>
          cases result
          refine ⟨addressable.destination, ?_⟩
          rintro _ ⟨⟩
          exact fit.namesStation routes known (by simpa using single) short

end Npdu.Addressable

/-! ## Outputs -/

/-- All messages among the outputs can be written. -/
def Writable (outputs : List RouterOutput) : Prop := TransmitsOnly Npdu.Addressable outputs

namespace Writable

variable {router : Router} {arrival : Arrival} {npdu : Npdu}

theorem nil : Writable [] := TransmitsOnly.nil

theorem append {first second : List RouterOutput} (before : Writable first)
    (after : Writable second) : Writable (first ++ second) := TransmitsOnly.append before after

theorem failure (error : NetworkError) : Writable [.failure error] := TransmitsOnly.failure error

theorem transmission (port : PortId) (link : LinkDestination) (addressable : npdu.Addressable)
    (network : npdu.body.isNetwork = true) : Writable [router.transmission port link npdu] :=
  TransmitsOnly.transmission (addressable.stamp_network network port)

theorem broadcasts (ports : List PortId) (addressable : npdu.Addressable)
    (network : npdu.body.isNetwork = true) : Writable (router.broadcasts ports npdu) :=
  TransmitsOnly.broadcasts fun port _ => addressable.stamp_network network port

theorem queries (network : UInt16) (except : Option PortId) :
    Writable (router.queries network except) :=
  broadcasts _ (.ofMessage _) rfl

theorem reply (addressable : npdu.Addressable) (message : NetworkMessage) :
    Writable [router.reply arrival npdu message] := by
  unfold Router.reply
  cases named : npdu.source with
  | none => exact transmission _ _ (.ofMessage message) rfl
  | some source => exact transmission _ _ (addressable.addressed_source named router message) rfl

theorem reject (addressable : npdu.Addressable) (network : UInt16) (reason : RejectMessageReason) :
    Writable [router.reject arrival npdu network reason] := by
  unfold Router.reject
  cases named : npdu.source with
  | none => exact transmission _ _ (.ofMessage _) rfl
  | some source =>
    dsimp only
    split
    · exact transmission _ _ (.ofMessage _) rfl
    · exact transmission _ _ (addressable.addressed_source named router _) rfl

theorem pass (addressable : npdu.Addressable) (network : UInt16) :
    Writable (router.pass arrival npdu network).2 := by
  unfold Router.pass
  split
  · unfold Router.hopCountOutputs
    dsimp only
    split
    · exact (reject addressable network .other).append (failure _)
    · exact failure _
  · exact nil

/-- The question that a router repeats for someone else names this one. -/
theorem answerWhoIs (addressable : npdu.Addressable) (fit : router.WellNamed)
    (routes : router.isRouter = true) (short : arrival.mac.length ≤ 255)
    (network : Option UInt16) : Writable (router.answerWhoIs arrival npdu network) := by
  unfold Router.answerWhoIs
  dsimp only
  split
  · split
    · exact nil
    · exact broadcasts _ (.ofMessage _) rfl
  · split
    · exact broadcasts _ (.ofMessage _) rfl
    · split
      · exact nil
      · refine broadcasts _ ⟨by simp [Npdu.ofMessage, Npdu.ofBody], ?_⟩ rfl
        intro source named
        dsimp only at named
        rw [Option.orElse_eq_orElse, Option.orElse_eq_or, Option.or_eq_some_iff] at named
        rcases named with original | ⟨-, given⟩
        · exact addressable.source source original
        · split at given
          · next number known =>
            split at given
            · cases given
            · next single =>
              cases given
              exact fit.namesStation routes known (by simpa using single) short
          · cases given

theorem answerNetworkNumber (router : Router) (arrival : Arrival) (npdu : Npdu) :
    Writable (router.answerNetworkNumber arrival npdu) := by
  unfold Router.answerNetworkNumber
  split
  · exact nil
  · split
    · exact broadcasts _ (.ofMessage _) rfl
    · exact nil

theorem failureReports (router : Router) (network : UInt16) {waiting : List PendingNpdu}
    (addressable : ∀ message ∈ waiting, message.npdu.Addressable) :
    Writable (router.failureReports network waiting) := by
  unfold Router.failureReports
  refine append ?_ ?_
  · intro sent member
    obtain ⟨message, present, told⟩ := List.mem_filterMap.mp member
    split at told
    · split at told
      · exact reject (addressable message present) _ _ sent
          (List.mem_singleton.mpr (Option.some.inj told).symm)
      · cases told
    · cases told
  · split
    · exact failure _
    · exact nil

end Writable

/-! ## A router at work -/

/-- A message that can be sent has come on one of the links, from an address that can be sent. -/
structure Router.Hears (router : Router) (arrival : Arrival) (npdu : Npdu) : Prop where
  valid : arrival.port ∈ router.portIds
  addressable : npdu.Addressable
  short : arrival.mac.length ≤ 255

namespace Router

/-- The route leads over one of the links. -/
def LeadsOver (router : Router) (_ : UInt16) (route : Route) : Prop := route.port ∈ router.portIds

theorem Learns.leadsOver {router : Router} {offers : List (UInt16 × Arrival)} {network : UInt16}
    {route : Route} (learns : router.Learns offers network route) :
    router.LeadsOver network route :=
  mem_portIds.mpr learns.attached

end Router

namespace Routing

/-- What waits and what has been put out can be written. Routes lead over links of the router, which
has those of `known`. -/
structure Legible (known : Router) (state : Routing) : Prop where
  sameLinks : known.SameLinks state.router
  routes : ∀ network route, state.router.table.find? network = some route →
    known.LeadsOver network route
  waits : ∀ network, ∀ message ∈ state.router.waits network, message.npdu.Addressable
  outputs : Writable state.outputs

variable {known : Router} {state : Routing} {arrival : Arrival} {npdu : Npdu} {network : UInt16}

namespace Legible

theorem emit (legible : state.Legible known) {outputs : List RouterOutput}
    (writable : Writable outputs) : (state.emit outputs).Legible known :=
  ⟨legible.sameLinks, legible.routes, legible.waits, legible.outputs.append writable⟩

theorem mapTable (legible : state.Legible known) (change : RoutingTable → RoutingTable)
    (follows : state.router.table.Follows known.LeadsOver (change state.router.table)) :
    (state.mapRouter (·.mapTable change)).Legible known := by
  refine ⟨legible.sameLinks.trans ⟨rfl, rfl⟩, ?_, legible.waits, legible.outputs⟩
  intro network route found
  rcases follows.routes network route found with ⟨old, present, same, -⟩ | new
  · unfold Router.LeadsOver
    rw [← same]
    exact legible.routes network old present
  · exact new

/-- A message that joins a queue is one that can be written. -/
theorem insert (legible : state.Legible known) {queue : PendingQueue}
    (timers : TimerQueue TimerEvent)
    (addressable : ∀ message ∈ queue.waiting, message.npdu.Addressable) :
    Legible known { state with
      timers
      router := { state.router with pending := state.router.pending.insert network queue } } := by
  refine ⟨legible.sameLinks.trans ⟨rfl, rfl⟩, legible.routes, ?_, legible.outputs⟩
  intro other message member
  rcases Router.mem_waits_of_insert member with old | ⟨-, joined⟩
  · exact legible.waits other message old
  · exact addressable message joined

/-- Messages leave over links of the router. -/
theorem carries (legible : state.Legible known) (fit : known.WellNamed)
    {carry : Npdu → RouterOutput} (reached : state.router.carrier? network = some carry)
    (addressable : npdu.Addressable) : Writable [carry npdu] := by
  obtain ⟨port, link, leads, carries⟩ := Router.carrier?_eq reached npdu
  have valid : port ∈ state.router.portIds := by
    rcases leads with attached | ⟨route, found, rfl⟩
    · exact Router.mem_portIds_of_directPort? attached
    · rw [legible.sameLinks.portIds_eq]
      exact legible.routes network route found
  rw [carries]
  refine TransmitsOnly.transmission (.stamp ⟨?_, addressable.source⟩
    (fit.of_sameLinks legible.sameLinks) fun _ _ => valid)
  intro destination addressed
  split at addressed
  · cases addressed
  · exact addressable.destination destination addressed

end Legible

variable (fit : known.WellNamed)

theorem legible_enqueue (legible : state.Legible known) {message : PendingNpdu}
    (addressable : message.npdu.Addressable) (now : Nat) (ask : Bool) :
    (state.enqueue now network message ask).2.Legible known := by
  unfold enqueue
  split
  · exact legible.emit (.failure _)
  · split
    · next queue found =>
      refine legible.insert state.timers ?_
      intro other member
      rcases List.mem_append.mp member with old | new
      · exact legible.waits network other (by rwa [Router.waits_of_find? found])
      · rwa [List.mem_singleton.mp new]
    · have begun : (state.enqueueFirst now network message).Legible known := by
        refine legible.insert _ ?_
        intro other member
        rwa [List.mem_singleton.mp member]
      refine begun.emit ?_
      split
      · exact .queries _ _
      · exact .nil

include fit

theorem legible_forward (legible : state.Legible known) {message : PendingNpdu}
    (addressable : message.npdu.Addressable) (now : Nat) (network : UInt16) :
    (state.forward now network message).2.Legible known := by
  cases reached : state.router.carrier? network with
  | none =>
    rw [forward_of_not_reaches reached]
    exact legible_enqueue legible addressable now _
  | some carry =>
    rw [forward_of_carrier? reached]
    have asks : Writable (if state.router.doubts network then
        state.router.queries network (message.arrival.map (·.port)) else []) := by
      split
      · exact .queries _ _
      · exact .nil
    exact legible.emit ((legible.carries fit reached addressable).append asks)

theorem legible_flush (legible : state.Legible known) (now : Nat) (network : UInt16) :
    (state.flush now network).Legible known := by
  unfold flush
  split
  · exact legible
  · next queue found =>
    have dropped : (state.dropQueue network queue).Legible known := by
      refine ⟨legible.sameLinks.trans ⟨rfl, rfl⟩, legible.routes, ?_, legible.outputs⟩
      intro other message member
      exact legible.waits other message (Router.mem_waits_of_erase member)
    -- the messages are gone from the state to which they are sent again, but they waited before
    have addressable : ∀ message ∈ queue.waiting, message.npdu.Addressable := fun message member =>
      legible.waits network message (by rwa [Router.waits_of_find? found])
    refine List.foldlRecOn queue.waiting _ dropped ?_
    intro state legible message member
    exact legible_forward fit legible (addressable message member) now network

theorem legible_learn (legible : state.Legible known) (valid : arrival.port ∈ known.portIds)
    (now : Nat) (network : UInt16) : (state.learn now arrival network).Legible known := by
  rw [learn_eq]
  split
  · exact legible
  · have learned := legible.mapTable (fun table => table.insert network
      ⟨arrival.port, arrival.mac, .reachable, now⟩) (.insert _ (.inl valid))
    exact legible_flush fit learned now network

theorem legible_foldl_learn (legible : state.Legible known) (valid : arrival.port ∈ known.portIds)
    (now : Nat) (networks : List UInt16) :
    (networks.foldl (fun state network => state.learn now arrival network) state).Legible known :=
  List.foldlRecOn networks _ legible fun _ legible network _ =>
    legible_learn fit legible valid now network

theorem legible_takeAnnouncement (legible : state.Legible known)
    (valid : arrival.port ∈ known.portIds) (now : Nat) (networks : List UInt16) :
    (state.takeAnnouncement now arrival networks).Legible known := by
  have learned := legible_foldl_learn fit legible valid now networks
  unfold takeAnnouncement
  dsimp only
  split
  · exact learned.emit (.broadcasts _ (.ofMessage _) rfl)
  · exact learned

theorem legible_makeAvailable (legible : state.Legible known) (now : Nat)
    (networks : List UInt16) : (state.makeAvailable now networks).Legible known :=
  List.foldlRecOn networks _ legible fun _ legible network _ =>
    legible_flush fit (legible.mapTable _ (.refresh _ _ network now)) now network

omit fit in
theorem legible_applyTable (legible : state.Legible known) (valid : arrival.port ∈ known.portIds)
    (now : Nat) (lines : List RoutingTablePort) :
    (state.mapRouter (·.applyTable now arrival lines)).Legible known := by
  obtain ⟨table, applied, -⟩ := state.router.applyTable_spec now arrival lines
  have result : state.router.applyTable now arrival lines = state.router.mapTable fun _ => table :=
    applied state.router.pending
  have follows : state.router.table.Follows known.LeadsOver table := by
    have taught := @follows_applyTable _ (lines.map fun line => (line.network, arrival)) _ now
      state.router legible.sameLinks (Router.mem_portIds.mp valid) lines fun line member _ =>
        List.mem_map.mpr ⟨line, member, rfl⟩
    rw [result] at taught
    exact taught.mono fun _ _ => Router.Learns.leadsOver
  have learned := legible.mapTable (fun _ => table) follows
  rw [mapRouter, ← result] at learned
  exact learned

omit fit in
theorem legible_initializeTable (legible : state.Legible known) (hears : known.Hears arrival npdu)
    (now : Nat) (lines : List RoutingTablePort) :
    (state.initializeTable now arrival npdu lines).Legible known := by
  unfold initializeTable
  split
  · exact legible
  · split
    · exact legible.emit (.reply hears.addressable _)
    · exact (legible_applyTable legible hears.valid now lines).emit (.reply hears.addressable _)

/-- Where all numbers are known, none is learned. -/
theorem legible_handleMessage (legible : state.Legible known) (hears : known.Hears arrival npdu)
    (now : Nat) (message : NetworkMessage) :
    (state.handleMessage now arrival npdu message).Legible known := by
  have own := fit.of_sameLinks legible.sameLinks
  obtain ⟨valid, addressable, short⟩ := hears
  cases message with
  | whoIsRouterToNetwork network =>
    unfold handleMessage
    dsimp only
    split
    · next routes => exact legible.emit (.answerWhoIs addressable own routes short network)
    · exact legible
  | iAmRouterToNetwork networks => exact legible_takeAnnouncement fit legible valid now networks
  | rejectMessageToNetwork reason network =>
    exact (legible.mapTable _ (.setStatus _ _ network _)).emit (.failure _)
  | routerBusyToNetwork networks =>
    refine legible.mapTable _ ?_
    have busy := @follows_setBusy known [] (state.router.concerned arrival networks)
      state.router.table
    exact busy.mono fun _ _ => Router.Learns.leadsOver
  | routerAvailableToNetwork networks => exact legible_makeAvailable fit legible now _
  | initializeRoutingTable lines =>
    exact legible_initializeTable legible ⟨valid, addressable, short⟩ now lines
  | initializeRoutingTableAck lines => exact legible_applyTable legible valid now lines
  | whatIsNetworkNumber => exact legible.emit (.answerNetworkNumber _ arrival npdu)
  | networkNumberIs network configured =>
    unfold handleMessage
    dsimp only
    split
    · exact legible
    · have unchanged := own.numbered.learnNetwork_eq arrival.port network
      exact (congrArg (fun router => Legible known { state with router }) unchanged).mpr legible
  | other type data =>
    unfold handleMessage
    dsimp only
    split
    · exact legible
    · exact legible.emit (.reply addressable _)
  | iCouldBeRouterToNetwork _ _ | establishConnectionToNetwork _ _
  | disconnectConnectionToNetwork _ | proprietary _ _ _ => exact legible

theorem legible_deliver (legible : state.Legible known) (hears : known.Hears arrival npdu)
    (now : Nat) : (state.deliver now arrival npdu).Legible known := by
  unfold deliver
  split
  · refine legible.emit ?_
    intro sent member
    cases List.mem_singleton.mp member
  · exact legible_handleMessage fit legible hears now _

theorem legible_learnSource (legible : state.Legible known) (valid : arrival.port ∈ known.portIds)
    (now : Nat) (npdu : Npdu) : (state.learnSource now arrival npdu).Legible known := by
  unfold learnSource
  split
  · exact legible
  · split
    · exact legible
    · exact legible_learn fit legible valid now _

/-! ## Messages from links -/

theorem legible_forwardArrival (legible : state.Legible known) (hears : known.Hears arrival npdu)
    (routes : known.isRouter = true) (now : Nat) (network : UInt16) :
    (state.forwardArrival now arrival npdu network).2.Legible known := by
  have own := fit.of_sameLinks legible.sameLinks
  rw [← legible.sameLinks.isRouter_eq] at routes
  unfold forwardArrival
  dsimp only
  have told : (state.emit (state.router.pass arrival npdu network).2).Legible known :=
    legible.emit (.pass hears.addressable network)
  split
  · exact told
  · next passed passes =>
    exact legible_forward fit told (hears.addressable.pass own routes hears.short passes) now network

theorem legible_receiveGlobal (legible : state.Legible known) (hears : known.Hears arrival npdu)
    (now : Nat) : (state.receiveGlobal now arrival npdu).2.Legible known := by
  have delivered := legible_deliver fit legible hears now
  have own := fit.of_sameLinks delivered.sameLinks
  unfold receiveGlobal
  dsimp only
  split
  · next routes =>
    refine delivered.emit ((Writable.pass hears.addressable _).append ?_)
    split
    · exact .nil
    · next passed passes =>
      have passing := hears.addressable.pass own routes hears.short passes
      refine TransmitsOnly.broadcasts fun port other => passing.stamp own fun _ _ => ?_
      exact (Router.mem_otherPorts.mp other).1
  · exact delivered

/-- A message that is to go on to another link has come to a router. -/
theorem legible_receiveAttached (legible : state.Legible known) (hears : known.Hears arrival npdu)
    (now : Nat) (destination : Address) {target : PortId} (attached : target ∈ known.portIds) :
    (state.receiveAttached now arrival npdu destination target).2.Legible known := by
  have delivered := legible_deliver fit legible hears now
  unfold receiveAttached
  dsimp only
  split
  · split
    · exact delivered
    · exact legible
  · next elsewhere =>
    have routes := Router.isRouter_of_ne attached hears.valid elsewhere
    split
    · split
      · exact legible_forwardArrival fit delivered hears routes now _
      · exact delivered
    · exact legible_forwardArrival fit legible hears routes now _

theorem legible_receiveRemote (legible : state.Legible known) (hears : known.Hears arrival npdu)
    (now : Nat) (destination : Address) :
    (state.receiveRemote now arrival npdu destination).2.Legible known := by
  unfold receiveRemote
  split
  · next target attached =>
    rw [legible.sameLinks.directPort?_eq] at attached
    exact legible_receiveAttached fit legible hears now destination
      (Router.mem_portIds_of_directPort? attached)
  · split
    · next routes =>
      rw [legible.sameLinks.isRouter_eq] at routes
      exact legible_forwardArrival fit legible hears routes now _
    · exact legible

theorem legible_receive (legible : state.Legible known) (addressable : npdu.Addressable)
    (short : arrival.mac.length ≤ 255) (now : Nat) :
    (state.receive now arrival npdu).2.Legible known := by
  unfold receive
  split
  · exact legible.emit (.failure _)
  · next present =>
    have valid : arrival.port ∈ known.portIds := by
      rw [Router.mem_portIds, ← legible.sameLinks.port?_eq]
      simpa [Option.isSome_iff_ne_none] using present
    have hears : known.Hears arrival npdu := ⟨valid, addressable, short⟩
    have learned := legible_learnSource fit legible valid now npdu
    dsimp only
    split
    · unfold receiveLocal
      split
      · exact legible_deliver fit learned hears now
      · exact learned
    · split
      · exact legible_receiveGlobal fit learned hears now
      · exact legible_receiveRemote fit learned hears now _

/-! ## Messages of the application -/

theorem legible_dispatch (legible : state.Legible known) {destination : Address}
    (short : destination.mac.length ≤ 255) (now : Nat) (message : Outgoing) :
    (state.dispatch now destination message).Legible known := by
  have own := fit.of_sameLinks legible.sameLinks
  unfold dispatch
  dsimp only
  split
  · refine legible.emit (TransmitsOnly.transmission (.stamp (.of_sourceless rfl (by simp)) own ?_))
    exact fun elsewhere => absurd rfl elsewhere
  · next far =>
    have reachable : destination.network ≠ 0 := by
      intro here
      exact far (.inl (by simp [Address.isLocal, Address.localNetwork, here]))
    have addressable : Npdu.Addressable ⟨message.priority, message.expectingReply,
        some destination, none, state.router.config.initialHopCount, message.body⟩ :=
      .of_sourceless rfl (by simp [reachable, short])
    split
    · refine legible.emit (TransmitsOnly.broadcasts fun port valid => ?_)
      exact addressable.stamp own fun _ _ => valid
    · exact legible_forward fit legible addressable now _

end Routing

/-! ## Runs -/

/-- A message from a link has been read from octets, and no address that comes with the event is too
long to be sent. -/
def RelayEvent.Regular : RelayEvent → Prop
  | receive arrival npdu => (∃ octets, Npdu.decode octets = .ok npdu) ∧ arrival.mac.length ≤ 255
  | send destination _ => destination.mac.length ≤ 255
  | _ => True

namespace Relay

variable {known : Router} {relay : Relay}

/-- What waits can be written, and routes lead over the links. -/
def Legible (known : Router) (relay : Relay) : Prop :=
  (Routing.start relay.router relay.timers).Legible known

/-- What a router has put out does not matter to it. -/
theorem legible_of_routing {state : Routing} (legible : state.Legible known) :
    Legible known ⟨state.router, state.timers⟩ :=
  ⟨legible.sameLinks, legible.routes, legible.waits, .nil⟩

theorem legible_new (ports : List PortConfig) (config : RouterConfig) :
    (new ports config).Legible (.new ports config) := by
  refine ⟨.refl _, ?_, ?_, .nil⟩
  · intro network route found
    cases found
  · intro network message member
    cases member

theorem legible_expire (legible : relay.Legible known) (now : Nat) :
    (relay.step now .expire).relay.Legible known ∧ Writable (relay.step now .expire).outputs := by
  unfold step
  dsimp only
  split
  · exact ⟨legible, .nil⟩
  · next network _ _ =>
    unfold Router.giveUp
    split
    · exact ⟨⟨legible.sameLinks, legible.routes, legible.waits, .nil⟩, .nil⟩
    · next queue found =>
      refine ⟨⟨legible.sameLinks.trans ⟨rfl, rfl⟩, legible.routes, ?_, .nil⟩, ?_⟩
      · intro other message member
        exact legible.waits other message (Router.mem_waits_of_erase member)
      · refine .failureReports _ network fun message member => ?_
        exact legible.waits network message (by rwa [← Router.waits_of_find? found] at member)
  · exact ⟨⟨legible.sameLinks, legible.routes, legible.waits, .nil⟩, .nil⟩

theorem legible_step (fit : known.WellNamed) (legible : relay.Legible known) (now : Nat)
    {event : RelayEvent} (regular : event.Regular) :
    (relay.step now event).relay.Legible known ∧ Writable (relay.step now event).outputs := by
  cases event with
  | receive arrival npdu =>
    obtain ⟨⟨octets, decodes⟩, short⟩ := regular
    have received := Routing.legible_receive fit legible
      (Npdu.wellFormed_of_decode decodes).2 short now
    exact ⟨legible_of_routing received, received.outputs⟩
  | send destination message =>
    have dispatched := Routing.legible_dispatch fit legible regular now message
    exact ⟨legible_of_routing dispatched, fun sent member =>
      dispatched.outputs sent (mem_outputs_of_told member)⟩
  | expire => exact legible_expire legible now
  | expireRoutes =>
    have aged := Routing.Legible.mapTable legible
      (·.mapValues (·.expire relay.router.staleAfter now)) (.expire _ _ _ now)
    exact ⟨aged, .nil⟩
  | schedule _ _ | cancel _ =>
    exact ⟨⟨legible.sameLinks, legible.routes, legible.waits, .nil⟩, .nil⟩

theorem legible_run (fit : known.WellNamed) (legible : relay.Legible known)
    {events : List (Nat × RelayEvent)} (regular : ∀ entry ∈ events, entry.2.Regular) :
    (relay.run events).Legible known := by
  induction events generalizing relay with
  | nil => exact legible
  | cons entry rest ih =>
    have stepped := (legible_step fit legible entry.1 (regular entry List.mem_cons_self)).1
    exact ih stepped fun later member => regular later (List.mem_cons_of_mem entry member)

/-- If all networks have numbers and the set-up is valid then every message that is put on a link can
be written in octets: those that are passed on or have waited, those of the application, and those
with which the router asks, answers and refuses. -/
theorem exists_encode_of_transmit {config : Config} (valid : config.validate = .ok ())
    (numbered : ∀ port ∈ config.ports, port.network.isSome = true)
    (macs : ∀ port ∈ config.ports, ∀ mac, port.mac = some mac → mac ≠ [] ∧ mac.length ≤ 255)
    {events : List (Nat × RelayEvent)} (earlier : ∀ entry ∈ events, entry.2.Regular) (now : Nat)
    {event : RelayEvent} (regular : event.Regular) {sent : Transmission}
    (member : .transmit sent ∈
      (((new config.ports config.router).run events).step now event).outputs) :
    ∃ octets, sent.npdu.encode = .ok octets := by
  have fit := Router.wellNamed_new valid numbered macs
  have legible := legible_run fit (legible_new config.ports config.router) earlier
  have writable := (legible_step fit legible now regular).2
  exact (Npdu.exists_encode_iff sent.npdu).mpr (writable sent member)

/-- A message of the application to network 7 waits for a router to it, which stands on the second
link. It leaves with the address of this device on the first one as its source. -/
theorem exists_encode_of_transmit_waiting :
    let config : Config :=
      { Config.standard with ports := [⟨some 1, some [10]⟩, ⟨some 2, none⟩] }
    let question : RelayEvent := .send ⟨7, [5]⟩ ⟨.apdu [16, 8], false, .normal⟩
    let announcement : RelayEvent := .receive ⟨1, [11]⟩ (.ofMessage (.iAmRouterToNetwork [7]))
    let sent : Transmission := ⟨1, .unicast [11],
      ⟨.normal, false, some ⟨7, [5]⟩, some ⟨1, [10]⟩, 255, .apdu [16, 8]⟩⟩
    .transmit sent ∈ (((new config.ports config.router).run [(0, question)]).step 1
      announcement).outputs ∧ ∃ octets, sent.npdu.encode = .ok octets := by
  intro config question announcement sent
  have member : .transmit sent ∈ (((new config.ports config.router).run [(0, question)]).step 1
      announcement).outputs := by decide +kernel
  have read : announcement.Regular := ⟨⟨[1, 128, 1, 0, 7], rfl⟩, by decide⟩
  have earlier : ∀ entry ∈ [(0, question)], entry.2.Regular := by
    intro entry present
    cases List.mem_singleton.mp present
    exact (by decide : [5].length ≤ 255)
  exact ⟨member, exists_encode_of_transmit rfl (by decide) (by decide) earlier 1 read member⟩

end Relay

end BACnet
