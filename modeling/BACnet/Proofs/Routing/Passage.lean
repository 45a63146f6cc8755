import BACnet.Proofs.Routing.Copies

/-!
# Messages to all networks

What a router does with an application message to all networks while no messages wait at it: it
hands the message to its application, and puts one copy on each of its other links as long as the
message may pass.
-/

namespace BACnet

namespace Router

variable {router : Router} {arrival : Arrival} {npdu : Npdu}

/-- No messages wait. -/
def Idle (router : Router) : Prop := ∀ network, router.pending.find? network = none

theorem mem_portIds {port : PortId} : port ∈ router.portIds ↔ (router.port? port).isSome := by
  simp only [portIds, port?, List.mem_map, List.mem_range, List.getElem?_eq_some_iff,
    Option.isSome_iff_exists]
  constructor
  · rintro ⟨index, inside, rfl⟩
    exact ⟨_, Nat.lt_of_le_of_lt (Nat.mod_le index _) inside, rfl⟩
  · rintro ⟨-, inside, -⟩
    exact ⟨port.toNat, inside, UInt16.ofNat_toNat⟩

theorem mem_otherPorts {port except : PortId} :
    port ∈ router.otherPorts (some except) ↔ port ∈ router.portIds ∧ port ≠ except := by
  simp [otherPorts]

theorem SameLinks.portIds_eq {before after : Router} (same : before.SameLinks after) :
    after.portIds = before.portIds := by
  rw [portIds, portIds, same.ports]

theorem mem_portIds_iff_lt {port : PortId} :
    port ∈ router.portIds ↔ port.toNat < router.ports.length := by
  simp [mem_portIds, port?]

/-- A device with a link has a first one. -/
theorem primaryPort_mem_portIds {port : PortId} (valid : port ∈ router.portIds) :
    primaryPort ∈ router.portIds :=
  mem_portIds_iff_lt.mpr (Nat.zero_lt_of_lt (mem_portIds_iff_lt.mp valid))

/-- Only a router has two links. -/
theorem isRouter_of_ne {port other : PortId} (valid : port ∈ router.portIds)
    (present : other ∈ router.portIds) (ne : port ≠ other) : router.isRouter = true := by
  have inside := mem_portIds_iff_lt.mp valid
  have within := mem_portIds_iff_lt.mp present
  have differ : port.toNat ≠ other.toNat := fun same => ne (UInt16.toNat_inj.mp same)
  exact decide_eq_true (by omega)

/-- There are no other links at a device with one link. -/
theorem otherPorts_eq_nil {port : PortId} (valid : port ∈ router.portIds)
    (single : router.isRouter = false) : router.otherPorts (some port) = [] := by
  rw [List.eq_nil_iff_forall_not_mem]
  intro other member
  obtain ⟨present, ne⟩ := mem_otherPorts.mp member
  have routes := isRouter_of_ne present valid ne
  rw [single] at routes
  cases routes

theorem mem_portIds_of_network? {port : PortId} {network : UInt16}
    (known : router.network? port = some network) : port ∈ router.portIds := by
  obtain ⟨link, found, -⟩ := Option.bind_eq_some_iff.mp known
  exact mem_portIds.mpr (Option.isSome_of_eq_some found)

/-- A network that is attached lies behind one of the links. -/
theorem mem_portIds_of_directPort? {port : PortId} {network : UInt16}
    (attached : router.directPort? network = some port) : port ∈ router.portIds := by
  obtain ⟨index, found, rfl⟩ := Option.map_eq_some_iff.mp attached
  obtain ⟨inside, -, -⟩ := List.findIdx?_eq_some_iff_getElem.mp found
  exact List.mem_map.mpr ⟨index, List.mem_range.mpr inside, rfl⟩

/-- All links have numbers. -/
theorem Numbered.exists_network? (numbered : router.Numbered) {port : PortId}
    (valid : port ∈ router.portIds) : ∃ network, router.network? port = some network := by
  obtain ⟨link, found⟩ := Option.isSome_iff_exists.mp (mem_portIds.mp valid)
  obtain ⟨network, known⟩ :=
    Option.isSome_iff_exists.mp (numbered link (List.mem_of_getElem? found))
  exact ⟨network, by rw [network?, found, Option.bind_some, known]⟩

/-- Only a message without hops, or one whose source has no name, does not pass. -/
theorem exists_pass_eq_of_named (addressed : arrival.mac ≠ []) (hops : npdu.hopCount ≠ 0)
    (named : npdu.source.isSome = true ∨ (router.network? arrival.port).isSome = true)
    (target : UInt16) : ∃ passed, router.pass arrival npdu target = (some passed, []) := by
  unfold pass nameSource?
  rw [if_neg hops]
  cases source : npdu.source with
  | some source => exact ⟨_, rfl⟩
  | none =>
    rw [source] at named
    obtain ⟨network, known⟩ := Option.isSome_iff_exists.mp (named.resolve_left nofun)
    simp [known, addressed]

theorem exists_pass_eq {network : UInt16} (known : router.network? arrival.port = some network)
    (addressed : arrival.mac ≠ []) (hops : npdu.hopCount ≠ 0) (target : UInt16) :
    ∃ passed, router.pass arrival npdu target = (some passed, []) :=
  exists_pass_eq_of_named addressed hops (.inr (Option.isSome_of_eq_some known)) target

/-- A message that names its source is put on a link as it is. -/
theorem transmission_of_source (port : PortId) (link : LinkDestination)
    (named : npdu.source.isSome = true) :
    router.transmission port link npdu = .transmit ⟨port, link, npdu⟩ := by
  have kept : router.stamp port npdu = npdu := by
    unfold stamp
    refine if_neg fun unnamed => ?_
    simp [Option.isNone_iff_eq_none.mp unnamed.2.1] at named
  rw [transmission, kept]

/-- What a router puts out when a message to all networks goes on. -/
def spread (router : Router) (arrival : Arrival) (npdu : Npdu) : List RouterOutput :=
  if router.isRouter then router.repeats arrival npdu else []

/-- A message without hops does not go on. -/
theorem spread_of_exhausted (exhausted : npdu.hopCount = 0) {output : RouterOutput}
    (member : output ∈ router.spread arrival npdu) : ∃ error, output = .failure error := by
  simp only [spread, repeats, pass, exhausted, hopCountOutputs] at member
  split at member
  · exact ⟨_, List.mem_singleton.mp (by simpa using member)⟩
  · cases member

/-- A message with hops left goes on once on every other link, as it has passed the router. -/
theorem exists_spread_eq (numbered : router.Numbered) (valid : arrival.port ∈ router.portIds)
    (addressed : arrival.mac ≠ []) (hops : npdu.hopCount ≠ 0) :
    ∃ passed, router.Passes arrival npdu passed ∧ router.spread arrival npdu =
      (router.otherPorts (some arrival.port)).map fun port =>
        .transmit ⟨port, .broadcast, passed⟩ := by
  obtain ⟨network, known⟩ := numbered.exists_network? valid
  obtain ⟨passed, result⟩ := exists_pass_eq known addressed hops Address.globalNetwork
  have passes : router.Passes arrival npdu passed := passes_of_pass (congrArg Prod.fst result)
  refine ⟨passed, passes, ?_⟩
  unfold spread repeats
  rw [result]
  by_cases routes : router.isRouter = true
  · rw [if_pos routes]
    exact List.map_congr_left fun port _ => transmission_of_source port .broadcast passes.named
  · rw [if_neg routes, otherPorts_eq_nil valid (Bool.eq_false_iff.mpr routes)]
    rfl

end Router

namespace Routing

variable {state : Routing} {arrival : Arrival} {npdu : Npdu} {destination : Address} {data : Octets}

/-- Where no messages wait, learning a route changes nothing but the route. -/
theorem learn_of_idle (idle : state.router.Idle) (now : Nat) (arrival : Arrival)
    (network : UInt16) : ∃ table, state.learn now arrival network =
      state.mapRouter fun router => { router with table } := by
  rw [learn_eq]
  split
  · exact ⟨_, rfl⟩
  · refine ⟨_, flush_of_none ?_ now⟩
    exact idle network

theorem learnSource_of_idle (idle : state.router.Idle) (now : Nat) (arrival : Arrival)
    (npdu : Npdu) : ∃ table, state.learnSource now arrival npdu =
      state.mapRouter fun router => { router with table } := by
  unfold learnSource
  split
  · exact ⟨_, rfl⟩
  · next source _ =>
    split
    · exact ⟨_, rfl⟩
    · exact learn_of_idle idle now arrival source.network

/-- An application message to all networks is for the application, and goes on. -/
theorem receiveGlobal_apdu (state : Routing) (now : Nat) (arrival : Arrival)
    (body : npdu.body = .apdu data) :
    (state.receiveGlobal now arrival npdu).2 =
      state.emit (.deliver (state.router.deliverySource arrival npdu) data npdu.expectingReply
        npdu.priority :: state.router.spread arrival npdu) := by
  unfold receiveGlobal deliver Router.spread Router.repeats
  rw [body]
  dsimp only [emit]
  split
  · rw [List.append_assoc]
    rfl
  · rfl

/-- While no messages wait, nothing comes of a message to all networks before it is for the
application but a route. -/
theorem receive_global_of_idle (idle : state.router.Idle)
    (valid : arrival.port ∈ state.router.portIds) (target : npdu.destination = some destination)
    (all : destination.isGlobal = true) (now : Nat) :
    ∃ table, state.receive now arrival npdu =
      (state.mapRouter fun router => { router with table }).receiveGlobal now arrival npdu := by
  obtain ⟨table, learned⟩ := learnSource_of_idle idle now arrival npdu
  refine ⟨table, ?_⟩
  rw [receive_of_valid (Router.mem_portIds.mp valid), learned, receiveLearned, target]
  exact if_pos all

end Routing

namespace Relay

variable {relay : Relay} {arrival : Arrival} {npdu : Npdu} {destination : Address} {data : Octets}

/-- While no messages wait, a message to all networks is handed to the application and goes on, and
the router learns a route at most. -/
theorem step_receive_global (idle : relay.router.Idle) (valid : arrival.port ∈ relay.router.portIds)
    (target : npdu.destination = some destination) (all : destination.isGlobal = true)
    (body : npdu.body = .apdu data) (now : Nat) :
    (relay.step now (.receive arrival npdu)).outputs =
        .deliver (relay.router.deliverySource arrival npdu) data npdu.expectingReply npdu.priority ::
          relay.router.spread arrival npdu ∧
      relay.router.SameLinks (relay.step now (.receive arrival npdu)).relay.router ∧
      (relay.step now (.receive arrival npdu)).relay.router.Idle := by
  obtain ⟨table, received⟩ := @Routing.receive_global_of_idle
    (.start relay.router relay.timers) _ _ _ idle valid target all now
  have result := Routing.receiveGlobal_apdu
    ((Routing.start relay.router relay.timers).mapRouter fun router => { router with table }) now
    arrival body
  rw [← received] at result
  unfold step
  dsimp only
  rw [result]
  exact ⟨rfl, ⟨rfl, rfl⟩, idle⟩

end Relay

end BACnet
