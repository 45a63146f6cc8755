import Mathlib.Combinatorics.SimpleGraph.Star
import BACnet.Proofs.Internetwork.Topology
import BACnet.Proofs.Routing.Passage

/-!
# Messages to all networks

A station broadcasts an application message to all networks. What routers put on their links of it
arrives at all other routers there, in any order. Where there are no cycles, every network within
reach of the hops hears it once, and every router hands it to its application once.
-/

namespace BACnet

/-- The arrival of the message with this number at a router, on one of its links. -/
structure Delivery (ρ : Type) where
  index : Nat
  router : ρ
  port : PortId
  deriving DecidableEq, Repr

/-- A message goes on as it has passed the router on some of the links, on all but that of its
arrival if it has hops left. -/
structure Router.GoesOn (router : Router) (arrival : Arrival) (npdu : Npdu) (ports : List PortId)
    (passed : Npdu) : Prop where
  inside : ports.Sublist router.portIds
  other : ∀ port ∈ ports, port ≠ arrival.port
  passes : ∀ port ∈ ports, router.Passes arrival npdu passed
  everywhere : npdu.hopCount ≠ 0 → ∀ port ∈ router.portIds, port ≠ arrival.port → port ∈ ports

variable {ρ ν : Type}

namespace Wiring

variable {wiring : Wiring ρ ν} {router : ρ}

/-- Failures are not heard on networks. -/
theorem frames_of_failures {outputs : List RouterOutput}
    (failures : ∀ output ∈ outputs, ∃ error, output = .failure error) :
    wiring.frames router outputs = [] := by
  rw [List.eq_nil_iff_forall_not_mem]
  intro frame member
  obtain ⟨sent, put, -⟩ := mem_frames.mp member
  obtain ⟨error, same⟩ := failures _ put
  cases same

/-- What is broadcast on links is heard on the networks to which they lead. -/
theorem frames_broadcast (ports : List PortId) (npdu : Npdu) :
    wiring.frames router (ports.map fun port => .transmit ⟨port, .broadcast, npdu⟩) =
      ports.map fun port => wiring.frame router ⟨port, .broadcast, npdu⟩ := by
  induction ports with
  | nil => rfl
  | cons first rest ih => exact congrArg _ ih

/-- What a router puts out of a message to all networks is heard as it has passed the router, and
nothing of it is for the application. -/
theorem exists_frames_spread {known : Router} {arrival : Arrival} {npdu : Npdu}
    (numbered : known.Numbered) (valid : arrival.port ∈ known.portIds)
    (addressed : arrival.mac ≠ []) :
    ∃ ports passed, known.GoesOn arrival npdu ports passed ∧
      wiring.frames router (known.spread arrival npdu) =
        (ports.map fun port => wiring.frame router ⟨port, .broadcast, passed⟩) ∧
      (known.spread arrival npdu).filter (·.isDelivery) = [] := by
  by_cases exhausted : npdu.hopCount = 0
  · have failures (output : RouterOutput) (member : output ∈ known.spread arrival npdu) :=
      Router.spread_of_exhausted exhausted member
    refine ⟨[], npdu, ⟨List.nil_sublist _, by simp, by simp, by simp [exhausted]⟩,
      frames_of_failures failures, ?_⟩
    rw [List.filter_eq_nil_iff]
    intro output member
    obtain ⟨error, rfl⟩ := failures output member
    exact Bool.false_ne_true
  · obtain ⟨passed, passes, spreads⟩ :=
      Router.exists_spread_eq numbered valid addressed exhausted
    refine ⟨known.otherPorts (some arrival.port), passed, ?_, ?_, ?_⟩
    · exact {
        inside := List.filter_sublist
        other := fun port member => (Router.mem_otherPorts.mp member).2
        passes := fun _ _ => passes
        everywhere := fun _ port present other => Router.mem_otherPorts.mpr ⟨present, other⟩ }
    · rw [spreads, frames_broadcast]
    · rw [spreads, List.filter_eq_nil_iff]
      intro output member
      obtain ⟨port, -, rfl⟩ := List.mem_map.mp member
      exact Bool.false_ne_true

end Wiring

/-- A message on a network repeats another one: a broadcast with the same contents to the same
destination. -/
structure NetworkFrame.Repeats (origin frame : NetworkFrame ρ ν) : Prop where
  content : origin.npdu.SameContent frame.npdu
  target : frame.npdu.destination = origin.npdu.destination
  link : frame.destination = .broadcast
  addressed : frame.mac ≠ []

namespace Internetwork

/-- A station broadcasts a message, and nothing has been sent before. -/
def broadcasting (relay : ρ → Relay) (network : ν) (mac : Octets) (npdu : Npdu) :
    Internetwork ρ ν :=
  ⟨relay, [⟨network, none, mac, .broadcast, npdu⟩], fun _ => []⟩

/-- The messages that have been sent on a network. -/
def framesOn [DecidableEq ν] (net : Internetwork ρ ν) (network : ν) : List (NetworkFrame ρ ν) :=
  net.frames.filter (·.network = network)

/-- On a network with a message there is only this one if no network has several. -/
theorem framesOn_of_mem [DecidableEq ν] {net : Internetwork ρ ν} {frame : NetworkFrame ρ ν}
    (single : (net.frames.map (·.network)).Nodup) (member : frame ∈ net.frames) :
    net.framesOn frame.network = [frame] := by
  unfold framesOn
  generalize net.frames = frames at single member
  induction frames with
  | nil => cases member
  | cons first rest ih =>
    simp only [List.map_cons, List.nodup_cons, List.mem_map, not_exists, not_and] at single
    obtain ⟨absent, single⟩ := single
    rcases List.mem_cons.mp member with rfl | later
    · rw [List.filter_cons_of_pos (by simp), List.filter_eq_nil_iff.mpr (by simpa using absent)]
    · have other : first.network ≠ frame.network := fun same => absent frame later same.symm
      rw [List.filter_cons_of_neg (by simpa using other)]
      exact ih single later

theorem framesOn_eq_nil [DecidableEq ν] {net : Internetwork ρ ν} {place : ν}
    (none : ∀ frame ∈ net.frames, frame.network ≠ place) : net.framesOn place = [] := by
  simpa [framesOn] using none

theorem length_framesOn_le_one [DecidableEq ν] {net : Internetwork ρ ν}
    (single : (net.frames.map (·.network)).Nodup) (place : ν) :
    (net.framesOn place).length ≤ 1 := by
  by_cases heard : ∃ frame ∈ net.frames, frame.network = place
  · obtain ⟨frame, member, rfl⟩ := heard
    rw [framesOn_of_mem single member]
    exact le_refl 1
  · rw [framesOn_eq_nil fun frame member same => heard ⟨frame, member, same⟩]
    exact Nat.zero_le 1

/-- A message is for all routers on its network but the one that has sent it. -/
structure Due (net : Internetwork ρ ν) (wiring : Wiring ρ ν) (delivery : Delivery ρ)
    (frame : NetworkFrame ρ ν) : Prop where
  found : net.frames[delivery.index]? = some frame
  valid : delivery.port ∈ (net.relay delivery.router).router.portIds
  wired : wiring.network delivery.router delivery.port = frame.network
  other : frame.sender.map (·.1) ≠ some delivery.router

/-- All messages have arrived at all routers for which they are. -/
def Complete (net : Internetwork ρ ν) (wiring : Wiring ρ ν) (done : List (Delivery ρ)) : Prop :=
  ∀ delivery frame, net.Due wiring delivery frame → delivery ∈ done

/-! ## Away from the origin -/

section

variable (relay : ρ → Relay) (wiring : Wiring ρ ν) (origin : NetworkFrame ρ ν)
  (done : List (Delivery ρ))

/-- A router has sent a message away from the origin, after it had heard one on another link. -/
structure Forwarded (frame : NetworkFrame ρ ν) (router : ρ) (port : PortId) : Prop where
  valid : port ∈ (relay router).router.portIds
  wired : wiring.network router port = frame.network
  farther : wiring.distance relay origin.network (.inr frame.network) =
    wiring.distance relay origin.network (.inl router) + 1
  heard : ∃ delivery ∈ done, delivery.router = router ∧ delivery.port ≠ port

/-- A message repeats the one from the origin. It is as many routers away as it has lost hops, and
it has been sent by the station at the origin or by a router. -/
structure Follows (frame : NetworkFrame ρ ν) : Prop where
  repeats : origin.Repeats frame
  reachable : (wiring.graph relay).Reachable (.inr origin.network) (.inr frame.network)
  hops : wiring.distance relay origin.network (.inr frame.network) +
    2 * frame.npdu.hopCount.toNat = 2 * origin.npdu.hopCount.toNat
  sent : frame.sender = none ∧ frame.network = origin.network ∨
    ∃ router port, frame.sender = some (router, port) ∧
      Forwarded relay wiring origin done frame router port

/-- A router has heard a message from the direction of the origin, and has repeated it on its other
links. -/
structure Heeded (net : Internetwork ρ ν) (delivery : Delivery ρ) (frame : NetworkFrame ρ ν) :
    Prop where
  found : net.frames[delivery.index]? = some frame
  valid : delivery.port ∈ (relay delivery.router).router.portIds
  wired : wiring.network delivery.router delivery.port = frame.network
  farther : wiring.distance relay origin.network (.inl delivery.router) =
    wiring.distance relay origin.network (.inr frame.network) + 1
  repeated : frame.npdu.hopCount ≠ 0 → ∀ port ∈ (relay delivery.router).router.portIds,
    port ≠ delivery.port →
      wiring.network delivery.router port ∈ net.frames.map (·.network)

/-- A message to all networks spreads away from its origin: no network hears it twice, and no router
does. -/
structure Spreading (data : Octets) (net : Internetwork ρ ν) : Prop where
  links : ∀ router, (relay router).router.SameLinks (net.relay router).router
  idle : ∀ router, (net.relay router).router.Idle
  follows : ∀ frame ∈ net.frames, Follows relay wiring origin done frame
  single : (net.frames.map (·.network)).Nodup
  heard : ∀ delivery ∈ done, ∃ frame, Heeded relay wiring origin net delivery frame
  once : (done.map (·.router)).Nodup
  handed : ∀ router ∈ done.map (·.router), ∃ source, net.handed router =
    [.deliver source data origin.npdu.expectingReply origin.npdu.priority]
  quiet : ∀ router ∉ done.map (·.router), net.handed router = []

end

/-- It does not matter what else has arrived. -/
theorem Follows.append {relay : ρ → Relay} {wiring : Wiring ρ ν} {origin frame : NetworkFrame ρ ν}
    {done : List (Delivery ρ)} (follows : Follows relay wiring origin done frame)
    (delivery : Delivery ρ) : Follows relay wiring origin (done ++ [delivery]) frame := by
  refine { follows with sent := follows.sent.imp_right ?_ }
  rintro ⟨router, port, sender, forwarded⟩
  obtain ⟨earlier, present, heard⟩ := forwarded.heard
  exact ⟨router, port, sender,
    { forwarded with heard := ⟨earlier, List.mem_append_left _ present, heard⟩ }⟩

/-- It does not matter what else is sent. -/
theorem Heeded.append {relay : ρ → Relay} {wiring : Wiring ρ ν} {origin frame : NetworkFrame ρ ν}
    {net after : Internetwork ρ ν} {delivery : Delivery ρ}
    (heeded : Heeded relay wiring origin net delivery frame) (more : net.frames <+: after.frames) :
    Heeded relay wiring origin after delivery frame := by
  obtain ⟨rest, sent⟩ := more
  refine { heeded with found := ?_, repeated := ?_ }
  · rw [← sent, List.getElem?_append_left (List.getElem?_eq_some_iff.mp heeded.found).1,
      heeded.found]
  · intro hops port valid other
    rw [← sent, List.map_append]
    exact List.mem_append_left _ (heeded.repeated hops port valid other)

namespace Spreading

variable {relay : ρ → Relay} {wiring : Wiring ρ ν} {origin : NetworkFrame ρ ν}
  {done : List (Delivery ρ)} {data : Octets} {net : Internetwork ρ ν} {delivery : Delivery ρ}
  {frame : NetworkFrame ρ ν} {port : PortId}

theorem valid (spreading : Spreading relay wiring origin done data net)
    (due : net.Due wiring delivery frame) :
    delivery.port ∈ (relay delivery.router).router.portIds :=
  (spreading.links delivery.router).portIds_eq ▸ due.valid

/-- A message that is for a router comes from the direction of the origin. -/
theorem farther (spreading : Spreading relay wiring origin done data net)
    (forest : wiring.Forest relay) (due : net.Due wiring delivery frame) :
    wiring.distance relay origin.network (.inl delivery.router) =
      wiring.distance relay origin.network (.inr frame.network) + 1 := by
  have follows := spreading.follows frame (List.mem_of_getElem? due.found)
  have reachable := follows.reachable
  rw [← due.wired] at reachable
  rcases forest.distance_cases (spreading.valid due) reachable with away | toward
  · rwa [due.wired] at away
  · -- The router would be the one that has sent the message.
    rw [due.wired] at toward
    rcases follows.sent with ⟨-, here⟩ | ⟨router, port, sender, forwarded⟩
    · rw [here, Wiring.distance, SimpleGraph.dist_self] at toward
      omega
    · have same := forest.eq_router_of_closer ⟨port, forwarded.valid, forwarded.wired⟩
        ⟨delivery.port, spreading.valid due, due.wired⟩ forwarded.farther toward
      refine absurd ?_ due.other
      rw [sender, same]
      rfl

/-- A router hears one message at most. -/
theorem not_heard (spreading : Spreading relay wiring origin done data net)
    (forest : wiring.Forest relay) (due : net.Due wiring delivery frame) (first : delivery ∉ done) :
    delivery.router ∉ done.map (·.router) := by
  intro member
  obtain ⟨⟨index, router, port⟩, present, same⟩ := List.mem_map.mp member
  obtain ⟨old, heeded⟩ := spreading.heard _ present
  obtain ⟨later, _, last⟩ := delivery
  cases same
  have toward := spreading.farther forest due
  rw [← due.wired] at toward
  have alsoToward := heeded.farther
  rw [← heeded.wired] at alsoToward
  have samePort : port = last :=
    forest.eq_port_of_closer heeded.valid (spreading.valid due) alsoToward toward
  subst samePort
  have sameNetwork : old.network = frame.network := heeded.wired.symm.trans due.wired
  have sameIndex : index = later := by
    obtain ⟨inside, -⟩ := List.getElem?_eq_some_iff.mp heeded.found
    refine (List.getElem?_inj (by simpa using inside) spreading.single).mp ?_
    rw [List.getElem?_map, List.getElem?_map, heeded.found, due.found]
    exact congrArg some sameNetwork
  subst sameIndex
  exact first present

/-- The other links of a router that hears a message lead away from the origin. -/
theorem away (spreading : Spreading relay wiring origin done data net)
    (forest : wiring.Forest relay) (due : net.Due wiring delivery frame)
    (valid : port ∈ (relay delivery.router).router.portIds) (other : port ≠ delivery.port) :
    (wiring.graph relay).Reachable (.inr origin.network)
        (.inr (wiring.network delivery.router port)) ∧
      wiring.distance relay origin.network (.inr (wiring.network delivery.router port)) =
        wiring.distance relay origin.network (.inl delivery.router) + 1 := by
  have joined {port : PortId} (valid : port ∈ (relay delivery.router).router.portIds) :
      (wiring.graph relay).Adj (.inl delivery.router)
        (.inr (wiring.network delivery.router port)) := ⟨port, valid, rfl⟩
  have toward := spreading.farther forest due
  have reachable := (spreading.follows frame (List.mem_of_getElem? due.found)).reachable
  rw [← due.wired] at toward reachable
  have beyond := (reachable.trans (joined (spreading.valid due)).symm.reachable).trans
    (joined valid).reachable
  refine ⟨beyond, ?_⟩
  rcases forest.distance_cases valid beyond with alsoToward | away
  · exact absurd (forest.eq_port_of_closer valid (spreading.valid due) alsoToward toward) other
  · exact away

/-- The networks behind them have not heard the message. -/
theorem not_sent (spreading : Spreading relay wiring origin done data net)
    (forest : wiring.Forest relay) (due : net.Due wiring delivery frame) (first : delivery ∉ done)
    (valid : port ∈ (relay delivery.router).router.portIds) (other : port ≠ delivery.port) :
    wiring.network delivery.router port ∉ net.frames.map (·.network) := by
  intro member
  obtain ⟨old, present, same⟩ := List.mem_map.mp member
  obtain ⟨-, away⟩ := spreading.away forest due valid other
  rcases (spreading.follows old present).sent with ⟨-, here⟩ | ⟨router, link, -, forwarded⟩
  · rw [← same, here, Wiring.distance, SimpleGraph.dist_self] at away
    omega
  · have farther := forwarded.farther
    rw [same] at farther
    have sender := forest.eq_router_of_closer ⟨link, forwarded.valid, forwarded.wired.trans same⟩
      ⟨port, valid, rfl⟩ farther away
    obtain ⟨earlier, heard, own, -⟩ := forwarded.heard
    refine spreading.not_heard forest due first ?_
    rw [← sender, ← own]
    exact List.mem_map_of_mem heard

/-- No message is sent back on the link on which it has arrived. -/
theorem not_sent_back (spreading : Spreading relay wiring origin done data net)
    (heard : delivery ∈ done) (member : frame ∈ net.frames) :
    frame.sender ≠ some (delivery.router, delivery.port) := by
  intro back
  obtain ⟨message, heeded⟩ := spreading.heard delivery heard
  rcases (spreading.follows frame member).sent with ⟨station, -⟩ | ⟨router, port, sender, forwarded⟩
  · rw [station] at back
    cases back
  · -- A router sends away from the origin, and hears from the direction of the origin.
    cases sender.symm.trans back
    have away := forwarded.farther
    have toward := heeded.farther
    rw [← forwarded.wired] at away
    rw [← heeded.wired] at toward
    omega

/-- What a router sends of a message that it hears is one router farther from the origin. -/
theorem follows_copy (spreading : Spreading relay wiring origin done data net)
    (forest : wiring.Forest relay) (due : net.Due wiring delivery frame)
    (valid : port ∈ (relay delivery.router).router.portIds) (other : port ≠ delivery.port)
    {known : Router} {passed : Npdu}
    (passes : known.Passes ⟨delivery.port, frame.mac⟩ frame.npdu passed) :
    Follows relay wiring origin (done ++ [delivery])
      (wiring.frame delivery.router ⟨port, .broadcast, passed⟩) := by
  have follows := spreading.follows frame (List.mem_of_getElem? due.found)
  obtain ⟨reachable, away⟩ := spreading.away forest due valid other
  refine {
    repeats := ?_
    reachable := reachable
    hops := ?_
    sent := .inr ⟨delivery.router, port, rfl, valid, rfl, away, ?_⟩ }
  · exact {
      content := follows.repeats.content.trans passes.content
      target := passes.destination.trans follows.repeats.target
      link := rfl
      addressed := forest.addressed _ port valid }
  · have toward := spreading.farther forest due
    have hops := follows.hops
    have fewer := passes.hopCount
    show wiring.distance relay origin.network (.inr (wiring.network delivery.router port)) +
      2 * passed.hopCount.toNat = 2 * origin.npdu.hopCount.toNat
    omega
  · exact ⟨delivery, List.mem_append_right _ List.mem_cons_self, rfl, other.symm⟩

theorem start (relay : ρ → Relay) (wiring : Wiring ρ ν) (network : ν) {mac : Octets} {npdu : Npdu}
    (idle : ∀ router, (relay router).router.Idle) (addressed : mac ≠ []) (data : Octets) :
    Spreading relay wiring ⟨network, none, mac, .broadcast, npdu⟩ [] data
      (broadcasting relay network mac npdu) where
  links _ := .refl _
  idle := idle
  follows frame member := by
    cases List.mem_singleton.mp member
    exact {
      repeats := ⟨⟨rfl, rfl, rfl⟩, rfl, rfl, addressed⟩
      reachable := .refl _
      hops := by rw [Wiring.distance, SimpleGraph.dist_self, Nat.zero_add]
      sent := .inl ⟨rfl, rfl⟩ }
  single := List.nodup_singleton _
  heard _ member := absurd member List.not_mem_nil
  once := List.nodup_nil
  handed _ member := absurd member List.not_mem_nil
  quiet _ _ := rfl

/-- A router heeds a message that is for it if it repeats it on its other links. -/
theorem heeds (spreading : Spreading relay wiring origin done data net)
    (forest : wiring.Forest relay) (due : net.Due wiring delivery frame)
    {after : Internetwork ρ ν} (more : net.frames <+: after.frames)
    (repeated : frame.npdu.hopCount ≠ 0 → ∀ port ∈ (relay delivery.router).router.portIds,
      port ≠ delivery.port →
        wiring.network delivery.router port ∈ after.frames.map (·.network)) :
    Heeded relay wiring origin after delivery frame := by
  obtain ⟨rest, sent⟩ := more
  refine ⟨?_, spreading.valid due, due.wired, spreading.farther forest due, repeated⟩
  rw [← sent, List.getElem?_append_left (List.getElem?_eq_some_iff.mp due.found).1, due.found]

/-- When all messages have arrived, the routers on the way have sent the message on. -/
theorem sent_on (spreading : Spreading relay wiring origin done data net)
    (complete : net.Complete wiring done) (member : frame ∈ net.frames) {router : ρ}
    (valid : port ∈ (relay router).router.portIds)
    (wired : wiring.network router port = frame.network)
    (farther : wiring.distance relay origin.network (.inl router) =
      wiring.distance relay origin.network (.inr frame.network) + 1)
    (hops : frame.npdu.hopCount ≠ 0) {out : PortId}
    (outValid : out ∈ (relay router).router.portIds) (other : out ≠ port) :
    wiring.network router out ∈ net.frames.map (·.network) := by
  obtain ⟨index, found⟩ := List.getElem?_of_mem member
  have due : net.Due wiring ⟨index, router, port⟩ frame := by
    refine ⟨found, ?_, wired, ?_⟩
    · rwa [(spreading.links router).portIds_eq]
    · -- The router is not the one that has sent the message, which is closer to the origin.
      rcases (spreading.follows frame member).sent with
        ⟨station, -⟩ | ⟨sender, link, sentBy, forwarded⟩
      · simp [station]
      · rw [sentBy]
        rintro ⟨⟩
        have closer := forwarded.farther
        omega
  obtain ⟨same, heeded⟩ := spreading.heard _ (complete _ frame due)
  cases Option.some.inj (found.symm.trans heeded.found)
  exact heeded.repeated hops out outValid other

/-- When all messages have arrived, the message has reached every network within reach of its
hops. -/
theorem exists_frame (spreading : Spreading relay wiring origin done data net)
    (complete : net.Complete wiring done)
    (sent : origin ∈ net.frames) {steps : Nat} (within : steps ≤ origin.npdu.hopCount.toNat)
    {place : ν} (reachable : (wiring.graph relay).Reachable (.inr origin.network) (.inr place))
    (away : wiring.distance relay origin.network (.inr place) = 2 * steps) :
    ∃ frame ∈ net.frames, frame.network = place := by
  induction steps generalizing place with
  | zero =>
    have here := reachable.dist_eq_zero_iff.mp away
    exact ⟨origin, sent, Sum.inr.inj here⟩
  | succ steps ih =>
    -- The message comes through the router before, which hears it on the network before.
    have far : (wiring.graph relay).dist (.inr origin.network) (.inr place) = 2 * steps + 1 + 1 :=
      away
    obtain ⟨between, joined, -, toRouter⟩ := exists_closer far
    obtain ⟨before, alsoJoined, near, toBefore⟩ := exists_closer toRouter
    rcases between with router | other
    · rcases before with other | network
      · exact alsoJoined.elim
      · obtain ⟨port, valid, wired⟩ := alsoJoined
        obtain ⟨out, outValid, outWired⟩ := joined
        obtain ⟨frame, member, here⟩ := ih (Nat.le_of_succ_le within) near toBefore
        have hops := (spreading.follows frame member).hops
        rw [here, Wiring.distance, toBefore] at hops
        have left : frame.npdu.hopCount ≠ 0 := by
          intro zero
          rw [zero] at hops
          have none : (0 : UInt8).toNat = 0 := rfl
          omega
        have farther : wiring.distance relay origin.network (.inl router) =
            wiring.distance relay origin.network (.inr frame.network) + 1 := by
          rw [here, Wiring.distance, Wiring.distance, toBefore, toRouter]
        have other : out ≠ port := by
          rintro rfl
          rw [← outWired, wired, Wiring.distance, toBefore] at away
          omega
        have reached := spreading.sent_on complete member valid (wired.trans here.symm) farther left
          outValid other
        rw [outWired] at reached
        exact List.mem_map.mp reached
    · exact joined.elim

end Spreading

variable [DecidableEq ρ] [DecidableEq ν]

/-- The internetwork after messages have arrived, each at each router at most once, and in any
order. -/
inductive Spreads (start : Internetwork ρ ν) (wiring : Wiring ρ ν) :
    List (Delivery ρ) → Internetwork ρ ν → Prop where
  | start : Spreads start wiring [] start
  | deliver {done : List (Delivery ρ)} {net : Internetwork ρ ν} {delivery : Delivery ρ}
    {frame : NetworkFrame ρ ν} (spreads : Spreads start wiring done net)
    (due : net.Due wiring delivery frame) (first : delivery ∉ done) (now : Nat) :
    Spreads start wiring (done ++ [delivery])
      (net.step wiring now (.deliver delivery.index delivery.router delivery.port))

/-! ## One arrival -/

variable {net : Internetwork ρ ν} {wiring : Wiring ρ ν} {delivery : Delivery ρ}
  {frame : NetworkFrame ρ ν} {destination : Address} {data : Octets}

/-- The router hands the message to its application, and the message goes on. -/
theorem step_due (due : net.Due wiring delivery frame)
    (idle : (net.relay delivery.router).router.Idle)
    (numbered : (net.relay delivery.router).router.Numbered) (addressed : frame.mac ≠ [])
    (target : frame.npdu.destination = some destination) (all : destination.isGlobal = true)
    (body : frame.npdu.body = .apdu data) (now : Nat) :
    ∃ relay ports passed,
      net.step wiring now (.deliver delivery.index delivery.router delivery.port) =
        { relay := Function.update net.relay delivery.router relay
          frames := net.frames ++ ports.map fun port =>
            wiring.frame delivery.router ⟨port, .broadcast, passed⟩
          handed := Function.update net.handed delivery.router (net.handed delivery.router ++
            [.deliver ((net.relay delivery.router).router.deliverySource
                ⟨delivery.port, frame.mac⟩ frame.npdu) data frame.npdu.expectingReply
              frame.npdu.priority]) } ∧
      (net.relay delivery.router).router.SameLinks relay.router ∧ relay.router.Idle ∧
      (net.relay delivery.router).router.GoesOn ⟨delivery.port, frame.mac⟩ frame.npdu ports
        passed := by
  obtain ⟨outputs, links, still⟩ :=
    @Relay.step_receive_global _ ⟨delivery.port, frame.mac⟩ _ _ _ idle due.valid target all body now
  obtain ⟨ports, passed, goesOn, heard, own⟩ := @Wiring.exists_frames_spread _ _ wiring
    delivery.router _ ⟨delivery.port, frame.mac⟩ frame.npdu numbered due.valid addressed
  refine ⟨_, ports, passed, ?_, links, still, goesOn⟩
  rw [step_deliver due.found due.wired, perform, outputs, ← heard, List.filter_cons_of_pos rfl, own]
  rfl

/-! ## Many arrivals -/

namespace Spreading

variable {relay : ρ → Relay} {origin : NetworkFrame ρ ν} {done : List (Delivery ρ)}

theorem step (spreading : Spreading relay wiring origin done data net)
    (forest : wiring.Forest relay) (target : origin.npdu.destination = some destination)
    (all : destination.isGlobal = true) (body : origin.npdu.body = .apdu data)
    (due : net.Due wiring delivery frame) (first : delivery ∉ done) (now : Nat) :
    Spreading relay wiring origin (done ++ [delivery]) data
      (net.step wiring now (.deliver delivery.index delivery.router delivery.port)) := by
  have repeats := (spreading.follows frame (List.mem_of_getElem? due.found)).repeats
  obtain ⟨after, ports, passed, result, same, still, goesOn⟩ := step_due due
    (spreading.idle _) ((forest.numbered _).of_sameLinks (spreading.links _)) repeats.addressed
    (repeats.target.trans target) all (repeats.content.body.trans body) now
  have inside := goesOn.inside
  have everywhere := goesOn.everywhere
  rw [(spreading.links delivery.router).portIds_eq] at inside everywhere
  have new := spreading.not_heard forest due first
  have networks : (ports.map fun port =>
        wiring.frame delivery.router ⟨port, .broadcast, passed⟩).map (·.network) =
      ports.map (wiring.network delivery.router) := List.map_map
  rw [result]
  refine {
    links := ?_
    idle := ?_
    follows := ?_
    single := ?_
    heard := ?_
    once := ?_
    handed := ?_
    quiet := ?_ }
  · rw [Function.forall_update_iff _ fun router (state : Relay) =>
      (relay router).router.SameLinks state.router]
    exact ⟨(spreading.links _).trans same, fun router _ => spreading.links router⟩
  · rw [Function.forall_update_iff _ fun _ (state : Relay) => state.router.Idle]
    exact ⟨still, fun router _ => spreading.idle router⟩
  · intro copy member
    rcases List.mem_append.mp member with old | sent
    · exact (spreading.follows copy old).append delivery
    · obtain ⟨port, present, rfl⟩ := List.mem_map.mp sent
      exact spreading.follows_copy forest due (inside.subset present) (goesOn.other port present)
        (goesOn.passes port present)
  · rw [List.map_append, networks, List.nodup_append']
    refine ⟨spreading.single, (forest.links _).sublist (inside.map _), ?_⟩
    intro network old sent
    obtain ⟨port, present, rfl⟩ := List.mem_map.mp sent
    exact spreading.not_sent forest due first (inside.subset present) (goesOn.other port present) old
  · intro earlier member
    rcases List.mem_append.mp member with old | last
    · obtain ⟨message, heeded⟩ := spreading.heard earlier old
      exact ⟨message, heeded.append (List.prefix_append _ _)⟩
    · cases List.mem_singleton.mp last
      refine ⟨frame, spreading.heeds forest due (List.prefix_append _ _) ?_⟩
      intro hops port valid other
      rw [List.map_append, networks]
      exact List.mem_append_right _ (List.mem_map_of_mem (everywhere hops port valid other))
  · rw [List.map_append, List.nodup_append']
    refine ⟨spreading.once, List.nodup_singleton _, ?_⟩
    intro router old last
    rw [List.mem_singleton.mp last] at old
    exact new old
  · intro router member
    dsimp only
    by_cases same : router = delivery.router
    · subst same
      rw [Function.update_self, spreading.quiet _ new, repeats.content.expectingReply,
        repeats.content.priority]
      exact ⟨_, rfl⟩
    · rw [Function.update_of_ne same]
      refine spreading.handed router ?_
      simpa [same] using member
  · intro router absent
    have other : router ≠ delivery.router := by
      rintro rfl
      simp at absent
    dsimp only
    rw [Function.update_of_ne other]
    refine spreading.quiet router fun member => absent ?_
    rw [List.map_append]
    exact List.mem_append_left _ member

end Spreading

variable {relay : ρ → Relay} {network : ν} {mac : Octets} {npdu : Npdu} {done : List (Delivery ρ)}

theorem Spreads.spreading (forest : wiring.Forest relay)
    (idle : ∀ router, (relay router).router.Idle) (addressed : mac ≠ [])
    (target : npdu.destination = some destination) (all : destination.isGlobal = true)
    (body : npdu.body = .apdu data)
    (spreads : (broadcasting relay network mac npdu).Spreads wiring done net) :
    Spreading relay wiring ⟨network, none, mac, .broadcast, npdu⟩ done data net := by
  induction spreads with
  | start => exact .start relay wiring network idle addressed data
  | deliver _ due first now ih => exact ih.step forest target all body due first now

/-- What has been sent stays. -/
theorem Spreads.subset {start : Internetwork ρ ν} (spreads : start.Spreads wiring done net) :
    start.frames ⊆ net.frames := by
  induction spreads with
  | start => exact List.Subset.refl _
  | deliver _ _ _ now ih => exact fun _ member => (frames_step _ wiring now _).subset (ih member)

/-- Among finitely many routers a message to all networks, however far it has spread, goes on until
it has arrived everywhere. -/
theorem Spreads.exists_complete [Finite ρ] (forest : wiring.Forest relay)
    (idle : ∀ router, (relay router).router.Idle) (addressed : mac ≠ [])
    (target : npdu.destination = some destination) (all : destination.isGlobal = true)
    (body : npdu.body = .apdu data)
    (spreads : (broadcasting relay network mac npdu).Spreads wiring done net) :
    ∃ more last, (broadcasting relay network mac npdu).Spreads wiring (done ++ more) last ∧
      last.Complete wiring (done ++ more) := by
  have := Fintype.ofFinite ρ
  by_contra incomplete
  have longer (length : Nat) : ∃ more last,
      (broadcasting relay network mac npdu).Spreads wiring (done ++ more) last ∧
        more.length = length := by
    induction length with
    | zero => exact ⟨[], net, (List.append_nil done).symm ▸ spreads, rfl⟩
    | succ length ih =>
      obtain ⟨more, last, further, rfl⟩ := ih
      have left : ¬last.Complete wiring (done ++ more) := fun complete =>
        incomplete ⟨more, last, further, complete⟩
      simp only [Complete, not_forall] at left
      obtain ⟨delivery, frame, due, first⟩ := left
      have next := further.deliver due first 0
      rw [List.append_assoc] at next
      exact ⟨_, _, next, List.length_append⟩
  -- No router hears the message twice, so that there are only so many arrivals.
  obtain ⟨more, last, further, length⟩ := longer (Fintype.card ρ + 1)
  have few := (further.spreading forest idle addressed target all body).once.length_le_card
  rw [List.length_map, List.length_append] at few
  omega

/-- A station broadcasts an application message to all networks, and it spreads in an internetwork
without cycles where no messages wait. As soon as it has arrived everywhere, each network that is as
many routers away as there are hops, or fewer, has heard it once, with one hop less for each router.
No network hears it twice, and none that is farther away hears it. No router sends it back on the
link on which it has heard it, and each router that hears it hands it to its application once. Among
finitely many routers it does arrive everywhere, however it has spread so far. -/
theorem heard_once_of_spreads (forest : wiring.Forest relay)
    (idle : ∀ router, (relay router).router.Idle) (addressed : mac ≠ [])
    (target : npdu.destination = some destination) (all : destination.isGlobal = true)
    (body : npdu.body = .apdu data)
    (spreads : (broadcasting relay network mac npdu).Spreads wiring done net) :
    (∀ place steps, (wiring.graph relay).Reachable (.inr network) (.inr place) →
        wiring.distance relay network (.inr place) = 2 * steps →
          (steps ≤ npdu.hopCount.toNat → net.Complete wiring done →
            ∃ frame, net.framesOn place = [frame] ∧
              frame.npdu.hopCount.toNat = npdu.hopCount.toNat - steps ∧
              NetworkFrame.Repeats ⟨network, none, mac, .broadcast, npdu⟩ frame) ∧
          (npdu.hopCount.toNat < steps → net.framesOn place = [])) ∧
      (∀ place, (net.framesOn place).length ≤ 1 ∧
        (¬(wiring.graph relay).Reachable (.inr network) (.inr place) → net.framesOn place = [])) ∧
      (∀ delivery ∈ done, ∀ frame ∈ net.frames,
        frame.sender ≠ some (delivery.router, delivery.port)) ∧
      (done.map (·.router)).Nodup ∧
      (∀ delivery ∈ done, ∃ source, net.handed delivery.router =
        [.deliver source data npdu.expectingReply npdu.priority]) ∧
      (Finite ρ → ∃ more last,
        (broadcasting relay network mac npdu).Spreads wiring (done ++ more) last ∧
          last.Complete wiring (done ++ more)) := by
  have spreading := spreads.spreading forest idle addressed target all body
  refine ⟨?_, ?_, ?_, spreading.once, ?_, ?_⟩
  · intro place steps reachable away
    refine ⟨?_, ?_⟩
    · intro within complete
      obtain ⟨frame, member, rfl⟩ := spreading.exists_frame complete
        (spreads.subset List.mem_cons_self) within reachable away
      have follows := spreading.follows frame member
      have hops := follows.hops
      rw [away] at hops
      refine ⟨frame, framesOn_of_mem spreading.single member, ?_, follows.repeats⟩
      dsimp only at hops
      omega
    · intro beyond
      refine framesOn_eq_nil fun frame member same => ?_
      have hops := (spreading.follows frame member).hops
      rw [same, away] at hops
      dsimp only at hops
      omega
  · intro place
    refine ⟨length_framesOn_le_one spreading.single place, ?_⟩
    intro unreachable
    refine framesOn_eq_nil fun frame member same => unreachable ?_
    exact same ▸ (spreading.follows frame member).reachable
  · exact fun delivery heard frame member => spreading.not_sent_back heard member
  · intro delivery heard
    exact spreading.handed delivery.router (List.mem_map_of_mem heard)
  · intro _
    exact spreads.exists_complete forest idle addressed target all body

/-- A router between two networks. -/
def hub : Unit → Relay := fun _ => .new [⟨some 1, none⟩, ⟨some 2, none⟩] ⟨8, 5000, 60000, 255, true⟩

/-- Its first link leads to the first network, all others to the second one. -/
def hubWiring : Wiring Unit (Fin 2) := ⟨fun _ port => if port = 0 then 0 else 1, fun _ _ => [9]⟩

/-- A message to all networks with one hop left. -/
def notice : Npdu := ⟨.normal, false, some .globalBroadcast, none, 1, .apdu [16, 8]⟩

theorem forest_hub : hubWiring.Forest hub where
  numbered router link := by
    have numbers : ∀ link ∈ (hub ()).router.ports, link.network.isSome = true := by decide
    exact numbers link
  addressed _ _ _ := List.cons_ne_nil _ _
  links := by decide
  acyclic := by
    refine (SimpleGraph.isAcyclic_starGraph (.inl ())).anti ?_
    intro first second joined
    rw [SimpleGraph.starGraph_adj]
    refine ⟨joined.ne, ?_⟩
    rcases first with router | network
    · exact .inl rfl
    · rcases second with router | other
      · exact .inr rfl
      · exact joined.elim

/-- There is one router between the two networks. -/
theorem distance_hub : (hubWiring.graph hub).Reachable (.inr 0) (.inr 1) ∧
    hubWiring.distance hub 0 (.inr 1) = 2 := by
  have valid : (1 : PortId) ∈ (hub ()).router.portIds := by decide
  have first : (hubWiring.graph hub).Adj (.inr 0) (.inl ()) := ⟨0, by decide, rfl⟩
  have second : (hubWiring.graph hub).Adj (.inl ()) (.inr 1) := ⟨1, valid, rfl⟩
  have reachable := first.reachable.trans second.reachable
  have near : hubWiring.distance hub 0 (.inl ()) = 1 := SimpleGraph.dist_eq_one_iff_adj.mpr first
  refine ⟨reachable, ?_⟩
  rcases forest_hub.distance_cases valid reachable with back | away
  · rw [near] at back
    have same := reachable.dist_eq_zero_iff.mp (Nat.succ_inj.mp back).symm
    cases same
  · rw [near] at away
    exact away

/-- The message is heard on the second network when it has arrived at the router. -/
theorem heard_once_of_spreads_hub :
    ((broadcasting hub 0 [7] notice).step hubWiring 0 (.deliver 0 () 0)).Complete hubWiring
        [⟨0, (), 0⟩] ∧
      ∃ frame, ((broadcasting hub 0 [7] notice).step hubWiring 0 (.deliver 0 () 0)).framesOn 1 =
        [frame] ∧ frame.npdu.hopCount.toNat = 0 := by
  have due : (broadcasting hub 0 [7] notice).Due hubWiring ⟨0, (), 0⟩
      ⟨0, none, [7], .broadcast, notice⟩ := ⟨rfl, by decide, rfl, by simp⟩
  have spreads := Spreads.start.deliver due List.not_mem_nil 0
  have frames : ((broadcasting hub 0 [7] notice).step hubWiring 0 (.deliver 0 () 0)).frames =
      [⟨0, none, [7], .broadcast, notice⟩, ⟨1, some ((), 1), [9], .broadcast,
        { notice with source := some ⟨1, [7]⟩, hopCount := 0 }⟩] := by
    decide
  have complete : ((broadcasting hub 0 [7] notice).step hubWiring 0
      (.deliver 0 () 0)).Complete hubWiring [⟨0, (), 0⟩] := by
    rintro ⟨index, router, port⟩ frame ⟨found, -, wired, other⟩
    rw [frames] at found
    rcases index with _ | _ | index
    · cases found
      have first : port = 0 := by simpa [hubWiring] using wired
      exact List.mem_singleton.mpr (congrArg _ first)
    · cases found
      exact absurd rfl other
    · cases found
  have idle : ∀ router, (hub router).router.Idle := fun _ _ => rfl
  have ⟨reachable, away⟩ := distance_hub
  obtain ⟨heard, -⟩ := heard_once_of_spreads forest_hub idle (List.cons_ne_nil _ _) rfl rfl rfl spreads
  obtain ⟨frame, only, hops, -⟩ := (heard 1 1 reachable away).1 (by decide) complete
  exact ⟨complete, frame, only, hops⟩

end Internetwork

end BACnet
