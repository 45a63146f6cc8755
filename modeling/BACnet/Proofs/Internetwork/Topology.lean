import Mathlib.Combinatorics.SimpleGraph.Acyclic
import BACnet.Proofs.Internetwork.Basic
import BACnet.Proofs.Routing.Links

/-!
# Topologies

Routers and networks as a graph, in which a router is joined to the networks to which its links lead.
Without cycles there is one way from a network to any other, so that a router or a network has at
most one neighbour that is closer to a given one.
-/

namespace BACnet

/-! ## Forests -/

section

variable {α : Type} {graph : SimpleGraph α} {root first second vertex : α}

/-- In a forest, the neighbour that is closer is the last but one on the way. -/
theorem eq_penultimate_of_dist (acyclic : graph.IsAcyclic) (adjacent : graph.Adj first vertex)
    (closer : graph.dist root vertex = graph.dist root first + 1) {path : graph.Walk root vertex}
    (isPath : path.IsPath) (shortest : path.length = graph.dist root vertex) :
    first = path.penultimate := by
  by_cases inside : first ∈ path.support
  · exact acyclic.eq_penultimate_of_adj_end isPath adjacent.symm inside
  · -- Otherwise the way would go on to the neighbour, which would be farther.
    have longer := isPath.concat inside adjacent.symm
    obtain ⟨other, isOther, length⟩ := (path.concat adjacent.symm).reachable.exists_path_of_dist
    have same : path.concat adjacent.symm = other := congrArg Subtype.val
      ((acyclic.subsingleton_path root first).elim ⟨_, longer⟩ ⟨other, isOther⟩)
    have lengths := congrArg SimpleGraph.Walk.length same
    rw [SimpleGraph.Walk.length_concat] at lengths
    omega

/-- In a forest there is one neighbour at most that is closer. -/
theorem eq_of_closer (acyclic : graph.IsAcyclic) (adjacent : graph.Adj first vertex)
    (closer : graph.dist root vertex = graph.dist root first + 1)
    (other : graph.Adj second vertex)
    (alsoCloser : graph.dist root vertex = graph.dist root second + 1) : first = second := by
  have reachable : graph.Reachable root vertex := .of_dist_ne_zero (by omega)
  obtain ⟨path, isPath, shortest⟩ := reachable.exists_path_of_dist
  rw [eq_penultimate_of_dist acyclic adjacent closer isPath shortest,
    eq_penultimate_of_dist acyclic other alsoCloser isPath shortest]

/-- There is a closer neighbour unless there is no way to go. -/
theorem exists_closer {steps : Nat} (far : graph.dist root vertex = steps + 1) :
    ∃ closer, graph.Adj closer vertex ∧ graph.Reachable root closer ∧
      graph.dist root closer = steps := by
  have reachable : graph.Reachable root vertex := .of_dist_ne_zero (by omega)
  obtain ⟨path, -, shortest⟩ := reachable.exists_path_of_dist
  have some : ¬path.Nil := by
    rw [← SimpleGraph.Walk.length_eq_zero_iff]
    omega
  have dropped : path.dropLast.length = graph.dist root path.penultimate :=
    SimpleGraph.length_eq_dist_of_subwalk shortest (SimpleGraph.Walk.isSubwalk_rfl path).dropLast
  have lengths := path.length_dropLast_add_one some
  exact ⟨path.penultimate, path.adj_penultimate some, path.dropLast.reachable, by omega⟩

end

/-! ## Routers and networks -/

namespace Wiring

variable {ρ ν : Type}

/-- Whether a router has a link that leads to a network. -/
def Attaches (wiring : Wiring ρ ν) (relay : ρ → Relay) (router : ρ) (network : ν) : Prop :=
  ∃ port ∈ (relay router).router.portIds, wiring.network router port = network

/-- Routers and networks, joined by the links. -/
def graph (wiring : Wiring ρ ν) (relay : ρ → Relay) : SimpleGraph (ρ ⊕ ν) where
  Adj
    | .inl router, .inr network => wiring.Attaches relay router network
    | .inr network, .inl router => wiring.Attaches relay router network
    | _, _ => False
  symm := ⟨by rintro (_ | _) (_ | _) joined <;> exact joined⟩
  loopless := ⟨by rintro (_ | _) joined <;> exact joined⟩

/-- All links have numbers and addresses, and there are no cycles: neither two links of one router
to the same network nor longer ones. -/
structure Forest (wiring : Wiring ρ ν) (relay : ρ → Relay) : Prop where
  numbered : ∀ router, (relay router).router.Numbered
  addressed : ∀ router, ∀ port ∈ (relay router).router.portIds, wiring.mac router port ≠ []
  links : ∀ router, ((relay router).router.portIds.map (wiring.network router)).Nodup
  acyclic : (wiring.graph relay).IsAcyclic

/-- How far a router or a network is from a network, where a step leads from a router to a network
or back. -/
noncomputable def distance (wiring : Wiring ρ ν) (relay : ρ → Relay) (start : ν) (place : ρ ⊕ ν) :
    Nat :=
  (wiring.graph relay).dist (.inr start) place

namespace Forest

variable {wiring : Wiring ρ ν} {relay : ρ → Relay} {start network : ν} {router : ρ}
  {port other : PortId}

/-- Two links of a router lead to different networks. -/
theorem eq_of_network (forest : wiring.Forest relay)
    (valid : port ∈ (relay router).router.portIds)
    (alsoValid : other ∈ (relay router).router.portIds)
    (same : wiring.network router port = wiring.network router other) : port = other :=
  List.inj_on_of_nodup_map (forest.links router) valid alsoValid same

/-- One of a router and a network to which it is attached is closer. -/
theorem distance_cases (forest : wiring.Forest relay)
    (valid : port ∈ (relay router).router.portIds)
    (reachable : (wiring.graph relay).Reachable (.inr start)
      (.inr (wiring.network router port))) :
    wiring.distance relay start (.inl router) =
        wiring.distance relay start (.inr (wiring.network router port)) + 1 ∨
      wiring.distance relay start (.inr (wiring.network router port)) =
        wiring.distance relay start (.inl router) + 1 := by
  have joined : (wiring.graph relay).Adj (.inr (wiring.network router port)) (.inl router) :=
    ⟨port, valid, rfl⟩
  exact (forest.acyclic.dist_eq_dist_add_one_of_adj_of_reachable _ joined reachable).symm

/-- Of the networks to which a router is attached one at most is closer. -/
theorem eq_port_of_closer (forest : wiring.Forest relay)
    (valid : port ∈ (relay router).router.portIds)
    (alsoValid : other ∈ (relay router).router.portIds)
    (closer : wiring.distance relay start (.inl router) =
      wiring.distance relay start (.inr (wiring.network router port)) + 1)
    (alsoCloser : wiring.distance relay start (.inl router) =
      wiring.distance relay start (.inr (wiring.network router other)) + 1) : port = other := by
  have joined {port : PortId} (valid : port ∈ (relay router).router.portIds) :
      (wiring.graph relay).Adj (.inr (wiring.network router port)) (.inl router) :=
    ⟨port, valid, rfl⟩
  have same := eq_of_closer forest.acyclic (joined valid) closer (joined alsoValid) alsoCloser
  exact forest.eq_of_network valid alsoValid (Sum.inr.inj same)

/-- Of the routers that are attached to a network one at most is closer. -/
theorem eq_router_of_closer (forest : wiring.Forest relay) {first second : ρ}
    (attached : wiring.Attaches relay first network)
    (alsoAttached : wiring.Attaches relay second network)
    (closer : wiring.distance relay start (.inr network) =
      wiring.distance relay start (.inl first) + 1)
    (alsoCloser : wiring.distance relay start (.inr network) =
      wiring.distance relay start (.inl second) + 1) : first = second := by
  have joined {router : ρ} (attached : wiring.Attaches relay router network) :
      (wiring.graph relay).Adj (.inl router) (.inr network) := attached
  exact Sum.inl.inj
    (eq_of_closer forest.acyclic (joined attached) closer (joined alsoAttached) alsoCloser)

end Forest

end Wiring

end BACnet
