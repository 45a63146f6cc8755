import Mathlib.Data.List.Induction
import Mathlib.Logic.Function.Basic
import BACnet.Proofs.Routing.Relay

/-!
# Internetworks

Routers whose links lead to networks, in any topology, and all that can happen in them. Every message
that has been sent stays where it can be heard: it can arrive late, several times, or never, at any
router on its network. What can happen therefore includes all that links do that lose, repeat and
reorder messages.
-/

namespace BACnet

/-- How the links of routers are wired: to which networks they lead, and at which addresses the
routers stand there. -/
structure Wiring (ρ ν : Type) where
  network : ρ → PortId → ν
  mac : ρ → PortId → Octets

/-- A message that has been sent on a network. -/
structure NetworkFrame (ρ ν : Type) where
  network : ν
  /-- The router that has sent it, and on which link; none if a station has sent it. -/
  sender : Option (ρ × PortId)
  /-- The address of the sender on the network. -/
  mac : Octets
  destination : LinkDestination
  npdu : Npdu
  deriving DecidableEq, Repr

/-- Routers, all messages that have been sent on their networks so far, and what each router has
handed to its application. -/
structure Internetwork (ρ ν : Type) where
  relay : ρ → Relay
  frames : List (NetworkFrame ρ ν)
  handed : ρ → List RouterOutput

/-- What happens in an internetwork. -/
inductive InternetworkEvent (ρ ν : Type) where
  /-- A station sends a message. -/
  | inject (network : ν) (mac : Octets) (destination : LinkDestination) (npdu : Npdu)
  /-- The message with this number arrives at a router on one of its links. -/
  | deliver (index : Nat) (router : ρ) (port : PortId)
  /-- Something else happens at a router. Messages come from networks only. -/
  | act (router : ρ) (event : RelayEvent)

/-- Whether a message is handed to the application. -/
def RouterOutput.isDelivery : RouterOutput → Bool
  | deliver _ _ _ _ => true
  | _ => false

/-- Whether a message arrives from a link. -/
def RelayEvent.isReceive : RelayEvent → Bool
  | receive _ _ => true
  | _ => false

variable {ρ ν : Type}

namespace Wiring

/-- A message as it is heard on the network to which the link of its router leads. -/
def frame (wiring : Wiring ρ ν) (router : ρ) (sent : Transmission) : NetworkFrame ρ ν :=
  ⟨wiring.network router sent.port, some (router, sent.port), wiring.mac router sent.port,
    sent.destination, sent.npdu⟩

/-- What is heard on networks of what a router puts out. -/
def frames (wiring : Wiring ρ ν) (router : ρ) (outputs : List RouterOutput) :
    List (NetworkFrame ρ ν) :=
  outputs.filterMap fun
    | .transmit sent => some (wiring.frame router sent)
    | _ => none

theorem mem_frames {wiring : Wiring ρ ν} {router : ρ} {outputs : List RouterOutput}
    {frame : NetworkFrame ρ ν} :
    frame ∈ wiring.frames router outputs ↔
      ∃ sent, .transmit sent ∈ outputs ∧ wiring.frame router sent = frame := by
  rw [frames, List.mem_filterMap]
  constructor
  · rintro ⟨output, member, heard⟩
    split at heard
    · next sent => exact ⟨sent, member, Option.some.inj heard⟩
    · cases heard
  · rintro ⟨sent, member, rfl⟩
    exact ⟨.transmit sent, member, rfl⟩

end Wiring

namespace Internetwork

/-- Routers that are set up, and networks on which nothing has been sent. -/
def new (ports : ρ → List PortConfig) (config : ρ → RouterConfig) : Internetwork ρ ν :=
  ⟨fun router => .new (ports router) (config router), [], fun _ => []⟩

variable [DecidableEq ν]

/-- What an event means for a router, and for which one. -/
def happens? (net : Internetwork ρ ν) (wiring : Wiring ρ ν) :
    InternetworkEvent ρ ν → Option (ρ × RelayEvent)
  | .inject _ _ _ _ => none
  | .deliver index router port =>
    match net.frames[index]? with
    | none => none
    | some frame =>
      if wiring.network router port = frame.network then
        some (router, .receive ⟨port, frame.mac⟩ frame.npdu)
      else none
  | .act router event => if event.isReceive then none else some (router, event)

theorem happens?_deliver {net : Internetwork ρ ν} {wiring : Wiring ρ ν} {index : Nat} {router : ρ}
    {port : PortId} {frame : NetworkFrame ρ ν} (found : net.frames[index]? = some frame)
    (wired : wiring.network router port = frame.network) :
    net.happens? wiring (.deliver index router port) =
      some (router, .receive ⟨port, frame.mac⟩ frame.npdu) := by
  unfold happens?
  dsimp only
  rw [found]
  exact if_pos wired

variable [DecidableEq ρ]

/-- Something happens at a router, and what the router sends is heard on networks. -/
def perform (net : Internetwork ρ ν) (wiring : Wiring ρ ν) (now : Nat) (router : ρ)
    (event : RelayEvent) : Internetwork ρ ν :=
  let result := (net.relay router).step now event
  { relay := Function.update net.relay router result.relay
    frames := net.frames ++ wiring.frames router result.outputs
    handed := Function.update net.handed router
      (net.handed router ++ result.outputs.filter (·.isDelivery)) }

/-- What comes of an event. -/
def step (net : Internetwork ρ ν) (wiring : Wiring ρ ν) (now : Nat)
    (event : InternetworkEvent ρ ν) : Internetwork ρ ν :=
  match event with
  | .inject network mac destination npdu =>
    { net with frames := net.frames ++ [⟨network, none, mac, destination, npdu⟩] }
  | event =>
    match net.happens? wiring event with
    | none => net
    | some (router, event) => net.perform wiring now router event

/-- The internetwork after events one after the other, each at its time. -/
def run (net : Internetwork ρ ν) (wiring : Wiring ρ ν)
    (events : List (Nat × InternetworkEvent ρ ν)) : Internetwork ρ ν :=
  events.foldl (fun net (now, event) => net.step wiring now event) net

variable {net : Internetwork ρ ν} {wiring : Wiring ρ ν}

theorem run_append (net : Internetwork ρ ν) (wiring : Wiring ρ ν)
    (before after : List (Nat × InternetworkEvent ρ ν)) :
    net.run wiring (before ++ after) = (net.run wiring before).run wiring after :=
  List.foldl_append

/-- A station sends a message, nothing happens, or something happens at one router. -/
theorem step_cases (net : Internetwork ρ ν) (wiring : Wiring ρ ν) (now : Nat)
    (event : InternetworkEvent ρ ν) :
    (∃ network mac destination npdu, event = .inject network mac destination npdu ∧
        net.step wiring now event =
          { net with frames := net.frames ++ [⟨network, none, mac, destination, npdu⟩] }) ∨
      net.step wiring now event = net ∨
      ∃ router own, net.happens? wiring event = some (router, own) ∧
        net.step wiring now event = net.perform wiring now router own := by
  cases event with
  | inject network mac destination npdu =>
    exact .inl ⟨network, mac, destination, npdu, rfl, rfl⟩
  | deliver index router port =>
    unfold step
    dsimp only
    split
    · exact .inr (.inl rfl)
    · next own happens => exact .inr (.inr ⟨_, own, happens, rfl⟩)
  | act router event =>
    unfold step
    dsimp only
    split
    · exact .inr (.inl rfl)
    · next own happens => exact .inr (.inr ⟨_, own, happens, rfl⟩)

theorem step_deliver {index : Nat} {router : ρ} {port : PortId} {frame : NetworkFrame ρ ν}
    (found : net.frames[index]? = some frame)
    (wired : wiring.network router port = frame.network) (now : Nat) :
    net.step wiring now (.deliver index router port) =
      net.perform wiring now router (.receive ⟨port, frame.mac⟩ frame.npdu) := by
  unfold step
  dsimp only
  rw [happens?_deliver found wired]

/-- A router stays as it is, or something happens at it. -/
theorem relay_step (net : Internetwork ρ ν) (wiring : Wiring ρ ν) (now : Nat)
    (event : InternetworkEvent ρ ν) (router : ρ) :
    (net.step wiring now event).relay router = net.relay router ∨
      ∃ own, net.happens? wiring event = some (router, own) ∧
        (net.step wiring now event).relay router = ((net.relay router).step now own).relay := by
  rcases net.step_cases wiring now event with
    ⟨_, _, _, _, -, does⟩ | idle | ⟨other, own, happens, does⟩
  · exact .inl (congrArg (fun net => net.relay router) does)
  · exact .inl (congrArg (fun net => net.relay router) idle)
  · rw [does, perform]
    by_cases same : router = other
    · subst same
      exact .inr ⟨own, happens, Function.update_self ..⟩
    · exact .inl (Function.update_of_ne same ..)

/-- What has been sent stays. -/
theorem frames_step (net : Internetwork ρ ν) (wiring : Wiring ρ ν) (now : Nat)
    (event : InternetworkEvent ρ ν) : net.frames <+: (net.step wiring now event).frames := by
  rcases net.step_cases wiring now event with
    ⟨_, _, _, _, -, does⟩ | idle | ⟨_, _, -, does⟩
  · rw [does]
    exact List.prefix_append _ _
  · exact idle.symm ▸ List.prefix_rfl
  · rw [does]
    exact List.prefix_append _ _

/-- A message is on a network because it was there before, because a station has sent it, or because
a router has. -/
theorem mem_frames_step {now : Nat} {event : InternetworkEvent ρ ν} {frame : NetworkFrame ρ ν}
    (member : frame ∈ (net.step wiring now event).frames) :
    frame ∈ net.frames ∨ frame.sender = none ∨
      ∃ router own, net.happens? wiring event = some (router, own) ∧
        ∃ sent, .transmit sent ∈ ((net.relay router).step now own).outputs ∧
          wiring.frame router sent = frame := by
  rcases net.step_cases wiring now event with
    ⟨_, _, _, _, -, does⟩ | idle | ⟨router, own, happens, does⟩
  · rw [does] at member
    rcases List.mem_append.mp member with old | injected
    · exact .inl old
    · rw [List.mem_singleton.mp injected]
      exact .inr (.inl rfl)
  · rw [idle] at member
    exact .inl member
  · rw [does] at member
    rcases List.mem_append.mp member with old | new
    · exact .inl old
    · exact .inr (.inr ⟨router, own, happens, Wiring.mem_frames.mp new⟩)

theorem frames_run (net : Internetwork ρ ν) (wiring : Wiring ρ ν)
    (events : List (Nat × InternetworkEvent ρ ν)) :
    net.frames <+: (net.run wiring events).frames := by
  induction events generalizing net with
  | nil => exact List.prefix_rfl
  | cons entry rest ih => exact (net.frames_step wiring entry.1 entry.2).trans (ih _)

end Internetwork

end BACnet
