import BACnet.Proofs.Routing.Accounts
import BACnet.Proofs.Routing.Passage

/-!
# What has waited

What a router puts on its links when a message arrives is what it would put there if no messages
waited, and beside this what has waited, perhaps with questions for routers
(`Routing.mem_outputs_receive`). What it comes to know does not depend on what waits.
-/

namespace BACnet

namespace Router

variable {router : Router}

theorem of_broadcasts {ports : List PortId} {npdu : Npdu} {sent : Transmission}
    (member : .transmit sent ∈ router.broadcasts ports npdu) :
    sent.port ∈ ports ∧ npdu.CarriedAs sent.npdu := by
  obtain ⟨port, present, transmits⟩ := List.mem_map.mp member
  obtain ⟨there, carried⟩ := of_transmission transmits
  exact ⟨there ▸ present, carried⟩

end Router

/-- The message asks for a router. -/
def NpduBody.Asks (body : NpduBody) : Prop :=
  ∃ network, body = .network (.whoIsRouterToNetwork network)

namespace Routing

variable {held : Npdu → Prop} {said : List RouterOutput} {state : Routing} {now : Nat}
  {network : UInt16} {message : PendingNpdu}

theorem asks_of_queries {router : Router} {except : Option PortId} {sent : Transmission}
    (member : .transmit sent ∈ router.queries network except) : sent.npdu.body.Asks :=
  ⟨some network, (Router.of_broadcasts member).2.content.body⟩

/-- If a message has to wait, nothing is sent but the question for a router. -/
theorem outputs_enqueue (state : Routing) (now : Nat) (network : UInt16) (message : PendingNpdu)
    (ask : Bool) : ∃ added, (state.enqueue now network message ask).2.outputs =
      state.outputs ++ added ∧ ∀ sent, .transmit sent ∈ added → sent.npdu.body.Asks := by
  unfold enqueue
  split
  · refine ⟨_, rfl, ?_⟩
    intro sent member
    cases List.mem_singleton.mp member
  · split
    · exact ⟨[], (List.append_nil _).symm, fun sent member => absurd member List.not_mem_nil⟩
    · refine ⟨_, rfl, ?_⟩
      intro sent member
      split at member
      · exact asks_of_queries member
      · cases member

/-- A message is sent as it is, perhaps with the question for a router. -/
theorem outputs_forward (state : Routing) (now : Nat) (network : UInt16) (message : PendingNpdu) :
    ∃ added, (state.forward now network message).2.outputs = state.outputs ++ added ∧
      ∀ sent, .transmit sent ∈ added →
        (∃ carry ∈ state.router.carrier? network, carry message.npdu = .transmit sent) ∨
          sent.npdu.body.Asks := by
  cases reached : state.router.carrier? network with
  | none =>
    rw [forward_of_not_reaches reached]
    obtain ⟨added, outputs, asks⟩ := outputs_enqueue state now network message
      (state.router.table.find? network).isNone
    exact ⟨added, outputs, fun sent member => .inr (asks sent member)⟩
  | some carry =>
    rw [forward_of_carrier? reached]
    refine ⟨_, rfl, ?_⟩
    intro sent member
    rcases List.mem_cons.mp member with sends | asks
    · exact .inl ⟨carry, rfl, sends.symm⟩
    · split at asks
      · exact .inr (asks_of_queries asks)
      · cases asks

/-- Only the message itself may begin to wait. -/
theorem mem_waits_of_forward {other : PendingNpdu} {target : UInt16}
    (member : other ∈ (state.forward now network message).2.router.waits target) :
    other ∈ state.router.waits target ∨ other = message := by
  cases reached : state.router.carrier? network with
  | some carry =>
    rw [forward_of_carrier? reached] at member
    exact .inl member
  | none =>
    rw [forward_of_not_reaches reached] at member
    unfold enqueue at member
    split at member
    · exact .inl member
    · split at member
      · next queue found =>
        rcases Router.mem_waits_of_insert member with old | ⟨rfl, joined⟩
        · exact .inl old
        · rcases List.mem_append.mp joined with old | new
          · exact .inl (by rwa [Router.waits_of_find? found])
          · exact .inr (List.mem_singleton.mp new)
      · rcases Router.mem_waits_of_insert member with old | ⟨rfl, joined⟩
        · exact .inl old
        · exact .inr (List.mem_singleton.mp joined)

/-- What has been put on a link is `said`, or it has been held back, or it asks for a router. -/
structure Echoes (held : Npdu → Prop) (said : List RouterOutput) (state : Routing) : Prop where
  waits : ∀ network, ∀ message ∈ state.router.waits network, held message.npdu
  outputs : ∀ sent, .transmit sent ∈ state.outputs →
    .transmit sent ∈ said ∨ (∃ npdu, held npdu ∧ npdu.CarriedAs sent.npdu) ∨ sent.npdu.body.Asks

theorem Echoes.emit (echoes : state.Echoes held said) (outputs : List RouterOutput) :
    (state.emit outputs).Echoes held (said ++ outputs) := by
  refine ⟨echoes.waits, ?_⟩
  intro sent member
  rcases List.mem_append.mp member with old | new
  · exact (echoes.outputs sent old).imp_left (List.mem_append_left outputs)
  · exact .inl (List.mem_append_right said new)

theorem echoes_forward (echoes : state.Echoes held said)
    (joins : held message.npdu) (now : Nat) (network : UInt16) :
    (state.forward now network message).2.Echoes held said := by
  constructor
  · intro target other member
    rcases mem_waits_of_forward member with old | rfl
    · exact echoes.waits target other old
    · exact joins
  · intro sent member
    obtain ⟨added, outputs, sends⟩ := outputs_forward state now network message
    rw [outputs] at member
    rcases List.mem_append.mp member with old | new
    · exact echoes.outputs sent old
    · rcases sends sent new with ⟨carry, reached, transmits⟩ | asks
      · exact .inr (.inl ⟨message.npdu, joins, Router.carriedAs_of_carrier? reached transmits⟩)
      · exact .inr (.inr asks)

theorem echoes_foldl_forward {messages : List PendingNpdu} (echoes : state.Echoes held said)
    (join : ∀ message ∈ messages, held message.npdu) (now : Nat) (network : UInt16) :
    (messages.foldl (fun state message => (state.forward now network message).2) state).Echoes
      held said := by
  induction messages generalizing state with
  | nil => exact echoes
  | cons first rest ih =>
    apply ih (echoes_forward echoes (join first List.mem_cons_self) now network)
    intro message member
    exact join message (List.mem_cons_of_mem first member)

theorem echoes_flush (echoes : state.Echoes held said) (now : Nat) (network : UInt16) :
    (state.flush now network).Echoes held said := by
  unfold flush
  split
  · exact echoes
  · next queue found =>
    have dropped : (state.dropQueue network queue).Echoes held said := by
      refine ⟨?_, echoes.outputs⟩
      intro other message member
      exact echoes.waits other message (Router.mem_waits_of_erase member)
    apply echoes_foldl_forward dropped
    intro message member
    exact echoes.waits network message (by rwa [Router.waits_of_find? found])

/-- With a chore a router says what it says when nothing waits, and beside this it sends what has
waited. -/
theorem echoes_perform {lone : Routing} (echoes : state.Echoes held lone.outputs)
    (idle : lone.router.Idle) (now : Nat) (chore : Chore) :
    (state.perform now chore).Echoes held (lone.perform now chore).outputs ∧
      (lone.perform now chore).router.Idle := by
  cases chore with
  | tells outputs => exact ⟨echoes.emit outputs, idle⟩
  | adopts ports table => exact ⟨⟨echoes.waits, echoes.outputs⟩, idle⟩
  | releases table network =>
    have alone : lone.perform now (.releases table network) =
        lone.mapRouter fun router => { router with table } := by
      rw [perform, flush_of_none]
      exact idle network
    have mapped : (state.mapRouter fun router => { router with table }).Echoes held
        lone.outputs := ⟨echoes.waits, echoes.outputs⟩
    rw [alone]
    exact ⟨echoes_flush mapped now network, idle⟩

theorem echoes_performAll {lone : Routing} (echoes : state.Echoes held lone.outputs)
    (idle : lone.router.Idle) (chores : List Chore) :
    (state.performAll now chores).Echoes held (lone.performAll now chores).outputs := by
  induction chores generalizing state lone with
  | nil => exact echoes
  | cons chore rest ih =>
    obtain ⟨first, left⟩ := echoes_perform echoes idle now chore
    exact ih first left

variable {router : Router} {timers : TimerQueue TimerEvent} {arrival : Arrival} {npdu : Npdu}

/-- The messages that wait do not matter for what a router comes to know. -/
theorem bare_receive (router : Router) (timers : TimerQueue TimerEvent) (now : Nat)
    (arrival : Arrival) (npdu : Npdu) :
    ((start router timers).receive now arrival npdu).2.router.bare =
      ((start router.bare timers).receive now arrival npdu).2.router.bare := by
  obtain ⟨joining, planned, -⟩ := decides_receive now router.bare arrival npdu
  cases planned with
  | settled decision chores decided fair does =>
    rw [does (start router timers) rfl, does (start router.bare timers) rfl, bare_performAll,
      bare_performAll]
    rfl
  | queued chores network message ask fair before after kept does =>
    rw [does (start router timers) rfl, does (start router.bare timers) rfl, bare_enqueue,
      bare_enqueue, bare_performAll, bare_performAll]
    rfl

/-- What a router puts on its links is what it says when no messages wait, or it has waited, or it
asks for a router. -/
theorem mem_outputs_receive {sent : Transmission}
    (member : .transmit sent ∈ ((start router timers).receive now arrival npdu).2.outputs) :
    .transmit sent ∈ ((start router.bare timers).receive now arrival npdu).2.outputs ∨
      (∃ network, ∃ message ∈ router.waits network, message.npdu.CarriedAs sent.npdu) ∨
      sent.npdu.body.Asks := by
  have begun : (start router timers).Echoes
      (fun npdu => ∃ network, ∃ message ∈ router.waits network, message.npdu = npdu)
      (start router.bare timers).outputs := by
    refine ⟨?_, fun sent member => absurd member List.not_mem_nil⟩
    intro network message waits
    exact ⟨network, message, waits, rfl⟩
  have echoes (chores : List Chore)
      (member : .transmit sent ∈ ((start router timers).performAll now chores).outputs) :
      .transmit sent ∈ ((start router.bare timers).performAll now chores).outputs ∨
        (∃ network, ∃ message ∈ router.waits network, message.npdu.CarriedAs sent.npdu) ∨
        sent.npdu.body.Asks := by
    rcases (echoes_performAll begun (fun _ => rfl) chores).outputs sent member with
      alone | ⟨_, ⟨network, message, waits, rfl⟩, carried⟩ | asks
    · exact .inl alone
    · exact .inr (.inl ⟨network, message, waits, carried⟩)
    · exact .inr (.inr asks)
  obtain ⟨joining, planned, -⟩ := decides_receive now router.bare arrival npdu
  cases planned with
  | settled decision chores decided fair does =>
    rw [does _ rfl] at member ⊢
    exact echoes chores member
  | queued chores network message ask fair before after kept does =>
    rw [does _ rfl] at member ⊢
    obtain ⟨added, outputs, asks⟩ := outputs_enqueue
      ((start router timers).performAll now chores) now network message ask
    obtain ⟨more, alone, -⟩ := outputs_enqueue
      ((start router.bare timers).performAll now chores) now network message ask
    rw [outputs] at member
    rw [alone]
    rcases List.mem_append.mp member with old | new
    · exact (echoes chores old).imp_left (List.mem_append_left more)
    · exact .inr (.inr (asks sent new))

end Routing

end BACnet
