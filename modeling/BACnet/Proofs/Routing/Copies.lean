import BACnet.Proofs.Routing.Links

/-!
# Messages that pass a router

A message from a link is the same when it leaves a router again, except for the hop count, for its
source if it has none, and for its destination where it has reached the network of its destination
(`Router.Copies`). In between it may wait, as it has passed the router (`Router.Passes`), and it is
sent as it has waited (`Router.Sends`).
-/

namespace BACnet

/-- The messages say the same with the same urgency. -/
structure Npdu.SameContent (original copy : Npdu) : Prop where
  priority : copy.priority = original.priority
  expectingReply : copy.expectingReply = original.expectingReply
  body : copy.body = original.body

theorem Npdu.SameContent.trans {original between copy : Npdu}
    (first : original.SameContent between) (second : between.SameContent copy) :
    original.SameContent copy :=
  ⟨second.priority.trans first.priority, second.expectingReply.trans first.expectingReply,
    second.body.trans first.body⟩

/-- A message that is held back is sent as it is, perhaps without its destination, and with a source
if it has none. -/
structure Npdu.CarriedAs (held sent : Npdu) : Prop where
  content : held.SameContent sent
  hopCount : sent.hopCount = held.hopCount
  source : held.source.isSome = true → sent.source = held.source
  destination : sent.destination = held.destination ∨ sent.destination = none

namespace Router

/-- Whether a message is to an attached network. -/
def attaches (router : Router) (npdu : Npdu) : Bool :=
  npdu.destination.any fun destination =>
    !destination.isGlobal && (router.directPort? destination.network).isSome

/-- A message that has been received has passed the router, which has named its source if it had
none. -/
structure Passes (router : Router) (arrival : Arrival) (received passed : Npdu) : Prop where
  content : received.SameContent passed
  hopCount : received.hopCount.toNat = passed.hopCount.toNat + 1
  destination : passed.destination = received.destination
  source : ∃ source, passed.source = some source ∧
    (received.source = some source ∨
      received.source = none ∧ router.network? arrival.port = some source.network ∧
        source.mac = arrival.mac)

/-- A message is sent as it has waited or might have waited. One that came from a link has no
destination any more if it is to an attached network. -/
structure Sends (router : Router) (message : PendingNpdu) (sent : Npdu) : Prop where
  content : message.npdu.SameContent sent
  hopCount : sent.hopCount = message.npdu.hopCount
  source : message.npdu.source.isSome = true → sent.source = message.npdu.source
  destination : message.arrival.isSome = true →
    sent.destination = if router.attaches message.npdu then none else message.npdu.destination

/-- A message that has been received is sent on: with one hop less, with its source or else the
station from which it came, and without a destination if this is on an attached network. -/
structure Copies (router : Router) (arrival : Arrival) (received sent : Npdu) : Prop where
  content : received.SameContent sent
  hopCount : received.hopCount.toNat = sent.hopCount.toNat + 1
  source : ∃ source, sent.source = some source ∧
    (received.source = some source ∨
      received.source = none ∧ router.network? arrival.port = some source.network ∧
        source.mac = arrival.mac)
  destination : sent.destination =
    if router.attaches received then none else received.destination

/-! ## Messages that pass -/

theorem passes_of_pass {router : Router} {arrival : Arrival} {npdu passed : Npdu} {network : UInt16}
    (result : (router.pass arrival npdu network).1 = some passed) :
    router.Passes arrival npdu passed := by
  unfold pass at result
  split at result
  · cases result
  · next positive =>
    have hops : npdu.hopCount.toNat = (npdu.hopCount - 1).toNat + 1 := by
      have nonzero : npdu.hopCount.toNat ≠ 0 := fun zero => positive (UInt8.toNat_inj.mp zero)
      have one : (1 : UInt8) ≤ npdu.hopCount := by
        rw [UInt8.le_iff_toNat_le]
        exact Nat.pos_of_ne_zero nonzero
      have less := UInt8.toNat_sub_of_le _ _ one
      have unit : (1 : UInt8).toNat = 1 := rfl
      omega
    unfold nameSource? at result
    dsimp only at result
    split at result
    · next source named =>
      cases result
      exact ⟨⟨rfl, rfl, rfl⟩, hops, rfl, source, named, .inl named⟩
    · next sourceless =>
      split at result
      · cases result
      · next number known =>
        split at result
        · cases result
        · cases result
          exact ⟨⟨rfl, rfl, rfl⟩, hops, rfl, _, rfl, .inr ⟨sourceless, known, rfl⟩⟩

/-- A message that has passed a router names its source. -/
theorem Passes.named {router : Router} {arrival : Arrival} {received passed : Npdu}
    (passes : router.Passes arrival received passed) : passed.source.isSome = true := by
  obtain ⟨source, named, -⟩ := passes.source
  rw [named]
  rfl

/-- What has passed is a copy unless it is to an attached network. -/
theorem Passes.copies_self {router : Router} {arrival : Arrival} {received passed : Npdu}
    (passes : router.Passes arrival received passed) (remote : router.attaches received = false) :
    router.Copies arrival received passed := by
  refine ⟨passes.content, passes.hopCount, passes.source, ?_⟩
  rw [remote, passes.destination]
  rfl

/-- A copy of a message to an attached network has no destination. -/
theorem Passes.copies_near {router : Router} {arrival : Arrival} {received passed : Npdu}
    (passes : router.Passes arrival received passed) (near : router.attaches received = true) :
    router.Copies arrival received { passed with destination := none } := by
  obtain ⟨priority, expectingReply, body⟩ := passes.content
  refine ⟨⟨priority, expectingReply, body⟩, passes.hopCount, passes.source, ?_⟩
  rw [near]
  rfl

/-- Whether and how a message passes depends on the links alone. -/
theorem SameLinks.fst_pass_eq {before after : Router} (same : before.SameLinks after)
    (arrival : Arrival) (npdu : Npdu) (network : UInt16) :
    (after.pass arrival npdu network).1 = (before.pass arrival npdu network).1 := by
  unfold pass
  split
  · rfl
  · dsimp only
    unfold nameSource?
    rw [same.network?_eq]

/-- What is sent of a message that has passed is a copy of the one that has been received. -/
theorem Passes.copies {before router : Router} {arrival : Arrival} {received : Npdu}
    {message : PendingNpdu} {sent : Npdu} (passes : before.Passes arrival received message.npdu)
    (known : ∀ network, before.network? arrival.port = some network →
      router.network? arrival.port = some network)
    (came : message.arrival = some arrival) (sends : router.Sends message sent) :
    router.Copies arrival received sent := by
  obtain ⟨source, named, origin⟩ := passes.source
  refine {
    content := ?_
    hopCount := ?_
    source := ⟨source, ?_, ?_⟩
    destination := ?_ }
  · exact passes.content.trans sends.content
  · rw [passes.hopCount, sends.hopCount]
  · rw [sends.source passes.named, named]
  · exact origin.imp_right fun ⟨sourceless, number, mac⟩ => ⟨sourceless, known _ number, mac⟩
  · rw [sends.destination (by rw [came]; rfl), attaches, attaches, passes.destination]

/-! ## Messages that are sent -/

/-- Only the source of a message changes when it is put on a link. -/
theorem exists_stamp_eq (router : Router) (port : PortId) (npdu : Npdu) :
    ∃ source, router.stamp port npdu = { npdu with source } ∧
      (npdu.source.isSome = true → source = npdu.source) := by
  unfold stamp
  split
  · next unnamed =>
    refine ⟨_, rfl, fun named => ?_⟩
    rw [Option.isNone_iff_eq_none.mp unnamed.2.1] at named
    cases named
  · exact ⟨npdu.source, rfl, fun _ => rfl⟩

/-- A message is put on the link that is named, and only its source changes. -/
theorem of_transmission {router : Router} {port : PortId} {link : LinkDestination} {npdu : Npdu}
    {sent : Transmission} (transmits : router.transmission port link npdu = .transmit sent) :
    sent.port = port ∧ npdu.CarriedAs sent.npdu := by
  obtain ⟨source, stamped, kept⟩ := router.exists_stamp_eq port npdu
  rw [transmission, stamped] at transmits
  cases transmits
  exact ⟨rfl, ⟨rfl, rfl, rfl⟩, rfl, kept, .inl rfl⟩

/-- A message is put on a link, with or without its destination. -/
theorem sends_of_transmission {router known : Router} {message : PendingNpdu} {port : PortId}
    {link : LinkDestination} {destination : Option Address} {sent : Transmission}
    (transmits : router.transmission port link { message.npdu with destination } = .transmit sent)
    (addressed : message.arrival.isSome = true →
      destination = if known.attaches message.npdu then none else message.npdu.destination) :
    known.Sends message sent.npdu := by
  obtain ⟨source, stamped, kept⟩ :=
    router.exists_stamp_eq port { message.npdu with destination }
  rw [transmission, stamped] at transmits
  cases transmits
  exact ⟨⟨rfl, rfl, rfl⟩, rfl, kept, addressed⟩

end Router

/-- The network for which a message waits is that of its destination. -/
def PendingNpdu.BoundFor (message : PendingNpdu) (network : UInt16) : Prop :=
  ∃ destination, message.npdu.destination = some destination ∧ destination.network = network ∧
    destination.isGlobal = false

namespace Router

variable {router : Router} {network : UInt16}

/-- A message leaves towards a network on the link behind which it lies or on that of the route to
it, and without its destination if the network is attached. -/
theorem carrier?_eq {carry : Npdu → RouterOutput} (reached : router.carrier? network = some carry)
    (npdu : Npdu) : ∃ port link,
      (router.directPort? network = some port ∨
        ∃ route, router.table.find? network = some route ∧ route.port = port) ∧
      carry npdu = router.transmission port link { npdu with
        destination :=
          if (router.directPort? network).isSome then none else npdu.destination } := by
  unfold carrier? at reached
  cases direct : router.directPort? network with
  | some port =>
    rw [direct] at reached
    cases reached
    exact ⟨port, _, .inl rfl, rfl⟩
  | none =>
    rw [direct] at reached
    dsimp only at reached
    split at reached
    · cases reached
    · next route found =>
      split at reached
      · cases reached
      · cases reached
        exact ⟨route.port, .unicast route.nextHop, .inr ⟨route, found, rfl⟩, rfl⟩

/-- What leaves towards a network is the message that was held back. -/
theorem carriedAs_of_carrier? {carry : Npdu → RouterOutput}
    (reached : router.carrier? network = some carry) {npdu : Npdu} {sent : Transmission}
    (transmits : carry npdu = .transmit sent) : npdu.CarriedAs sent.npdu := by
  obtain ⟨port, link, -, carries⟩ := carrier?_eq reached npdu
  rw [carries] at transmits
  obtain ⟨-, content, hopCount, source, destination⟩ := of_transmission transmits
  refine ⟨⟨content.priority, content.expectingReply, content.body⟩, hopCount, source, ?_⟩
  rcases destination with same | without
  · rw [same]
    split
    · exact .inr rfl
    · exact .inl rfl
  · exact .inr without

theorem attaches_of_boundFor {message : PendingNpdu} (bound : message.BoundFor network) :
    router.attaches message.npdu = (router.directPort? network).isSome := by
  obtain ⟨destination, addressed, rfl, remote⟩ := bound
  rw [attaches, addressed, Option.any_some, remote]
  rfl

theorem sends_of_carrier? {carry : Npdu → RouterOutput}
    (reached : router.carrier? network = some carry) {message : PendingNpdu}
    (bound : message.BoundFor network) {sent : Transmission}
    (transmits : carry message.npdu = .transmit sent) : router.Sends message sent.npdu := by
  obtain ⟨port, link, -, carries⟩ := carrier?_eq reached message.npdu
  rw [carries] at transmits
  refine sends_of_transmission transmits fun _ => ?_
  rw [attaches_of_boundFor bound]

/-- Attached networks do not depend on routes and on messages that wait. -/
theorem SameLinks.attaches_eq {before after : Router} (same : before.SameLinks after) (npdu : Npdu) :
    after.attaches npdu = before.attaches npdu := by
  unfold attaches
  simp only [same.directPort?_eq]

theorem Copies.of_sameLinks {before after : Router} {arrival : Arrival} {received sent : Npdu}
    (copies : before.Copies arrival received sent) (same : before.SameLinks after) :
    after.Copies arrival received sent := by
  refine ⟨copies.content, copies.hopCount, ?_, ?_⟩
  · rw [same.network?_eq]
    exact copies.source
  · rw [same.attaches_eq]
    exact copies.destination

theorem Sends.of_sameLinks {before after : Router} {message : PendingNpdu} {sent : Npdu}
    (sends : after.Sends message sent) (same : before.SameLinks after) :
    before.Sends message sent :=
  ⟨sends.content, sends.hopCount, sends.source, by
    rw [← same.attaches_eq message.npdu]
    exact sends.destination⟩

end Router

end BACnet
