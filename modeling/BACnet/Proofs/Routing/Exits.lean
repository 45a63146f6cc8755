import BACnet.Proofs.Routing.Links

/-!
# How waiting messages leave

A message that has waited for a network leaves on a link behind which the network lies, or to the
next router towards it (`Exit`). If no route is found in time, it is refused: the station from which
it came is told so, or the application (`Router.obituary`).
-/

namespace BACnet

namespace Router

/-- A link with this number is attached to the network. -/
def AttachedAt (router : Router) (network : UInt16) (port : PortId) : Prop :=
  ∃ index link, router.ports[index]? = some link ∧ link.network = some network ∧
    UInt16.ofNat index = port

variable {router : Router} {network : UInt16} {port : PortId}

theorem attachedAt_of_network? (known : router.network? port = some network) :
    router.AttachedAt network port := by
  obtain ⟨link, found, numbered⟩ := Option.bind_eq_some_iff.mp known
  exact ⟨port.toNat, link, found, numbered, UInt16.ofNat_toNat⟩

theorem attachedAt_of_directPort? (attached : router.directPort? network = some port) :
    router.AttachedAt network port := by
  obtain ⟨index, first, rfl⟩ := Option.map_eq_some_iff.mp attached
  obtain ⟨inside, numbered, -⟩ := List.findIdx?_eq_some_iff_getElem.mp first
  exact ⟨index, _, List.getElem?_eq_getElem inside, of_decide_eq_true numbered, rfl⟩

theorem not_attachedAt (apart : router.directPort? network = none) (port : PortId) :
    ¬router.AttachedAt network port := by
  rintro ⟨index, link, found, numbered, -⟩
  have attached := (router.directPort?_isSome_iff network).mpr
    ⟨link, List.mem_of_getElem? found, numbered⟩
  rw [apart] at attached
  cases attached

/-! ## Sending -/

/-- The source that a message names on a link. The application of this device is named on links
other than the primary one. -/
def sourceOn (router : Router) (port : PortId) (npdu : Npdu) : Option Address :=
  match npdu.source, npdu.body with
  | some source, _ => some source
  | none, .network _ => none
  | none, .apdu _ => if port = primaryPort then none else router.ownAddress?

theorem stamp_eq (router : Router) (port : PortId) (npdu : Npdu) :
    router.stamp port npdu = { npdu with source := router.sourceOn port npdu } := by
  obtain ⟨priority, expectingReply, destination, source, hopCount, body⟩ := npdu
  unfold stamp sourceOn
  cases source <;> cases body <;> by_cases primary : port = primaryPort <;>
    simp [primary, NpduBody.isNetwork]

end Router

/-- The way on which messages leave that have waited for a network. -/
inductive Exit where
  /-- On a link behind which the network lies. -/
  | link (port : PortId)
  /-- To the next router. -/
  | hop (port : PortId) (nextHop : Octets)
  deriving DecidableEq, Repr

namespace Exit

/-- A message as it leaves. Behind the link it needs no destination: it is sent to the station, or
to all stations if no station is named. -/
def transmission (router : Router) (npdu : Npdu) : Exit → Transmission
  | link port =>
    { port
      destination := match npdu.destination with
        | none | some ⟨_, []⟩ => .broadcast
        | some ⟨_, mac⟩ => .unicast mac
      npdu := { npdu with destination := none, source := router.sourceOn port npdu } }
  | hop port nextHop =>
    { port
      destination := .unicast nextHop
      npdu := { npdu with source := router.sourceOn port npdu } }

/-- The way leads to the network: to a link that is attached to it, or, if there is none, to the
station from which a message has arrived or to the next router on the route that is known. -/
inductive Opens (router : Router) (arrival : Arrival) (network : UInt16) : Exit → Prop where
  | attached {port : PortId} (there : router.AttachedAt network port) :
    Opens router arrival network (link port)
  | heard (apart : ∀ port, ¬router.AttachedAt network port) :
    Opens router arrival network (hop arrival.port arrival.mac)
  | known {route : Route} (apart : ∀ port, ¬router.AttachedAt network port)
    (found : router.table.find? network = some route) :
    Opens router arrival network (hop route.port route.nextHop)

end Exit

namespace Router

variable {lesson : Lesson} {arrival : Arrival} {before moment : Router} {network : UInt16}

theorem transmission_eq (ports : moment.ports = before.ports) (port : PortId)
    (link : LinkDestination) (npdu : Npdu) :
    moment.transmission port link npdu =
      .transmit ⟨port, link, { npdu with source := before.sourceOn port npdu }⟩ := by
  have own : moment.ownAddress? = before.ownAddress? := by
    unfold ownAddress? port?
    rw [ports]
  rw [transmission, stamp_eq, sourceOn, sourceOn, own]

/-- A message leaves on the way that is open before the lesson or is opened by it. -/
theorem exists_exit (numberless : lesson.number? = none) (heard : lesson.sender? = some arrival)
    (heeds : before.Heeds lesson moment) {carry : Npdu → RouterOutput}
    (reached : moment.carrier? network = some carry) :
    ∃ exit : Exit, exit.Opens before arrival network ∧
      ∀ npdu, carry npdu = .transmit (exit.transmission before npdu) := by
  have ports := heeds.ports numberless
  have direct : moment.directPort? network = before.directPort? network := by
    unfold directPort?
    rw [ports]
  unfold carrier? at reached
  rw [direct] at reached
  cases attached : before.directPort? network with
  | some port =>
    rw [attached] at reached
    cases reached
    refine ⟨.link port, .attached (attachedAt_of_directPort? attached), ?_⟩
    intro npdu
    refine (transmission_eq ports port _ _).trans ?_
    obtain ⟨priority, expectingReply, destination, source, hopCount, body⟩ := npdu
    cases destination with
    | none => rfl
    | some address =>
      obtain ⟨network, mac⟩ := address
      cases mac <;> rfl
  | none =>
    rw [attached] at reached
    dsimp only at reached
    split at reached
    · cases reached
    · next route found =>
      split at reached
      · cases reached
      · cases reached
        refine ⟨.hop route.port route.nextHop, ?_, fun npdu => transmission_eq ports _ _ _⟩
        have apart := not_attachedAt attached
        rcases heeds.routes network route found with sender | ⟨old, known, port, nextHop⟩
        · cases heard.symm.trans sender
          exact .heard apart
        · rw [← port, ← nextHop]
          exact .known apart known

/-! ## Refusing -/

/-- The refusal of a message that has waited in vain. It is sent back to the station from which the
message came, and it is for the source of the message unless this is on the network of arrival. -/
def refusal (router : Router) (network : UInt16) (reason : RejectMessageReason) (arrival : Arrival)
    (npdu : Npdu) : Transmission where
  port := arrival.port
  destination := .unicast arrival.mac
  npdu :=
    let beyond := npdu.source.filter fun source =>
      some source.network ≠ router.network? arrival.port
    { priority := .normal
      expectingReply := false
      destination := beyond
      source := none
      hopCount := if beyond.isSome then router.config.initialHopCount else 255
      body := .network (.rejectMessageToNetwork reason network) }

/-- Why a network is not reached: its router has asked for a pause, or there is no route to it. -/
def unreachedBecause (router : Router) (network : UInt16) : RejectMessageReason :=
  match router.table.find? network with
  | some ⟨_, _, .busy, _⟩ => .routerBusy
  | _ => .notDirectlyConnected

/-- What is told about messages that are dropped: those that came from a link are refused there, if
it is so configured, and the application is told once if any of them is its own. -/
def obituary (router : Router) (network : UInt16) (messages : List PendingNpdu) :
    List RouterOutput :=
  (if router.config.sendReject then
    messages.filterMap fun message => message.arrival.map fun arrival =>
      .transmit (router.refusal network (router.unreachedBecause network) arrival message.npdu)
  else []) ++
  if messages.any (·.arrival.isNone) then [.failure (.networkUnreachable network)] else []

theorem obituary_nil (router : Router) (network : UInt16) : router.obituary network [] = [] := by
  unfold obituary
  cases router.config.sendReject <;> rfl

theorem reject_eq (router : Router) (arrival : Arrival) (npdu : Npdu) (network : UInt16)
    (reason : RejectMessageReason) :
    router.reject arrival npdu network reason =
      .transmit (router.refusal network reason arrival npdu) := by
  unfold reject
  rw [transmission_eq rfl]
  cases sourced : npdu.source with
  | none => simp [refusal, sourced, sourceOn, Npdu.ofMessage, Npdu.ofBody, Npdu.defaultHopCount]
  | some source =>
    by_cases near : some source.network = router.network? arrival.port <;>
      simp [refusal, sourced, near, sourceOn, Npdu.ofMessage, Npdu.ofBody, Npdu.defaultHopCount,
        addressed, Option.filter]

/-- Who has waited for a network in vain is told so. -/
theorem failureReports_eq (router : Router) (network : UInt16) (waiting : List PendingNpdu) :
    router.failureReports network waiting = router.obituary network waiting := by
  have because : router.unreachedBecause network =
      if (router.table.find? network).any (·.status = .busy) then .routerBusy
      else .notDirectlyConnected := by
    unfold unreachedBecause
    cases router.table.find? network with
    | none => rfl
    | some route =>
      obtain ⟨port, nextHop, status, updatedAt⟩ := route
      cases status <;> rfl
  unfold failureReports obituary
  dsimp only
  rw [because]
  congr 1
  cases router.config.sendReject with
  | true =>
    refine congrArg (waiting.filterMap ·) (funext fun message => ?_)
    cases message.arrival with
    | none => rfl
    | some arrival => exact congrArg some (router.reject_eq arrival message.npdu network _)
  | false =>
    refine List.filterMap_eq_nil_iff.mpr ?_
    intro message _
    cases message.arrival <;> rfl

end Router

end BACnet
