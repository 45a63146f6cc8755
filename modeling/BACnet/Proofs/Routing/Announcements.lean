import BACnet.Proofs.Routing.Echoes
import BACnet.Proofs.Routing.Exits
import BACnet.Proofs.Routing.Routes

/-!
# Announcements

A router announces networks to a link when it is asked there which networks it reaches, and it
repeats an announcement from another link. An answer names networks that lie beyond the link, that
is, networks that are reached through another one. A repeated announcement is the one that was
heard, with the networks in it that the router does not learn (`Relay.announcement_cases`).
-/

namespace BACnet

/-- The networks that a message announces, if it is an announcement. -/
def NpduBody.announces? : NpduBody → Option (List UInt16)
  | network (.iAmRouterToNetwork networks) => some networks
  | _ => none

namespace Router

/-- The network is reached through another link. -/
def LiesBeyond (router : Router) (port : PortId) (network : UInt16) : Prop :=
  (∃ other, other ≠ port ∧ router.AttachedAt network other) ∨
    ∃ route, router.table.find? network = some route ∧ route.port ≠ port

/-- What a router says by itself when it announces networks on the link `port`. -/
inductive Announces (router : Router) (arrival : Arrival) (body : NpduBody) (port : PortId)
    (networks : List UInt16) : Prop where
  /-- It is asked on this link, and names networks beyond it. -/
  | answers (network : Option UInt16) (asked : body = .network (.whoIsRouterToNetwork network))
      (back : port = arrival.port)
      (beyond : ∀ network ∈ networks, router.LiesBeyond port network)
  /-- The networks have been announced on another link. They lie beyond this one unless the router
  does not learn them. -/
  | repeats (told : body = .network (.iAmRouterToNetwork networks)) (onward : port ≠ arrival.port)
      (beyond : ∀ network ∈ networks, router.LiesBeyond port network ∨ arrival.mac = [] ∨
        network = Address.globalNetwork ∨ router.AttachedAt network port)

variable {router : Router} {network : UInt16} {port : PortId}

theorem liesBeyond_iff : router.LiesBeyond port network ↔
    (∃ entry ∈ router.ports.zipIdx, entry.1.network = some network ∧ UInt16.ofNat entry.2 ≠ port) ∨
      ∃ route ∈ router.table.find? network, route.port ≠ port := by
  unfold LiesBeyond AttachedAt
  constructor
  · rintro (⟨other, apart, index, link, found, numbered, rfl⟩ | route)
    · exact .inl ⟨(link, index), List.mem_zipIdx_iff_getElem?.mpr found, numbered, apart⟩
    · exact .inr route
  · rintro (⟨⟨link, index⟩, found, numbered, apart⟩ | route)
    · exact .inl ⟨_, apart, index, link, List.mem_zipIdx_iff_getElem?.mp found, numbered, rfl⟩
    · exact .inr route

instance (router : Router) (port : PortId) (network : UInt16) :
    Decidable (router.LiesBeyond port network) :=
  decidable_of_iff _ liesBeyond_iff.symm

/-- The networks that are named to a link lie beyond it. -/
theorem liesBeyond_of_mem (distinct : router.table.keys.Nodup)
    (member : network ∈ router.networksBeyond port) : router.LiesBeyond port network := by
  unfold networksBeyond at member
  rw [List.mem_eraseDups, List.mem_mergeSort, List.mem_append] at member
  rcases member with attached | learned
  · obtain ⟨other, others, known⟩ := List.mem_filterMap.mp attached
    exact .inl ⟨other, (mem_otherPorts.mp others).2, attachedAt_of_network? known⟩
  · obtain ⟨⟨number, route⟩, entry, rfl⟩ := List.mem_map.mp learned
    obtain ⟨entry, apart⟩ := List.mem_filter.mp entry
    exact .inr ⟨route, Table.find?_of_mem distinct entry, of_decide_eq_true apart⟩

theorem Announces.of_bare {before after : Router} {arrival : Arrival} {body : NpduBody}
    {networks : List UInt16} (same : after.bare = before.bare)
    (announces : before.Announces arrival body port networks) :
    after.Announces arrival body port networks := by
  have attached (network : UInt16) (port : PortId) :
      after.AttachedAt network port = before.AttachedAt network port := by
    show after.bare.AttachedAt network port = before.bare.AttachedAt network port
    rw [same]
  have beyond (network : UInt16) :
      after.LiesBeyond port network = before.LiesBeyond port network := by
    show after.bare.LiesBeyond port network = before.bare.LiesBeyond port network
    rw [same]
  cases announces with
  | answers requested asked back lies =>
    refine .answers requested asked back ?_
    intro network listed
    rw [beyond]
    exact lies network listed
  | repeats told onward lies =>
    refine .repeats told onward ?_
    intro network listed
    rw [beyond, attached]
    exact lies network listed

end Router

namespace Routing

variable {said : List RouterOutput} {state : Routing} {router : Router} {now : Nat}
  {arrival : Arrival} {npdu : Npdu} {network : UInt16}

/-! ## What is announced -/

/-- No message among the outputs announces networks. -/
def Silent (outputs : List RouterOutput) : Prop :=
  ∀ sent, .transmit sent ∈ outputs → sent.npdu.body.announces? = none

theorem silent_transmission {port : PortId} {link : LinkDestination}
    (silent : npdu.body.announces? = none) : Silent [router.transmission port link npdu] := by
  intro sent member
  rw [(Router.of_transmission (List.mem_singleton.mp member).symm).2.content.body]
  exact silent

theorem silent_reply {message : NetworkMessage}
    (silent : (NpduBody.network message).announces? = none) :
    Silent [router.reply arrival npdu message] := by
  unfold Router.reply
  apply silent_transmission
  cases npdu.source <;> exact silent

theorem silent_reject (router : Router) (arrival : Arrival) (npdu : Npdu) (network : UInt16)
    (reason : RejectMessageReason) : Silent [router.reject arrival npdu network reason] := by
  unfold Router.reject
  apply silent_transmission
  split
  · rfl
  · split <;> rfl

theorem silent_pass (router : Router) (arrival : Arrival) (npdu : Npdu) (network : UInt16) :
    Silent (router.pass arrival npdu network).2 := by
  intro sent member
  unfold Router.pass Router.hopCountOutputs at member
  split at member
  · dsimp only at member
    split at member
    · rcases List.mem_cons.mp member with refused | failed
      · exact silent_reject router arrival npdu network .other sent (List.mem_singleton.mpr refused)
      · cases List.mem_singleton.mp failed
    · cases List.mem_singleton.mp member
  · cases member

theorem silent_answerNetworkNumber (router : Router) (arrival : Arrival) (npdu : Npdu) :
    Silent (router.answerNetworkNumber arrival npdu) := by
  intro sent member
  unfold Router.answerNetworkNumber at member
  split at member
  · cases member
  · split at member
    · rw [(Router.of_broadcasts member).2.content.body]
      rfl
    · cases member

/-- Who is asked for routers names networks beyond the link, or asks on. -/
theorem announces_of_answerWhoIs (distinct : router.table.keys.Nodup) {requested : Option UInt16}
    {sent : Transmission} {networks : List UInt16}
    (member : .transmit sent ∈ router.answerWhoIs arrival npdu requested)
    (announced : sent.npdu.body.announces? = some networks) :
    router.Announces arrival (.network (.whoIsRouterToNetwork requested)) sent.port networks := by
  have answers {named : List UInt16} (named_beyond : ∀ network ∈ named,
      network ∈ router.networksBeyond arrival.port) (member : .transmit sent ∈ router.broadcasts
        [arrival.port] (.ofMessage (.iAmRouterToNetwork named))) :
      router.Announces arrival (.network (.whoIsRouterToNetwork requested)) sent.port networks := by
    obtain ⟨there, same⟩ := Router.of_broadcasts member
    have back : sent.port = arrival.port := List.mem_singleton.mp there
    rw [same.content.body] at announced
    cases announced
    refine .answers requested rfl back ?_
    intro network listed
    rw [back]
    exact Router.liesBeyond_of_mem distinct (named_beyond network listed)
  unfold Router.answerWhoIs at member
  dsimp only at member
  split at member
  · split at member
    · cases member
    · exact answers (fun _ listed => listed) member
  · split at member
    · next known =>
      apply answers _ member
      intro network listed
      rwa [List.mem_singleton.mp listed]
    · split at member
      · cases member
      · rw [(Router.of_broadcasts member).2.content.body] at announced
        cases announced

/-- Nothing waits, and nothing is put out beyond what is `said`. -/
structure Mute (said : List RouterOutput) (state : Routing) : Prop where
  idle : state.router.Idle
  outputs : state.outputs = said

theorem mute_learn (mute : state.Mute said) (now : Nat) (arrival : Arrival) (network : UInt16) :
    (state.learn now arrival network).Mute said := by
  obtain ⟨table, learned⟩ := learn_of_idle mute.idle now arrival network
  rw [learned]
  exact ⟨mute.idle, mute.outputs⟩

theorem mute_learnSource (mute : state.Mute said) (now : Nat) (arrival : Arrival) (npdu : Npdu) :
    (state.learnSource now arrival npdu).Mute said := by
  obtain ⟨table, learned⟩ := learnSource_of_idle mute.idle now arrival npdu
  rw [learned]
  exact ⟨mute.idle, mute.outputs⟩

theorem mute_foldl {α : Type} {step : Routing → α → Routing}
    (keeps : ∀ (state : Routing) item, state.Mute said → (step state item).Mute said)
    (items : List α) (mute : state.Mute said) : (items.foldl step state).Mute said := by
  induction items generalizing state with
  | nil => exact mute
  | cons first rest ih => exact ih (keeps state first mute)

theorem mute_makeAvailable (mute : state.Mute said) (now : Nat) (networks : List UInt16) :
    (state.makeAvailable now networks).Mute said := by
  apply mute_foldl _ networks mute
  intro state network mute
  have left : (state.mapRouter (·.mapTable (·.refresh network now))).router.Idle := mute.idle
  rw [flush_of_none (left network)]
  exact ⟨left, mute.outputs⟩

/-- A network of which is heard is reached through the sender afterwards, unless no route to it is
learned. -/
theorem exists_route_of_learn (state : Routing) (now : Nat) (arrival : Arrival)
    (network : UInt16) : arrival.mac = [] ∨ network = Address.globalNetwork ∨
      (state.router.directPort? network).isSome = true ∨
      ∃ route, (state.learn now arrival network).router.table.find? network = some route ∧
        route.port = arrival.port := by
  rw [learn_eq]
  split
  · next skips =>
    rw [List.isEmpty_iff] at skips
    exact skips.imp_right (·.imp_right .inl)
  · refine .inr (.inr (.inr ⟨⟨arrival.port, arrival.mac, .reachable, now⟩, ?_, rfl⟩))
    rw [table_releases, Table.find?_insert, if_pos rfl]

/-- A route through the sender stays one. -/
theorem exists_route_learn {route : Route} (known : state.router.table.find? network = some route)
    (through : route.port = arrival.port) (now : Nat) (other : UInt16) :
    ∃ route, (state.learn now arrival other).router.table.find? network = some route ∧
      route.port = arrival.port := by
  rw [learn_eq]
  split
  · exact ⟨route, known, through⟩
  · rw [table_releases, Table.find?_insert]
    split
    · exact ⟨_, rfl, rfl⟩
    · exact ⟨route, known, through⟩

theorem exists_route_foldl_learn (networks : List UInt16) {route : Route}
    (known : state.router.table.find? network = some route) (through : route.port = arrival.port)
    (now : Nat) :
    ∃ route, (networks.foldl (fun state network => state.learn now arrival network)
      state).router.table.find? network = some route ∧ route.port = arrival.port := by
  induction networks generalizing state route with
  | nil => exact ⟨route, known, through⟩
  | cons first rest ih =>
    obtain ⟨later, found, port⟩ := exists_route_learn known through now first
    exact ih found port

/-- All networks that are announced are reached through the sender afterwards, unless no routes to
them are learned. -/
theorem exists_route_of_foldl_learn {networks : List UInt16} (listed : network ∈ networks)
    (state : Routing) (now : Nat) (arrival : Arrival) :
    arrival.mac = [] ∨ network = Address.globalNetwork ∨
      (state.router.directPort? network).isSome = true ∨
      ∃ route, (networks.foldl (fun state network => state.learn now arrival network)
        state).router.table.find? network = some route ∧ route.port = arrival.port := by
  induction networks generalizing state with
  | nil => cases listed
  | cons first rest ih =>
    rcases List.mem_cons.mp listed with rfl | later
    · rcases exists_route_of_learn state now arrival network with
        anonymous | everywhere | attached | ⟨route, found, through⟩
      · exact .inl anonymous
      · exact .inr (.inl everywhere)
      · exact .inr (.inr (.inl attached))
      · exact .inr (.inr (.inr (exists_route_foldl_learn rest found through now)))
    · have links := (sameLinks_learn state now arrival first).directPort?_eq network
      rw [← links]
      exact ih later (state.learn now arrival first)

/-- An announcement is repeated on the other links. -/
theorem announces_of_takeAnnouncement (mute : state.Mute said) {networks named : List UInt16}
    {sent : Transmission}
    (member : .transmit sent ∈ (state.takeAnnouncement now arrival networks).outputs)
    (announced : sent.npdu.body.announces? = some named) :
    .transmit sent ∈ said ∨ (state.takeAnnouncement now arrival networks).router.Announces arrival
      (.network (.iAmRouterToNetwork networks)) sent.port named := by
  have learned := mute_foldl (fun _ network mute => mute_learn mute now arrival network) networks
    mute
  have links := sameLinks_foldl (fun state network => sameLinks_learn state now arrival network)
    networks state
  unfold takeAnnouncement at member ⊢
  dsimp only at member ⊢
  split at member
  · next repeated =>
    rw [if_pos repeated]
    rcases List.mem_append.mp member with old | new
    · exact .inl (learned.outputs ▸ old)
    · obtain ⟨there, same⟩ := Router.of_broadcasts new
      have onward : sent.port ≠ arrival.port := (Router.mem_otherPorts.mp there).2
      rw [same.content.body] at announced
      cases announced
      refine .inr (.repeats rfl onward ?_)
      intro network listed
      rcases exists_route_of_foldl_learn listed state now arrival with
        anonymous | everywhere | attached | ⟨route, found, through⟩
      · exact .inr (.inl anonymous)
      · exact .inr (.inr (.inl everywhere))
      · obtain ⟨port, direct⟩ := Option.isSome_iff_exists.mp attached
        rw [← links.directPort?_eq] at direct
        have attached := Router.attachedAt_of_directPort? direct
        by_cases here : port = sent.port
        · exact .inr (.inr (.inr (here ▸ attached)))
        · exact .inl (.inl ⟨port, here, attached⟩)
      · refine .inl (.inr ⟨route, found, ?_⟩)
        rw [through]
        exact onward.symm
  · exact .inl (learned.outputs ▸ member)

/-! ## Messages from links -/

variable {sent : Transmission} {networks : List UInt16}

theorem mem_outputs_of_emit {outputs : List RouterOutput} (silent : Silent outputs)
    (member : .transmit sent ∈ (state.emit outputs).outputs)
    (announced : sent.npdu.body.announces? = some networks) : .transmit sent ∈ state.outputs := by
  rcases List.mem_append.mp member with old | new
  · exact old
  · rw [silent sent new] at announced
    cases announced

theorem announces_of_handleMessage (mute : state.Mute said)
    (distinct : state.router.table.keys.Nodup) {message : NetworkMessage}
    (member : .transmit sent ∈ (state.handleMessage now arrival npdu message).outputs)
    (announced : sent.npdu.body.announces? = some networks) :
    .transmit sent ∈ said ∨ (state.handleMessage now arrival npdu message).router.Announces arrival
      (.network message) sent.port networks := by
  have kept (old : .transmit sent ∈ state.outputs) : .transmit sent ∈ said := mute.outputs ▸ old
  cases message with
  | whoIsRouterToNetwork requested =>
    unfold handleMessage at member ⊢
    dsimp only at member ⊢
    split at member
    · next routes =>
      rw [if_pos routes]
      rcases List.mem_append.mp member with old | new
      · exact .inl (kept old)
      · exact .inr (announces_of_answerWhoIs distinct new announced)
    · exact .inl (kept member)
  | iAmRouterToNetwork named => exact announces_of_takeAnnouncement mute member announced
  | rejectMessageToNetwork reason network =>
    rcases List.mem_append.mp member with old | new
    · exact .inl (kept old)
    · cases List.mem_singleton.mp new
  | routerBusyToNetwork named => exact .inl (kept member)
  | routerAvailableToNetwork named =>
    have available := mute_makeAvailable mute now (state.router.concerned arrival named)
    exact .inl (available.outputs ▸ member)
  | initializeRoutingTable lines =>
    unfold handleMessage initializeTable at member
    dsimp only at member
    split at member
    · exact .inl (kept member)
    · split at member
      · exact .inl (kept (mem_outputs_of_emit (silent_reply rfl) member announced))
      · exact .inl (kept (mem_outputs_of_emit (silent_reply rfl) member announced))
  | initializeRoutingTableAck lines => exact .inl (kept member)
  | whatIsNetworkNumber =>
    exact .inl (kept (mem_outputs_of_emit (silent_answerNetworkNumber _ _ _) member announced))
  | networkNumberIs network configured =>
    unfold handleMessage at member
    dsimp only at member
    split at member <;> exact .inl (kept member)
  | other type data =>
    unfold handleMessage at member
    dsimp only at member
    split at member
    · exact .inl (kept member)
    · exact .inl (kept (mem_outputs_of_emit (silent_reply rfl) member announced))
  | iCouldBeRouterToNetwork _ _ | establishConnectionToNetwork _ _
  | disconnectConnectionToNetwork _ | proprietary _ _ _ => exact .inl (kept member)

theorem bare_forwardArrival (state : Routing) (now : Nat) (arrival : Arrival) (npdu : Npdu)
    (network : UInt16) :
    (state.forwardArrival now arrival npdu network).2.router.bare = state.router.bare := by
  unfold forwardArrival
  dsimp only
  split
  · rfl
  · exact bare_forward (state.emit _) now network _

variable {destination : Address}

/-- An announcement that is sent on is the message that has been received. -/
theorem mem_outputs_of_forwardArrival (addressed : npdu.destination = some destination)
    (remote : ¬destination.isGlobal = true)
    (member : .transmit sent ∈
      (state.forwardArrival now arrival npdu destination.network).2.outputs)
    (announced : sent.npdu.body.announces? = some networks) :
    .transmit sent ∈ state.outputs ∨ state.router.Copies arrival npdu sent.npdu := by
  unfold forwardArrival at member
  dsimp only at member
  have silent := silent_pass state.router arrival npdu destination.network
  split at member
  · exact .inl (mem_outputs_of_emit silent member announced)
  · next passed result =>
    have passes := Router.passes_of_pass result
    obtain ⟨added, outputs, sends⟩ := outputs_forward
      (state.emit (state.router.pass arrival npdu destination.network).2) now destination.network
      ⟨passed, some arrival⟩
    rw [outputs] at member
    rcases List.mem_append.mp member with old | new
    · exact .inl (mem_outputs_of_emit silent old announced)
    · rcases sends sent new with ⟨carry, reached, transmits⟩ | ⟨requested, body⟩
      · have bound : PendingNpdu.BoundFor ⟨passed, some arrival⟩ destination.network :=
          ⟨destination, passes.destination.trans addressed, rfl, eq_false_of_ne_true remote⟩
        have sends := Router.sends_of_carrier? reached bound transmits
        exact .inr (passes.copies (fun _ known => known) rfl sends)
      · rw [body] at announced
        cases announced

theorem mem_outputs_of_repeats {router : Router} (addressed : npdu.destination = some destination)
    (everywhere : destination.isGlobal = true)
    (member : .transmit sent ∈ router.repeats arrival npdu)
    (announced : sent.npdu.body.announces? = some networks) :
    router.Copies arrival npdu sent.npdu := by
  unfold Router.repeats at member
  rcases List.mem_append.mp member with told | copied
  · rw [silent_pass router arrival npdu Address.globalNetwork sent told] at announced
    cases announced
  · split at copied
    · cases copied
    · next passed result =>
      have passes := Router.passes_of_pass result
      have apart : router.attaches npdu = false := by
        rw [Router.attaches, addressed, Option.any_some, everywhere]
        rfl
      obtain ⟨port, -, transmits⟩ := List.mem_map.mp copied
      have sends : router.Sends ⟨passed, some arrival⟩ sent.npdu := by
        refine Router.sends_of_transmission transmits fun _ => ?_
        rw [Router.attaches, passes.destination, ← Router.attaches, apart]
        rfl
      exact passes.copies (fun _ known => known) rfl sends

/-- An announcement is `said`, or it is a copy of the message that has been received, which is
passed on to its destination, or the router announces something by itself. -/
def Explained (said : List RouterOutput) (arrival : Arrival) (npdu : Npdu) (sent : Transmission)
    (networks : List UInt16) (after : Router) : Prop :=
  .transmit sent ∈ said ∨ npdu.destination ≠ none ∧ after.Copies arrival npdu sent.npdu ∨
    after.Announces arrival npdu.body sent.port networks

theorem Explained.of_bare {before after : Router} (same : after.bare = before.bare)
    (explained : Explained said arrival npdu sent networks before) :
    Explained said arrival npdu sent networks after := by
  rcases explained with old | ⟨addressed, copied⟩ | own
  · exact .inl old
  · exact .inr (.inl ⟨addressed, copied.of_sameLinks (.of_bare same)⟩)
  · exact .inr (.inr (own.of_bare same))

theorem explained_of_deliver (mute : state.Mute said) (distinct : state.router.table.keys.Nodup)
    (member : .transmit sent ∈ (state.deliver now arrival npdu).outputs)
    (announced : sent.npdu.body.announces? = some networks) :
    Explained said arrival npdu sent networks (state.deliver now arrival npdu).router := by
  unfold deliver at member ⊢
  split at member
  · rcases List.mem_append.mp member with old | new
    · exact .inl (mute.outputs ▸ old)
    · cases List.mem_singleton.mp new
  · next message body =>
    have own := announces_of_handleMessage mute distinct member announced
    unfold Explained
    rw [body]
    exact own.imp_right .inr

theorem explained_of_forwardArrival (mute : state.Mute said)
    (addressed : npdu.destination = some destination) (remote : ¬destination.isGlobal = true)
    (member : .transmit sent ∈
      (state.forwardArrival now arrival npdu destination.network).2.outputs)
    (announced : sent.npdu.body.announces? = some networks) :
    Explained said arrival npdu sent networks
      (state.forwardArrival now arrival npdu destination.network).2.router := by
  have links := sameLinks_forwardArrival state now arrival npdu destination.network
  rcases mem_outputs_of_forwardArrival addressed remote member announced with old | copied
  · exact .inl (mute.outputs ▸ old)
  · exact .inr (.inl ⟨addressed ▸ Option.some_ne_none destination, copied.of_sameLinks links⟩)

theorem explained_of_receiveLocal (mute : state.Mute said)
    (distinct : state.router.table.keys.Nodup)
    (member : .transmit sent ∈ (state.receiveLocal now arrival npdu).2.outputs)
    (announced : sent.npdu.body.announces? = some networks) :
    Explained said arrival npdu sent networks (state.receiveLocal now arrival npdu).2.router := by
  unfold receiveLocal at member ⊢
  split at member
  · next heard =>
    rw [if_pos heard]
    exact explained_of_deliver mute distinct member announced
  · exact .inl (mute.outputs ▸ member)

theorem explained_of_receiveGlobal (mute : state.Mute said)
    (distinct : state.router.table.keys.Nodup) (addressed : npdu.destination = some destination)
    (everywhere : destination.isGlobal = true)
    (member : .transmit sent ∈ (state.receiveGlobal now arrival npdu).2.outputs)
    (announced : sent.npdu.body.announces? = some networks) :
    Explained said arrival npdu sent networks (state.receiveGlobal now arrival npdu).2.router := by
  unfold receiveGlobal at member ⊢
  dsimp only at member ⊢
  split at member
  · next routes =>
    rw [if_pos routes]
    rcases List.mem_append.mp member with delivered | copied
    · exact explained_of_deliver mute distinct delivered announced
    · exact .inr (.inl ⟨addressed ▸ Option.some_ne_none destination,
        mem_outputs_of_repeats addressed everywhere copied announced⟩)
  · next single =>
    rw [if_neg single]
    exact explained_of_deliver mute distinct member announced

theorem explained_of_receiveAttached (mute : state.Mute said)
    (distinct : state.router.table.keys.Nodup) (addressed : npdu.destination = some destination)
    (remote : ¬destination.isGlobal = true) (target : PortId)
    (member : .transmit sent ∈
      (state.receiveAttached now arrival npdu destination target).2.outputs)
    (announced : sent.npdu.body.announces? = some networks) :
    Explained said arrival npdu sent networks
      (state.receiveAttached now arrival npdu destination target).2.router := by
  unfold receiveAttached at member ⊢
  dsimp only at member ⊢
  split at member
  · next back =>
    rw [if_pos back]
    split at member
    · next own =>
      rw [if_pos own]
      exact explained_of_deliver mute distinct member announced
    · exact .inl (mute.outputs ▸ member)
  · next onward =>
    rw [if_neg onward]
    split at member
    · next own =>
      rw [if_pos own]
      split at member
      · next all =>
        -- The message is for all stations of the own network, and so for those on its link too.
        rw [if_pos all]
        have kept := bare_forwardArrival (state.deliver now arrival npdu) now arrival npdu
          destination.network
        rcases mem_outputs_of_forwardArrival addressed remote member announced with
          delivered | copied
        · exact (explained_of_deliver mute distinct delivered announced).of_bare kept
        · exact .inr (.inl ⟨addressed ▸ Option.some_ne_none destination,
            copied.of_sameLinks (.of_bare kept)⟩)
      · next single =>
        rw [if_neg single]
        exact explained_of_deliver mute distinct member announced
    · next foreign =>
      rw [if_neg foreign]
      exact explained_of_forwardArrival mute addressed remote member announced

/-- What is announced when the source of a message has been learned. -/
theorem explained_of_receiveLearned (mute : state.Mute said)
    (distinct : state.router.table.keys.Nodup)
    (member : .transmit sent ∈ (state.receiveLearned now arrival npdu).2.outputs)
    (announced : sent.npdu.body.announces? = some networks) :
    Explained said arrival npdu sent networks
      (state.receiveLearned now arrival npdu).2.router := by
  unfold receiveLearned at member ⊢
  split at member
  · exact explained_of_receiveLocal mute distinct member announced
  · next destination addressed =>
    split at member
    · next all =>
      rw [if_pos all]
      exact explained_of_receiveGlobal mute distinct addressed all member announced
    · next single =>
      rw [if_neg single]
      unfold receiveRemote at member ⊢
      split at member
      · exact explained_of_receiveAttached mute distinct addressed single _ member announced
      · split at member
        · next routes =>
          rw [if_pos routes]
          exact explained_of_forwardArrival mute addressed single member announced
        · exact .inl (mute.outputs ▸ member)

/-- What is announced when nothing waits. -/
theorem explained_of_receive (mute : state.Mute said) (distinct : state.router.table.keys.Nodup)
    (member : .transmit sent ∈ (state.receive now arrival npdu).2.outputs)
    (announced : sent.npdu.body.announces? = some networks) :
    Explained said arrival npdu sent networks (state.receive now arrival npdu).2.router := by
  by_cases missing : (state.router.port? arrival.port).isNone
  · rw [receive, if_pos missing] at member
    rcases List.mem_append.mp member with old | new
    · exact .inl (mute.outputs ▸ old)
    · cases List.mem_singleton.mp new
  · have learned := mute_learnSource mute now arrival npdu
    have valid : (state.router.port? arrival.port).isSome = true := by
      simpa [Option.isSome_iff_ne_none] using missing
    have offers : ∀ network ∈ npdu.offered, (network, arrival) ∈ npdu.offered.map (·, arrival) :=
      fun network offered => List.mem_map.mpr ⟨network, offered, rfl⟩
    have follows := follows_learnSource now (.refl state.router) valid offers
    rw [receive_of_valid valid] at member ⊢
    exact explained_of_receiveLearned learned (follows.distinct distinct) member announced

end Routing

namespace Relay

/-- An announcement that comes of a message from a link has waited to be sent, or it is this
message, which is passed on to its destination with one hop less and with its source named, or the
router announces something by itself: networks beyond the link in answer to a question from it, or
the networks that have been announced on another link. -/
theorem announcement_cases (ports : List PortConfig) (config : RouterConfig)
    (events : List (Nat × RelayEvent)) (now : Nat) (arrival : Arrival) (npdu : Npdu)
    {sent : Transmission} {networks : List UInt16}
    (sends : .transmit sent ∈
      (((new ports config).run events).step now (.receive arrival npdu)).outputs)
    (announced : sent.npdu.body.announces? = some networks) :
    (∃ network, ∃ message ∈ ((new ports config).run events).router.waits network,
        message.npdu.CarriedAs sent.npdu) ∨
      npdu.destination ≠ none ∧
        (((new ports config).run events).step now (.receive arrival npdu)).relay.router.Copies
          arrival npdu sent.npdu ∨
      (((new ports config).run events).step now (.receive arrival npdu)).relay.router.Announces
        arrival npdu.body sent.port networks := by
  generalize reached : (new ports config).run events = relay at sends ⊢
  have distinct : relay.router.table.keys.Nodup := by
    rw [← reached]
    exact (wellRouted_run ports config events).distinct
  rcases Routing.mem_outputs_receive sends with alone | waited | ⟨requested, asks⟩
  · have mute : (Routing.start relay.router.bare relay.timers).Mute [] := ⟨fun _ => rfl, rfl⟩
    have same := Routing.bare_receive relay.router relay.timers now arrival npdu
    rcases (Routing.explained_of_receive mute distinct alone announced).of_bare same with
      old | others
    · cases old
    · exact .inr others
  · exact .inl waited
  · rw [asks] at announced
    cases announced

/-- A router between the networks 1 and 2. -/
def between : Config := { Config.standard with ports := [⟨some 1, none⟩, ⟨some 2, none⟩] }

/-- What a router between the networks 1 and 2 does when networks are announced on the first link,
by a message to `destination`. -/
def announcedTo (destination : Option Address) (mac : Octets) (networks : List UInt16) :
    RelayStep :=
  (new between.ports between.router).step 0 (.receive ⟨0, mac⟩
    { Npdu.ofMessage (.iAmRouterToNetwork networks) with destination })

/-- Network 5 is announced on the second link when it has been announced on the first one. -/
theorem announcement_cases_otherLink :
    .transmit ⟨1, .broadcast, .ofMessage (.iAmRouterToNetwork [5])⟩ ∈
        (announcedTo none [11] [5]).outputs ∧
      (announcedTo none [11] [5]).relay.router.Announces ⟨0, [11]⟩
        (.network (.iAmRouterToNetwork [5])) 1 [5] := by
  have sends : .transmit ⟨1, .broadcast, .ofMessage (.iAmRouterToNetwork [5])⟩ ∈
      (announcedTo none [11] [5]).outputs := by decide +kernel
  refine ⟨sends, ?_⟩
  rcases announcement_cases between.ports between.router [] 0 ⟨0, [11]⟩
      (.ofMessage (.iAmRouterToNetwork [5])) sends rfl with ⟨network, message, waits, -⟩ |
      ⟨addressed, -⟩ | own
  · cases waits
  · exact absurd rfl addressed
  · exact own

/-- What the router does when it learns a route to network 9 on the second link after a message for
a station there has announced network 2. -/
def announcedLater : RelayStep :=
  (announcedTo (some ⟨9, [12]⟩) [11] [2]).relay.step 0
    (.receive ⟨1, [13]⟩ (.ofMessage (.iAmRouterToNetwork [9])))

/-- A router announces to network 2 this network itself and all networks together because it has
heard of them on the other link, and network 5 although it has not learned a route to it. It also
passes on an announcement of network 2 to a station there, at once or when this announcement has
waited. -/
theorem exists_wrong_announcement :
    between.validate = .ok () ∧
      (.transmit ⟨1, .broadcast, .ofMessage (.iAmRouterToNetwork [2, 65535])⟩ ∈
          (announcedTo none [11] [2, 65535]).outputs ∧
        ¬(announcedTo none [11] [2, 65535]).relay.router.LiesBeyond 1 2 ∧
        ¬(announcedTo none [11] [2, 65535]).relay.router.LiesBeyond 1 65535) ∧
      (.transmit ⟨1, .broadcast, .ofMessage (.iAmRouterToNetwork [5])⟩ ∈
          (announcedTo none [] [5]).outputs ∧
        ¬(announcedTo none [] [5]).relay.router.LiesBeyond 1 5) ∧
      (.transmit ⟨1, .unicast [12], { Npdu.ofMessage (.iAmRouterToNetwork [2]) with
          source := some ⟨1, [11]⟩, hopCount := 254 }⟩ ∈
          (announcedTo (some ⟨2, [12]⟩) [11] [2]).outputs ∧
        ¬(announcedTo (some ⟨2, [12]⟩) [11] [2]).relay.router.LiesBeyond 1 2) ∧
      .transmit ⟨1, .unicast [13], { Npdu.ofMessage (.iAmRouterToNetwork [2]) with
          destination := some ⟨9, [12]⟩, source := some ⟨1, [11]⟩, hopCount := 254 }⟩ ∈
          announcedLater.outputs ∧
        ¬announcedLater.relay.router.LiesBeyond 1 2 := by
  refine ⟨rfl, ⟨?_, ?_, ?_⟩, ⟨?_, ?_⟩, ⟨?_, ?_⟩, ?_, ?_⟩ <;> decide +kernel

end Relay

end BACnet
