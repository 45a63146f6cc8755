import BACnet.Proofs.Routing.Copies

/-!
# What leaves a router

An application message that a router puts on a link is one that it has received and let pass, or one
that its own application has sent (`Routing.Accounted`). All other messages that it puts on links are
messages between routers (`Administrative`).
-/

namespace BACnet

/-! ## Messages of routers -/

/-- All messages among the outputs are `allowed`. -/
def TransmitsOnly (allowed : Npdu → Prop) (outputs : List RouterOutput) : Prop :=
  ∀ sent, .transmit sent ∈ outputs → allowed sent.npdu

namespace TransmitsOnly

variable {allowed : Npdu → Prop}

theorem nil : TransmitsOnly allowed [] := fun _ member => absurd member List.not_mem_nil

theorem append {first second : List RouterOutput} (before : TransmitsOnly allowed first)
    (after : TransmitsOnly allowed second) : TransmitsOnly allowed (first ++ second) :=
  fun sent member => (List.mem_append.mp member).elim (before sent) (after sent)

theorem failure (error : NetworkError) : TransmitsOnly allowed [.failure error] := by
  intro sent member
  cases List.mem_singleton.mp member

theorem transmission {router : Router} {port : PortId} {link : LinkDestination} {npdu : Npdu}
    (fine : allowed (router.stamp port npdu)) :
    TransmitsOnly allowed [router.transmission port link npdu] := by
  intro sent member
  cases List.mem_singleton.mp member
  exact fine

theorem broadcasts {router : Router} {ports : List PortId} {npdu : Npdu}
    (fine : ∀ port ∈ ports, allowed (router.stamp port npdu)) :
    TransmitsOnly allowed (router.broadcasts ports npdu) := by
  intro sent member
  obtain ⟨port, present, transmits⟩ := List.mem_map.mp member
  cases transmits
  exact fine port present

end TransmitsOnly

/-- All messages among the outputs are messages between routers. -/
def Administrative (outputs : List RouterOutput) : Prop :=
  ∀ sent, .transmit sent ∈ outputs → sent.npdu.body.isNetwork = true

namespace Administrative

variable {router : Router}

theorem iff_transmitsOnly {outputs : List RouterOutput} :
    Administrative outputs ↔ TransmitsOnly (·.body.isNetwork = true) outputs := Iff.rfl

theorem nil : Administrative [] := iff_transmitsOnly.mpr .nil

theorem append {first second : List RouterOutput} (before : Administrative first)
    (after : Administrative second) : Administrative (first ++ second) :=
  iff_transmitsOnly.mpr (.append before after)

theorem stamp {npdu : Npdu} (network : npdu.body.isNetwork = true) (port : PortId) :
    (router.stamp port npdu).body.isNetwork = true := by
  obtain ⟨source, stamped, -⟩ := router.exists_stamp_eq port npdu
  rw [stamped]
  exact network

theorem transmission (port : PortId) (link : LinkDestination) {npdu : Npdu}
    (network : npdu.body.isNetwork = true) :
    Administrative [router.transmission port link npdu] :=
  iff_transmitsOnly.mpr (.transmission (stamp network port))

theorem broadcasts (ports : List PortId) {npdu : Npdu} (network : npdu.body.isNetwork = true) :
    Administrative (router.broadcasts ports npdu) :=
  iff_transmitsOnly.mpr (.broadcasts fun port _ => stamp network port)

theorem queries (network : UInt16) (except : Option PortId) :
    Administrative (router.queries network except) :=
  broadcasts _ rfl

theorem reply (arrival : Arrival) (npdu : Npdu) (message : NetworkMessage) :
    Administrative [router.reply arrival npdu message] := by
  unfold Router.reply
  refine transmission _ _ ?_
  cases npdu.source <;> rfl

theorem reject (arrival : Arrival) (npdu : Npdu) (network : UInt16)
    (reason : RejectMessageReason) : Administrative [router.reject arrival npdu network reason] := by
  unfold Router.reject
  refine transmission _ _ ?_
  split
  · rfl
  · split <;> rfl

theorem failure (error : NetworkError) : Administrative [.failure error] :=
  iff_transmitsOnly.mpr (.failure error)

theorem hopCountOutputs (arrival : Arrival) (npdu : Npdu) (network : UInt16) :
    Administrative (router.hopCountOutputs arrival npdu network) := by
  unfold Router.hopCountOutputs
  dsimp only
  split
  · exact (reject arrival npdu network .other).append (failure _)
  · exact failure _

theorem pass (arrival : Arrival) (npdu : Npdu) (network : UInt16) :
    Administrative (router.pass arrival npdu network).2 := by
  unfold Router.pass
  split
  · exact hopCountOutputs arrival npdu network
  · exact nil

theorem answerWhoIs (arrival : Arrival) (npdu : Npdu) (network : Option UInt16) :
    Administrative (router.answerWhoIs arrival npdu network) := by
  unfold Router.answerWhoIs
  dsimp only
  split
  · split
    · exact nil
    · exact broadcasts _ rfl
  · split
    · exact broadcasts _ rfl
    · split
      · exact nil
      · exact broadcasts _ rfl

theorem answerNetworkNumber (arrival : Arrival) (npdu : Npdu) :
    Administrative (router.answerNetworkNumber arrival npdu) := by
  unfold Router.answerNetworkNumber
  split
  · exact nil
  · split
    · exact broadcasts _ rfl
    · exact nil

theorem failureReports (network : UInt16) (waiting : List PendingNpdu) :
    Administrative (router.failureReports network waiting) := by
  unfold Router.failureReports
  refine append ?_ ?_
  · intro sent member
    obtain ⟨message, -, told⟩ := List.mem_filterMap.mp member
    split at told
    · split at told
      · exact reject _ _ _ _ sent (List.mem_singleton.mpr (Option.some.inj told).symm)
      · cases told
    · cases told
  · split
    · exact failure _
    · exact nil

end Administrative

/-! ## Messages that are accounted for -/

namespace Routing

/-- The application messages that wait, and those that have been put on a link, are `allowed`. What
has been put on a link has been sent by a router with the links of `before`. -/
structure Accounted (allowed : PendingNpdu → Prop) (before : Router) (state : Routing) : Prop where
  sameLinks : before.SameLinks state.router
  waits : ∀ network, ∀ message ∈ state.router.waits network,
    message.npdu.body.isNetwork = false → allowed message ∧ message.BoundFor network
  outputs : ∀ sent, .transmit sent ∈ state.outputs → sent.npdu.body.isNetwork = false →
    ∃ message, allowed message ∧ before.Sends message sent.npdu

variable {allowed : PendingNpdu → Prop} {before : Router} {state : Routing} {now : Nat}
  {network : UInt16}

theorem Accounted.emit (accounted : state.Accounted allowed before) {outputs : List RouterOutput}
    (administrative : Administrative outputs) : (state.emit outputs).Accounted allowed before := by
  refine ⟨accounted.sameLinks, accounted.waits, ?_⟩
  intro sent member application
  rcases List.mem_append.mp member with old | new
  · exact accounted.outputs sent old application
  · rw [administrative sent new] at application
    cases application

/-- What the router knows can change without regard to the messages that wait. -/
theorem Accounted.mapRouter (accounted : state.Accounted allowed before) {change : Router → Router}
    (same : state.router.SameLinks (change state.router))
    (pending : (change state.router).pending = state.router.pending) :
    (state.mapRouter change).Accounted allowed before := by
  refine ⟨accounted.sameLinks.trans same, ?_, accounted.outputs⟩
  intro network message member
  refine accounted.waits network message ?_
  rw [Router.waits, ← pending]
  exact member

theorem Accounted.mapTable (accounted : state.Accounted allowed before)
    (change : RoutingTable → RoutingTable) :
    (state.mapRouter (·.mapTable change)).Accounted allowed before :=
  accounted.mapRouter ⟨rfl, rfl⟩ rfl

/-- A message that joins a queue is one that may wait there. -/
theorem Accounted.insert (accounted : state.Accounted allowed before) {queue : PendingQueue}
    (timers : TimerQueue TimerEvent)
    (waiting : ∀ message ∈ queue.waiting, message.npdu.body.isNetwork = false →
      allowed message ∧ message.BoundFor network) :
    Accounted allowed before { state with
      timers
      router := { state.router with pending := state.router.pending.insert network queue } } := by
  refine ⟨accounted.sameLinks.trans ⟨rfl, rfl⟩, ?_, accounted.outputs⟩
  intro other message member
  rcases Router.mem_waits_of_insert member with old | ⟨rfl, joined⟩
  · exact accounted.waits other message old
  · exact waiting message joined

theorem accounted_enqueue (accounted : state.Accounted allowed before) {message : PendingNpdu}
    (joins : message.npdu.body.isNetwork = false → allowed message ∧ message.BoundFor network)
    (now : Nat) (ask : Bool) :
    (state.enqueue now network message ask).2.Accounted allowed before := by
  unfold enqueue
  split
  · exact accounted.emit (.failure _)
  · split
    · next queue found =>
      refine accounted.insert state.timers ?_
      intro other member
      rcases List.mem_append.mp member with old | new
      · exact accounted.waits network other (by rwa [Router.waits_of_find? found])
      · rwa [List.mem_singleton.mp new]
    · have begun : (state.enqueueFirst now network message).Accounted allowed before := by
        refine accounted.insert _ ?_
        intro other member
        rwa [List.mem_singleton.mp member]
      refine begun.emit ?_
      split
      · exact .queries _ _
      · exact .nil

theorem accounted_forward (accounted : state.Accounted allowed before) {message : PendingNpdu}
    (joins : message.npdu.body.isNetwork = false → allowed message ∧ message.BoundFor network)
    (now : Nat) : (state.forward now network message).2.Accounted allowed before := by
  cases reached : state.router.carrier? network with
  | none =>
    rw [forward_of_not_reaches reached]
    exact accounted_enqueue accounted joins now _
  | some carry =>
    rw [forward_of_carrier? reached]
    refine ⟨accounted.sameLinks, accounted.waits, ?_⟩
    intro sent member application
    rcases List.mem_append.mp member with old | new
    · exact accounted.outputs sent old application
    · rcases List.mem_cons.mp new with carried | asked
      · obtain ⟨port, link, -, carries⟩ := Router.carrier?_eq reached message.npdu
        obtain ⟨source, stamped, -⟩ := state.router.exists_stamp_eq port { message.npdu with
          destination := if (state.router.directPort? network).isSome then none
            else message.npdu.destination }
        have body : sent.npdu.body = message.npdu.body := by
          rw [carries, Router.transmission, stamped] at carried
          cases carried
          rfl
        obtain ⟨fine, bound⟩ := joins (body ▸ application)
        exact ⟨message, fine,
          (Router.sends_of_carrier? reached bound carried.symm).of_sameLinks accounted.sameLinks⟩
      · split at asked
        · rw [Administrative.queries _ _ sent asked] at application
          cases application
        · cases asked

theorem accounted_foldl_forward (accounted : state.Accounted allowed before)
    {messages : List PendingNpdu}
    (join : ∀ message ∈ messages, message.npdu.body.isNetwork = false →
      allowed message ∧ message.BoundFor network) (now : Nat) :
    (messages.foldl (fun state message => (state.forward now network message).2)
      state).Accounted allowed before := by
  induction messages generalizing state with
  | nil => exact accounted
  | cons first rest ih =>
    exact ih (accounted_forward accounted (join first List.mem_cons_self) now)
      fun message member => join message (List.mem_cons_of_mem first member)

theorem accounted_flush (accounted : state.Accounted allowed before) (now : Nat)
    (network : UInt16) : (state.flush now network).Accounted allowed before := by
  unfold flush
  split
  · exact accounted
  · next queue found =>
    have dropped : (state.dropQueue network queue).Accounted allowed before := by
      refine ⟨accounted.sameLinks.trans ⟨rfl, rfl⟩, ?_, accounted.outputs⟩
      intro other message member
      exact accounted.waits other message (Router.mem_waits_of_erase member)
    refine accounted_foldl_forward dropped ?_ now
    intro message member
    exact accounted.waits network message (by rwa [Router.waits_of_find? found])

theorem accounted_learn (accounted : state.Accounted allowed before) (now : Nat)
    (arrival : Arrival) (network : UInt16) :
    (state.learn now arrival network).Accounted allowed before := by
  rw [learn_eq]
  split
  · exact accounted
  · exact accounted_flush (accounted.mapTable fun _ => state.router.table.insert network
      ⟨arrival.port, arrival.mac, .reachable, now⟩) now network

theorem accounted_foldl {α : Type} {step : Routing → α → Routing}
    (keeps : ∀ (state : Routing) item, state.Accounted allowed before →
      (step state item).Accounted allowed before) (items : List α)
    (accounted : state.Accounted allowed before) :
    (items.foldl step state).Accounted allowed before := by
  induction items generalizing state with
  | nil => exact accounted
  | cons first rest ih => exact ih (keeps state first accounted)

theorem accounted_takeAnnouncement (accounted : state.Accounted allowed before) (now : Nat)
    (arrival : Arrival) (networks : List UInt16) :
    (state.takeAnnouncement now arrival networks).Accounted allowed before := by
  have learned : (networks.foldl (fun state network => state.learn now arrival network)
      state).Accounted allowed before :=
    accounted_foldl (fun _ network fine => accounted_learn fine now arrival network) networks
      accounted
  unfold takeAnnouncement
  dsimp only
  split
  · exact learned.emit (.broadcasts _ rfl)
  · exact learned

theorem accounted_makeAvailable (accounted : state.Accounted allowed before) (now : Nat)
    (networks : List UInt16) : (state.makeAvailable now networks).Accounted allowed before := by
  refine accounted_foldl ?_ networks accounted
  intro state network fine
  exact accounted_flush (fine.mapTable _) now network

theorem accounted_applyTable (accounted : state.Accounted allowed before) (now : Nat)
    (arrival : Arrival) (lines : List RoutingTablePort) :
    (state.mapRouter (·.applyTable now arrival lines)).Accounted allowed before := by
  obtain ⟨table, applied, -⟩ := state.router.applyTable_spec now arrival lines
  refine accounted.mapRouter (sameLinks_applyTable state.router now arrival lines) ?_
  have result : state.router.applyTable now arrival lines = { state.router with table } :=
    applied state.router.pending
  rw [result]

theorem accounted_initializeTable (accounted : state.Accounted allowed before) (now : Nat)
    (arrival : Arrival) (npdu : Npdu) (lines : List RoutingTablePort) :
    (state.initializeTable now arrival npdu lines).Accounted allowed before := by
  unfold initializeTable
  split
  · exact accounted
  · split
    · exact accounted.emit (.reply _ _ _)
    · exact (accounted_applyTable accounted now arrival lines).emit (.reply _ _ _)

/-- The messages that a message between routers releases are the only application messages that come
of it. -/
theorem accounted_handleMessage (accounted : state.Accounted allowed before) (now : Nat)
    (arrival : Arrival) (npdu : Npdu) (message : NetworkMessage)
    (same : state.router.SameLinks (state.handleMessage now arrival npdu message).router) :
    (state.handleMessage now arrival npdu message).Accounted allowed before := by
  cases message with
  | whoIsRouterToNetwork network =>
    unfold handleMessage
    dsimp only
    split
    · exact accounted.emit (.answerWhoIs _ _ _)
    · exact accounted
  | iAmRouterToNetwork networks => exact accounted_takeAnnouncement accounted now arrival networks
  | rejectMessageToNetwork reason network =>
    exact (accounted.mapTable _).emit (.failure _)
  | routerBusyToNetwork networks => exact accounted.mapTable _
  | routerAvailableToNetwork networks => exact accounted_makeAvailable accounted now _
  | initializeRoutingTable lines =>
    exact accounted_initializeTable accounted now arrival npdu lines
  | initializeRoutingTableAck lines => exact accounted_applyTable accounted now arrival lines
  | whatIsNetworkNumber => exact accounted.emit (.answerNetworkNumber _ _)
  | networkNumberIs network configured =>
    unfold handleMessage at same ⊢
    dsimp only at same ⊢
    by_cases routed : npdu.source.isSome ∨ npdu.destination.isSome
    · rw [if_pos routed]
      exact accounted
    · rw [if_neg routed] at same ⊢
      exact accounted.mapRouter same rfl
  | other type data =>
    unfold handleMessage
    dsimp only
    split
    · exact accounted
    · exact accounted.emit (.reply _ _ _)
  | iCouldBeRouterToNetwork network index => exact accounted
  | establishConnectionToNetwork network time => exact accounted
  | disconnectConnectionToNetwork network => exact accounted
  | proprietary type vendor data => exact accounted

theorem accounted_deliver (accounted : state.Accounted allowed before) (now : Nat)
    (arrival : Arrival) (npdu : Npdu)
    (same : state.router.SameLinks (state.deliver now arrival npdu).router) :
    (state.deliver now arrival npdu).Accounted allowed before := by
  unfold deliver at same ⊢
  split
  · refine accounted.emit ?_
    intro sent member
    cases List.mem_singleton.mp member
  · next message body =>
    rw [body] at same
    exact accounted_handleMessage accounted now arrival npdu message same

theorem accounted_learnSource (accounted : state.Accounted allowed before) (now : Nat)
    (arrival : Arrival) (npdu : Npdu) :
    (state.learnSource now arrival npdu).Accounted allowed before := by
  unfold learnSource
  split
  · exact accounted
  · split
    · exact accounted
    · exact accounted_learn accounted now arrival _

/-! ## Messages from links -/

/-- An application message is allowed as it has passed a router with the links of `before`. -/
def AllowsPassed (allowed : PendingNpdu → Prop) (before : Router) (arrival : Arrival)
    (npdu : Npdu) : Prop :=
  ∀ destination passed, npdu.destination = some destination →
    (before.pass arrival npdu destination.network).1 = some passed →
    passed.body.isNetwork = false → allowed ⟨passed, some arrival⟩

variable {arrival : Arrival} {npdu : Npdu} {destination : Address}

theorem accounted_forwardArrival (accounted : state.Accounted allowed before)
    (allows : AllowsPassed allowed before arrival npdu)
    (addressed : npdu.destination = some destination) (remote : destination.isGlobal = false)
    (now : Nat) :
    (state.forwardArrival now arrival npdu destination.network).2.Accounted allowed before := by
  unfold forwardArrival
  dsimp only
  have told : (state.emit (state.router.pass arrival npdu destination.network).2).Accounted allowed
      before := accounted.emit (Administrative.pass arrival npdu destination.network)
  split
  · exact told
  · next passed passes =>
    refine accounted_forward told ?_ now
    intro application
    rw [accounted.sameLinks.fst_pass_eq] at passes
    refine ⟨allows destination passed addressed passes application, destination, ?_, rfl, remote⟩
    rw [← addressed]
    exact (Router.passes_of_pass passes).destination

theorem accounted_receiveGlobal (accounted : state.Accounted allowed before)
    (allows : AllowsPassed allowed before arrival npdu)
    (addressed : npdu.destination = some destination) (all : destination.isGlobal = true)
    (now : Nat) : (state.receiveGlobal now arrival npdu).2.Accounted allowed before := by
  have same : state.router.SameLinks (state.deliver now arrival npdu).router :=
    sameLinks_deliver state now arrival (by rw [addressed]; exact nofun)
  have delivered := accounted_deliver accounted now arrival npdu same
  have everywhere : destination.network = Address.globalNetwork := eq_of_beq all
  unfold receiveGlobal
  dsimp only
  split
  · refine ⟨delivered.sameLinks, delivered.waits, ?_⟩
    intro sent member application
    rcases List.mem_append.mp member with old | new
    · exact delivered.outputs sent old application
    · rcases List.mem_append.mp new with told | copied
      · rw [Administrative.pass _ _ _ sent told] at application
        cases application
      · split at copied
        · cases copied
        · next passed passes =>
          obtain ⟨port, -, transmits⟩ := List.mem_map.mp copied
          rw [delivered.sameLinks.fst_pass_eq, ← everywhere] at passes
          have kept := (Router.passes_of_pass passes).destination
          have sends : before.Sends ⟨passed, some arrival⟩ sent.npdu := by
            refine Router.sends_of_transmission transmits fun _ => ?_
            rw [Router.attaches, kept, addressed, Option.any_some, all]
            rfl
          refine ⟨_, allows destination passed addressed passes ?_, sends⟩
          rw [← sends.content.body]
          exact application
  · exact delivered

theorem accounted_receiveAttached (accounted : state.Accounted allowed before)
    (allows : AllowsPassed allowed before arrival npdu)
    (addressed : npdu.destination = some destination) (remote : destination.isGlobal = false)
    (now : Nat) (target : PortId) :
    (state.receiveAttached now arrival npdu destination target).2.Accounted allowed before := by
  have same : state.router.SameLinks (state.deliver now arrival npdu).router :=
    sameLinks_deliver state now arrival (by rw [addressed]; exact nofun)
  have delivered := accounted_deliver accounted now arrival npdu same
  unfold receiveAttached
  dsimp only
  split
  · split
    · exact delivered
    · exact accounted
  · split
    · split
      · exact accounted_forwardArrival delivered allows addressed remote now
      · exact delivered
    · exact accounted_forwardArrival accounted allows addressed remote now

theorem accounted_receiveRemote (accounted : state.Accounted allowed before)
    (allows : AllowsPassed allowed before arrival npdu)
    (addressed : npdu.destination = some destination) (remote : destination.isGlobal = false)
    (now : Nat) :
    (state.receiveRemote now arrival npdu destination).2.Accounted allowed before := by
  unfold receiveRemote
  split
  · exact accounted_receiveAttached accounted allows addressed remote now _
  · split
    · exact accounted_forwardArrival accounted allows addressed remote now
    · exact accounted

theorem accounted_receive (accounted : state.Accounted allowed before)
    (allows : AllowsPassed allowed before arrival npdu) (now : Nat)
    (same : state.router.SameLinks (state.receive now arrival npdu).2.router) :
    (state.receive now arrival npdu).2.Accounted allowed before := by
  unfold receive at same ⊢
  split
  · exact accounted.emit (.failure _)
  · next known =>
    rw [if_neg known] at same
    have learned := accounted_learnSource accounted now arrival npdu
    dsimp only at same ⊢
    cases addressed : npdu.destination with
    | none =>
      rw [addressed] at same
      dsimp only at same ⊢
      unfold receiveLocal at same ⊢
      split
      · next heard =>
        rw [if_pos heard] at same
        have source := sameLinks_learnSource state now arrival npdu
        exact accounted_deliver learned now arrival npdu
          ⟨same.ports.trans source.ports.symm, same.config.trans source.config.symm⟩
      · exact learned
    | some destination =>
      dsimp only
      split
      · next all => exact accounted_receiveGlobal learned allows addressed all now
      · next remote =>
        exact accounted_receiveRemote learned allows addressed (Bool.eq_false_iff.mpr remote) now

/-! ## Messages of the application -/

/-- A message of the application is sent as it is, with or without its destination, or waits. -/
theorem accounted_dispatch (accounted : state.Accounted allowed before) (now : Nat)
    (destination : Address) (message : Outgoing)
    (allows : message.body.isNetwork = false →
      allowed ⟨outgoing state.router destination message, none⟩) :
    (state.dispatch now destination message).Accounted allowed before := by
  have emits {outputs : List RouterOutput}
      (sends : ∀ sent, .transmit sent ∈ outputs →
        before.Sends ⟨outgoing state.router destination message, none⟩ sent.npdu) :
      (state.emit outputs).Accounted allowed before := by
    refine ⟨accounted.sameLinks, accounted.waits, ?_⟩
    intro sent member application
    rcases List.mem_append.mp member with old | new
    · exact accounted.outputs sent old application
    · have sending := sends sent new
      refine ⟨_, allows ?_, sending⟩
      rw [sending.content.body] at application
      exact application
  unfold dispatch
  dsimp only
  split
  · refine emits fun sent member => ?_
    exact Router.sends_of_transmission (List.mem_singleton.mp member).symm nofun
  · split
    · refine emits fun sent member => ?_
      obtain ⟨port, -, transmits⟩ := List.mem_map.mp member
      exact Router.sends_of_transmission transmits nofun
    · next remote =>
      exact accounted_forward accounted (fun application =>
        ⟨allows application, destination, rfl, rfl, Bool.eq_false_iff.mpr remote⟩) now

theorem mem_of_mem_transmissions {outputs : List RouterOutput} {sent : List Transmission}
    (result : transmissions outputs = .ok sent) {transmission : Transmission}
    (member : transmission ∈ sent) : .transmit transmission ∈ outputs := by
  induction outputs generalizing sent with
  | nil =>
    cases result
    cases member
  | cons first rest ih =>
    cases first with
    | transmit own =>
      rw [transmissions] at result
      cases tail : transmissions rest with
      | error error =>
        rw [tail] at result
        cases result
      | ok behind =>
        rw [tail] at result
        cases result
        rcases List.mem_cons.mp member with rfl | later
        · exact List.mem_cons_self
        · exact List.mem_cons_of_mem _ (ih tail later)
    | deliver source apdu expectingReply priority =>
      exact List.mem_cons_of_mem _ (ih result member)
    | failure error => cases result

end Routing

/-! ## Events -/

namespace Relay

variable {allowed : PendingNpdu → Prop} {relay : Relay}

/-- The messages that may begin to wait with an event are allowed. -/
def Allows (allowed : PendingNpdu → Prop) (relay : Relay) (event : RelayEvent) : Prop :=
  ∀ network message, relay.candidate? event = some (network, message) →
    message.npdu.body.isNetwork = false → allowed message

theorem mem_outputs_of_told {state : Routing} {sent : Transmission}
    (member : .transmit sent ∈ told (Routing.transmissions state.outputs)) :
    .transmit sent ∈ state.outputs := by
  cases result : Routing.transmissions state.outputs with
  | error error =>
    rw [result] at member
    cases List.mem_singleton.mp member
  | ok transmissions =>
    rw [result] at member
    obtain ⟨own, present, same⟩ := List.mem_map.mp member
    cases same
    exact Routing.mem_of_mem_transmissions result present

/-- When a timer runs out, messages are given up, and only messages between routers are sent. -/
theorem expire_spec (relay : Relay) (now : Nat) :
    (∀ network, ∀ message ∈ (relay.step now .expire).relay.router.waits network,
      message ∈ relay.router.waits network) ∧
      Administrative (relay.step now .expire).outputs := by
  unfold step
  dsimp only
  split
  · exact ⟨fun _ _ member => member, .nil⟩
  · unfold Router.giveUp
    split
    · exact ⟨fun _ _ member => member, .nil⟩
    · exact ⟨fun _ _ member => Router.mem_waits_of_erase member, .failureReports _ _⟩
  · exact ⟨fun _ _ member => member, .nil⟩

/-- If the application messages that wait are allowed, and the one that may have to wait is, then
those that wait afterwards and those that leave the router are. -/
theorem accounted_step
    (waits : ∀ network, ∀ message ∈ relay.router.waits network,
      message.npdu.body.isNetwork = false → allowed message ∧ message.BoundFor network)
    (now : Nat) {event : RelayEvent} (allows : relay.Allows allowed event) :
    (∀ network, ∀ message ∈ (relay.step now event).relay.router.waits network,
      message.npdu.body.isNetwork = false → allowed message ∧ message.BoundFor network) ∧
    ∀ sent, .transmit sent ∈ (relay.step now event).outputs → sent.npdu.body.isNetwork = false →
      ∃ message, allowed message ∧ relay.router.Sends message sent.npdu := by
  have idle : (Routing.start relay.router relay.timers).Accounted allowed relay.router :=
    ⟨.refl _, waits, fun _ member => absurd member List.not_mem_nil⟩
  rcases step_links relay now event with same | ⟨port, network, -, does⟩
  · cases event with
    | receive arrival npdu =>
      have passed : Routing.AllowsPassed allowed relay.router arrival npdu := by
        intro destination passed addressed passes application
        refine allows destination.network ⟨passed, some arrival⟩ ?_ application
        rw [candidate?, Router.joins?, addressed, Option.bind_some, passes, Option.map_some]
      have accounted := Routing.accounted_receive idle passed now same
      exact ⟨accounted.waits, accounted.outputs⟩
    | send destination message =>
      have accounted := Routing.accounted_dispatch idle now destination message
        (allows destination.network _ rfl)
      have result : relay.step now (.send destination message) =
          ⟨(Routing.start relay.router relay.timers).decision? now destination message,
            told (Routing.transmissions ((Routing.start relay.router relay.timers).dispatch now
              destination message).outputs),
            ((Routing.start relay.router relay.timers).dispatch now destination message).router,
            ((Routing.start relay.router relay.timers).dispatch now destination message).timers⟩ :=
        rfl
      rw [result]
      exact ⟨accounted.waits, fun sent member =>
        accounted.outputs sent (mem_outputs_of_told member)⟩
    | expire =>
      obtain ⟨kept, administrative⟩ := expire_spec relay now
      refine ⟨fun network message member => waits network message (kept network message member), ?_⟩
      intro sent member application
      rw [administrative sent member] at application
      cases application
    | expireRoutes | schedule _ _ | cancel _ =>
      exact ⟨waits, fun _ member => absurd member List.not_mem_nil⟩
  · rw [does]
    exact ⟨waits, fun _ member => absurd member List.not_mem_nil⟩

/-- The application messages that wait for a network are on their way to it. -/
theorem boundFor_run {relay : Relay}
    (bound : ∀ network, ∀ message ∈ relay.router.waits network,
      message.npdu.body.isNetwork = false → message.BoundFor network)
    (events : List (Nat × RelayEvent)) :
    ∀ network, ∀ message ∈ (relay.run events).router.waits network,
      message.npdu.body.isNetwork = false → message.BoundFor network := by
  induction events generalizing relay with
  | nil => exact bound
  | cons entry rest ih =>
    have kept := (@accounted_step (fun _ => True) relay
      (fun network message member application =>
        ⟨trivial, bound network message member application⟩)
      entry.1 entry.2 fun _ _ _ _ => trivial).1
    exact ih fun network message member application =>
      (kept network message member application).2

end Relay

end BACnet
