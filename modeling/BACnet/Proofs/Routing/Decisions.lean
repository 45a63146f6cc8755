import BACnet.Proofs.Routing.Chores

/-!
# Decisions about messages

A message that arrives or that is sent is settled by chores, or it has to wait itself for a network
that is not reached (`Planned`). Which of the two it is, and which chores they are, depends on what
the router knows alone.
-/

namespace BACnet

/-- What is decided about a message depends on what the router knows alone, unless the message has
to wait itself. -/
inductive Planned (lesson : Lesson) (now : Nat) (known : Router)
    (handle : Routing → RoutingDecision × Routing) : Option (UInt16 × PendingNpdu) → Prop where
  | settled (decision : RoutingDecision) (chores : List Chore) (decided : decision ≠ .pending)
    (fair : Chore.AllFair lesson known chores)
    (does : ∀ state : Routing, state.router.bare = known →
      handle state = (decision, state.performAll now chores)) :
    Planned lesson now known handle none
  /-- The message is to a network that is not reached, neither before nor after the chores, and none
  of them is to send what waits for this network. -/
  | queued (chores : List Chore) (network : UInt16) (message : PendingNpdu) (ask : Bool)
    (fair : Chore.AllFair lesson known chores)
    (before : known.reaches network = false)
    (after : (Chore.teachAll known chores).reaches network = false)
    (kept : ∀ table, .releases table network ∉ chores)
    (does : ∀ state : Routing, state.router.bare = known →
      handle state = (state.performAll now chores).enqueue now network message ask) :
    Planned lesson now known handle (some (network, message))

namespace Planned

variable {lesson : Lesson} {now : Nat} {known : Router}
  {joining : Option (UInt16 × PendingNpdu)}

/-- It is enough to know what is done by a router that knows this. -/
theorem congr {handle other : Routing → RoutingDecision × Routing}
    (same : ∀ state : Routing, state.router.bare = known → handle state = other state)
    (planned : Planned lesson now known other joining) :
    Planned lesson now known handle joining := by
  cases planned with
  | settled decision chores decided fair does =>
    exact .settled decision chores decided fair fun state knows =>
      (same state knows).trans (does state knows)
  | queued chores network message ask fair before after kept does =>
    exact .queued chores network message ask fair before after kept fun state knows =>
      (same state knows).trans (does state knows)

theorem of_scripted {decision : RoutingDecision} {work : Routing → Routing}
    (decided : decision ≠ .pending) (scripted : Scripted lesson now work) :
    Planned lesson now known (fun state => (decision, work state)) none := by
  obtain ⟨chores, fair, does⟩ := scripted known
  exact .settled decision chores decided fair fun state same => by rw [does state same]

/-- Chores come before a message that is settled. -/
theorem settled_after {handle : Routing → RoutingDecision × Routing} {work : Routing → Routing}
    {chores : List Chore} (fair : Chore.AllFair lesson known chores)
    (does : ∀ state : Routing, state.router.bare = known →
      work state = state.performAll now chores)
    (planned : Planned lesson now (Chore.teachAll known chores) handle none) :
    Planned lesson now known (fun state => handle (work state)) none := by
  cases planned with
  | settled decision others decided also follows =>
    refine .settled decision (chores ++ others) decided (fair.append also) ?_
    rintro state rfl
    show handle (work state) = _
    rw [does state rfl, follows _ (Routing.bare_performAll state now chores),
      Routing.performAll_append]

/-- Chores come before a message that may have to wait. What they send is for networks that are
reached then. -/
theorem after {handle : Routing → RoutingDecision × Routing} {work : Routing → Routing}
    {chores : List Chore} (fair : Chore.AllFair lesson known chores)
    (does : ∀ state : Routing, state.router.bare = known →
      work state = state.performAll now chores)
    (sends : ∀ table network, .releases table network ∈ chores →
      (Chore.teachAll known chores).reaches network = true)
    (keeps : ∀ network, known.reaches network = true →
      (Chore.teachAll known chores).reaches network = true)
    (planned : Planned lesson now (Chore.teachAll known chores) handle joining) :
    Planned lesson now known (fun state => handle (work state)) joining := by
  cases planned with
  | settled decision others decided also follows =>
    exact settled_after fair does (.settled decision others decided also follows)
  | queued others network message ask also before after kept follows =>
    refine .queued (chores ++ others) network message ask (fair.append also) ?_ ?_ ?_ ?_
    · rw [Bool.eq_false_iff]
      intro reached
      rw [keeps network reached] at before
      cases before
    · rw [Chore.teachAll_append]
      exact after
    · intro table member
      rcases List.mem_append.mp member with first | second
      · rw [sends table network first] at before
        cases before
      · exact kept table second
    · rintro state rfl
      show handle (work state) = _
      rw [does state rfl, follows _ (Routing.bare_performAll state now chores),
        Routing.performAll_append]

/-- A message to a network that is reached does not wait. -/
theorem forward_of_reaches {network : UInt16} (reached : known.reaches network = true)
    (message : PendingNpdu) :
    Planned lesson now known (fun state => state.forward now network message) none := by
  obtain ⟨carry, carries⟩ := Option.isSome_iff_exists.mp reached
  refine .settled .forward [.tells (carry message.npdu :: if known.doubts network then
    known.queries network (message.arrival.map (·.port)) else [])] nofun ⟨trivial, trivial⟩ ?_
  rintro state rfl
  exact Routing.forward_of_carrier? carries message

/-- A message to a network that is not reached has to wait. -/
theorem forward_of_not_reaches {network : UInt16} (unreached : known.reaches network = false)
    (message : PendingNpdu) :
    Planned lesson now known (fun state => state.forward now network message)
      (some (network, message)) := by
  refine .queued [] network message (known.table.find? network).isNone trivial unreached unreached
    (fun _ => List.not_mem_nil) ?_
  rintro state rfl
  have uncarried : state.router.carrier? network = none :=
    Option.isNone_iff_eq_none.mp (Option.isSome_eq_false_iff.mp unreached)
  exact Routing.forward_of_not_reaches uncarried message

end Planned

/-- A message from a link as it waits if it has to, and the network for which it waits. -/
def Router.joins? (router : Router) (arrival : Arrival) (npdu : Npdu) :
    Option (UInt16 × PendingNpdu) :=
  npdu.destination.bind fun destination =>
    (router.pass arrival npdu destination.network).1.map fun passed =>
      (destination.network, ⟨passed, some arrival⟩)

namespace Planned

variable {lesson : Lesson} {now : Nat} {known : Router}

/-- Saying something does not change what the router knows. -/
theorem after_emit {handle : Routing → RoutingDecision × Routing}
    {joining : Option (UInt16 × PendingNpdu)} (outputs : List RouterOutput)
    (planned : Planned lesson now known handle joining) :
    Planned lesson now known (fun state => handle (state.emit outputs)) joining := by
  refine @after lesson now known joining handle _ [.tells outputs] ⟨trivial, trivial⟩ ?_ ?_
    (fun _ reached => reached) planned
  · exact fun _ _ => rfl
  · intro table network member
    cases List.mem_singleton.mp member

/-- A message from a link waits if it may pass and its network is not reached. -/
theorem forwardArrival (arrival : Arrival) (npdu : Npdu) (network : UInt16) :
    Planned lesson now known (fun state => state.forwardArrival now arrival npdu network)
      (if known.reaches network then none
      else (known.pass arrival npdu network).1.map fun passed =>
        (network, ⟨passed, some arrival⟩)) := by
  obtain ⟨passes, outputs, result⟩ : ∃ passes outputs,
      known.pass arrival npdu network = (passes, outputs) := ⟨_, _, rfl⟩
  rw [result]
  cases passes with
  | none =>
    rw [Option.map_none, ite_self]
    refine congr ?_ (of_scripted (nofun : RoutingDecision.drop .notForwardable ≠ .pending)
      (.emit fun _ => outputs))
    rintro state rfl
    rw [Routing.forwardArrival, show state.router.pass arrival npdu network = _ from result]
  | some passed =>
    rw [Option.map_some]
    have does : ∀ state : Routing, state.router.bare = known →
        state.forwardArrival now arrival npdu network =
          (state.emit outputs).forward now network ⟨passed, some arrival⟩ := by
      rintro state rfl
      rw [Routing.forwardArrival, show state.router.pass arrival npdu network = _ from result]
    cases reached : known.reaches network with
    | true => exact congr does (after_emit outputs (forward_of_reaches reached _))
    | false => exact congr does (after_emit outputs (forward_of_not_reaches reached _))

end Planned

/-! ## Messages from links -/

namespace Router

/-- A network to which a route is learned is reached. -/
theorem reaches_insert (router : Router) (network : UInt16) {route : Route}
    (status : route.status ≠ .busy) :
    reaches { router with table := router.table.insert network route } network = true := by
  rw [reaches_iff, Table.find?_insert, if_pos rfl]
  exact .inr ⟨route, rfl, status⟩

/-- The other networks are reached as before. -/
theorem reaches_insert_of_reaches {router : Router} {network other : UInt16} {route : Route}
    (status : route.status ≠ .busy) (reached : router.reaches other = true) :
    reaches { router with table := router.table.insert network route } other = true := by
  by_cases same : network = other
  · exact same ▸ router.reaches_insert network status
  · rw [reaches_iff] at reached ⊢
    rw [Table.find?_insert, if_neg same]
    exact reached

end Router

/-- These chores learn the route to the source of a message. They send only what waits for networks
that are reached then. -/
structure LearnsSource (now : Nat) (known : Router) (arrival : Arrival) (npdu : Npdu)
    (chores : List Chore) : Prop where
  fair : Chore.AllFair (npdu.lesson arrival) known chores
  does : ∀ state : Routing, state.router.bare = known →
    state.learnSource now arrival npdu = state.performAll now chores
  sends : ∀ table network, .releases table network ∈ chores →
    (Chore.teachAll known chores).reaches network = true
  keeps : ∀ network, known.reaches network = true →
    (Chore.teachAll known chores).reaches network = true
  joins : (Chore.teachAll known chores).joins? arrival npdu = known.joins? arrival npdu

theorem learnsSource (now : Nat) (known : Router) (arrival : Arrival) (npdu : Npdu) :
    ∃ chores, LearnsSource now known arrival npdu chores := by
  have idle (skips : ∀ state : Routing, state.router.bare = known →
      state.learnSource now arrival npdu = state) :
      ∃ chores, LearnsSource now known arrival npdu chores :=
    ⟨[], trivial, skips, nofun, fun _ reached => reached, rfl⟩
  cases named : npdu.source with
  | none =>
    apply idle
    intro state _
    rw [Routing.learnSource, named]
  | some source =>
    have numberless : npdu.tells? = none := Npdu.tells?_of_source (named ▸ rfl)
    by_cases fresh : known.hasFreshRoute source.network = true
    · apply idle
      rintro state rfl
      rw [Routing.learnSource, named]
      exact if_pos fresh
    · by_cases skips : arrival.mac.isEmpty ∨ source.network = Address.globalNetwork ∨
        (known.directPort? source.network).isSome
      · apply idle
        rintro state rfl
        rw [Routing.learnSource, named]
        exact (if_neg fresh).trans
          ((Routing.learn_eq state now arrival source.network).trans (if_pos skips))
      · refine ⟨[.releases (known.table.insert source.network
          ⟨arrival.port, arrival.mac, .reachable, now⟩) source.network],
          ⟨Chore.fair_insert numberless _ rfl rfl, trivial⟩, ?_, ?_, ?_, rfl⟩
        · rintro state rfl
          rw [Routing.learnSource, named]
          exact (if_neg fresh).trans
            ((Routing.learn_eq state now arrival source.network).trans (if_neg skips))
        · intro table network member
          cases List.mem_singleton.mp member
          exact known.reaches_insert source.network nofun
        · exact fun network reached => Router.reaches_insert_of_reaches nofun reached

/-- What a router puts out of a message to all networks on its other links. -/
def Router.repeats (router : Router) (arrival : Arrival) (npdu : Npdu) : List RouterOutput :=
  (router.pass arrival npdu Address.globalNetwork).2 ++
    match (router.pass arrival npdu Address.globalNetwork).1 with
    | none => []
    | some npdu => router.broadcasts (router.otherPorts (some arrival.port)) npdu

/-- What is decided about a message when its source has been learned. -/
def Routing.receiveLearned (state : Routing) (now : Nat) (arrival : Arrival) (npdu : Npdu) :
    RoutingDecision × Routing :=
  match npdu.destination with
  | none => state.receiveLocal now arrival npdu
  | some destination =>
    if destination.isGlobal then state.receiveGlobal now arrival npdu
    else state.receiveRemote now arrival npdu destination

/-- The source of a message from a link is learned first. -/
theorem Routing.receive_of_valid {state : Routing} {arrival : Arrival}
    (valid : (state.router.port? arrival.port).isSome = true) (now : Nat) (npdu : Npdu) :
    state.receive now arrival npdu =
      (state.learnSource now arrival npdu).receiveLearned now arrival npdu := by
  have known : ¬(state.router.port? arrival.port).isNone = true := by
    simp [Option.isSome_iff_ne_none.mp valid]
  rw [receive, if_neg known]
  rfl

/-- A message from a link is settled, or waits as it has passed. -/
def Decides (now : Nat) (known : Router) (arrival : Arrival) (npdu : Npdu)
    (handle : Routing → RoutingDecision × Routing) : Prop :=
  ∃ joining, Planned (npdu.lesson arrival) now known handle joining ∧
    (joining = none ∨ joining = known.joins? arrival npdu)

namespace Decides

variable {now : Nat} {known : Router} {arrival : Arrival} {npdu : Npdu}

theorem settled {handle : Routing → RoutingDecision × Routing} {work : Routing → Routing}
    {decision : RoutingDecision} (decided : decision ≠ .pending)
    (scripted : Scripted (npdu.lesson arrival) now work)
    (does : ∀ state : Routing, state.router.bare = known → handle state = (decision, work state)) :
    Decides now known arrival npdu handle :=
  ⟨none, .congr does (.of_scripted decided scripted), .inl rfl⟩

theorem congr {handle other : Routing → RoutingDecision × Routing}
    (decides : Decides now known arrival npdu other)
    (same : ∀ state : Routing, state.router.bare = known → handle state = other state) :
    Decides now known arrival npdu handle := by
  obtain ⟨joining, planned, joins⟩ := decides
  exact ⟨joining, planned.congr same, joins⟩

theorem receiveLocal :
    Decides now known arrival npdu fun state => state.receiveLocal now arrival npdu := by
  by_cases heard : arrival.port = primaryPort ∨ npdu.body.isNetwork
  · exact settled (nofun : RoutingDecision.deliver ≠ .pending) (.deliver arrival npdu)
      fun _ _ => if_pos heard
  · exact settled (nofun : RoutingDecision.drop .secondaryPort ≠ .pending) .idle
      fun _ _ => if_neg heard

theorem forwardArrival {destination : Address} (addressed : npdu.destination = some destination) :
    Decides now known arrival npdu fun state =>
      state.forwardArrival now arrival npdu destination.network := by
  refine ⟨_, .forwardArrival arrival npdu destination.network, ?_⟩
  cases known.reaches destination.network with
  | true => exact .inl rfl
  | false =>
    refine .inr ?_
    rw [Router.joins?, addressed]
    rfl

theorem receiveAttached {destination : Address} (addressed : npdu.destination = some destination)
    {target : PortId} (attached : known.directPort? destination.network = some target) :
    Decides now known arrival npdu fun state =>
      state.receiveAttached now arrival npdu destination target := by
  by_cases own : target = primaryPort ∧ known.isOwnMac destination.mac = true
  · by_cases back : target = arrival.port
    · refine settled (nofun : RoutingDecision.deliver ≠ .pending) (.deliver arrival npdu) ?_
      rintro state rfl
      exact (if_pos back).trans (if_pos own)
    · by_cases all : destination.isBroadcast = true
      · -- The message is for this device as well. The network stays attached when it is handled.
        have delivers : Scripted (npdu.lesson arrival) now _ := .deliver arrival npdu
        obtain ⟨chores, fair, does⟩ := delivers known
        have reached : (Chore.teachAll known chores).reaches destination.network = true := by
          rw [Router.reaches_iff]
          exact .inl (fair.directPort? (by rw [attached]; rfl))
        have sent : Planned (npdu.lesson arrival) now (Chore.teachAll known chores) _ _ :=
          .forwardArrival arrival npdu destination.network
        rw [reached, if_pos rfl] at sent
        refine ⟨none, .congr ?_ (.settled_after fair does sent), .inl rfl⟩
        rintro state rfl
        exact (if_neg back).trans ((if_pos own).trans (if_pos all))
      · refine settled (nofun : RoutingDecision.deliver ≠ .pending) (.deliver arrival npdu) ?_
        rintro state rfl
        exact (if_neg back).trans ((if_pos own).trans (if_neg all))
  · by_cases back : target = arrival.port
    · refine settled (nofun : RoutingDecision.drop .arrivalNetwork ≠ .pending) .idle ?_
      rintro state rfl
      exact (if_pos back).trans (if_neg own)
    · refine (forwardArrival addressed).congr ?_
      rintro state rfl
      exact (if_neg back).trans (if_neg own)

theorem receiveRemote {destination : Address} (addressed : npdu.destination = some destination) :
    Decides now known arrival npdu fun state =>
      state.receiveRemote now arrival npdu destination := by
  cases attached : known.directPort? destination.network with
  | some target =>
    refine (receiveAttached addressed attached).congr ?_
    rintro state rfl
    show state.receiveRemote now arrival npdu destination = _
    rw [Routing.receiveRemote, show state.router.directPort? _ = _ from attached]
  | none =>
    by_cases routes : known.isRouter = true
    · refine (forwardArrival addressed).congr ?_
      rintro state rfl
      show state.receiveRemote now arrival npdu destination = _
      rw [Routing.receiveRemote, show state.router.directPort? _ = _ from attached]
      exact if_pos routes
    · refine settled (nofun : RoutingDecision.drop .notRouter ≠ .pending) .idle ?_
      rintro state rfl
      show state.receiveRemote now arrival npdu destination = _
      rw [Routing.receiveRemote, show state.router.directPort? _ = _ from attached]
      exact if_neg routes

theorem receiveGlobal :
    Decides now known arrival npdu fun state => state.receiveGlobal now arrival npdu := by
  have delivers : Scripted (npdu.lesson arrival) now _ := .deliver arrival npdu
  obtain ⟨chores, fair, does⟩ := delivers known
  let copies (router : Router) : List RouterOutput := router.repeats arrival npdu
  have repeated : Planned (npdu.lesson arrival) now (Chore.teachAll known chores)
      (fun delivered =>
        if delivered.router.isRouter then
          (.broadcast, delivered.emit (copies delivered.router))
        else (.deliver, delivered)) none := by
    by_cases routes : (Chore.teachAll known chores).isRouter = true
    · refine .congr ?_ (.of_scripted (nofun : RoutingDecision.broadcast ≠ .pending) (.emit copies))
      intro state knows
      exact if_pos ((congrArg Router.isRouter knows).trans routes)
    · refine .congr ?_ (.of_scripted (nofun : RoutingDecision.deliver ≠ .pending) .idle)
      intro state knows
      exact if_neg fun router => routes ((congrArg Router.isRouter knows).symm.trans router)
  exact ⟨none, .congr (fun _ _ => rfl) (.settled_after fair does repeated), .inl rfl⟩

end Decides

/-- What is decided about a message from a link depends on what the router knows alone, unless the
message has to wait itself. -/
theorem decides_receive (now : Nat) (known : Router) (arrival : Arrival) (npdu : Npdu) :
    Decides now known arrival npdu fun state => state.receive now arrival npdu := by
  by_cases unknown : (known.port? arrival.port).isNone = true
  · refine .settled (nofun : RoutingDecision.drop .unknownPort ≠ .pending)
      (.emit fun _ => [.failure (.unknownPort arrival.port)]) ?_
    rintro state rfl
    exact if_pos unknown
  · obtain ⟨chores, learns⟩ := learnsSource now known arrival npdu
    have decides : Decides now (Chore.teachAll known chores) arrival npdu fun state =>
        state.receiveLearned now arrival npdu := by
      unfold Routing.receiveLearned
      cases addressed : npdu.destination with
      | none => exact .receiveLocal
      | some destination =>
        by_cases everywhere : destination.isGlobal = true
        · exact Decides.receiveGlobal.congr fun _ _ => if_pos everywhere
        · exact (Decides.receiveRemote addressed).congr fun _ _ => if_neg everywhere
    obtain ⟨joining, planned, joins⟩ := decides
    refine ⟨joining, .congr ?_ (.after learns.fair learns.does
      learns.sends learns.keeps planned), learns.joins ▸ joins⟩
    rintro state rfl
    exact if_neg unknown

/-! ## Messages of the application -/

namespace Routing

/-- Whether a message of the application stays on the own network. -/
def isNear (router : Router) (destination : Address) : Bool :=
  destination.isLocal ∨ some destination.network = router.network? primaryPort

/-- A message of the application as it is sent towards another network. -/
def outgoing (router : Router) (destination : Address) (message : Outgoing) : Npdu :=
  router.addressed destination
    ⟨message.priority, message.expectingReply, none, none, 0, message.body⟩

/-- What is decided about a message of the application. There is nothing to decide about one to the
own network or to all. -/
def decision? (state : Routing) (now : Nat) (destination : Address) (message : Outgoing) :
    Option RoutingDecision :=
  if isNear state.router destination ∨ destination.isGlobal then none
  else some (state.forward now destination.network
    ⟨outgoing state.router destination message, none⟩).1

theorem dispatch_of_far (now : Nat) {state : Routing} {destination : Address} (message : Outgoing)
    (far : ¬ (isNear state.router destination = true ∨ destination.isGlobal = true)) :
    state.dispatch now destination message = (state.forward now destination.network
        ⟨outgoing state.router destination message, none⟩).2 ∧
      state.decision? now destination message = some (state.forward now destination.network
        ⟨outgoing state.router destination message, none⟩).1 := by
  refine ⟨?_, if_neg far⟩
  rw [not_or] at far
  exact (if_neg fun own => far.1 (decide_eq_true own)).trans (if_neg far.2)

/-- What is sent to the own network or to all does not depend on the messages that wait. -/
theorem dispatch_of_near (now : Nat) (known : Router) {destination : Address} {message : Outgoing}
    (near : isNear known destination = true ∨ destination.isGlobal = true) :
    ∃ outputs, ∀ state : Routing, state.router.bare = known →
      state.dispatch now destination message = state.emit outputs ∧
        state.decision? now destination message = none := by
  have undecided : ∀ state : Routing, state.router.bare = known →
      state.decision? now destination message = none := by
    rintro state rfl
    exact if_pos near
  by_cases own : destination.isLocal = true ∨
      some destination.network = known.network? primaryPort
  · refine ⟨[known.transmission primaryPort (.ofMac destination.mac)
      ⟨message.priority, message.expectingReply, none, none, known.config.initialHopCount,
        message.body⟩], fun state same => ⟨?_, undecided state same⟩⟩
    subst same
    exact if_pos own
  · have everywhere : destination.isGlobal = true := by
      rcases near with near | everywhere
      · exact absurd (of_decide_eq_true near) own
      · exact everywhere
    refine ⟨known.broadcasts known.portIds (outgoing known destination message),
      fun state same => ⟨?_, undecided state same⟩⟩
    subst same
    exact (if_neg own).trans (if_pos everywhere)

end Routing

/-- What is decided about a message of the application depends on what the router knows alone,
unless the message has to wait. -/
theorem decides_dispatch (now : Nat) (known : Router) (destination : Address)
    (message : Routing.Outgoing) :
    ∃ joining,
      Planned .nothing now known (fun state =>
        ((state.decision? now destination message).getD .forward,
          state.dispatch now destination message)) joining ∧
      (joining = none ∨ joining = some (destination.network,
        ⟨Routing.outgoing known destination message, none⟩)) := by
  by_cases near : Routing.isNear known destination = true ∨ destination.isGlobal = true
  · obtain ⟨outputs, does⟩ := @Routing.dispatch_of_near now known destination message near
    refine ⟨none, .congr ?_ (.of_scripted (nofun : RoutingDecision.forward ≠ .pending)
      (.emit fun _ => outputs)), .inl rfl⟩
    intro state same
    rw [(does state same).1, (does state same).2]
    rfl
  · have forwards : ∀ state : Routing, state.router.bare = known →
        ((state.decision? now destination message).getD .forward,
            state.dispatch now destination message) =
          state.forward now destination.network
            ⟨Routing.outgoing known destination message, none⟩ := by
      rintro state rfl
      obtain ⟨sent, decided⟩ := Routing.dispatch_of_far now message near
      rw [sent, decided]
      rfl
    cases reached : known.reaches destination.network with
    | true => exact ⟨none, .congr forwards (.forward_of_reaches reached _), .inl rfl⟩
    | false => exact ⟨_, .congr forwards (.forward_of_not_reaches reached _), .inr rfl⟩

end BACnet
