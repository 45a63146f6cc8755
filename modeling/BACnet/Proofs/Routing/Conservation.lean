import BACnet.Proofs.Routing.Exits

/-!
# Waiting messages are conserved

In each step the messages that wait for a network go on waiting, or all of them are sent, each once,
or all of them are dropped because no route has been found in time (`Relay.Turn`). Over a run the
messages that have begun to wait are those that have left followed by those that wait.
-/

namespace BACnet

/-! ## Messages that are decided about -/

namespace Routing

variable {state : Routing} {network : UInt16} {joined : List PendingNpdu}
  {work other : Routing → Routing}

/-- The state with another queue knows the same. -/
theorem bare_refill (state : Routing) (network : UInt16) (waiting : List PendingNpdu) :
    (state.refill network waiting).router.bare = state.router.bare :=
  state.router.bare_refill network waiting

theorem Keeps.congr (kept : Keeps network joined state other)
    (same : ∀ twin : Routing, twin.router.bare = state.router.bare → work twin = other twin) :
    Keeps network joined state work := by
  refine ⟨?_, ?_⟩
  · intro others alike
    rw [same _ (bare_refill state network others), same state rfl]
    exact kept.same others alike
  · rw [same state rfl]
    exact kept.waits

theorem Sends.congr {lesson : Lesson} (sent : Sends lesson network state other)
    (same : ∀ twin : Routing, twin.router.bare = state.router.bare → work twin = other twin) :
    Sends lesson network state work := by
  obtain ⟨numberless, ⟨moment, carry, before, after, heeds, reached, filled⟩, waits⟩ := sent
  refine ⟨numberless, ⟨moment, carry, before, after, heeds, reached, ?_⟩, ?_⟩
  · intro others alike
    rw [same _ (bare_refill state network others), same state rfl]
    exact filled others alike
  · rw [same state rfl]
    exact waits

end Routing

/-- The messages that wait for a network from now on, by the message that may have to wait and what
has been decided about it. -/
def entered (joining : Option (UInt16 × PendingNpdu)) (decision : RoutingDecision)
    (network : UInt16) : List PendingNpdu :=
  if decision = .pending then (joining.toList.filter (·.1 = network)).map (·.2) else []

theorem entered_of_ne_pending (joining : Option (UInt16 × PendingNpdu))
    {decision : RoutingDecision} (decided : decision ≠ .pending) (network : UInt16) :
    entered joining decision network = [] :=
  if_neg decided

theorem entered_some (target : UInt16) (message : PendingNpdu) (decision : RoutingDecision)
    (network : UInt16) :
    entered (some (target, message)) decision network =
      if network = target ∧ decision = .pending then [message] else [] := by
  unfold entered
  by_cases waits : decision = .pending
  · by_cases same : network = target
    · simp [waits, same]
    · simp [waits, same, Ne.symm same]
  · simp [waits]

theorem Planned.ne_pending {lesson : Lesson} {now : Nat} {state : Routing}
    {handle : Routing → RoutingDecision × Routing}
    (planned : Planned lesson now state.router.bare handle none) :
    (handle state).1 ≠ .pending := by
  cases planned with
  | settled decision chores decided fair does =>
    rw [does state rfl]
    exact decided

/-- What is decided about a message does not depend on the messages that wait. These are kept or
sent. -/
theorem Planned.cases {lesson : Lesson} {now : Nat} {state : Routing}
    {handle : Routing → RoutingDecision × Routing} {joining : Option (UInt16 × PendingNpdu)}
    (planned : Planned lesson now state.router.bare handle joining)
    (tidy : state.router.Tidy) (network : UInt16) :
    (∀ others, state.router.Alike network others →
        (handle (state.refill network others)).1 = (handle state).1) ∧
      (state.Keeps network (entered joining (handle state).1 network)
          (fun state => (handle state).2) ∨
        entered joining (handle state).1 network = [] ∧
          state.Sends lesson network fun state => (handle state).2) := by
  cases planned with
  | settled decision chores decided fair does =>
    have works : ∀ twin : Routing, twin.router.bare = state.router.bare →
        (handle twin).2 = twin.performAll now chores := fun twin same => by rw [does twin same]
    rw [does state rfl, entered_of_ne_pending none decided]
    refine ⟨?_, ?_⟩
    · intro others _
      rw [does _ (Routing.bare_refill state network others)]
    · exact (Routing.performAll_cases tidy fair now network).imp (·.congr works)
        fun sent => ⟨rfl, sent.congr works⟩
  | queued chores target message ask fair before after unsent does =>
    have works : ∀ twin : Routing, twin.router.bare = state.router.bare →
        (handle twin).2 = ((twin.performAll now chores).enqueue now target message ask).2 :=
      fun twin same => by rw [does twin same]
    have joins := Routing.keeps_enqueue (state.performAll now chores) now network target message ask
    have kept (first : state.Keeps network [] fun state => state.performAll now chores) :
        (∀ others, state.router.Alike network others →
          (handle (state.refill network others)).1 = (handle state).1) ∧
        state.Keeps network (entered (some (target, message)) (handle state).1 network)
          fun state => (handle state).2 := by
      have waits := first.waits
      rw [List.append_nil] at waits
      refine ⟨?_, ?_⟩
      · intro others alike
        rw [does _ (Routing.bare_refill state network others), does state rfl,
          first.same others alike, List.append_nil]
        exact Routing.decision_enqueue_refill (by rw [Router.Alike, waits]; exact alike) now target
          message ask
      · rw [entered_some, does state rfl]
        exact (first.comp joins).congr works
    by_cases same : network = target
    · subst same
      obtain ⟨decided, keeps⟩ := kept (Routing.keeps_performAll tidy fair now unsent)
      exact ⟨decided, .inl keeps⟩
    · rcases Routing.performAll_cases tidy fair now network with first | first
      · obtain ⟨decided, keeps⟩ := kept first
        exact ⟨decided, .inl keeps⟩
      · rw [entered_some, if_neg fun both => same both.1]
        rw [if_neg fun both => same both.1] at joins
        refine ⟨?_, .inr ⟨rfl, ?_⟩⟩
        · intro others alike
          obtain ⟨-, ⟨moment, carry, earlier, later, -, -, filled⟩, -⟩ := first
          rw [does _ (Routing.bare_refill state network others), does state rfl,
            filled others alike, Routing.decision_enqueue, Routing.decision_enqueue]
        · refine (first.comp (Routing.appends_enqueue now target message ask) ?_).congr works
          rw [joins.waits, first.waits, List.append_nil]

/-- A message that is forwarded is sent or begins to wait. Those that wait are kept. -/
theorem Routing.keeps_forward (state : Routing) (now : Nat) (network target : UInt16)
    (message : PendingNpdu) :
    (∀ others, state.router.Alike network others →
        ((state.refill network others).forward now target message).1 =
          (state.forward now target message).1) ∧
      state.Keeps network
        (entered (some (target, message)) (state.forward now target message).1 network)
        fun state => (state.forward now target message).2 := by
  cases reached : state.router.carrier? target with
  | some carry =>
    let outputs := carry message.npdu :: if state.router.doubts target then
      state.router.queries target (message.arrival.map (·.port)) else []
    have does : ∀ twin : Routing, twin.router.bare = state.router.bare →
        twin.forward now target message = (.forward, twin.emit outputs) := by
      intro twin same
      have carries : twin.router.bare.carrier? target = some carry := by
        rw [same]
        exact reached
      refine (forward_of_carrier? carries message).trans ?_
      show (RoutingDecision.forward, twin.emit (carry message.npdu ::
        if twin.router.bare.doubts target then
          twin.router.bare.queries target (message.arrival.map (·.port)) else [])) = _
      rw [same]
      rfl
    have sends : RoutingDecision.forward ≠ .pending := nofun
    rw [does state rfl]
    dsimp only
    rw [entered_of_ne_pending _ sends]
    refine ⟨?_, (keeps_emit network state outputs).congr fun twin same => by rw [does twin same]⟩
    intro others _
    rw [does _ (bare_refill state network others)]
  | none =>
    let ask := (state.router.table.find? target).isNone
    have does : ∀ twin : Routing, twin.router.bare = state.router.bare →
        twin.forward now target message = twin.enqueue now target message ask := by
      intro twin same
      have waits : twin.router.bare.carrier? target = none := by
        rw [same]
        exact reached
      refine (forward_of_not_reaches waits message).trans ?_
      show twin.enqueue now target message (twin.router.bare.table.find? target).isNone = _
      rw [same]
      rfl
    rw [does state rfl, entered_some]
    refine ⟨?_, (keeps_enqueue state now network target message ask).congr
      fun twin same => by rw [does twin same]⟩
    intro others alike
    rw [does _ (bare_refill state network others)]
    exact decision_enqueue_refill alike now target message ask

/-! ## Turns -/

namespace Relay

/-- What becomes in one step of the messages that wait for a network. To say that nothing else
depends on what they are, the step is compared with the same step in which other messages wait that
came from the same stations. -/
inductive Turn (relay : Relay) (now : Nat) (event : RelayEvent) (network : UInt16) : Prop where
  /-- They go on waiting, and a message may begin to wait behind them. -/
  | kept
    (waits : (relay.step now event).relay.router.waits network =
      relay.router.waits network ++ relay.entering now event network)
    (same : ∀ others, relay.router.Alike network others →
      (relay.refill network others).step now event =
        { relay.step now event with
          relay := (relay.step now event).relay.refill network
            (others ++ relay.entering now event network) })
  /-- A message has arrived by which the network is reached. They are sent, each once and in their
  order, on a way that leads there. -/
  | sent (arrival : Arrival) (npdu : Npdu) (arrives : event = .receive arrival npdu) (exit : Exit)
    (opens : exit.Opens relay.router arrival network) (before after : List RouterOutput)
    (outputs : (relay.step now event).outputs =
      before ++ (relay.router.waits network).map (fun message =>
        .transmit (exit.transmission relay.router message.npdu)) ++ after)
    (same : ∀ others, relay.router.Alike network others →
      (relay.refill network others).step now event =
        { relay.step now event with
          outputs := before ++ others.map (fun message =>
            .transmit (exit.transmission relay.router message.npdu)) ++ after })
    (entering : relay.entering now event network = [])
    (waits : (relay.step now event).relay.router.waits network = [])
  /-- The wait for the network has ended. They are dropped, and those who sent them are told. -/
  | dropped (handle : TimerHandle) (rest : TimerQueue TimerEvent) (expires : event = .expire)
    (popped : relay.timers.pop? now = some (handle, .routeResolution network, rest))
    (outputs : (relay.step now event).outputs =
      relay.router.obituary network (relay.router.waits network))
    (same : ∀ others, relay.router.Alike network others →
      (relay.refill network others).step now event =
        { relay.step now event with outputs := relay.router.obituary network others })
    (entering : relay.entering now event network = [])
    (waits : (relay.step now event).relay.router.waits network = [])

variable {relay : Relay} {network : UInt16}

theorem refill_waits (relay : Relay) (network : UInt16) :
    relay.refill network (relay.router.waits network) = relay :=
  congrArg (fun router => { relay with router }) (relay.router.refill_waits network)

/-- What comes of a message from a link. -/
def decided (result : RoutingDecision × Routing) : RelayStep :=
  ⟨some result.1, result.2.outputs, ⟨result.2.router, result.2.timers⟩⟩

theorem entering_receive (now : Nat) (arrival : Arrival) (npdu : Npdu) :
    relay.entering now (.receive arrival npdu) network =
      entered (relay.router.joins? arrival npdu)
        ((Routing.start relay.router relay.timers).receive now arrival npdu).1 network :=
  if_congr Option.some_inj rfl rfl

theorem turn_receive (tidy : relay.router.Tidy) (now : Nat) (arrival : Arrival) (npdu : Npdu) :
    Turn relay now (.receive arrival npdu) network := by
  obtain ⟨joining, planned, joins⟩ := decides_receive now relay.router.bare arrival npdu
  let state := Routing.start relay.router relay.timers
  have entering : relay.entering now (.receive arrival npdu) network =
      entered joining (state.receive now arrival npdu).1 network := by
    rw [entering_receive]
    rcases joins with rfl | rfl
    · rw [entered_of_ne_pending _ (@Planned.ne_pending _ now state _ planned),
        entered_of_ne_pending _ (@Planned.ne_pending _ now state _ planned)]
    · rfl
  obtain ⟨same, turns⟩ := @Planned.cases _ now state _ _ planned tidy network
  rcases turns with keeps | ⟨none, sends⟩
  · refine .kept ?_ ?_
    · rw [entering]
      exact keeps.waits
    · intro others alike
      rw [entering]
      have result : (state.refill network others).receive now arrival npdu =
          ((state.receive now arrival npdu).1, (state.receive now arrival npdu).2.refill network
            (others ++ entered joining (state.receive now arrival npdu).1 network)) :=
        Prod.ext (same others alike) (keeps.same others alike)
      exact congrArg decided result
  · obtain ⟨numberless, ⟨moment, carry, before, after, heeds, reached, filled⟩, empty⟩ := sends
    obtain ⟨exit, opens, carries⟩ := Router.exists_exit numberless rfl heeds reached
    simp only [carries] at filled
    have steps : ∀ others, relay.router.Alike network others →
        (relay.refill network others).step now (.receive arrival npdu) =
          { relay.step now (.receive arrival npdu) with
            outputs := before ++ others.map (fun message =>
              .transmit (exit.transmission relay.router message.npdu)) ++ after } := by
      intro others alike
      have result : (state.refill network others).receive now arrival npdu =
          ((state.receive now arrival npdu).1, { (state.receive now arrival npdu).2 with
            outputs := before ++ others.map (fun message =>
              .transmit (exit.transmission relay.router message.npdu)) ++ after }) :=
        Prod.ext (same others alike) (filled others alike)
      exact congrArg decided result
    refine .sent arrival npdu rfl exit opens before after ?_ steps (entering.trans none) empty
    have own := steps _ (relay.router.alike_self network)
    rw [refill_waits] at own
    exact congrArg RelayStep.outputs own

theorem entering_of_undecided {now : Nat} {event : RelayEvent}
    (undecided : (relay.step now event).decision = none) :
    relay.entering now event network = [] := by
  rw [entering, undecided]
  rfl

theorem turn_of_undecided {now : Nat} {event : RelayEvent} {outputs : List RouterOutput}
    {after : Relay} (own : relay.step now event = ⟨none, outputs, after⟩)
    (waits : after.router.waits network = relay.router.waits network)
    (same : ∀ others, relay.router.Alike network others →
      (relay.refill network others).step now event =
        ⟨none, outputs, after.refill network others⟩) :
    Turn relay now event network := by
  have nothing : relay.entering now event network = [] := entering_of_undecided (by rw [own])
  refine .kept ?_ ?_
  · rw [nothing, own, List.append_nil]
    exact waits
  · intro others alike
    rw [nothing, own, List.append_nil]
    exact same others alike

/-- What comes of a message of the application to another network. -/
def issued (result : RoutingDecision × Routing) : RelayStep :=
  ⟨some result.1, told (Routing.transmissions result.2.outputs), result.2.router, result.2.timers⟩

/-- A message of the application is sent or begins to wait. Those that wait are kept. -/
theorem turn_send (now : Nat) (destination : Address) (message : Routing.Outgoing) :
    Turn relay now (.send destination message) network := by
  by_cases near : Routing.isNear relay.router destination = true ∨ destination.isGlobal = true
  · obtain ⟨outputs, does⟩ :=
      @Routing.dispatch_of_near now relay.router.bare destination message near
    have sends : ∀ router : Router, router.bare = relay.router.bare →
        step { relay with router } now (.send destination message) =
          ⟨none, told (Routing.transmissions outputs), router, relay.timers⟩ := by
      intro router same
      obtain ⟨sent, undecided⟩ := does (.start router relay.timers) same
      rw [step, Routing.send]
      dsimp only
      rw [sent, undecided]
      rfl
    exact turn_of_undecided (sends relay.router rfl) rfl
      fun others _ => sends _ (relay.router.bare_refill network others)
  · let entry : PendingNpdu := ⟨Routing.outgoing relay.router destination message, none⟩
    let state := Routing.start relay.router relay.timers
    have sends : ∀ router : Router, router.bare = relay.router.bare →
        step { relay with router } now (.send destination message) =
          issued ((Routing.start router relay.timers).forward now destination.network entry) := by
      intro router same
      have far : ¬ (Routing.isNear router.bare destination = true ∨
          destination.isGlobal = true) := by
        rw [same]
        exact near
      have passed : Routing.outgoing router.bare destination message =
          Routing.outgoing relay.router.bare destination message := by rw [same]
      obtain ⟨sent, decided⟩ :=
        @Routing.dispatch_of_far now (.start router relay.timers) destination message far
      rw [step, Routing.send]
      dsimp only
      rw [sent, decided]
      exact congrArg (fun npdu => issued ((Routing.start router relay.timers).forward now
        destination.network ⟨npdu, none⟩)) passed
    have own := sends relay.router rfl
    have entering : relay.entering now (.send destination message) network =
        entered (some (destination.network, entry))
          (state.forward now destination.network entry).1 network := by
      rw [Relay.entering, own]
      exact if_congr Option.some_inj rfl rfl
    obtain ⟨same, keeps⟩ := state.keeps_forward now network destination.network entry
    refine .kept ?_ ?_
    · rw [entering, own]
      exact keeps.waits
    · intro others alike
      rw [entering, own]
      refine (sends _ (relay.router.bare_refill network others)).trans ?_
      have result : (state.refill network others).forward now destination.network entry =
          ((state.forward now destination.network entry).1,
            (state.forward now destination.network entry).2.refill network (others ++
              entered (some (destination.network, entry))
                (state.forward now destination.network entry).1 network)) :=
        Prod.ext (same others alike) (keeps.same others alike)
      exact congrArg issued result

/-- What has nothing to do with messages keeps those that wait. -/
theorem turn_of_apart {now : Nat} {event : RelayEvent} (change : Router → Router)
    (timers : TimerQueue TimerEvent)
    (apart : ∀ router pending, change { router with pending } = { change router with pending })
    (does : ∀ router, step { relay with router } now event = ⟨none, [], change router, timers⟩) :
    Turn relay now event network := by
  refine turn_of_undecided (does relay.router) ?_ ?_
  · have kept := (Routing.keeps_mapRouter network (.start relay.router timers) apart).waits
    rw [List.append_nil] at kept
    exact kept
  · intro others _
    refine (does (relay.router.refill network others)).trans ?_
    rw [Router.change_refill apart]
    rfl

theorem step_expire {now : Nat} {handle : TimerHandle} {target : UInt16}
    {rest : TimerQueue TimerEvent}
    (popped : relay.timers.pop? now = some (handle, .routeResolution target, rest)) :
    relay.step now .expire =
      ⟨none, (relay.router.giveUp target).1, (relay.router.giveUp target).2, rest⟩ := by
  rw [step, popped]

/-- The messages that wait are dropped when the wait for their network ends. -/
theorem turn_giveUp {now : Nat} {handle : TimerHandle} {rest : TimerQueue TimerEvent}
    (popped : relay.timers.pop? now = some (handle, .routeResolution network, rest)) :
    Turn relay now .expire network := by
  have nothing : relay.entering now .expire network = [] :=
    entering_of_undecided (by rw [step_expire popped])
  cases found : relay.router.pending.find? network with
  | none =>
    have empty := Router.waits_of_none found
    have own : relay.step now .expire = ⟨none, [], relay.router, rest⟩ := by
      rw [step_expire popped, Router.giveUp, found]
    refine .dropped handle rest rfl popped ?_ ?_ nothing ?_
    · rw [own, empty, Router.obituary_nil]
    · intro others alike
      have none : others = [] := by
        rw [Router.Alike, empty] at alike
        exact List.map_eq_nil_iff.mp alike
      rw [refill, Router.refill_of_none found, none, Router.obituary_nil, own]
    · rw [own]
      exact empty
  | some queue =>
    have gives : ∀ waiting, (relay.refill network waiting).step now .expire =
        ⟨none, relay.router.obituary network waiting,
          { relay.router with pending := relay.router.pending.erase network }, rest⟩ := by
      intro waiting
      have filled : (relay.refill network waiting).router.pending.find? network =
          some { queue with waiting } := Router.find?_refill_of_find? found waiting
      rw [@step_expire (relay.refill network waiting) _ _ _ _ popped, Router.giveUp, filled]
      dsimp only [refill]
      rw [Router.erase_refill_self, Router.failureReports_eq]
      rfl
    have own := gives (relay.router.waits network)
    rw [refill_waits] at own
    refine .dropped handle rest rfl popped (congrArg RelayStep.outputs own) ?_ nothing ?_
    · intro others _
      rw [gives, own]
    · rw [own]
      exact relay.router.waits_erase_self network

/-- The messages that wait are kept when the wait for another network ends. -/
theorem turn_giveUp_of_ne {now : Nat} {handle : TimerHandle} {target : UInt16}
    {rest : TimerQueue TimerEvent} (ne : network ≠ target)
    (popped : relay.timers.pop? now = some (handle, .routeResolution target, rest)) :
    Turn relay now .expire network := by
  have untouched (waiting : List PendingNpdu) :
      (relay.router.refill network waiting).pending.find? target =
        relay.router.pending.find? target :=
    Router.find?_refill_of_ne ne waiting
  cases found : relay.router.pending.find? target with
  | none =>
    have gives : ∀ router : Router, router.pending.find? target = none →
        step { relay with router } now .expire = ⟨none, [], router, rest⟩ := by
      intro router absent
      rw [@step_expire { relay with router } _ _ _ _ popped, Router.giveUp, absent]
    exact turn_of_undecided (gives relay.router found) rfl
      fun others _ => gives _ ((untouched others).trans found)
  | some queue =>
    have gives : ∀ router : Router, router.pending.find? target = some queue →
        step { relay with router } now .expire =
          ⟨none, router.bare.failureReports target queue.waiting,
            { router with pending := router.pending.erase target }, rest⟩ := by
      intro router present
      rw [@step_expire { relay with router } _ _ _ _ popped, Router.giveUp, present]
      rfl
    refine turn_of_undecided (gives relay.router found) ?_ ?_
    · exact relay.router.waits_erase_of_ne ne
    · intro others _
      refine (gives _ ((untouched others).trans found)).trans ?_
      rw [Router.bare_refill, Router.erase_refill_of_ne _ ne]
      rfl

theorem turn_expire (now : Nat) : Turn relay now .expire network := by
  cases popped : relay.timers.pop? now with
  | none =>
    refine turn_of_apart id relay.timers (fun _ _ => rfl) ?_
    intro router
    rw [step, popped]
    rfl
  | some entry =>
    obtain ⟨handle, event, rest⟩ := entry
    cases event with
    | routeResolution target =>
      by_cases same : network = target
      · exact turn_giveUp (same ▸ popped)
      · exact turn_giveUp_of_ne same popped
    | transaction key =>
      refine turn_of_apart id rest (fun _ _ => rfl) ?_
      intro router
      rw [step, popped]
      rfl
    | communicationControl =>
      refine turn_of_apart id rest (fun _ _ => rfl) ?_
      intro router
      rw [step, popped]
      rfl

/-- In each step the messages that wait for a network are kept, sent or dropped. -/
theorem turn (tidy : relay.router.Tidy) (now : Nat) (event : RelayEvent) (network : UInt16) :
    Turn relay now event network := by
  cases event with
  | receive arrival npdu => exact turn_receive tidy now arrival npdu
  | send destination message => exact turn_send now destination message
  | expireRoutes =>
    exact turn_of_apart (·.expireRoutes now) relay.timers (fun _ _ => rfl) fun _ => rfl
  | expire => exact turn_expire now
  | schedule deadline event =>
    exact turn_of_apart id (relay.timers.schedule deadline event).2 (fun _ _ => rfl) fun _ => rfl
  | cancel handle =>
    exact turn_of_apart id (relay.timers.cancel handle) (fun _ _ => rfl) fun _ => rfl

/-! ## Runs -/

/-- The messages that leave the queue of a network with an event: all of them if none is left. -/
def leaving (relay : Relay) (now : Nat) (event : RelayEvent) (network : UInt16) :
    List PendingNpdu :=
  if (relay.step now event).relay.router.waits network = [] then relay.router.waits network else []

/-- The messages that begin to wait for a network, one after the other. -/
def entries (relay : Relay) (network : UInt16) : List (Nat × RelayEvent) → List PendingNpdu
  | [] => []
  | (now, event) :: rest =>
    relay.entering now event network ++ (relay.step now event).relay.entries network rest

/-- The messages that leave the queue of a network, one after the other. -/
def departures (relay : Relay) (network : UInt16) : List (Nat × RelayEvent) → List PendingNpdu
  | [] => []
  | (now, event) :: rest =>
    relay.leaving now event network ++ (relay.step now event).relay.departures network rest

/-- In a step no message is lost, none is there twice, and none overtakes another. -/
theorem Turn.balance {now : Nat} {event : RelayEvent} (turn : Turn relay now event network) :
    relay.router.waits network ++ relay.entering now event network =
      relay.leaving now event network ++ (relay.step now event).relay.router.waits network := by
  have empties (waits : (relay.step now event).relay.router.waits network = [])
      (nothing : relay.entering now event network = []) :
      relay.router.waits network ++ relay.entering now event network =
        relay.leaving now event network ++ (relay.step now event).relay.router.waits network := by
    rw [leaving, if_pos waits, waits, nothing]
  cases turn with
  | kept waits same =>
    rw [leaving, waits]
    split
    · next empty =>
      obtain ⟨before, joined⟩ := List.append_eq_nil_iff.mp empty
      rw [before, joined]
      rfl
    · rfl
  | sent arrival npdu arrives exit opens before after outputs same entering waits =>
    exact empties waits entering
  | dropped handle rest expires popped outputs same entering waits =>
    exact empties waits entering

/-- Over a run the messages that have waited before and those that begin to wait are those that have
left, followed by those that wait. -/
theorem balance_run (tidy : relay.router.Tidy) (network : UInt16)
    (events : List (Nat × RelayEvent)) :
    relay.router.waits network ++ relay.entries network events =
      relay.departures network events ++ (relay.run events).router.waits network := by
  induction events generalizing relay with
  | nil => rw [entries, departures, run, List.append_nil, List.nil_append]
  | cons entry rest ih =>
    obtain ⟨now, event⟩ := entry
    have balance := (turn tidy now event network).balance
    rw [entries, departures, run, ← List.append_assoc, balance, List.append_assoc,
      ih (tidy_step tidy now event), List.append_assoc]

/-- Only a message can be decided about. -/
theorem exists_candidate {now : Nat} {event : RelayEvent}
    (pending : (relay.step now event).decision = some .pending) :
    ∃ target message, relay.candidate? event = some (target, message) := by
  cases event with
  | receive arrival npdu =>
    obtain ⟨joining, planned, joins⟩ := decides_receive now relay.router.bare arrival npdu
    rcases joins with rfl | rfl
    · exact absurd (Option.some.inj pending)
        (@Planned.ne_pending _ now (.start relay.router relay.timers) _ planned)
    · cases joins : relay.router.bare.joins? arrival npdu with
      | none =>
        rw [joins] at planned
        exact absurd (Option.some.inj pending)
          (@Planned.ne_pending _ now (.start relay.router relay.timers) _ planned)
      | some entry => exact ⟨entry.1, entry.2, joins⟩
  | send destination message => exact ⟨_, _, rfl⟩
  | expire =>
    rw [step] at pending
    split at pending <;> cases pending
  | expireRoutes | schedule _ _ | cancel _ => cases pending

/-- A message about which it is decided that it waits is put behind all others that wait for its
network. -/
theorem waits_of_pending (tidy : relay.router.Tidy) {now : Nat} {event : RelayEvent}
    (pending : (relay.step now event).decision = some .pending) :
    ∃ target message, relay.candidate? event = some (target, message) ∧
      (relay.step now event).relay.router.waits target =
        relay.router.waits target ++ [message] := by
  obtain ⟨target, message, candidate⟩ := exists_candidate pending
  have enters : relay.entering now event target = [message] := by
    rw [entering, if_pos pending, candidate]
    simp
  refine ⟨target, message, candidate, ?_⟩
  cases turn tidy now event target with
  | kept waits same => rw [waits, enters]
  | sent arrival npdu arrives exit opens before after outputs same entering waits =>
    rw [enters] at entering
    cases entering
  | dropped handle rest expires popped outputs same entering waits =>
    rw [enters] at entering
    cases entering

/-- In every state that a router can reach, a message about which it is decided that it waits is
put behind all others that wait for its network; in each step the messages that wait for a network
are kept, or all of them are sent, each once and in their order, on a way that leads to the network,
or all of them are dropped and those who sent them are told (`Turn`). Over the whole run the
messages that have begun to wait for a network, in their order, are those that have left and behind
them those that wait, each once. -/
theorem waiting_conserved (ports : List PortConfig) (config : RouterConfig)
    (events : List (Nat × RelayEvent)) :
    (∀ now event,
        (((new ports config).run events).step now event).decision = some .pending →
        ∃ target message,
          ((new ports config).run events).candidate? event = some (target, message) ∧
          (((new ports config).run events).step now event).relay.router.waits target =
            ((new ports config).run events).router.waits target ++ [message]) ∧
      (∀ now event network, Turn ((new ports config).run events) now event network) ∧
      ∀ network, (new ports config).entries network events =
        (new ports config).departures network events ++
          ((new ports config).run events).router.waits network := by
  have tidy := tidy_run (tidy_new ports config) events
  exact ⟨fun now event => waits_of_pending tidy, turn tidy,
    fun network => balance_run (tidy_new ports config) network events⟩

/-- Two messages wait for network 5 at a router between the networks 1 and 2, one of a station on
the first link and one of the application. -/
def twoWaiting : List (Nat × RelayEvent) :=
  [(0, .receive ⟨0, [12]⟩ { Npdu.ofBody (.apdu [16, 8]) with destination := some ⟨5, [20]⟩ }),
    (0, .send ⟨5, []⟩ ⟨.apdu [16, 8], false, .normal⟩)]

/-- The router at which they wait. It knows its own address on the first link. -/
def withTwoWaiting : Relay :=
  (new [⟨some 1, some [10]⟩, ⟨some 2, none⟩] .standard).run twoWaiting

/-- Another router on the second link announces network 5. -/
def fiveAnnounced : RelayEvent := .receive ⟨1, [13]⟩ (.ofMessage (.iAmRouterToNetwork [5]))

/-- The messages are sent to the router that announces their network, or dropped when none does.
Then the station is refused, and the application is told. -/
theorem waiting_conserved_twoWaiting :
    (new [⟨some 1, some [10]⟩, ⟨some 2, none⟩] .standard).entries 5 twoWaiting =
        withTwoWaiting.router.waits 5 ∧
      withTwoWaiting.router.waits 5 =
        [⟨⟨.normal, false, some ⟨5, [20]⟩, some ⟨1, [12]⟩, 254, .apdu [16, 8]⟩, some ⟨0, [12]⟩⟩,
          ⟨⟨.normal, false, some ⟨5, []⟩, none, 255, .apdu [16, 8]⟩, none⟩] ∧
      (Turn withTwoWaiting 1 fiveAnnounced 5 ∧
        (withTwoWaiting.step 1 fiveAnnounced).outputs.take 2 =
          [.transmit ⟨1, .unicast [13],
              ⟨.normal, false, some ⟨5, [20]⟩, some ⟨1, [12]⟩, 254, .apdu [16, 8]⟩⟩,
            .transmit ⟨1, .unicast [13],
              ⟨.normal, false, some ⟨5, []⟩, some ⟨1, [10]⟩, 255, .apdu [16, 8]⟩⟩]) ∧
      Turn withTwoWaiting 60000000000 .expire 5 ∧
        (withTwoWaiting.step 60000000000 .expire).outputs =
          [.transmit ⟨0, .unicast [12],
              .ofMessage (.rejectMessageToNetwork .notDirectlyConnected 5)⟩,
            .failure (.networkUnreachable 5)] := by
  obtain ⟨-, turns, conserved⟩ :=
    waiting_conserved [⟨some 1, some [10]⟩, ⟨some 2, none⟩] .standard twoWaiting
  have none : (new [⟨some 1, some [10]⟩, ⟨some 2, Option.none⟩] .standard).departures 5 twoWaiting =
      [] := by decide +kernel
  have waits := conserved 5
  rw [none, List.nil_append] at waits
  refine ⟨waits, ?_, ⟨turns 1 fiveAnnounced 5, ?_⟩, turns 60000000000 .expire 5, ?_⟩ <;>
    decide +kernel

end Relay

end BACnet
