import Mathlib.Tactic.ByContra
import BACnet.Proofs.Routing.Waiting
import BACnet.Routing.Traffic

/-!
# What a router does with a message

All that a router does with a message is a list of chores: something is said, the router takes over
what it has been told, or the messages that wait for a network are released. Which chores they are
does not depend on the messages that wait (`Scripted`).

The invariants of a router follow from what a single chore does.
-/

namespace BACnet

/-- What a router can learn from a message. -/
structure Lesson where
  /-- The networks that it may reach from then on although it does not send what waits for them. -/
  revealed : List UInt16
  /-- The station through which it may learn routes. -/
  sender? : Option Arrival
  /-- The number that it may learn for the network behind a link. -/
  number? : Option UInt16

/-- A message of the application teaches nothing. -/
def Lesson.nothing : Lesson := ⟨[], none, none⟩

/-- What the router knows can come of a lesson: the links are the same unless it tells a number, and
a route leads through the sender or to the same next router as before. -/
structure Router.Heeds (lesson : Lesson) (before after : Router) : Prop where
  ports : lesson.number? = none → after.ports = before.ports
  routes : ∀ network route, after.table.find? network = some route →
    lesson.sender? = some ⟨route.port, route.nextHop⟩ ∨
      ∃ old, before.table.find? network = some old ∧ old.port = route.port ∧
        old.nextHop = route.nextHop

namespace Router.Heeds

variable {lesson : Lesson} {before between after : Router}

theorem refl (lesson : Lesson) (router : Router) : router.Heeds lesson router :=
  ⟨fun _ => rfl, fun _ route found => .inr ⟨route, found, rfl, rfl⟩⟩

theorem trans (first : before.Heeds lesson between) (second : between.Heeds lesson after) :
    before.Heeds lesson after := by
  refine ⟨fun numberless => (second.ports numberless).trans (first.ports numberless), ?_⟩
  intro network route found
  rcases second.routes network route found with heard | ⟨old, known, port, nextHop⟩
  · exact .inl heard
  · rw [← port, ← nextHop]
    exact first.routes network old known

/-- The messages that wait do not matter. -/
theorem of_bare (heeds : before.bare.Heeds lesson after.bare) : before.Heeds lesson after :=
  ⟨heeds.ports, heeds.routes⟩

/-- The links stay as they are, and routes are taken over. -/
theorem of_table {router : Router} {table : RoutingTable}
    (routes : ∀ network route, table.find? network = some route →
      lesson.sender? = some ⟨route.port, route.nextHop⟩ ∨
        ∃ old, router.table.find? network = some old ∧ old.port = route.port ∧
          old.nextHop = route.nextHop) :
    router.Heeds lesson { router with table } :=
  ⟨fun _ => rfl, routes⟩

end Router.Heeds

/-- One thing that a router does with a message. -/
inductive Chore where
  | tells (outputs : List RouterOutput)
  /-- It takes over links and routes. -/
  | adopts (ports : List Port) (table : RoutingTable)
  /-- It takes over routes, and sends what waits for a network. -/
  | releases (table : RoutingTable) (network : UInt16)
  deriving DecidableEq, Repr

namespace Chore

/-- What a router knows after it. -/
def teach (router : Router) : Chore → Router
  | tells _ => router
  | adopts ports table => { router with ports, table }
  | releases table _ => { router with table }

/-- What a router knows after some chores. -/
def teachAll (router : Router) : List Chore → Router
  | [] => router
  | chore :: rest => teachAll (chore.teach router) rest

/-- What is taken over comes of the lesson. Only networks that are `revealed` become reached, and
none is detached. -/
structure FairlyAdopts (lesson : Lesson) (router : Router) (ports : List Port)
    (table : RoutingTable) : Prop where
  heeds : router.Heeds lesson { router with ports, table }
  reveals : ∀ network, Router.reaches { router with ports, table } network = true →
    router.reaches network = true ∨ network ∈ lesson.revealed
  attached : ∀ network, (router.directPort? network).isSome = true →
    (Router.directPort? { router with ports, table } network).isSome = true

/-- The route to the network whose messages are released comes of the lesson, which tells no number.
The other routes stay as they are. -/
structure FairlyReleases (lesson : Lesson) (router : Router) (table : RoutingTable)
    (network : UInt16) : Prop where
  numberless : lesson.number? = none
  heeds : router.Heeds lesson { router with table }
  others : ∀ other, other ≠ network → table.find? other = router.table.find? other
  fresh : Router.Fresh { router with table } network

/-- A chore makes a network reached only if it releases the messages that wait for it, or if the
lesson reveals the network. What the router knows then comes of the lesson. -/
def Fair (lesson : Lesson) (router : Router) : Chore → Prop
  | tells _ => True
  | adopts ports table => FairlyAdopts lesson router ports table
  | releases table network => FairlyReleases lesson router table network

/-- Each chore makes only networks reached that it may. -/
def AllFair (lesson : Lesson) (router : Router) : List Chore → Prop
  | [] => True
  | chore :: rest => chore.Fair lesson router ∧ AllFair lesson (chore.teach router) rest

end Chore

namespace Routing

/-- Does a chore. -/
def perform (state : Routing) (now : Nat) : Chore → Routing
  | .tells outputs => state.emit outputs
  | .adopts ports table => state.mapRouter fun router => { router with ports, table }
  | .releases table network =>
    (state.mapRouter fun router => { router with table }).flush now network

/-- Does some chores, one after the other. -/
def performAll (state : Routing) (now : Nat) : List Chore → Routing
  | [] => state
  | chore :: rest => (state.perform now chore).performAll now rest

variable {state : Routing} {now : Nat}

theorem performAll_append (state : Routing) (now : Nat) (first second : List Chore) :
    state.performAll now (first ++ second) =
      (state.performAll now first).performAll now second := by
  induction first generalizing state with
  | nil => rfl
  | cons chore rest ih => exact ih (state.perform now chore)

theorem bare_enqueue (state : Routing) (now : Nat) (network : UInt16) (message : PendingNpdu)
    (ask : Bool) :
    (state.enqueue now network message ask).2.router.bare = state.router.bare := by
  unfold enqueue
  split
  · rfl
  · split <;> rfl

theorem bare_forward (state : Routing) (now : Nat) (network : UInt16) (message : PendingNpdu) :
    (state.forward now network message).2.router.bare = state.router.bare := by
  cases reached : state.router.carrier? network with
  | none =>
    rw [forward_of_not_reaches reached]
    exact bare_enqueue _ _ _ _ _
  | some carry =>
    rw [forward_of_carrier? reached]
    rfl

theorem bare_flush (state : Routing) (now : Nat) (network : UInt16) :
    (state.flush now network).router.bare = state.router.bare := by
  unfold flush
  split
  · rfl
  · next queue found =>
    have sent : ∀ (messages : List PendingNpdu) (state : Routing),
        (messages.foldl (fun state message => (state.forward now network message).2)
          state).router.bare = state.router.bare := by
      intro messages
      induction messages with
      | nil => exact fun _ => rfl
      | cons first rest ih => exact fun state => (ih _).trans (bare_forward state now network first)
    exact sent queue.waiting (state.dropQueue network queue)

theorem bare_perform (state : Routing) (now : Nat) (chore : Chore) :
    (state.perform now chore).router.bare = chore.teach state.router.bare := by
  cases chore with
  | tells outputs => rfl
  | adopts ports table => rfl
  | releases table network => exact bare_flush _ now network

theorem bare_performAll (state : Routing) (now : Nat) (chores : List Chore) :
    (state.performAll now chores).router.bare = Chore.teachAll state.router.bare chores := by
  induction chores generalizing state with
  | nil => rfl
  | cons chore rest ih =>
    rw [performAll, ih, bare_perform]
    rfl

end Routing

namespace Chore

theorem teachAll_append (router : Router) (first second : List Chore) :
    teachAll router (first ++ second) = teachAll (teachAll router first) second := by
  induction first generalizing router with
  | nil => rfl
  | cons chore rest ih => exact ih (chore.teach router)

theorem AllFair.append {lesson : Lesson} {router : Router} {first second : List Chore}
    (fair : AllFair lesson router first) (also : AllFair lesson (teachAll router first) second) :
    AllFair lesson router (first ++ second) := by
  induction first generalizing router with
  | nil => exact also
  | cons chore rest ih => exact ⟨fair.1, ih fair.2 also⟩

theorem Fair.heeds {lesson : Lesson} {router : Router} {chore : Chore}
    (fair : chore.Fair lesson router) : router.Heeds lesson (chore.teach router) := by
  cases chore with
  | tells outputs => exact .refl lesson router
  | adopts ports table => exact FairlyAdopts.heeds fair
  | releases table network => exact FairlyReleases.heeds fair

/-- Attached networks stay attached. -/
theorem AllFair.directPort? {lesson : Lesson} {router : Router} {chores : List Chore}
    (fair : AllFair lesson router chores) {network : UInt16}
    (attached : (router.directPort? network).isSome = true) :
    ((teachAll router chores).directPort? network).isSome = true := by
  induction chores generalizing router with
  | nil => exact attached
  | cons chore rest ih =>
    refine ih fair.2 ?_
    cases chore with
    | tells outputs => exact attached
    | adopts ports table => exact FairlyAdopts.attached fair.1 network attached
    | releases table other => exact attached

end Chore

/-! ## Scripts -/

/-- What is done is a list of fair chores, which depends on what the router knows alone. -/
def Scripted (lesson : Lesson) (now : Nat) (work : Routing → Routing) : Prop :=
  ∀ known : Router, ∃ chores, Chore.AllFair lesson known chores ∧
    ∀ state : Routing, state.router.bare = known → work state = state.performAll now chores

namespace Scripted

variable {lesson : Lesson} {now : Nat} {work next : Routing → Routing}

/-- Nothing is done. -/
theorem idle : Scripted lesson now id := fun _ => ⟨[], trivial, fun _ _ => rfl⟩

theorem congr (same : ∀ state, work state = next state) (scripted : Scripted lesson now next) :
    Scripted lesson now work :=
  (funext same : work = next) ▸ scripted

theorem comp (first : Scripted lesson now work) (second : Scripted lesson now next) :
    Scripted lesson now fun state => next (work state) := by
  intro known
  obtain ⟨before, fair, does⟩ := first known
  obtain ⟨after, also, follows⟩ := second (Chore.teachAll known before)
  refine ⟨before ++ after, fair.append also, ?_⟩
  rintro state rfl
  show next (work state) = state.performAll now (before ++ after)
  rw [does state rfl, follows _ (Routing.bare_performAll state now before),
    Routing.performAll_append]

/-- What is done may depend on what the router knows. -/
theorem of_known {work : Router → Routing → Routing}
    (scripted : ∀ known, Scripted lesson now (work known)) :
    Scripted lesson now fun state => work state.router.bare state := by
  intro known
  obtain ⟨chores, fair, does⟩ := scripted known known
  refine ⟨chores, fair, ?_⟩
  rintro state rfl
  exact does state rfl

/-- A single chore. -/
theorem single (choose : Router → Chore) (fair : ∀ known, (choose known).Fair lesson known) :
    Scripted lesson now fun state => state.perform now (choose state.router.bare) := by
  intro known
  refine ⟨[choose known], ⟨fair known, trivial⟩, ?_⟩
  rintro state rfl
  rfl

/-- Something is said that depends on what the router knows. -/
theorem emit (outputs : Router → List RouterOutput) :
    Scripted lesson now fun state => state.emit (outputs state.router.bare) :=
  single (fun known => .tells (outputs known)) fun _ => trivial

theorem ite (condition : Router → Prop) [DecidablePred condition]
    (yes : Scripted lesson now work) (no : Scripted lesson now next) :
    Scripted lesson now fun state =>
      if condition state.router.bare then work state else next state := by
  refine @of_known lesson now
    (fun known state => if condition known then work state else next state) ?_
  intro known
  by_cases holds : condition known
  · simpa only [if_pos holds] using yes
  · simpa only [if_neg holds] using no

theorem foldl {α : Type} {step : Routing → α → Routing}
    (scripted : ∀ item, Scripted lesson now fun state => step state item) (items : List α) :
    Scripted lesson now fun state => items.foldl step state := by
  induction items with
  | nil => exact idle
  | cons first rest ih => exact (scripted first).comp ih

end Scripted

/-! ## Messages between routers -/

namespace RoutingTable

theorem find?_setStatus (table : RoutingTable) (network : UInt16) (status : RouteStatus)
    (other : UInt16) :
    (table.setStatus network status).find? other =
      if network = other then (table.find? other).map fun route => { route with status }
      else table.find? other := by
  unfold setStatus
  by_cases same : network = other
  · subst same
    rw [if_pos rfl]
    cases found : table.find? network with
    | none => exact found
    | some route => rw [Table.find?_insert, if_pos rfl, Option.map_some]
  · rw [if_neg same]
    cases table.find? network with
    | none => rfl
    | some route => rw [Table.find?_insert, if_neg same]

theorem find?_refresh (table : RoutingTable) (network : UInt16) (now : Nat) (other : UInt16) :
    (table.refresh network now).find? other =
      if network = other then
        (table.find? other).map fun route => { route with status := .reachable, updatedAt := now }
      else table.find? other := by
  unfold refresh
  by_cases same : network = other
  · subst same
    rw [if_pos rfl]
    cases found : table.find? network with
    | none => exact found
    | some route => rw [Table.find?_insert, if_pos rfl, Option.map_some]
  · rw [if_neg same]
    cases table.find? network with
    | none => rfl
    | some route => rw [Table.find?_insert, if_neg same]

end RoutingTable

/-- The networks that a message can make reached although the messages that wait for them are not
sent: a refusal makes a busy route an old one, the lines of a routing table become routes, and the
network behind a link gets a number. -/
def NetworkMessage.revealed : NetworkMessage → List UInt16
  | rejectMessageToNetwork reason network => if reason = .routerBusy then [] else [network]
  | initializeRoutingTable lines | initializeRoutingTableAck lines =>
    (lines.filter (·.portId ≠ 0)).map (·.network)
  | networkNumberIs network _ => [network]
  | _ => []

/-- The networks that a message that arrives can make reached. -/
def Npdu.revealed (npdu : Npdu) : List UInt16 :=
  match npdu.body with
  | .apdu _ => []
  | .network message => message.revealed

/-- The number that a message tells for the network from which it comes. A message that has passed a
router, or that is to pass one, tells nothing. -/
def Npdu.tells? (npdu : Npdu) : Option UInt16 :=
  match npdu.source, npdu.destination, npdu.body with
  | none, none, .network (.networkNumberIs network _) => some network
  | _, _, _ => none

theorem Npdu.tells?_eq_some {npdu : Npdu} {network : UInt16} (told : npdu.tells? = some network) :
    npdu.source = none ∧ npdu.destination = none ∧
      ∃ configured, npdu.body = .network (.networkNumberIs network configured) := by
  unfold tells? at told
  split at told
  · next sourceless near body =>
    cases told
    exact ⟨sourceless, near, _, body⟩
  · cases told

theorem Npdu.tells?_of_source {npdu : Npdu} (named : npdu.source.isSome = true) :
    npdu.tells? = none := by
  rw [Option.eq_none_iff_forall_ne_some]
  intro network told
  rw [(tells?_eq_some told).1] at named
  cases named

/-- What a message that arrives can teach. -/
def Npdu.lesson (npdu : Npdu) (arrival : Arrival) : Lesson :=
  ⟨npdu.revealed, some arrival, npdu.tells?⟩

namespace Router

variable {router : Router} {network : UInt16}

/-- With the same links it depends on the route whether a network is reached. -/
theorem reaches_of_table {table : RoutingTable}
    (reached : reaches { router with table } network = true)
    (usable : ∀ route, table.find? network = some route → route.status ≠ .busy →
      ∃ old, router.table.find? network = some old ∧ old.status ≠ .busy) :
    router.reaches network = true := by
  rw [reaches_iff] at reached ⊢
  rcases reached with attached | ⟨route, found, status⟩
  · exact .inl attached
  · exact .inr (usable route found status)

end Router

theorem Routing.learn_eq (state : Routing) (now : Nat) (arrival : Arrival) (network : UInt16) :
    state.learn now arrival network =
      if arrival.mac.isEmpty ∨ network = Address.globalNetwork ∨
          (state.router.directPort? network).isSome then state
      else state.perform now (.releases (state.router.table.insert network
        ⟨arrival.port, arrival.mac, .reachable, now⟩) network) := by
  unfold learn Router.learnRoute?
  by_cases skips : arrival.mac.isEmpty ∨ network = Address.globalNetwork ∨
    (state.router.directPort? network).isSome
  · rw [if_pos skips, if_pos skips]
  · rw [if_neg skips, if_neg skips]
    rfl

namespace Chore

variable {lesson : Lesson} {router : Router}

/-- What waits for a network is sent when a route to it is learned. -/
theorem fair_insert (numberless : lesson.number? = none) (network : UInt16) {route : Route}
    (heard : lesson.sender? = some ⟨route.port, route.nextHop⟩)
    (status : route.status = .reachable) :
    (releases (router.table.insert network route) network).Fair lesson router := by
  refine ⟨numberless, .of_table ?_, ?_, ?_⟩
  · intro other found present
    rw [Table.find?_insert] at present
    split at present
    · cases present
      exact .inl heard
    · exact .inr ⟨found, present, rfl, rfl⟩
  · intro other ne
    rw [Table.find?_insert, if_neg (Ne.symm ne)]
  · intro found present
    rw [Table.find?_insert, if_pos rfl] at present
    cases present
    exact status

theorem fair_refresh (numberless : lesson.number? = none) (network : UInt16) (now : Nat) :
    (releases (router.table.refresh network now) network).Fair lesson router := by
  refine ⟨numberless, .of_table ?_, ?_, ?_⟩
  · intro other found present
    rw [RoutingTable.find?_refresh] at present
    split at present
    · obtain ⟨route, known, rfl⟩ := Option.map_eq_some_iff.mp present
      exact .inr ⟨route, known, rfl, rfl⟩
    · exact .inr ⟨found, present, rfl, rfl⟩
  · intro other ne
    rw [RoutingTable.find?_refresh, if_neg (Ne.symm ne)]
  · intro found present
    rw [RoutingTable.find?_refresh, if_pos rfl] at present
    obtain ⟨route, -, rfl⟩ := Option.map_eq_some_iff.mp present
    rfl

/-- Routes can be taken over if those that can be used could be used before, or are revealed. -/
theorem fair_adopts {table : RoutingTable} (heeds : router.Heeds lesson { router with table })
    (usable : ∀ network, network ∉ lesson.revealed → ∀ route,
      table.find? network = some route → route.status ≠ .busy →
      ∃ old, router.table.find? network = some old ∧ old.status ≠ .busy) :
    (adopts router.ports table).Fair lesson router := by
  refine ⟨heeds, ?_, fun _ => id⟩
  intro network reached
  by_cases told : network ∈ lesson.revealed
  · exact .inr told
  · exact .inl (Router.reaches_of_table reached (usable network told))

/-- Another status leaves the next hops as they are. -/
theorem heeds_setStatus (network : UInt16) (status : RouteStatus) :
    router.Heeds lesson { router with table := router.table.setStatus network status } := by
  refine .of_table ?_
  intro other route found
  rw [RoutingTable.find?_setStatus] at found
  split at found
  · obtain ⟨old, known, rfl⟩ := Option.map_eq_some_iff.mp found
    exact .inr ⟨old, known, rfl, rfl⟩
  · exact .inr ⟨route, found, rfl, rfl⟩

theorem fair_setStatus (network : UInt16) {status : RouteStatus}
    (told : status ≠ .busy → network ∈ lesson.revealed) :
    (adopts router.ports (router.table.setStatus network status)).Fair lesson router := by
  refine fair_adopts (heeds_setStatus network status) ?_
  intro other untold route found free
  rw [RoutingTable.find?_setStatus] at found
  split at found
  · next same =>
    obtain ⟨old, -, rfl⟩ := Option.map_eq_some_iff.mp found
    exact absurd (same ▸ told free) untold
  · exact ⟨route, found, free⟩

end Chore

namespace Router

/-- A line of a routing table changes routes only, and only the one to its network, which leads to
the sender then. If it has the link 0, this network is not reached through it. -/
theorem applyLine_spec (router : Router) (now : Nat) (arrival : Arrival) (line : RoutingTablePort) :
    ∃ table, (∀ pending, applyTable { router with pending } now arrival [line] =
        { router with table, pending }) ∧
      (∀ network route, table.find? network = some route →
        (⟨route.port, route.nextHop⟩ : Arrival) = arrival ∨
          router.table.find? network = some route) ∧
      ∀ network, (line.network = network → line.portId = 0) →
        ∀ route, table.find? network = some route → router.table.find? network = some route := by
  by_cases removes : line.portId = 0
  · have kept (network : UInt16) (route : Route)
        (found : (router.table.erase line.network).find? network = some route) :
        router.table.find? network = some route := by
      rw [Table.find?_erase] at found
      split at found
      · cases found
      · exact found
    refine ⟨router.table.erase line.network, ?_, fun network route found => .inr (kept _ _ found),
      fun network _ route found => kept _ _ found⟩
    intro pending
    rw [applyTable, List.foldl_cons, if_pos removes, List.foldl_nil]
  · by_cases skips : arrival.mac.isEmpty ∨ line.network = Address.globalNetwork ∨
      (router.directPort? line.network).isSome
    · refine ⟨router.table, ?_, fun _ _ found => .inr found, fun _ _ _ found => found⟩
      intro pending
      rw [applyTable, List.foldl_cons, if_neg removes, learnRoute?]
      exact congrArg (Option.getD · _) (if_pos skips)
    · refine ⟨router.table.insert line.network ⟨arrival.port, arrival.mac, .reachable, now⟩, ?_, ?_,
        ?_⟩
      · intro pending
        rw [applyTable, List.foldl_cons, if_neg removes, learnRoute?]
        exact congrArg (Option.getD · _) (if_neg skips)
      · intro network route found
        rw [Table.find?_insert] at found
        split at found
        · cases found
          exact .inl rfl
        · exact .inr found
      · intro network untold route found
        rw [Table.find?_insert, if_neg fun same => removes (untold same)] at found
        exact found

/-- Lines of a routing table change routes only, and these lead to the sender then. A network to
which no line leads is not reached through them. -/
theorem applyTable_spec (router : Router) (now : Nat) (arrival : Arrival)
    (lines : List RoutingTablePort) :
    ∃ table, (∀ pending, applyTable { router with pending } now arrival lines =
        { router with table, pending }) ∧
      (∀ network route, table.find? network = some route →
        (⟨route.port, route.nextHop⟩ : Arrival) = arrival ∨
          router.table.find? network = some route) ∧
      ∀ network, network ∉ (lines.filter (·.portId ≠ 0)).map (·.network) →
        ∀ route, table.find? network = some route → router.table.find? network = some route := by
  induction lines generalizing router with
  | nil => exact ⟨router.table, fun _ => rfl, fun _ _ found => .inr found, fun _ _ _ found => found⟩
  | cons line rest ih =>
    obtain ⟨first, applied, leads, kept⟩ := router.applyLine_spec now arrival line
    obtain ⟨table, follows, lead, keeps⟩ := ih { router with table := first }
    refine ⟨table, ?_, ?_, ?_⟩
    · intro pending
      rw [applyTable, List.foldl_cons]
      change applyTable (applyTable { router with pending } now arrival [line]) now arrival rest = _
      rw [applied pending]
      exact follows pending
    · intro network route found
      rcases lead network route found with heard | known
      · exact .inl heard
      · exact leads network route known
    · intro network untold route found
      refine kept network ?_ route (keeps network ?_ route found)
      · intro same
        by_contra leads
        exact untold (List.mem_map.mpr
          ⟨line, List.mem_filter.mpr ⟨List.mem_cons_self, decide_eq_true leads⟩, same⟩)
      · intro member
        obtain ⟨other, present, same⟩ := List.mem_map.mp member
        obtain ⟨present, leads⟩ := List.mem_filter.mp present
        exact untold (List.mem_map.mpr
          ⟨other, List.mem_filter.mpr ⟨List.mem_cons_of_mem _ present, leads⟩, same⟩)

/-- A network is attached if one of the links has its number. -/
theorem directPort?_isSome_iff (router : Router) (network : UInt16) :
    (router.directPort? network).isSome = true ↔
      ∃ port ∈ router.ports, port.network = some network := by
  rw [directPort?, Option.isSome_map, List.findIdx?_isSome, List.any_eq_true]
  simp only [decide_eq_true_eq]

/-- Through a number that is learned only the network of this number is attached. -/
theorem attached_learnNetwork (router : Router) (port : PortId) (number network : UInt16) :
    ((router.directPort? network).isSome = true →
      ((router.learnNetwork port number).directPort? network).isSome = true) ∧
    (((router.learnNetwork port number).directPort? network).isSome = true →
      (router.directPort? network).isSome = true ∨ network = number) := by
  simp only [directPort?_isSome_iff, learnNetwork, List.mem_iff_getElem?, List.getElem?_modify]
  refine ⟨?_, ?_⟩
  · rintro ⟨link, ⟨index, found⟩, numbered⟩
    refine ⟨_, ⟨index, by rw [found]; rfl⟩, ?_⟩
    split <;> simp [numbered]
  · rintro ⟨link, ⟨index, found⟩, numbered⟩
    obtain ⟨old, present, rfl⟩ := Option.map_eq_some_iff.mp found
    have same : old.network = some network ∨ number = network := by
      split at numbered
      · cases known : old.network with
        | none => exact .inr (by simpa [known] using numbered)
        | some current => exact .inl (by simpa [known] using numbered)
      · exact .inl numbered
    exact same.imp (fun before => ⟨old, ⟨index, present⟩, before⟩) Eq.symm

end Router

namespace Scripted

variable {lesson : Lesson} {now : Nat} {arrival : Arrival}

/-- A route is learned, and what waits for it is sent. -/
theorem learn (numberless : lesson.number? = none) (heard : lesson.sender? = some arrival)
    (network : UInt16) : Scripted lesson now fun state => state.learn now arrival network := by
  intro known
  by_cases skips : arrival.mac.isEmpty ∨ network = Address.globalNetwork ∨
    (known.directPort? network).isSome
  · refine ⟨[], trivial, ?_⟩
    rintro state rfl
    exact (Routing.learn_eq state now arrival network).trans (if_pos skips)
  · refine ⟨[.releases (known.table.insert network ⟨arrival.port, arrival.mac, .reachable, now⟩)
      network], ⟨Chore.fair_insert numberless network heard rfl, trivial⟩, ?_⟩
    rintro state rfl
    exact (Routing.learn_eq state now arrival network).trans (if_neg skips)

theorem makeAvailable (numberless : lesson.number? = none) (networks : List UInt16) :
    Scripted lesson now fun state => state.makeAvailable now networks :=
  foldl (fun network => single (fun known => .releases (known.table.refresh network now) network)
    fun _ => Chore.fair_refresh numberless network now) networks

theorem takeAnnouncement (numberless : lesson.number? = none)
    (heard : lesson.sender? = some arrival) (networks : List UInt16) :
    Scripted lesson now fun state => state.takeAnnouncement now arrival networks := by
  have announces : Scripted lesson now _ := ite
    (fun router => router.isRouter = true ∧ networks ≠ [])
    (emit fun router => router.broadcasts (router.otherPorts (some arrival.port))
      (.ofMessage (.iAmRouterToNetwork networks))) idle
  exact (foldl (learn numberless heard) networks).comp announces

theorem applyTable (heard : lesson.sender? = some arrival) (lines : List RoutingTablePort)
    (told : (lines.filter (·.portId ≠ 0)).map (·.network) ⊆ lesson.revealed) :
    Scripted lesson now fun state => state.mapRouter (·.applyTable now arrival lines) := by
  intro known
  obtain ⟨table, applied, leads, kept⟩ := known.applyTable_spec now arrival lines
  have heeds : known.Heeds lesson { known with table } := by
    refine .of_table ?_
    intro network route found
    rcases leads network route found with sender | same
    · exact .inl (sender ▸ heard)
    · exact .inr ⟨route, same, rfl, rfl⟩
  refine ⟨[.adopts known.ports table], ⟨Chore.fair_adopts heeds ?_, trivial⟩, ?_⟩
  · intro network untold route found free
    exact ⟨route, kept network (fun member => untold (told member)) route found, free⟩
  · rintro state rfl
    exact congrArg (fun router => { state with router }) (applied state.router.pending)

theorem initializeTable (heard : lesson.sender? = some arrival) (npdu : Npdu)
    (lines : List RoutingTablePort)
    (told : (lines.filter (·.portId ≠ 0)).map (·.network) ⊆ lesson.revealed) :
    Scripted lesson now fun state => state.initializeTable now arrival npdu lines := by
  refine ite (fun router => (!router.isRouter) = true) idle ?_
  refine ite (fun _ => lines.isEmpty = true) (emit fun router => [router.reply arrival npdu
    (.initializeRoutingTableAck router.tablePorts)]) ?_
  exact (applyTable heard lines told).comp (emit fun router => [router.reply arrival npdu
    (.initializeRoutingTableAck [])])

theorem setStatus (network : UInt16) {status : RouteStatus}
    (told : status ≠ .busy → network ∈ lesson.revealed) :
    Scripted lesson now fun state =>
      state.mapRouter (·.mapTable (·.setStatus network status)) :=
  single (fun known => .adopts known.ports (known.table.setStatus network status))
    fun _ => Chore.fair_setStatus network told

theorem learnNetwork (port : PortId) {network : UInt16} (number : lesson.number? = some network)
    (told : network ∈ lesson.revealed) :
    Scripted lesson now fun state => state.mapRouter (·.learnNetwork port network) := by
  refine single (fun known => .adopts (known.learnNetwork port network).ports known.table) ?_
  intro known
  refine ⟨⟨?_, fun _ route found => .inr ⟨route, found, rfl, rfl⟩⟩, ?_, ?_⟩
  · intro numberless
    rw [number] at numberless
    cases numberless
  · intro other reached
    rw [Router.reaches_iff] at reached ⊢
    rcases reached with direct | routed
    · rcases (known.attached_learnNetwork port network other).2 direct with before | rfl
      · exact .inl (.inl before)
      · exact .inr told
    · exact .inl (.inr routed)
  · exact fun other => (known.attached_learnNetwork port network other).1

theorem find?_foldl_setBusy {networks : List UInt16} {table : RoutingTable} {network : UInt16}
    {route : Route}
    (found : (networks.foldl (·.setStatus · .busy) table).find? network = some route)
    (free : route.status ≠ .busy) : table.find? network = some route := by
  induction networks generalizing table with
  | nil => exact found
  | cons first rest ih =>
    have standing := ih found
    rw [RoutingTable.find?_setStatus] at standing
    split at standing
    · obtain ⟨old, -, rfl⟩ := Option.map_eq_some_iff.mp standing
      exact absurd rfl free
    · exact standing

theorem heeds_foldl_setBusy (networks : List UInt16) (router : Router) :
    router.Heeds lesson
      { router with table := networks.foldl (·.setStatus · .busy) router.table } := by
  induction networks generalizing router with
  | nil => exact .refl lesson router
  | cons first rest ih =>
    exact (Chore.heeds_setStatus first .busy).trans
      (ih { router with table := router.table.setStatus first .busy })

/-- Nothing is reached because routers ask for a pause. -/
theorem setBusy (networks : List UInt16) :
    Scripted lesson now fun state => state.mapRouter (·.mapTable fun table =>
      networks.foldl (·.setStatus · .busy) table) :=
  single (fun known => .adopts known.ports (networks.foldl (·.setStatus · .busy) known.table))
    fun known => Chore.fair_adopts (heeds_foldl_setBusy networks known) fun _ _ route found free =>
      ⟨route, find?_foldl_setBusy found free, free⟩

/-- A message between routers is handled by fair chores. -/
theorem handleMessage (arrival : Arrival) {npdu : Npdu} {message : NetworkMessage}
    (heard : npdu.body = .network message) :
    Scripted (npdu.lesson arrival) now fun state =>
      state.handleMessage now arrival npdu message := by
  have reveals : (npdu.lesson arrival).revealed = message.revealed := by
    show npdu.revealed = _
    rw [Npdu.revealed, heard]
  have sender : (npdu.lesson arrival).sender? = some arrival := rfl
  have numberless (other : ∀ network configured, message ≠ .networkNumberIs network configured) :
      (npdu.lesson arrival).number? = none := by
    rw [Option.eq_none_iff_forall_ne_some]
    intro network told
    obtain ⟨-, -, configured, body⟩ := Npdu.tells?_eq_some told
    rw [heard] at body
    exact other network configured (NpduBody.network.inj body)
  cases message with
  | whoIsRouterToNetwork network =>
    exact ite (fun router => router.isRouter = true)
      (emit fun router => router.answerWhoIs arrival npdu network) idle
  | iAmRouterToNetwork networks => exact takeAnnouncement (numberless nofun) sender networks
  | rejectMessageToNetwork reason network =>
    refine (setStatus network ?_).comp (emit fun _ => [.failure (.rejected network reason)])
    intro usable
    rw [reveals]
    show network ∈ if reason = .routerBusy then [] else [network]
    by_cases pause : reason = .routerBusy
    · rw [Router.statusAfterReject, if_pos pause] at usable
      exact absurd rfl usable
    · rw [if_neg pause]
      exact List.mem_cons_self
  | routerBusyToNetwork networks =>
    exact of_known fun known => setBusy (known.concerned arrival networks)
  | routerAvailableToNetwork networks =>
    exact of_known fun known => makeAvailable (numberless nofun) (known.concerned arrival networks)
  | initializeRoutingTable lines =>
    exact initializeTable sender npdu lines (reveals ▸ List.Subset.refl _)
  | initializeRoutingTableAck lines => exact applyTable sender lines (reveals ▸ List.Subset.refl _)
  | whatIsNetworkNumber => exact emit fun router => router.answerNetworkNumber arrival npdu
  | networkNumberIs network configured =>
    by_cases routed : npdu.source.isSome ∨ npdu.destination.isSome
    · refine congr ?_ idle
      exact fun _ => if_pos routed
    · obtain ⟨sourceless, near⟩ := not_or.mp routed
      have told : (npdu.lesson arrival).number? = some network := by
        show npdu.tells? = some network
        rw [Npdu.tells?, Option.not_isSome_iff_eq_none.mp sourceless,
          Option.not_isSome_iff_eq_none.mp near, heard]
      refine congr ?_ (learnNetwork arrival.port told (reveals ▸ List.mem_cons_self))
      exact fun _ => if_neg routed
  | other type data =>
    exact ite (fun _ => arrival.mac.isEmpty = true) idle
      (emit fun router => [router.reply arrival npdu
        (.rejectMessageToNetwork .unknownMessageType (router.targetNetwork arrival npdu))])
  | iCouldBeRouterToNetwork network index => exact idle
  | establishConnectionToNetwork network time => exact idle
  | disconnectConnectionToNetwork network => exact idle
  | proprietary type vendor data => exact idle

theorem deliver (arrival : Arrival) (npdu : Npdu) :
    Scripted (npdu.lesson arrival) now fun state => state.deliver now arrival npdu := by
  cases body : npdu.body with
  | apdu data =>
    refine congr ?_ (emit fun router => [.deliver (router.deliverySource arrival npdu) data
      npdu.expectingReply npdu.priority])
    intro state
    rw [Routing.deliver, body]
    rfl
  | network message =>
    refine congr ?_ (handleMessage arrival body)
    intro state
    rw [Routing.deliver, body]

end Scripted

end BACnet
