import BACnet.Routing.Forward

/-!
# Messages that wait for a route

What a router does with the messages that wait for a network depends on whether the network is
reached (`Router.carrier?`). If it is, a message is sent at once, and a queue that is flushed is
sent in its order; if not, a message joins the queue, and a queue that is flushed is put together
again as it was.

`Router.waits` is the view of the queues: it is enough to know what becomes of the messages that
wait for each network.
-/

namespace BACnet

namespace Table

variable {κ α : Type} [DecidableEq κ]

theorem write_write (key : κ) (old new : α) (entries : List (κ × α)) :
    write key new (write key old entries) = write key new entries := by
  induction entries with
  | nil => simp [write]
  | cons entry rest ih =>
    obtain ⟨first, value⟩ := entry
    by_cases same : first = key
    · simp [write, same]
    · simp [write, same, ih]

/-- Of two values for one key the later one counts. -/
theorem insert_insert (table : Table κ α) (key : κ) (old new : α) :
    (table.insert key old).insert key new = table.insert key new :=
  congrArg Table.mk (write_write key old new table.entries)

theorem write_of_lookup {key : κ} {value : α} {entries : List (κ × α)}
    (found : lookup key entries = some value) : write key value entries = entries := by
  induction entries with
  | nil => cases found
  | cons entry rest ih =>
    obtain ⟨first, old⟩ := entry
    by_cases same : first = key
    · rw [lookup, if_pos same] at found
      cases found
      rw [write, if_pos same, same]
    · rw [lookup, if_neg same] at found
      rw [write, if_neg same, ih found]

/-- A value that a key has already changes nothing. -/
theorem insert_of_find? {table : Table κ α} {key : κ} {value : α}
    (found : table.find? key = some value) : table.insert key value = table :=
  congrArg Table.mk (write_of_lookup found)

theorem filter_write (key : κ) (value : α) (entries : List (κ × α)) :
    (write key value entries).filter (·.1 ≠ key) = entries.filter (·.1 ≠ key) := by
  induction entries with
  | nil => simp [write]
  | cons entry rest ih =>
    obtain ⟨first, old⟩ := entry
    by_cases same : first = key
    · simp [write, same]
    · rw [write, if_neg same, List.filter_cons, List.filter_cons, ih]

/-- A value does not matter once its key is erased. -/
theorem erase_insert (table : Table κ α) (key : κ) (value : α) :
    (table.insert key value).erase key = table.erase key :=
  congrArg Table.mk (filter_write key value table.entries)

theorem filter_write_of_ne {key other : κ} (ne : other ≠ key) (value : α)
    (entries : List (κ × α)) :
    (write other value entries).filter (·.1 ≠ key) =
      write other value (entries.filter (·.1 ≠ key)) := by
  induction entries with
  | nil => simp [write, ne]
  | cons entry rest ih =>
    obtain ⟨first, old⟩ := entry
    by_cases same : first = other
    · subst same
      simp [write, ne]
    · rw [write, if_neg same, List.filter_cons, List.filter_cons, ih]
      by_cases erased : first = key
      · simp [erased]
      · simp [erased, write, same]

theorem erase_insert_of_ne (table : Table κ α) {key other : κ} (ne : other ≠ key) (value : α) :
    (table.insert other value).erase key = (table.erase key).insert other value :=
  congrArg Table.mk (filter_write_of_ne ne value table.entries)

theorem write_comm {key other : κ} (ne : key ≠ other) {old : α} {entries : List (κ × α)}
    (found : lookup other entries = some old) (value new : α) :
    write key value (write other new entries) = write other new (write key value entries) := by
  induction entries with
  | nil => cases found
  | cons entry rest ih =>
    obtain ⟨first, present⟩ := entry
    by_cases isOther : first = other
    · subst isOther
      simp [write, ne.symm]
    · rw [lookup, if_neg isOther] at found
      by_cases isKey : first = key
      · subst isKey
        simp [write, ne]
      · simp [write, isOther, isKey, ih found]

/-- Two keys can be written in any order if the one that is written first then is there already. -/
theorem insert_comm {table : Table κ α} {key other : κ} (ne : key ≠ other) {old : α}
    (found : table.find? other = some old) (value new : α) :
    (table.insert other new).insert key value = (table.insert key value).insert other new :=
  congrArg Table.mk (write_comm ne found value new)

end Table

/-! ## What a router knows -/

namespace Router

/-- The router without the messages that wait: all that it says and decides by itself. -/
def bare (router : Router) : Router := { router with pending := .empty }

/-- How a message leaves towards a network, if the network is reached. -/
def carrier? (router : Router) (network : UInt16) : Option (Npdu → RouterOutput) :=
  match router.directPort? network with
  | some port => some fun npdu =>
    router.transmission port
      (match npdu.destination with
        | none => .broadcast
        | some address => .ofMac address.mac)
      { npdu with destination := none }
  | none =>
    match router.table.find? network with
    | none => none
    | some route =>
      if route.status = .busy then none
      else some fun npdu => router.transmission route.port (.unicast route.nextHop) npdu

/-- Whether messages to the network need not wait. -/
def reaches (router : Router) (network : UInt16) : Bool := (router.carrier? network).isSome

/-- Whether the route to the network is old, so that it is asked for again when it is used. -/
def doubts (router : Router) (network : UInt16) : Bool :=
  (router.directPort? network).isNone ∧ (router.table.find? network).any (·.status = .stale)

/-- The route to the network, if there is one, is neither busy nor old. -/
def Fresh (router : Router) (network : UInt16) : Prop :=
  ∀ route, router.table.find? network = some route → route.status = .reachable

/-- The messages that wait for a network, in the order in which they came. -/
def waits (router : Router) (network : UInt16) : List PendingNpdu :=
  ((router.pending.find? network).map (·.waiting)).getD []

/-- No queue is empty, and none is longer than it may be. -/
structure Tidy (router : Router) : Prop where
  nonempty : ∀ network queue, router.pending.find? network = some queue → queue.waiting ≠ []
  length_le : ∀ network queue, router.pending.find? network = some queue →
    queue.waiting.length ≤ router.config.pendingLimit.toNat

variable {router : Router} {network : UInt16}

/-- A network is reached just when it is attached or has a route that is not busy. -/
theorem reaches_iff (router : Router) (network : UInt16) :
    router.reaches network = true ↔
      (router.directPort? network).isSome = true ∨
        ∃ route, router.table.find? network = some route ∧ route.status ≠ .busy := by
  unfold reaches carrier?
  cases router.directPort? network with
  | some port => simp
  | none =>
    cases router.table.find? network with
    | none => simp
    | some route => by_cases busy : route.status = .busy <;> simp [busy]

theorem Fresh.doubts_eq (fresh : router.Fresh network) : router.doubts network = false := by
  unfold doubts
  cases found : router.table.find? network with
  | none => simp
  | some route => simp [fresh route found]

/-- A network that is not reached is not attached. Without a busy route it has none. -/
theorem Fresh.missing (fresh : router.Fresh network) (unreached : router.carrier? network = none) :
    router.directPort? network = none ∧ router.table.find? network = none := by
  unfold carrier? at unreached
  cases direct : router.directPort? network with
  | some port =>
    rw [direct] at unreached
    cases unreached
  | none =>
    refine ⟨rfl, ?_⟩
    rw [direct] at unreached
    cases found : router.table.find? network with
    | none => rfl
    | some route => simp [found, fresh route found] at unreached

theorem pendingCount_eq (router : Router) (network : UInt16) :
    router.pendingCount network = (router.waits network).length := by
  unfold pendingCount waits
  cases router.pending.find? network <;> rfl

theorem waits_of_find? {queue : PendingQueue}
    (found : router.pending.find? network = some queue) : router.waits network = queue.waiting := by
  rw [waits, found]
  rfl

theorem waits_of_none (missing : router.pending.find? network = none) :
    router.waits network = [] := by
  rw [waits, missing]
  rfl

theorem waits_insert_self (router : Router) (network : UInt16) (queue : PendingQueue) :
    waits { router with pending := router.pending.insert network queue } network =
      queue.waiting :=
  waits_of_find? ((Table.find?_insert ..).trans (if_pos rfl))

theorem waits_insert_of_ne (router : Router) {network other : UInt16} (ne : network ≠ other)
    (queue : PendingQueue) :
    waits { router with pending := router.pending.insert other queue } network =
      router.waits network := by
  unfold waits
  rw [Table.find?_insert, if_neg ne.symm]

theorem waits_erase_self (router : Router) (network : UInt16) :
    waits { router with pending := router.pending.erase network } network = [] :=
  waits_of_none ((Table.find?_erase ..).trans (if_pos rfl))

theorem waits_erase_of_ne (router : Router) {network other : UInt16} (ne : network ≠ other) :
    waits { router with pending := router.pending.erase other } network =
      router.waits network := by
  unfold waits
  rw [Table.find?_erase, if_neg ne.symm]

/-- What waits when a queue has been put in has waited before, or it is in this queue. -/
theorem mem_waits_of_insert {queue : PendingQueue} {network other : UInt16} {message : PendingNpdu}
    (member : message ∈
      waits { router with pending := router.pending.insert network queue } other) :
    message ∈ router.waits other ∨ other = network ∧ message ∈ queue.waiting := by
  by_cases same : other = network
  · subst same
    rw [waits_insert_self] at member
    exact .inr ⟨rfl, member⟩
  · rw [waits_insert_of_ne _ same] at member
    exact .inl member

/-- What still waits when a queue has been dropped has waited before. -/
theorem mem_waits_of_erase {network other : UInt16} {message : PendingNpdu}
    (member : message ∈ waits { router with pending := router.pending.erase network } other) :
    message ∈ router.waits other := by
  by_cases same : other = network
  · rw [same, waits_erase_self] at member
    cases member
  · rwa [waits_erase_of_ne _ same] at member

theorem Tidy.insert (tidy : router.Tidy) {queue : PendingQueue} (some : queue.waiting ≠ [])
    (few : queue.waiting.length ≤ router.config.pendingLimit.toNat) :
    Tidy { router with pending := router.pending.insert network queue } := by
  refine ⟨?_, ?_⟩
  · intro other found present
    rw [Table.find?_insert] at present
    split at present
    · cases present
      exact some
    · exact tidy.nonempty other found present
  · intro other found present
    rw [Table.find?_insert] at present
    split at present
    · cases present
      exact few
    · exact tidy.length_le other found present

theorem Tidy.erase (tidy : router.Tidy) (network : UInt16) :
    Tidy { router with pending := router.pending.erase network } := by
  refine ⟨?_, ?_⟩
  · intro other found present
    rw [Table.find?_erase] at present
    split at present
    · cases present
    · exact tidy.nonempty other found present
  · intro other found present
    rw [Table.find?_erase] at present
    split at present
    · cases present
    · exact tidy.length_le other found present

/-- The links and the routes do not matter. -/
theorem Tidy.of_pending {before after : Router} (tidy : before.Tidy)
    (pending : after.pending = before.pending) (config : after.config = before.config) :
    after.Tidy := by
  refine ⟨?_, ?_⟩
  · rw [pending]
    exact tidy.nonempty
  · rw [pending, config]
    exact tidy.length_le

end Router

/-! ## Forwarding -/

namespace Routing

variable {state : Routing} {now : Nat} {network : UInt16}

/-- A message to a network that is reached is sent. -/
theorem forward_of_carrier? {carry : Npdu → RouterOutput}
    (reached : state.router.carrier? network = some carry) (message : PendingNpdu) :
    state.forward now network message =
      (.forward, state.emit (carry message.npdu ::
        if state.router.doubts network then
          state.router.queries network (message.arrival.map (·.port))
        else [])) := by
  unfold Router.carrier? at reached
  unfold forward Router.doubts
  cases direct : state.router.directPort? network with
  | some port =>
    rw [direct] at reached
    cases reached
    rfl
  | none =>
    rw [direct] at reached
    dsimp only at reached ⊢
    cases found : state.router.table.find? network with
    | none =>
      rw [found] at reached
      cases reached
    | some route =>
      rw [found] at reached
      dsimp only at reached ⊢
      cases status : route.status with
      | busy =>
        rw [status] at reached
        cases reached
      | reachable =>
        rw [status] at reached
        cases reached
        simp [sendVia, status]
      | stale =>
        rw [status] at reached
        cases reached
        simp [sendVia, status, emit, List.append_assoc]

/-- A message to a network that is not reached is put into the queue. The network is asked for if
there is no route at all. -/
theorem forward_of_not_reaches (waiting : state.router.carrier? network = none)
    (message : PendingNpdu) :
    state.forward now network message =
      state.enqueue now network message (state.router.table.find? network).isNone := by
  unfold Router.carrier? at waiting
  unfold forward
  cases direct : state.router.directPort? network with
  | some port =>
    rw [direct] at waiting
    cases waiting
  | none =>
    rw [direct] at waiting
    dsimp only at waiting ⊢
    cases found : state.router.table.find? network with
    | none => rfl
    | some route =>
      rw [found] at waiting
      dsimp only at waiting ⊢
      cases status : route.status with
      | busy => rfl
      | reachable =>
        rw [status] at waiting
        cases waiting
      | stale =>
        rw [status] at waiting
        cases waiting

/-! ## Queues that are flushed -/

/-- The messages that wait for a network are put into a new queue, whose wait begins now. -/
def requeue (state : Routing) (now : Nat) (network : UInt16) (waiting : List PendingNpdu) :
    Routing :=
  let deadline := now + nanosOfMillis state.router.config.resolutionTimeout.toNat
  let (timer, timers) := state.timers.schedule deadline (.routeResolution network)
  { state with
    timers
    router := { state.router with
      pending := state.router.pending.insert network ⟨waiting, timer⟩ } }

theorem foldl_forward_of_carrier? {carry : Npdu → RouterOutput}
    (reached : state.router.carrier? network = some carry)
    (certain : state.router.doubts network = false) (messages : List PendingNpdu) :
    messages.foldl (fun state message => (state.forward now network message).2) state =
      state.emit (messages.map fun message => carry message.npdu) := by
  induction messages generalizing state with
  | nil => simp [emit]
  | cons first rest ih =>
    rw [List.foldl_cons, forward_of_carrier? reached first, certain]
    refine (@ih (state.emit [carry first.npdu]) reached certain).trans ?_
    simp [emit, List.append_assoc]

/-- Messages join a queue that is there already, as long as there is room. -/
theorem foldl_forward_behind (unreached : state.router.carrier? network = none)
    {queue : PendingQueue} (found : state.router.pending.find? network = some queue)
    (messages : List PendingNpdu)
    (room : queue.waiting.length + messages.length ≤ state.router.config.pendingLimit.toNat) :
    messages.foldl (fun state message => (state.forward now network message).2) state =
      { state with
        router := { state.router with
          pending := state.router.pending.insert network
            { queue with waiting := queue.waiting ++ messages } } } := by
  induction messages generalizing state queue with
  | nil =>
    rw [List.append_nil, Table.insert_of_find? found]
    rfl
  | cons first rest ih =>
    rw [List.length_cons] at room
    have count : state.router.pendingCount network = queue.waiting.length := by
      rw [Router.pendingCount_eq, Router.waits_of_find? found]
    have joined : (state.forward now network first).2 =
        state.enqueueBehind network queue first := by
      rw [forward_of_not_reaches unreached, enqueue, count, if_neg (by omega), found]
    have present : (state.enqueueBehind network queue first).router.pending.find? network =
        some { queue with waiting := queue.waiting ++ [first] } := by
      simp [enqueueBehind, Table.find?_insert]
    rw [List.foldl_cons, joined]
    refine (@ih (state.enqueueBehind network queue first) unreached _ present ?_).trans ?_
    · show (queue.waiting ++ [first]).length + rest.length ≤
        state.router.config.pendingLimit.toNat
      rw [List.length_append, List.length_singleton]
      omega
    · simp [enqueueBehind, Table.insert_insert, List.append_assoc]

/-- The link on which a network is not asked for when messages begin to wait for it: the one from
which the first of them came. -/
def firstPort? (waiting : List PendingNpdu) : Option PortId :=
  (waiting.head?.bind (·.arrival)).map (·.port)

/-- The first of some messages to a network without a route and without a queue begins a new one,
and the others join it. -/
theorem foldl_forward_of_missing (unattached : state.router.directPort? network = none)
    (missing : state.router.table.find? network = none)
    (absent : state.router.pending.find? network = none) {messages : List PendingNpdu}
    (nonempty : messages ≠ [])
    (room : messages.length ≤ state.router.config.pendingLimit.toNat) :
    messages.foldl (fun state message => (state.forward now network message).2) state =
      (state.requeue now network messages).emit
        (state.router.queries network (firstPort? messages)) := by
  obtain ⟨first, rest, rfl⟩ := List.exists_cons_of_ne_nil nonempty
  rw [List.length_cons] at room
  have unreached : state.router.carrier? network = none := by
    rw [Router.carrier?, unattached, missing]
  have empty : state.router.pendingCount network = 0 := by
    rw [Router.pendingCount_eq, Router.waits_of_none absent, List.length_nil]
  have begun : (state.forward now network first).2 =
      (state.requeue now network [first]).emit
        (state.router.queries network (firstPort? (first :: rest))) := by
    rw [forward_of_not_reaches unreached, enqueue, empty, missing, absent, if_neg (by omega)]
    rfl
  have present : ((state.requeue now network [first]).emit
      (state.router.queries network (firstPort? (first :: rest)))).router.pending.find? network =
        some ⟨[first], (state.timers.schedule (now + nanosOfMillis
          state.router.config.resolutionTimeout.toNat) (.routeResolution network)).1⟩ := by
    simp [requeue, emit, Table.find?_insert]
  rw [List.foldl_cons, begun]
  refine (@foldl_forward_behind ((state.requeue now network [first]).emit
    (state.router.queries network (firstPort? (first :: rest)))) now network unreached _ present
    rest ?_).trans ?_
  · show [first].length + rest.length ≤ state.router.config.pendingLimit.toNat
    rw [List.length_singleton]
    omega
  · simp [requeue, emit, Table.insert_insert]

/-- The messages that wait for a network that is reached are sent, each once and in their order. -/
theorem flush_of_carrier? (fresh : state.router.Fresh network) {queue : PendingQueue}
    (found : state.router.pending.find? network = some queue) {carry : Npdu → RouterOutput}
    (reached : state.router.carrier? network = some carry) (now : Nat) :
    state.flush now network = (state.dropQueue network queue).emit
      (queue.waiting.map fun message => carry message.npdu) := by
  rw [flush, found]
  exact @foldl_forward_of_carrier? (state.dropQueue network queue) now network carry reached
    fresh.doubts_eq queue.waiting

/-- The messages that wait for a network that is not reached go on waiting in their order, and the
network is asked for again. -/
theorem flush_of_unreached (fresh : state.router.Fresh network) (tidy : state.router.Tidy)
    {queue : PendingQueue} (found : state.router.pending.find? network = some queue)
    (unreached : state.router.carrier? network = none) (now : Nat) :
    state.flush now network =
      ((state.dropQueue network queue).requeue now network queue.waiting).emit
        (state.router.queries network (firstPort? queue.waiting)) := by
  obtain ⟨unattached, missing⟩ := fresh.missing unreached
  have absent : (state.dropQueue network queue).router.pending.find? network = none := by
    rw [dropQueue, Table.find?_erase, if_pos rfl]
  rw [flush, found]
  exact @foldl_forward_of_missing (state.dropQueue network queue) now network unattached missing
    absent queue.waiting (tidy.nonempty network queue found) (tidy.length_le network queue found)

end Routing

end BACnet
