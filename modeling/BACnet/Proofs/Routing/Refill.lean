import BACnet.Proofs.Routing.Decisions

/-!
# What becomes of the messages that wait

What is done either keeps the messages that wait for a network (`Routing.Keeps`) or sends each of
them once, in their order (`Routing.Sends`). In both cases nothing else depends on what the messages
are: to say so, other messages are put in their place (`Router.refill`) that came from the same
stations.
-/

namespace BACnet

namespace Router

/-- The router with other messages in a queue, if there is one. -/
def refill (router : Router) (network : UInt16) (waiting : List PendingNpdu) : Router :=
  match router.pending.find? network with
  | none => router
  | some queue => { router with pending := router.pending.insert network { queue with waiting } }

/-- As many messages as there are in the queue, which came from the same stations. -/
def Alike (router : Router) (network : UInt16) (others : List PendingNpdu) : Prop :=
  others.map (·.arrival) = (router.waits network).map (·.arrival)

variable {router : Router} {network other : UInt16} {others : List PendingNpdu}

theorem alike_self (router : Router) (network : UInt16) :
    router.Alike network (router.waits network) := rfl

theorem Alike.length_eq (alike : router.Alike network others) :
    others.length = (router.waits network).length := by
  simpa using congrArg List.length alike

theorem Alike.firstPort?_eq (alike : router.Alike network others) :
    Routing.firstPort? others = Routing.firstPort? (router.waits network) := by
  have heads := congrArg List.head? alike
  rw [List.head?_map, List.head?_map] at heads
  rw [Routing.firstPort?, Routing.firstPort?]
  generalize others.head? = first at heads
  generalize (router.waits network).head? = old at heads
  cases first <;> cases old <;> simp_all

theorem refill_of_find? {queue : PendingQueue} (found : router.pending.find? network = some queue)
    (waiting : List PendingNpdu) :
    router.refill network waiting =
      { router with pending := router.pending.insert network { queue with waiting } } := by
  rw [refill, found]

theorem refill_of_none (absent : router.pending.find? network = none)
    (waiting : List PendingNpdu) : router.refill network waiting = router := by
  rw [refill, absent]

theorem bare_refill (router : Router) (network : UInt16) (waiting : List PendingNpdu) :
    (router.refill network waiting).bare = router.bare := by
  unfold refill
  split <;> rfl

theorem find?_refill_of_find? {queue : PendingQueue}
    (found : router.pending.find? network = some queue) (waiting : List PendingNpdu) :
    (router.refill network waiting).pending.find? network = some { queue with waiting } := by
  rw [refill_of_find? found]
  exact (Table.find?_insert ..).trans (if_pos rfl)

theorem find?_refill_of_ne (ne : network ≠ other) (waiting : List PendingNpdu) :
    (router.refill network waiting).pending.find? other = router.pending.find? other := by
  unfold refill
  cases router.pending.find? network with
  | none => rfl
  | some queue => exact (Table.find?_insert _ _ _ _).trans (if_neg ne)

/-- A queue that has the messages already is not changed. -/
theorem refill_waits (router : Router) (network : UInt16) :
    router.refill network (router.waits network) = router := by
  cases found : router.pending.find? network with
  | none => exact refill_of_none found _
  | some queue =>
    rw [refill_of_find? found, waits_of_find? found, Table.insert_of_find? found]

/-- What was in a queue does not matter once it is erased. -/
theorem erase_refill_self (router : Router) (network : UInt16) (waiting : List PendingNpdu) :
    { router.refill network waiting with
      pending := (router.refill network waiting).pending.erase network } =
    { router with pending := router.pending.erase network } := by
  cases found : router.pending.find? network with
  | none => rw [refill_of_none found]
  | some queue => simp only [refill_of_find? found, Table.erase_insert]

/-- Erasing one queue and filling another can be done in any order. -/
theorem erase_refill_of_ne (router : Router) (ne : network ≠ other) (waiting : List PendingNpdu) :
    { router.refill network waiting with
      pending := (router.refill network waiting).pending.erase other } =
    refill { router with pending := router.pending.erase other } network waiting := by
  have same : (router.pending.erase other).find? network = router.pending.find? network :=
    (Table.find?_erase _ _ _).trans (if_neg (Ne.symm ne))
  cases found : router.pending.find? network with
  | none => rw [refill_of_none found, refill_of_none (same.trans found)]
  | some queue =>
    rw [refill_of_find? found, refill_of_find? (same.trans found)]
    simp only [Table.erase_insert_of_ne _ ne]

/-- Writing one queue and filling another can be done in any order. -/
theorem insert_refill_of_ne (router : Router) (ne : network ≠ other) (queue : PendingQueue)
    (waiting : List PendingNpdu) :
    { router.refill network waiting with
      pending := (router.refill network waiting).pending.insert other queue } =
    refill { router with pending := router.pending.insert other queue } network waiting := by
  have same : (router.pending.insert other queue).find? network = router.pending.find? network :=
    (Table.find?_insert _ _ _ _).trans (if_neg (Ne.symm ne))
  cases found : router.pending.find? network with
  | none => rw [refill_of_none found, refill_of_none (same.trans found)]
  | some old =>
    rw [refill_of_find? found, refill_of_find? (same.trans found)]
    simp only [Table.insert_comm (Ne.symm ne) found]

/-- A queue that is filled in another way is one that was filled in this way from the start. -/
theorem refill_insert_self (router : Router) (network : UInt16) (queue : PendingQueue)
    (waiting : List PendingNpdu) :
    refill { router with pending := router.pending.insert network queue } network waiting =
      { router with pending := router.pending.insert network { queue with waiting } } := by
  have present : (router.pending.insert network queue).find? network = some queue :=
    (Table.find?_insert _ _ _ _).trans (if_pos rfl)
  rw [refill_of_find? present, Table.insert_insert]

/-- What the router knows can change without regard to the messages that wait. -/
theorem change_refill {change : Router → Router}
    (apart : ∀ router pending, change { router with pending } = { change router with pending })
    (router : Router) (network : UInt16) (waiting : List PendingNpdu) :
    change (router.refill network waiting) = (change router).refill network waiting := by
  have pending := congrArg Router.pending (apart router router.pending)
  change (change router).pending = router.pending at pending
  cases found : router.pending.find? network with
  | none => rw [refill_of_none found, refill_of_none (pending ▸ found)]
  | some queue =>
    rw [refill_of_find? found, refill_of_find? (pending ▸ found), pending]
    exact apart router _

end Router

namespace Routing

/-- A router at work with other messages in a queue. -/
def refill (state : Routing) (network : UInt16) (waiting : List PendingNpdu) : Routing :=
  state.mapRouter (·.refill network waiting)

variable {state : Routing} {now : Nat} {network other : UInt16}

theorem refill_of_none (absent : state.router.pending.find? network = none)
    (waiting : List PendingNpdu) : state.refill network waiting = state :=
  congrArg (fun router => { state with router }) (Router.refill_of_none absent waiting)

theorem refill_of_find? {queue : PendingQueue}
    (found : state.router.pending.find? network = some queue) (waiting : List PendingNpdu) :
    state.refill network waiting =
      { state with
        router := { state.router with
          pending := state.router.pending.insert network { queue with waiting } } } :=
  congrArg (fun router => { state with router }) (Router.refill_of_find? found waiting)

theorem refill_emit (state : Routing) (network : UInt16) (outputs : List RouterOutput)
    (waiting : List PendingNpdu) :
    (state.emit outputs).refill network waiting = (state.refill network waiting).emit outputs :=
  rfl

theorem dropQueue_refill_self (queue : PendingQueue) (waiting : List PendingNpdu) :
    (state.refill network waiting).dropQueue network { queue with waiting } =
      state.dropQueue network queue :=
  congrArg (fun router => { state.dropQueue network queue with router })
    (Router.erase_refill_self _ _ _)

theorem dropQueue_refill_of_ne (ne : network ≠ other) (queue : PendingQueue)
    (waiting : List PendingNpdu) :
    (state.refill network waiting).dropQueue other queue =
      (state.dropQueue other queue).refill network waiting :=
  congrArg (fun router => { state.dropQueue other queue with router })
    (Router.erase_refill_of_ne _ ne _)

theorem requeue_refill_self (state : Routing) (now : Nat) (network : UInt16)
    (old waiting : List PendingNpdu) :
    (state.requeue now network old).refill network waiting = state.requeue now network waiting :=
  congrArg (fun router => { state.requeue now network old with router })
    (Router.refill_insert_self _ _ _ _)

theorem requeue_refill_of_ne (ne : network ≠ other) (old waiting : List PendingNpdu) :
    (state.refill network waiting).requeue now other old =
      (state.requeue now other old).refill network waiting := by
  have config : (state.refill network waiting).router.config = state.router.config := by
    show (state.router.refill network waiting).bare.config = state.router.bare.config
    rw [Router.bare_refill]
  unfold requeue
  rw [config]
  exact congrArg (fun router => { state.requeue now other old with router })
    (Router.insert_refill_of_ne _ ne _ _)

theorem enqueueBehind_refill_of_ne (ne : network ≠ other) (queue : PendingQueue)
    (message : PendingNpdu) (waiting : List PendingNpdu) :
    (state.refill network waiting).enqueueBehind other queue message =
      (state.enqueueBehind other queue message).refill network waiting :=
  congrArg (fun router => { state with router }) (Router.insert_refill_of_ne _ ne _ _)

/-- The messages that wait for a network go on waiting, and others join them. Nothing else depends
on what they are. -/
structure Keeps (network : UInt16) (joined : List PendingNpdu) (state : Routing)
    (work : Routing → Routing) : Prop where
  same : ∀ others, state.router.Alike network others →
    work (state.refill network others) = (work state).refill network (others ++ joined)
  waits : (work state).router.waits network = state.router.waits network ++ joined

/-- The messages that wait for a network are sent, each once and in their order, on the way that the
router knows at this moment. Nothing else depends on what they are. -/
structure Sends (lesson : Lesson) (network : UInt16) (state : Routing) (work : Routing → Routing) :
    Prop where
  numberless : lesson.number? = none
  same : ∃ moment carry before after, state.router.Heeds lesson moment ∧
    moment.carrier? network = some carry ∧ ∀ others, state.router.Alike network others →
      work (state.refill network others) =
        { work state with
          outputs := before ++ others.map (fun message => carry message.npdu) ++ after }
  waits : (work state).router.waits network = []

/-- What has been put out before is left as it is. -/
def Appends (work : Routing → Routing) : Prop :=
  ∀ (state : Routing) (outputs : List RouterOutput),
    work { state with outputs := outputs ++ state.outputs } =
      { work state with outputs := outputs ++ (work state).outputs }

/-! ## Queues that are flushed -/

/-- Whether a network is reached does not depend on the messages in a queue. -/
theorem carrier?_refill (state : Routing) (network other : UInt16) (waiting : List PendingNpdu) :
    (state.refill network waiting).router.carrier? other = state.router.carrier? other := by
  show (state.router.refill network waiting).bare.carrier? other = state.router.bare.carrier? other
  rw [Router.bare_refill]

theorem queries_refill (state : Routing) (network other : UInt16) (waiting : List PendingNpdu)
    (except : Option PortId) :
    (state.refill network waiting).router.queries other except =
      state.router.queries other except := by
  show (state.router.refill network waiting).bare.queries other except =
    state.router.bare.queries other except
  rw [Router.bare_refill]

theorem fresh_refill (fresh : state.router.Fresh other) (network : UInt16)
    (waiting : List PendingNpdu) : (state.refill network waiting).router.Fresh other := by
  show (state.router.refill network waiting).bare.Fresh other
  rw [Router.bare_refill]
  exact fresh

theorem tidy_refill (tidy : state.router.Tidy) {others : List PendingNpdu}
    (alike : state.router.Alike network others) : (state.refill network others).router.Tidy := by
  cases found : state.router.pending.find? network with
  | none =>
    rw [refill_of_none found]
    exact tidy
  | some queue =>
    have length := alike.length_eq
    rw [Router.waits_of_find? found] at length
    rw [refill_of_find? found]
    have some := List.length_pos_iff.mpr (tidy.nonempty network queue found)
    refine tidy.insert (List.length_pos_iff.mp (length ▸ some)) ?_
    exact length ▸ tidy.length_le network queue found

theorem flush_of_none (absent : state.router.pending.find? network = none) (now : Nat) :
    state.flush now network = state := by
  rw [flush, absent]

/-- The messages that wait for another network are kept when a queue is flushed. -/
theorem keeps_flush_of_ne (tidy : state.router.Tidy) (ne : network ≠ other)
    (fresh : state.router.Fresh other) (now : Nat) :
    Keeps network [] state fun state => state.flush now other := by
  have dropped : ∀ queue, (state.dropQueue other queue).router.waits network =
      state.router.waits network := fun _ => state.router.waits_erase_of_ne ne
  cases found : state.router.pending.find? other with
  | none =>
    have absent : ∀ waiting, (state.refill network waiting).router.pending.find? other = none :=
      fun waiting => (Router.find?_refill_of_ne ne waiting).trans found
    refine ⟨?_, ?_⟩
    · intro others _
      rw [flush_of_none (absent others), flush_of_none found, List.append_nil]
    · rw [flush_of_none found, List.append_nil]
  | some queue =>
    have present : ∀ waiting,
        (state.refill network waiting).router.pending.find? other = some queue :=
      fun waiting => (Router.find?_refill_of_ne ne waiting).trans found
    cases reached : state.router.carrier? other with
    | some carry =>
      have sent := flush_of_carrier? fresh found reached now
      refine ⟨?_, ?_⟩
      · intro others _
        rw [sent, flush_of_carrier? (fresh_refill fresh network others) (present others)
          ((state.carrier?_refill network other others).trans reached),
          dropQueue_refill_of_ne ne, refill_emit, List.append_nil]
      · rw [sent, List.append_nil]
        exact dropped queue
    | none =>
      have kept := flush_of_unreached fresh tidy found reached now
      refine ⟨?_, ?_⟩
      · intro others alike
        rw [kept, flush_of_unreached (fresh_refill fresh network others) (tidy_refill tidy alike)
          (present others) ((state.carrier?_refill network other others).trans reached),
          dropQueue_refill_of_ne ne, requeue_refill_of_ne ne, queries_refill, refill_emit,
          List.append_nil]
      · rw [kept, List.append_nil]
        exact (Router.waits_insert_of_ne _ ne _).trans (dropped queue)

/-- The messages that wait for a network are sent or kept when their queue is flushed. -/
theorem flush_self {lesson : Lesson} (numberless : lesson.number? = none)
    (tidy : state.router.Tidy) (fresh : state.router.Fresh network) (now : Nat) :
    Keeps network [] state (fun state => state.flush now network) ∨
      Sends lesson network state fun state => state.flush now network := by
  cases found : state.router.pending.find? network with
  | none =>
    left
    refine ⟨?_, ?_⟩
    · intro others _
      rw [refill_of_none found, flush_of_none found, refill_of_none found]
    · rw [flush_of_none found, List.append_nil]
  | some queue =>
    have filled : ∀ waiting, (state.refill network waiting).router.pending.find? network =
        some { queue with waiting } := Router.find?_refill_of_find? found
    cases reached : state.router.carrier? network with
    | some carry =>
      right
      have sent := flush_of_carrier? fresh found reached now
      refine ⟨numberless, ⟨state.router, carry, state.outputs, [], .refl lesson state.router,
        reached, ?_⟩, ?_⟩
      · intro others _
        have others_sent := flush_of_carrier? (fresh_refill fresh network others) (filled others)
          ((state.carrier?_refill network network others).trans reached) now
        rw [dropQueue_refill_self] at others_sent
        rw [others_sent, sent, List.append_nil]
        rfl
      · rw [sent]
        exact state.router.waits_erase_self network
    | none =>
      left
      have kept := flush_of_unreached fresh tidy found reached now
      refine ⟨?_, ?_⟩
      · intro others alike
        have others_kept := flush_of_unreached (fresh_refill fresh network others)
          (tidy_refill tidy alike) (filled others)
          ((state.carrier?_refill network network others).trans reached) now
        rw [dropQueue_refill_self] at others_kept
        have port := alike.firstPort?_eq
        rw [Router.waits_of_find? found] at port
        rw [others_kept, kept, List.append_nil, port, queries_refill, refill_emit,
          requeue_refill_self]
      · rw [kept, List.append_nil, Router.waits_of_find? found]
        exact Router.waits_insert_self _ network _

/-! ## Chores -/

namespace Keeps

variable {joined : List PendingNpdu} {work next : Routing → Routing}

theorem idle (network : UInt16) (state : Routing) : Keeps network [] state id :=
  ⟨fun others _ => by rw [id, id, List.append_nil], (List.append_nil _).symm⟩

theorem comp (first : Keeps network [] state work)
    (second : Keeps network joined (work state) next) :
    Keeps network joined state fun state => next (work state) := by
  have waits := first.waits
  rw [List.append_nil] at waits
  refine ⟨?_, ?_⟩
  · intro others alike
    rw [first.same others alike, List.append_nil]
    exact second.same others (by rw [Router.Alike, waits]; exact alike)
  · rw [second.waits, waits]

theorem sends {lesson : Lesson} (first : Keeps network [] state work)
    (heeds : state.router.Heeds lesson (work state).router)
    (second : Sends lesson network (work state) next) :
    Sends lesson network state fun state => next (work state) := by
  have waits := first.waits
  rw [List.append_nil] at waits
  obtain ⟨numberless, ⟨moment, carry, before, after, later, reached, same⟩, empty⟩ := second
  refine ⟨numberless, ⟨moment, carry, before, after, heeds.trans later, reached, ?_⟩, empty⟩
  intro others alike
  rw [first.same others alike, List.append_nil]
  exact same others (by rw [Router.Alike, waits]; exact alike)

end Keeps

/-- What has been sent does not matter for what comes next. -/
theorem Sends.comp {lesson : Lesson} {work next : Routing → Routing}
    (first : Sends lesson network state work) (appends : Appends next)
    (empty : (next (work state)).router.waits network = []) :
    Sends lesson network state fun state => next (work state) := by
  obtain ⟨numberless, ⟨moment, carry, before, after, heeds, reached, same⟩, -⟩ := first
  have follows : ∀ outputs, next { work state with outputs } =
      { next { work state with outputs := [] } with
        outputs := outputs ++ (next { work state with outputs := [] }).outputs } := by
    intro outputs
    have appended := appends { work state with outputs := [] } outputs
    rwa [List.append_nil] at appended
  refine ⟨numberless, ⟨moment, carry, before,
    after ++ (next { work state with outputs := [] }).outputs, heeds, reached, ?_⟩, empty⟩
  intro others alike
  have own := follows (work state).outputs
  rw [same others alike, follows, ← List.append_assoc, show next (work state) = _ from own]

theorem Appends.comp {work next : Routing → Routing} (first : Appends work)
    (second : Appends next) : Appends fun state => next (work state) := by
  intro state outputs
  exact (congrArg next (first state outputs)).trans (second (work state) outputs)

theorem appends_emit (outputs : List RouterOutput) : Appends fun state => state.emit outputs := by
  intro state before
  simp [emit, List.append_assoc]

theorem appends_enqueue (now : Nat) (network : UInt16) (message : PendingNpdu) (ask : Bool) :
    Appends fun state => (state.enqueue now network message ask).2 := by
  intro state outputs
  unfold enqueue
  dsimp only
  split
  · exact appends_emit _ state outputs
  · split
    · rfl
    · exact appends_emit _ (state.enqueueFirst now network message) outputs

theorem appends_forward (now : Nat) (network : UInt16) (message : PendingNpdu) :
    Appends fun state => (state.forward now network message).2 := by
  intro state outputs
  cases reached : state.router.carrier? network with
  | none =>
    dsimp only
    rw [forward_of_not_reaches reached, @forward_of_not_reaches
      { state with outputs := outputs ++ state.outputs } now network reached]
    exact appends_enqueue now network message _ state outputs
  | some carry =>
    dsimp only
    rw [forward_of_carrier? reached, @forward_of_carrier?
      { state with outputs := outputs ++ state.outputs } now network carry reached]
    exact appends_emit _ state outputs

theorem Appends.foldl {α : Type} {step : Routing → α → Routing}
    (appends : ∀ item, Appends fun state => step state item) (items : List α) :
    Appends fun state => items.foldl step state := by
  induction items with
  | nil => exact fun _ _ => rfl
  | cons first rest ih => exact (appends first).comp ih

theorem appends_flush (now : Nat) (network : UInt16) :
    Appends fun state => state.flush now network := by
  intro state outputs
  unfold flush
  dsimp only
  split
  · rfl
  · next queue _ =>
    exact Appends.foldl (appends_forward now network) queue.waiting
      (state.dropQueue network queue) outputs

theorem appends_perform (now : Nat) (chore : Chore) :
    Appends fun state => state.perform now chore := by
  cases chore with
  | tells outputs => exact appends_emit outputs
  | adopts ports table => exact fun _ _ => rfl
  | releases table network =>
    intro state
    exact appends_flush now network (state.mapRouter fun router => { router with table })

theorem appends_performAll (now : Nat) (chores : List Chore) :
    Appends fun state => state.performAll now chores := by
  induction chores with
  | nil => exact fun _ _ => rfl
  | cons chore rest ih => exact (appends_perform now chore).comp ih

theorem tidy_flush (tidy : state.router.Tidy) (fresh : state.router.Fresh network) (now : Nat) :
    (state.flush now network).router.Tidy := by
  cases found : state.router.pending.find? network with
  | none =>
    rw [flush_of_none found]
    exact tidy
  | some queue =>
    cases reached : state.router.carrier? network with
    | some carry =>
      rw [flush_of_carrier? fresh found reached]
      exact tidy.erase network
    | none =>
      rw [flush_of_unreached fresh tidy found reached]
      exact (tidy.erase network).insert (tidy.nonempty network queue found)
        (tidy.length_le network queue found)

/-- Chores keep the queues tidy. -/
theorem tidy_perform {lesson : Lesson} (tidy : state.router.Tidy) {chore : Chore}
    (fair : chore.Fair lesson state.router.bare) (now : Nat) :
    (state.perform now chore).router.Tidy := by
  cases chore with
  | tells outputs => exact tidy
  | adopts ports table => exact tidy.of_pending rfl rfl
  | releases table network =>
    exact @tidy_flush (state.mapRouter fun router => { router with table }) network
      (tidy.of_pending rfl rfl) fair.fresh now

theorem tidy_performAll {lesson : Lesson} (tidy : state.router.Tidy) {chores : List Chore}
    (fair : Chore.AllFair lesson state.router.bare chores) (now : Nat) :
    (state.performAll now chores).router.Tidy := by
  induction chores generalizing state with
  | nil => exact tidy
  | cons chore rest ih =>
    refine ih (tidy_perform tidy fair.1 now) ?_
    rw [bare_perform]
    exact fair.2

theorem keeps_emit (network : UInt16) (state : Routing) (outputs : List RouterOutput) :
    Keeps network [] state fun state => state.emit outputs :=
  ⟨fun others _ => by rw [List.append_nil, refill_emit], (List.append_nil _).symm⟩

theorem keeps_mapRouter (network : UInt16) (state : Routing) {change : Router → Router}
    (apart : ∀ router pending, change { router with pending } = { change router with pending }) :
    Keeps network [] state fun state => state.mapRouter change := by
  refine ⟨?_, ?_⟩
  · intro others _
    rw [List.append_nil]
    exact congrArg (fun router => { state with router })
      (Router.change_refill apart state.router network others)
  · have pending := congrArg Router.pending (apart state.router state.router.pending)
    rw [List.append_nil]
    exact congrArg (fun pending => ((Table.find? pending network).map (·.waiting)).getD []) pending

/-- A chore keeps the messages that wait for a network, or it is to release them and sends them. -/
theorem perform_cases {lesson : Lesson} (tidy : state.router.Tidy) {chore : Chore}
    (fair : chore.Fair lesson state.router.bare) (now : Nat) (network : UInt16) :
    Keeps network [] state (fun state => state.perform now chore) ∨
      Sends lesson network state (fun state => state.perform now chore) ∧
        ∃ table, chore = .releases table network := by
  cases chore with
  | tells outputs => exact .inl (keeps_emit network state outputs)
  | adopts ports table =>
    have adopted : Keeps network [] state fun state =>
        state.mapRouter fun router => { router with ports, table } :=
      keeps_mapRouter network state fun _ _ => rfl
    exact .inl adopted
  | releases table other =>
    have learned : Keeps network [] state fun state =>
        state.mapRouter fun router => { router with table } :=
      keeps_mapRouter network state fun _ _ => rfl
    have tidied : (state.mapRouter fun router => { router with table }).router.Tidy :=
      tidy.of_pending rfl rfl
    by_cases same : network = other
    · subst same
      rcases flush_self fair.numberless tidied fair.fresh now with kept | sent
      · exact .inl (learned.comp kept)
      · exact .inr ⟨learned.sends (.of_bare fair.heeds) sent, table, rfl⟩
    · exact .inl (learned.comp (keeps_flush_of_ne tidied same fair.fresh now))

/-- Chores that are not to release the messages that wait for a network keep them. -/
theorem keeps_performAll {lesson : Lesson} (tidy : state.router.Tidy) {chores : List Chore}
    (fair : Chore.AllFair lesson state.router.bare chores) (now : Nat) {network : UInt16}
    (kept : ∀ table, .releases table network ∉ chores) :
    Keeps network [] state fun state => state.performAll now chores := by
  induction chores generalizing state with
  | nil => exact .idle network state
  | cons chore rest ih =>
    have also : Chore.AllFair lesson (state.perform now chore).router.bare rest := by
      rw [bare_perform]
      exact fair.2
    have others := ih (tidy_perform tidy fair.1 now) also
      fun table member => kept table (List.mem_cons_of_mem _ member)
    rcases perform_cases tidy fair.1 now network with first | ⟨-, table, rfl⟩
    · exact first.comp others
    · exact absurd List.mem_cons_self (kept table)

/-- Chores keep the messages that wait for a network, or send them. -/
theorem performAll_cases {lesson : Lesson} (tidy : state.router.Tidy) {chores : List Chore}
    (fair : Chore.AllFair lesson state.router.bare chores) (now : Nat) (network : UInt16) :
    Keeps network [] state (fun state => state.performAll now chores) ∨
      Sends lesson network state fun state => state.performAll now chores := by
  induction chores generalizing state with
  | nil => exact .inl (.idle network state)
  | cons chore rest ih =>
    have also : Chore.AllFair lesson (state.perform now chore).router.bare rest := by
      rw [bare_perform]
      exact fair.2
    have others := ih (tidy_perform tidy fair.1 now) also
    rcases perform_cases tidy fair.1 now network with first | ⟨first, -⟩
    · have heeds : state.router.Heeds lesson (state.perform now chore).router := by
        refine .of_bare ?_
        rw [bare_perform]
        exact fair.1.heeds
      exact others.imp first.comp (first.sends heeds)
    · -- The queue is empty from then on.
      refine .inr (first.comp (appends_performAll now rest) ?_)
      rcases others with kept | sent
      · rw [kept.waits, first.waits, List.append_nil]
      · exact sent.waits

/-! ## Messages that begin to wait -/

/-- A message finds room as long as the queue of its network is not full. -/
theorem enqueue_of_full {message : PendingNpdu} {ask : Bool}
    (full : state.router.config.pendingLimit.toNat ≤ state.router.pendingCount network) :
    state.enqueue now network message ask =
      (.drop .pendingQueueFull, state.emit [.failure (.pendingQueueFull network)]) :=
  if_pos full

theorem enqueue_behind {message : PendingNpdu} {ask : Bool}
    (room : ¬ state.router.config.pendingLimit.toNat ≤ state.router.pendingCount network)
    {queue : PendingQueue} (found : state.router.pending.find? network = some queue) :
    state.enqueue now network message ask =
      (.pending, state.enqueueBehind network queue message) := by
  rw [enqueue, if_neg room, found]

theorem enqueue_first {message : PendingNpdu} {ask : Bool}
    (room : ¬ state.router.config.pendingLimit.toNat ≤ state.router.pendingCount network)
    (absent : state.router.pending.find? network = none) :
    state.enqueue now network message ask =
      (.pending, (state.requeue now network [message]).emit
        (if ask then state.router.queries network (message.arrival.map (·.port)) else [])) := by
  rw [enqueue, if_neg room, absent]
  rfl

theorem full_refill_iff {others : List PendingNpdu} (alike : state.router.Alike network others)
    (other : UInt16) :
    (state.refill network others).router.config.pendingLimit.toNat ≤
        (state.refill network others).router.pendingCount other ↔
      state.router.config.pendingLimit.toNat ≤ state.router.pendingCount other := by
  have length := alike.length_eq
  cases found : state.router.pending.find? network with
  | none => rw [refill_of_none found]
  | some queue =>
    rw [Router.waits_of_find? found] at length
    rw [refill_of_find? found, Router.pendingCount_eq, Router.pendingCount_eq]
    by_cases same : other = network
    · subst same
      rw [Router.waits_insert_self, Router.waits_of_find? found, length]
    · rw [Router.waits_insert_of_ne _ same]

theorem decision_enqueue (state : Routing) (now : Nat) (network : UInt16) (message : PendingNpdu)
    (ask : Bool) :
    (state.enqueue now network message ask).1 =
      if state.router.config.pendingLimit.toNat ≤ state.router.pendingCount network then
        .drop .pendingQueueFull
      else .pending := by
  unfold enqueue
  split
  · rfl
  · split <;> rfl

/-- Whether a message finds room does not depend on the messages that wait. -/
theorem decision_enqueue_refill {others : List PendingNpdu}
    (alike : state.router.Alike network others) (now : Nat) (other : UInt16)
    (message : PendingNpdu) (ask : Bool) :
    ((state.refill network others).enqueue now other message ask).1 =
      (state.enqueue now other message ask).1 := by
  rw [decision_enqueue, decision_enqueue]
  simp only [full_refill_iff alike]

/-- A message that finds room joins the queue of its network. -/
theorem keeps_enqueue_self (now : Nat) (message : PendingNpdu) (ask : Bool)
    (room : ¬ state.router.config.pendingLimit.toNat ≤ state.router.pendingCount network) :
    Keeps network [message] state fun state => (state.enqueue now network message ask).2 := by
  cases found : state.router.pending.find? network with
  | none =>
    refine ⟨?_, ?_⟩
    · intro others alike
      have empty : others = [] := by
        rw [Router.Alike, Router.waits_of_none found] at alike
        exact List.map_eq_nil_iff.mp alike
      rw [refill_of_none found, enqueue_first room found, refill_emit, requeue_refill_self, empty,
        List.nil_append]
    · rw [enqueue_first room found, Router.waits_of_none found, List.nil_append]
      exact state.router.waits_insert_self network _
  | some queue =>
    refine ⟨?_, ?_⟩
    · intro others alike
      have filled : (state.refill network others).router.pending.find? network =
          some { queue with waiting := others } := Router.find?_refill_of_find? found others
      have present : (state.enqueueBehind network queue message).router.pending.find? network =
          some { queue with waiting := queue.waiting ++ [message] } :=
        (Table.find?_insert _ _ _ _).trans (if_pos rfl)
      rw [enqueue_behind room found,
        enqueue_behind (mt (full_refill_iff alike network).mp room) filled,
        refill_of_find? found, refill_of_find? present]
      simp only [enqueueBehind, Table.insert_insert]
    · rw [enqueue_behind room found, Router.waits_of_find? found]
      exact state.router.waits_insert_self network _

/-- A message joins no other queue. -/
theorem keeps_enqueue_of_ne (ne : network ≠ other) (now : Nat) (message : PendingNpdu) (ask : Bool)
    (room : ¬ state.router.config.pendingLimit.toNat ≤ state.router.pendingCount other) :
    Keeps network [] state fun state => (state.enqueue now other message ask).2 := by
  cases found : state.router.pending.find? other with
  | none =>
    refine ⟨?_, ?_⟩
    · intro others alike
      rw [enqueue_first room found, enqueue_first (mt (full_refill_iff alike other).mp room)
        ((Router.find?_refill_of_ne ne others).trans found), refill_emit,
        requeue_refill_of_ne ne, queries_refill, List.append_nil]
    · rw [enqueue_first room found, List.append_nil]
      exact state.router.waits_insert_of_ne ne _
  | some queue =>
    refine ⟨?_, ?_⟩
    · intro others alike
      rw [enqueue_behind room found, enqueue_behind (mt (full_refill_iff alike other).mp room)
        ((Router.find?_refill_of_ne ne others).trans found), enqueueBehind_refill_of_ne ne,
        List.append_nil]
    · rw [enqueue_behind room found, List.append_nil]
      exact state.router.waits_insert_of_ne ne _

/-- A message that finds room joins the queue of its network, and no other one. -/
theorem keeps_enqueue (state : Routing) (now : Nat) (network other : UInt16)
    (message : PendingNpdu) (ask : Bool) :
    Keeps network
      (if network = other ∧ (state.enqueue now other message ask).1 = .pending then [message]
        else []) state
      fun state => (state.enqueue now other message ask).2 := by
  by_cases full : state.router.config.pendingLimit.toNat ≤ state.router.pendingCount other
  · have dropped : ¬ (network = other ∧ (state.enqueue now other message ask).1 = .pending) := by
      rw [enqueue_of_full full]
      exact fun both => RoutingDecision.noConfusion both.2
    have said := keeps_emit network state [.failure (.pendingQueueFull other)]
    rw [if_neg dropped]
    refine ⟨?_, ?_⟩
    · intro others alike
      rw [enqueue_of_full full, enqueue_of_full ((full_refill_iff alike other).mpr full)]
      exact said.same others alike
    · rw [enqueue_of_full full]
      exact said.waits
  · have accepted : (state.enqueue now other message ask).1 = .pending :=
      (decision_enqueue ..).trans (if_neg full)
    by_cases same : network = other
    · subst same
      rw [if_pos ⟨rfl, accepted⟩]
      exact keeps_enqueue_self now message ask full
    · rw [if_neg fun both => same both.1]
      exact keeps_enqueue_of_ne same now message ask full

end Routing

end BACnet
