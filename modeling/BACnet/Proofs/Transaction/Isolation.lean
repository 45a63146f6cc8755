import BACnet.Proofs.Transaction.Orderly

/-!
# Transactions leave each other alone

Each message, each answer and each end of a timer is for one transaction at most. What comes of it
is the reaction of this transaction (`Endpoint.step_eq`), which sees nothing but itself, the
configuration and the event, and of which nothing but itself and its timer is changed.
-/

namespace BACnet

/-! ## Timers of others -/

namespace TimerQueue

variable {ε : Type}

/-- Scheduling leaves the other entries where they are. -/
theorem filter_place_of_dropped {handle : TimerHandle} {event : ε}
    {keeps : TimerHandle × ε → Bool} (dropped : keeps (handle, event) = false)
    (entries : List (TimerHandle × ε)) :
    (place handle event entries).filter keeps = entries.filter keeps := by
  induction entries with
  | nil => simp [place, dropped]
  | cons first rest ih =>
    unfold place
    split
    · rw [List.filter_cons, if_neg (by simp [dropped])]
    · rw [List.filter_cons, List.filter_cons, ih]

end TimerQueue

/-- The entries of a queue that are not for this transaction. -/
def TimerQueue.others (queue : TimerQueue TimerEvent) (key : TransactionKey) :
    List (TimerHandle × TimerEvent) :=
  queue.entries.filter (·.2 ≠ .transaction key)

namespace TimerQueue

variable {queue : TimerQueue TimerEvent} {key : TransactionKey}

theorem others_schedule (deadline : Nat) :
    (queue.schedule deadline (.transaction key)).2.others key = queue.others key :=
  filter_place_of_dropped (by simp) queue.entries

/-- A handle that belongs to no other entry can be cancelled. -/
theorem others_cancel {handle : TimerHandle}
    (own : ∀ event, (handle, event) ∈ queue.entries → event = .transaction key) :
    (queue.cancel handle).others key = queue.others key := by
  unfold others cancel
  rw [List.filter_filter]
  apply List.filter_congr
  rintro ⟨same, event⟩ member
  by_cases foreign : event = .transaction key
  · simp [foreign]
  · have apart : same ≠ handle := by
      rintro rfl
      exact foreign (own event member)
    simp [foreign, apart]

theorem others_of_pop? {rest : TimerQueue TimerEvent} {now : Nat} {handle : TimerHandle}
    (popped : queue.pop? now = some (handle, .transaction key, rest)) :
    rest.others key = queue.others key := by
  rw [others, others, (entries_of_pop? popped).1, List.filter_cons, if_neg (by simp)]

end TimerQueue

/-! ## The transaction that is meant -/

/-- The side for which a message is meant. -/
def Apdu.recipient : Apdu → Side
  | confirmedRequest _ => .server
  | unconfirmedRequest _ _ => .server
  | simpleAck _ _ => .client
  | complexAck _ => .client
  | segmentAck ack => if ack.server then .client else .server
  | error _ _ _ _ => .client
  | reject _ _ => .client
  | abort server _ _ => if server then .client else .server

/-- The name of a transaction is made of the sender of a message, the invoke ID that the message
carries, and the side for which it is meant. -/
theorem Transactions.keyOf?_eq (peer : Address) (apdu : Apdu) :
    keyOf? peer apdu = apdu.invokeId?.map fun invokeId => ⟨peer, invokeId, apdu.recipient⟩ := by
  cases apdu with
  | segmentAck ack =>
    obtain ⟨negative, server, invokeId, number, size⟩ := ack
    cases server <;> rfl
  | abort server invokeId reason => cases server <;> rfl
  | _ => rfl

/-- The reaction to an event of the transaction for which it is meant, or of none. -/
def EndpointEvent.reaction (config : Config) (key : TransactionKey) (found : Option Transaction) :
    EndpointEvent → Reaction Transaction
  | .receive _ apdu =>
    match found with
    | some transaction => transaction.receive config key.invokeId apdu
    | none => Transactions.reactionToNew config apdu
  | .respond _ _ outcome =>
    match found with
    | some (.server server) =>
      if server.phase = .processing then
        (server.respond config key.invokeId outcome).map .server
      else .ignore
    | _ => .ignore
  | .abort _ reason =>
    match found with
    | some transaction => transaction.abort key.invokeId reason
    | none => .ignore
  | .expire =>
    match found with
    | some transaction => transaction.timeout config key.invokeId
    | none => .ignore
  | _ => .ignore

namespace Endpoint

/-- The name of the transaction for which a message, an answer or an end that the application asks
for, or the end of a timer is meant. -/
def selects? (endpoint : Endpoint) (now : Nat) : EndpointEvent → Option TransactionKey
  | .receive peer apdu => Transactions.keyOf? peer apdu
  | .respond peer invokeId _ => some (.server peer invokeId)
  | .abort key _ => some key
  | .expire =>
    match endpoint.timers.pop? now with
    | some (_, .transaction key, _) => some key
    | _ => none
  | _ => none

/-- Nothing has changed but the transaction of this name and its only timer, and all that is to be
done is done in its name. -/
structure Isolated (key : TransactionKey) (before : Endpoint) (after : EndpointStep) : Prop where
  config : after.endpoint.transactions.config = before.transactions.config
  invokeIds : after.endpoint.transactions.invokeIds = before.transactions.invokeIds
  others : ∀ other, key ≠ other →
    after.endpoint.transactions.live.find? other = before.transactions.live.find? other
  /-- The entries of the queue that are for something else are the same, in the same order. -/
  foreign : after.endpoint.timers.others key = before.timers.others key
  ownBefore : before.timers.handlesOf (.transaction key) =
    (before.transactions.timer? key).toList
  ownAfter : after.endpoint.timers.handlesOf (.transaction key) =
    (after.endpoint.transactions.timer? key).toList
  named : ∀ action ∈ after.actions, action.peer = key.peer ∧ action.invokeId = key.invokeId

variable {config : Config} {endpoint : Endpoint} {key : TransactionKey}

theorem invokeIds_proceed (transactions : Transactions) (timers : TimerQueue TimerEvent) (now : Nat)
    (progress : Progress Transaction) :
    (transactions.proceed timers now key progress).1.invokeIds = transactions.invokeIds := by
  cases progress <;> rfl

/-- A handle of a transaction is for nothing else. -/
theorem Invariant.own_of_timer? (invariant : endpoint.Invariant config) {handle : TimerHandle}
    (own : endpoint.transactions.timer? key = some handle) {event : TimerEvent}
    (member : (handle, event) ∈ endpoint.timers.entries) : event = .transaction key := by
  refine invariant.wellFormed.event_unique member ?_
  rw [← TimerQueue.mem_handlesOf, invariant.timed, own]
  exact List.mem_singleton_self handle

/-- The timers with which a transaction reacts are those of the device, as far as others are
concerned. -/
theorem others_of_reactsWith {now : Nat} {timers : TimerQueue TimerEvent}
    {reaction : Reaction Transaction} (waits : ReactsWith endpoint now key timers reaction) :
    timers.others key = endpoint.timers.others key ∧
      ∀ entry ∈ timers.entries, entry ∈ endpoint.timers.entries := by
  rcases waits with rfl | ⟨handle, popped, -, -⟩
  · exact ⟨rfl, fun _ member => member⟩
  · refine ⟨TimerQueue.others_of_pop? popped, ?_⟩
    intro entry member
    rw [(TimerQueue.entries_of_pop? popped).1]
    exact List.mem_cons_of_mem _ member

theorem Invariant.others_proceed (invariant : endpoint.Invariant config) {now : Nat}
    {timers : TimerQueue TimerEvent} {reaction : Reaction Transaction}
    (waits : ReactsWith endpoint now key timers reaction) :
    (endpoint.transactions.proceed timers now key reaction.progress).2.others key =
      endpoint.timers.others key := by
  obtain ⟨same, subset⟩ := others_of_reactsWith waits
  have cancelled : (timers.cancel? (endpoint.transactions.timer? key)).others key =
      endpoint.timers.others key := by
    rw [← same]
    cases own : endpoint.transactions.timer? key with
    | none => rfl
    | some handle =>
      apply TimerQueue.others_cancel
      intro event member
      exact invariant.own_of_timer? own (subset _ member)
  cases reaction.progress with
  | keep => exact same
  | finish => exact cancelled
  | restart state span => exact (TimerQueue.others_schedule _).trans cancelled

/-- A transaction may react with these timers. -/
theorem Invariant.ready_of_reactsWith (invariant : endpoint.Invariant config) {now : Nat}
    {timers : TimerQueue TimerEvent} {reaction : Reaction Transaction}
    (waits : ReactsWith endpoint now key timers reaction) :
    Ready endpoint.transactions timers key := by
  rcases waits with rfl | ⟨handle, popped, own, -⟩
  · exact invariant.ready key
  · exact invariant.ready_of_pop popped own

theorem Invariant.isolated_react (invariant : endpoint.Invariant config) {now : Nat}
    {timers : TimerQueue TimerEvent} {reaction : Reaction Transaction}
    (waits : ReactsWith endpoint now key timers reaction) :
    Isolated key endpoint (took (endpoint.transactions.react timers now key reaction)) := by
  refine {
    config := Transactions.config_proceed _ _ _ _ _
    invokeIds := invokeIds_proceed _ _ _ _
    others := fun other ne => Transactions.liveFind?_proceed_of_ne _ _ _ _ _ ne
    foreign := invariant.others_proceed waits
    ownBefore := invariant.timed key
    ownAfter := ?_
    named := ?_ }
  · show (endpoint.transactions.proceed timers now key reaction.progress).2.handlesOf _ =
      ((endpoint.transactions.proceed timers now key reaction.progress).1.timer? key).toList
    by_cases keeps : reaction.progress = .keep
    · -- A timer that has run out is not kept.
      have unmoved : timers = endpoint.timers := by
        rcases waits with same | ⟨_, _, _, moves⟩
        · exact same
        · exact absurd keeps moves
      rw [keeps, unmoved]
      exact invariant.timed key
    · exact ((invariant.ready_of_reactsWith waits).proceed now keeps).2 key
  · intro action member
    obtain ⟨effect, -, rfl⟩ := List.mem_map.mp member
    exact ⟨rfl, rfl⟩

/-! ## Events -/

/-- What comes of an event is the reaction of the transaction for which it is meant. -/
theorem Invariant.step_eq (invariant : endpoint.Invariant config) {now : Nat}
    {event : EndpointEvent} (selected : endpoint.selects? now event = some key) :
    ∃ timers,
      ReactsWith endpoint now key timers
          (event.reaction config key (endpoint.transactions.find? key)) ∧
        endpoint.step now event = took (endpoint.transactions.react timers now key
          (event.reaction config key (endpoint.transactions.find? key))) := by
  have same := invariant.sound.config_eq
  cases event with
  | receive peer apdu =>
    refine ⟨endpoint.timers, .inl rfl, ?_⟩
    change Transactions.keyOf? peer apdu = some key at selected
    rw [step, Transactions.receive, selected, same]
    rfl
  | respond peer invokeId outcome =>
    cases selected
    refine ⟨endpoint.timers, .inl rfl, ?_⟩
    rw [step, Transactions.respond, same]
    dsimp only
    cases endpoint.transactions.find? (.server peer invokeId) with
    | none => rfl
    | some transaction =>
      cases transaction with
      | client client => rfl
      | server server =>
        dsimp only [EndpointEvent.reaction]
        by_cases working : server.phase = .processing
        · rw [if_pos working, if_pos working]
          rfl
        · rw [if_neg working, if_neg working]
          rfl
  | abort name reason =>
    cases selected
    refine ⟨endpoint.timers, .inl rfl, ?_⟩
    rw [step, Transactions.abort]
    cases endpoint.transactions.find? key with
    | none => rfl
    | some transaction => rfl
  | expire =>
    rw [selects?] at selected
    split at selected
    · next handle name timers popped =>
      cases selected
      -- A timer of a transaction that runs out is that of a live one.
      have entered : (handle, TimerEvent.transaction key) ∈ endpoint.timers.entries := by
        rw [(TimerQueue.entries_of_pop? popped).1]
        exact List.mem_cons_self
      obtain ⟨live, found, rfl⟩ := invariant.exists_live entered
      have own := Transactions.timer?_of_live found
      have standing := Transactions.find?_of_live found
      rw [standing]
      refine ⟨timers, .inr ⟨live.timer, popped, own, live.transaction.timeout_ne_keep⟩, ?_⟩
      rw [step, popped]
      dsimp only
      rw [Transactions.timeout, found, same]
      dsimp only
      rw [if_pos rfl]
      rfl
    · cases selected
  | request peer service parameters known => cases selected
  | schedule deadline event => cases selected
  | cancel handle => cases selected

/-- A timer that has not been taken out of the queue before its end is told changes nothing else
either. -/
theorem Invariant.isolated_timeout (invariant : endpoint.Invariant config) (now : Nat)
    (handle : TimerHandle) (key : TransactionKey) :
    Isolated key endpoint
      (took (endpoint.transactions.timeout endpoint.timers now handle key)) := by
  have ignores : Isolated key endpoint (took (endpoint.transactions.unchanged endpoint.timers)) :=
    @Invariant.isolated_react config endpoint key invariant now endpoint.timers .ignore (.inl rfl)
  unfold Transactions.timeout
  split
  · split
    · exact invariant.isolated_react (Or.inl rfl)
    · exact ignores
  · exact ignores

/-- A timer that no transaction waits for means nothing. -/
theorem timeout_of_stale (endpoint : Endpoint) (now : Nat) {handle : TimerHandle}
    (stale : endpoint.transactions.timer? key ≠ some handle) :
    took (endpoint.transactions.timeout endpoint.timers now handle key) =
      ⟨none, [], endpoint⟩ := by
  rw [Transactions.timer?] at stale
  rw [Transactions.timeout]
  cases found : endpoint.transactions.live.find? key with
  | none => rfl
  | some live =>
    have apart : live.timer ≠ handle := by
      rintro rfl
      rw [found] at stale
      exact stale rfl
    dsimp only
    rw [if_neg apart]
    rfl

/-- In the same state the transaction reacts in the same way, whatever else there is. -/
theorem Invariant.agree {other : Endpoint} (invariant : endpoint.Invariant config)
    (twin : other.Invariant config) {now : Nat} {event : EndpointEvent}
    (selected : endpoint.selects? now event = some key)
    (selects : other.selects? now event = some key)
    (same : endpoint.transactions.find? key = other.transactions.find? key) :
    (endpoint.step now event).actions = (other.step now event).actions ∧
      (endpoint.step now event).endpoint.transactions.find? key =
        (other.step now event).endpoint.transactions.find? key := by
  obtain ⟨timers, -, here⟩ := invariant.step_eq selected
  obtain ⟨others, -, there⟩ := twin.step_eq selects
  rw [here, there, same]
  refine ⟨rfl, ?_⟩
  show (endpoint.transactions.proceed timers now key _).1.find? key =
    (other.transactions.proceed others now key _).1.find? key
  rw [Transactions.find?_proceed_self, Transactions.find?_proceed_self, same]

/-- A message that belongs to no transaction, and is no request, means nothing. -/
theorem step_receive_of_unmatched (endpoint : Endpoint) (now : Nat) {peer : Address} {apdu : Apdu}
    (unmatched : ∀ key, Transactions.keyOf? peer apdu = some key →
      endpoint.transactions.find? key = none)
    (other : apdu.type ≠ .confirmedRequest) :
    endpoint.step now (.receive peer apdu) = ⟨none, [], endpoint⟩ := by
  rw [step, Transactions.receive]
  cases named : Transactions.keyOf? peer apdu with
  | none => rfl
  | some key =>
    dsimp only
    rw [unmatched key named]
    cases apdu with
    | confirmedRequest request => exact absurd rfl other
    | _ => rfl

/-- In every state that a device can reach, a message, an answer, an end that the application asks
for and the end of a timer change nothing but the transaction for which they are meant and its only
timer, and all that is done is done in its name; for which one a message is meant is told by its
sender, its invoke ID and its kind. A timer that no transaction waits for means nothing. What is
done, and what becomes of the transaction, is the same at every device with this configuration that
has the same transaction under this name. A message that belongs to no transaction and is no request
means nothing. -/
theorem isolated_run (config : Config) (events : List (Nat × EndpointEvent)) :
    (∀ now event key, ((new config).run events).selects? now event = some key →
        Isolated key ((new config).run events) (((new config).run events).step now event)) ∧
      (∀ now handle key,
        Isolated key ((new config).run events)
          (took (((new config).run events).transactions.timeout ((new config).run events).timers now
            handle key)) ∧
        (((new config).run events).transactions.timer? key ≠ some handle →
          took (((new config).run events).transactions.timeout ((new config).run events).timers now
            handle key) = ⟨none, [], (new config).run events⟩)) ∧
      (∀ peer apdu, Transactions.keyOf? peer apdu =
        apdu.invokeId?.map fun invokeId => ⟨peer, invokeId, apdu.recipient⟩) ∧
      (∀ others now event key, ((new config).run events).selects? now event = some key →
        ((new config).run others).selects? now event = some key →
        ((new config).run events).transactions.find? key =
          ((new config).run others).transactions.find? key →
        (((new config).run events).step now event).actions =
            (((new config).run others).step now event).actions ∧
          (((new config).run events).step now event).endpoint.transactions.find? key =
            (((new config).run others).step now event).endpoint.transactions.find? key) ∧
      ∀ now peer apdu,
        (∀ key, Transactions.keyOf? peer apdu = some key →
          ((new config).run events).transactions.find? key = none) →
        apdu.type ≠ .confirmedRequest →
        ((new config).run events).step now (.receive peer apdu) =
          ⟨none, [], (new config).run events⟩ := by
  have reached : ∀ events, ((new config).run events).Invariant config :=
    invariant_run (invariant_new config)
  refine ⟨?_, ?_, Transactions.keyOf?_eq, ?_, ?_⟩
  · intro now event key selected
    obtain ⟨timers, waits, step⟩ := (reached events).step_eq selected
    rw [step]
    exact (reached events).isolated_react waits
  · exact fun now handle key =>
      ⟨(reached events).isolated_timeout now handle key, timeout_of_stale _ now⟩
  · intro others now event key selected selects same
    exact (reached events).agree (reached others) selected selects same
  · intro now peer apdu unmatched other
    exact step_receive_of_unmatched _ now unmatched other

end Endpoint

end BACnet
