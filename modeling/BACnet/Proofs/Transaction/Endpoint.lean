import BACnet.Proofs.Timer.Queue
import BACnet.Proofs.Transaction.Reaction

/-!
# Endpoints

The transactions of a device, together with the queue in which their timers stand among others, and
all that can happen to them. What happens either leaves the transactions alone or makes one of them
react (`Endpoint.Effect`); all else about endpoints follows from that.
-/

namespace BACnet

/-- The transactions of a device and its timers. -/
structure Endpoint where
  transactions : Transactions
  timers : TimerQueue TimerEvent
  deriving DecidableEq, Repr

/-- What happens at an endpoint. The queue of timers has other users, who leave the timers of
transactions alone. -/
inductive EndpointEvent where
  /-- The device asks for a service. -/
  | request (peer : Address) (service : UInt8) (parameters : Octets) (known : Option Peer)
  /-- A message arrives. -/
  | receive (peer : Address) (apdu : Apdu)
  /-- The application answers a request. -/
  | respond (peer : Address) (invokeId : UInt8) (outcome : Outcome)
  /-- The application ends a transaction. -/
  | abort (key : TransactionKey) (reason : AbortReason)
  /-- The first timer is taken out of the queue if it is due. -/
  | expire
  /-- Something else is put into the queue. -/
  | schedule (deadline : Nat) (event : TimerEvent)
  /-- Something else is taken out of the queue. -/
  | cancel (handle : TimerHandle)
  deriving DecidableEq

/-- What has come of it. -/
structure EndpointStep where
  /-- The name of the transaction if a request has been sent. -/
  granted : Option TransactionKey
  actions : List TransactionAction
  endpoint : Endpoint
  deriving DecidableEq, Repr

/-- Whether a timer belongs to a transaction. -/
def TimerEvent.isTransaction : TimerEvent → Bool
  | transaction _ => true
  | _ => false

theorem Transactions.contains_eq_isSome (transactions : Transactions) (key : TransactionKey) :
    transactions.contains key = (transactions.find? key).isSome := by
  rw [find?, Option.isSome_map]
  rfl

theorem Transactions.find?_eq_none {transactions : Transactions} {key : TransactionKey}
    (absent : transactions.contains key = false) : transactions.find? key = none := by
  rwa [contains_eq_isSome, Option.isSome_eq_false_iff, Option.isNone_iff_eq_none] at absent

theorem Transactions.find?_of_live {transactions : Transactions} {key : TransactionKey}
    {live : LiveTransaction} (found : transactions.live.find? key = some live) :
    transactions.find? key = some live.transaction := by
  rw [find?, found, Option.map_some]

theorem Transactions.timer?_of_live {transactions : Transactions} {key : TransactionKey}
    {live : LiveTransaction} (found : transactions.live.find? key = some live) :
    transactions.timer? key = some live.timer := by
  rw [timer?, found, Option.map_some]

namespace Endpoint

/-- A device without transactions and timers. -/
def new (config : Config) : Endpoint := ⟨.new config, .empty⟩

/-- What the transactions make of it. -/
def took (step : TransactionStep) : EndpointStep :=
  ⟨none, step.actions, ⟨step.transactions, step.timers⟩⟩

/-- Something other than a transaction has changed the timers. -/
def waits (endpoint : Endpoint) (timers : TimerQueue TimerEvent) : EndpointStep :=
  ⟨none, [], { endpoint with timers }⟩

/-- What comes of an event. -/
def step (endpoint : Endpoint) (now : Nat) : EndpointEvent → EndpointStep
  | .request peer service parameters known =>
    let (result, step) :=
      endpoint.transactions.request endpoint.timers now peer service parameters known
    { took step with granted := result.toOption.map (.client peer) }
  | .receive peer apdu => took (endpoint.transactions.receive endpoint.timers now peer apdu)
  | .respond peer invokeId outcome =>
    match endpoint.transactions.respond endpoint.timers now peer invokeId outcome with
    | .ok step => took step
    | .error _ => endpoint.waits endpoint.timers
  | .abort key reason => took (endpoint.transactions.abort endpoint.timers now key reason)
  | .expire =>
    match endpoint.timers.pop? now with
    | none => endpoint.waits endpoint.timers
    | some (handle, .transaction key, timers) =>
      took (endpoint.transactions.timeout timers now handle key)
    | some (_, _, timers) => endpoint.waits timers
  | .schedule deadline event =>
    endpoint.waits <|
      if event.isTransaction then endpoint.timers else (endpoint.timers.schedule deadline event).2
  | .cancel handle =>
    endpoint.waits <|
      if (endpoint.timers.event? handle).any (·.isTransaction) then endpoint.timers
      else endpoint.timers.cancel handle

/-- What comes of events one after the other, each at its time. -/
def steps (endpoint : Endpoint) : List (Nat × EndpointEvent) → List EndpointStep
  | [] => []
  | (now, event) :: rest =>
    endpoint.step now event :: (endpoint.step now event).endpoint.steps rest

/-- The endpoint after events one after the other. -/
def run (endpoint : Endpoint) : List (Nat × EndpointEvent) → Endpoint
  | [] => endpoint
  | (now, event) :: rest => (endpoint.step now event).endpoint.run rest

/-! ## What events lead to -/

/-- The reactions to events, by the transaction that there is under the name, and whether the
reaction is to a request of this device. -/
inductive Reacts (config : Config) (key : TransactionKey) :
    Option Transaction → Bool → Reaction Transaction → Prop where
  | asks (side : key.side = .client) (service : UInt8) (parameters : Octets) (plan : RequestPlan) :
    Reacts config key none true
      ((ClientTransaction.start config key.invokeId service parameters plan).map .client)
  | asked (side : key.side = .server) (request : ConfirmedRequest) :
    Reacts config key none false ((ServerTransaction.start config request).map .server)
  | discards : Reacts config key none false .ignore
  | receives (transaction : Transaction) (apdu : Apdu) :
    Reacts config key (some transaction) false (transaction.receive config key.invokeId apdu)
  | responds (server : ServerTransaction) (outcome : Outcome)
    (working : server.phase = .processing) :
    Reacts config key (some (.server server)) false
      ((server.respond config key.invokeId outcome).map .server)
  | aborts (transaction : Transaction) (reason : AbortReason) :
    Reacts config key (some transaction) false (transaction.abort key.invokeId reason)
  | expires (transaction : Transaction) :
    Reacts config key (some transaction) false (transaction.timeout config key.invokeId)

/-- The timers are those that there were, as far as transactions are concerned. -/
def SameForTransactions (before after : TimerQueue TimerEvent) : Prop :=
  before.WellFormed → after.WellFormed ∧
    ∀ key, after.handlesOf (.transaction key) = before.handlesOf (.transaction key)

/-- The timers with which a transaction reacts: all that there were, or, if it reacts to the end of
its own timer, those that are left. In this case it does not keep its timer. -/
def ReactsWith (before : Endpoint) (now : Nat) (key : TransactionKey)
    (timers : TimerQueue TimerEvent) (reaction : Reaction Transaction) : Prop :=
  timers = before.timers ∨
    ∃ handle, before.timers.pop? now = some (handle, .transaction key, timers) ∧
      before.transactions.timer? key = some handle ∧ reaction.progress ≠ .keep

/-- What can come of an event: nothing, the end of a timer that no transaction has, or the reaction
of one transaction. -/
inductive Effect (before : Endpoint) (now : Nat) : EndpointStep → Prop where
  | idle {transactions : Transactions} {timers : TimerQueue TimerEvent}
    (live : transactions.live = before.transactions.live)
    (config : transactions.config = before.transactions.config)
    (same : SameForTransactions before.timers timers) :
    Effect before now ⟨none, [], ⟨transactions, timers⟩⟩
  | stale {handle : TimerHandle} {key : TransactionKey} {timers : TimerQueue TimerEvent}
    (popped : before.timers.pop? now = some (handle, .transaction key, timers))
    (other : before.transactions.timer? key ≠ some handle) :
    Effect before now (before.waits timers)
  | reacts {transactions : Transactions} {timers : TimerQueue TimerEvent} {key : TransactionKey}
    {asks : Bool} {reaction : Reaction Transaction}
    (live : transactions.live = before.transactions.live)
    (config : transactions.config = before.transactions.config)
    (reacts : Reacts before.transactions.config key (before.transactions.find? key) asks reaction)
    (waits : ReactsWith before now key timers reaction) :
    Effect before now
      { took (transactions.react timers now key reaction) with
        granted := if asks then some key else none }

theorem sameForTransactions_refl (timers : TimerQueue TimerEvent) :
    SameForTransactions timers timers :=
  fun wellFormed => ⟨wellFormed, fun _ => rfl⟩

theorem transaction_ne {event : TimerEvent} (foreign : event.isTransaction = false)
    (key : TransactionKey) : event ≠ .transaction key := by
  rintro rfl
  cases foreign

theorem sameForTransactions_schedule (timers : TimerQueue TimerEvent) (deadline : Nat)
    {event : TimerEvent} (foreign : event.isTransaction = false) :
    SameForTransactions timers (timers.schedule deadline event).2 := by
  intro wellFormed
  refine ⟨wellFormed.schedule deadline event, ?_⟩
  intro key
  exact TimerQueue.handlesOf_schedule_of_ne timers deadline (transaction_ne foreign key)

theorem sameForTransactions_cancel (timers : TimerQueue TimerEvent) {handle : TimerHandle}
    (foreign : (timers.event? handle).any (·.isTransaction) = false) :
    SameForTransactions timers (timers.cancel handle) := by
  intro wellFormed
  refine ⟨wellFormed.cancel handle, ?_⟩
  intro key
  apply TimerQueue.handlesOf_cancel_of_not_mem
  intro member
  have entered := TimerQueue.mem_handlesOf.mp member
  rw [wellFormed.event?_of_mem entered] at foreign
  cases foreign

theorem sameForTransactions_pop {timers rest : TimerQueue TimerEvent} {now : Nat}
    {handle : TimerHandle} {event : TimerEvent}
    (popped : timers.pop? now = some (handle, event, rest))
    (foreign : event.isTransaction = false) : SameForTransactions timers rest := by
  intro wellFormed
  refine ⟨wellFormed.pop? popped, ?_⟩
  intro key
  rw [TimerQueue.handlesOf_of_pop? popped, if_neg (transaction_ne foreign key)]

section

variable (before : Endpoint) (now : Nat)

theorem effect_unchanged : Effect before now (took (before.transactions.unchanged before.timers)) :=
  .idle rfl rfl (sameForTransactions_refl _)

theorem effect_request (peer : Address) (service : UInt8) (parameters : Octets)
    (known : Option Peer) :
    Effect before now (before.step now (.request peer service parameters known)) := by
  unfold step Transactions.request
  dsimp only
  split
  · exact effect_unchanged before now
  · next plan _ =>
    split
    · exact .idle rfl rfl (sameForTransactions_refl _)
    · next id given =>
      have absent := Transactions.find?_eq_none (InvokeIds.not_inUse_of_allocate given)
      have reacts := @Reacts.asks before.transactions.config (.client peer id) rfl
        service parameters plan
      rw [← absent] at reacts
      refine .reacts ?_ ?_ reacts (Or.inl rfl)
      · rfl
      · rfl

theorem effect_receive (peer : Address) (apdu : Apdu) :
    Effect before now (before.step now (.receive peer apdu)) := by
  unfold step Transactions.receive
  dsimp only
  split
  · exact effect_unchanged before now
  · next key named =>
    refine @Effect.reacts _ _ before.transactions before.timers key false _ rfl rfl ?_ (Or.inl rfl)
    cases before.transactions.find? key with
    | some transaction => exact .receives transaction apdu
    | none =>
      -- Only a request starts a transaction.
      show Reacts _ _ _ _ (Transactions.reactionToNew before.transactions.config apdu)
      unfold Transactions.reactionToNew
      split
      · cases named
        exact .asked rfl _
      · exact .discards

theorem effect_respond (peer : Address) (invokeId : UInt8) (outcome : Outcome) :
    Effect before now (before.step now (.respond peer invokeId outcome)) := by
  unfold step Transactions.respond
  dsimp only
  cases found : before.transactions.find? (.server peer invokeId) with
  | none => exact effect_unchanged before now
  | some transaction =>
    cases transaction with
    | client client => exact effect_unchanged before now
    | server server =>
      dsimp only
      by_cases working : server.phase = .processing
      · rw [if_pos working]
        have reacts := @Reacts.responds before.transactions.config (.server peer invokeId)
          server outcome working
        rw [← found] at reacts
        exact .reacts rfl rfl reacts (Or.inl rfl)
      · rw [if_neg working]
        exact effect_unchanged before now

theorem effect_abort (key : TransactionKey) (reason : AbortReason) :
    Effect before now (before.step now (.abort key reason)) := by
  unfold step Transactions.abort
  dsimp only
  split
  · next transaction found =>
    have reacts := @Reacts.aborts before.transactions.config key transaction reason
    rw [← found] at reacts
    exact .reacts rfl rfl reacts (Or.inl rfl)
  · exact effect_unchanged before now

theorem effect_expire : Effect before now (before.step now .expire) := by
  unfold step
  dsimp only
  split
  · exact effect_unchanged before now
  · next handle key timers popped =>
    unfold Transactions.timeout
    split
    · next live found =>
      have waiting := Transactions.timer?_of_live found
      by_cases own : live.timer = handle
      · -- The timer is that of the transaction, which reacts to its end.
        rw [if_pos own]
        have reacts := @Reacts.expires before.transactions.config key live.transaction
        have standing := Transactions.find?_of_live found
        rw [← standing] at reacts
        refine .reacts rfl rfl reacts (Or.inr ⟨handle, popped, own ▸ waiting, ?_⟩)
        exact live.transaction.timeout_ne_keep
      · rw [if_neg own]
        refine .stale popped ?_
        rw [waiting]
        exact fun same => own (Option.some.inj same)
    · next missing =>
      refine .stale popped ?_
      rw [Transactions.timer?, missing]
      nofun
  · next handle event timers foreign popped =>
    refine .idle rfl rfl (sameForTransactions_pop popped ?_)
    cases event with
    | transaction key => exact absurd rfl (foreign key)
    | routeResolution network => rfl
    | communicationControl => rfl

/-- Whatever happens, at most one transaction reacts. -/
theorem effect_step (event : EndpointEvent) : Effect before now (before.step now event) := by
  cases event with
  | request peer service parameters known =>
    exact effect_request before now peer service parameters known
  | receive peer apdu => exact effect_receive before now peer apdu
  | respond peer invokeId outcome => exact effect_respond before now peer invokeId outcome
  | abort key reason => exact effect_abort before now key reason
  | expire => exact effect_expire before now
  | schedule deadline event =>
    refine .idle rfl rfl ?_
    split
    · exact sameForTransactions_refl _
    · next foreign => exact sameForTransactions_schedule _ _ (Bool.eq_false_iff.mpr foreign)
  | cancel handle =>
    refine .idle rfl rfl ?_
    split
    · exact sameForTransactions_refl _
    · next foreign => exact sameForTransactions_cancel _ (Bool.eq_false_iff.mpr foreign)

end

end Endpoint

/-! ## What reactions change -/

/-- What there is of a transaction after its reaction. -/
def Progress.leaves {σ : Type} (before : Option σ) : Progress σ → Option σ
  | finish => none
  | keep => before
  | restart state _ => some state

/-- A machine with more kinds of states is left in the same state. -/
theorem Reaction.leaves_map {σ τ : Type} (reaction : Reaction σ) (embed : σ → τ) (state : σ) :
    (reaction.map embed).progress.leaves (some (embed state)) =
      (reaction.progress.leaves (some state)).map embed := by
  obtain ⟨effects, progress⟩ := reaction
  cases progress <;> rfl

/-- What there is afterwards has either been there before or been entered. -/
theorem Progress.of_leaves_eq_some {σ : Type} {before : Option σ} {progress : Progress σ}
    {state : σ} (left : progress.leaves before = some state) :
    progress = .keep ∧ before = some state ∨ ∃ span, progress = .restart state span := by
  cases progress with
  | finish => cases left
  | keep => exact .inl ⟨rfl, left⟩
  | restart next span =>
    cases left
    exact .inr ⟨span, rfl⟩

namespace Transactions

variable (transactions : Transactions) (timers : TimerQueue TimerEvent) (now : Nat)
  (key : TransactionKey) (progress : Progress Transaction)

theorem config_proceed :
    (transactions.proceed timers now key progress).1.config = transactions.config := by
  cases progress <;> rfl

/-- A reaction changes no other transaction. -/
theorem liveFind?_proceed_of_ne {other : TransactionKey} (ne : key ≠ other) :
    (transactions.proceed timers now key progress).1.live.find? other =
      transactions.live.find? other := by
  cases progress with
  | keep => rfl
  | finish =>
    show (transactions.live.erase key).find? other = _
    rw [Table.find?_erase, if_neg ne]
  | restart transaction span =>
    show (transactions.live.insert key _).find? other = _
    rw [Table.find?_insert, if_neg ne]

theorem find?_proceed_of_ne {other : TransactionKey} (ne : key ≠ other) :
    (transactions.proceed timers now key progress).1.find? other = transactions.find? other := by
  rw [find?, liveFind?_proceed_of_ne _ _ _ _ _ ne, find?]

theorem find?_proceed_self :
    (transactions.proceed timers now key progress).1.find? key =
      progress.leaves (transactions.find? key) := by
  cases progress with
  | keep => rfl
  | finish =>
    show ((transactions.live.erase key).find? key).map _ = none
    rw [Table.find?_erase, if_pos rfl, Option.map_none]
  | restart transaction span =>
    show ((transactions.live.insert key _).find? key).map _ = some transaction
    rw [Table.find?_insert, if_pos rfl, Option.map_some]

/-- The transactions stand on the sides that their names tell, and obey the configuration. -/
structure Sound (config : Config) (transactions : Transactions) : Prop where
  config_eq : transactions.config = config
  fits : ∀ key transaction, transactions.find? key = some transaction →
    transaction.Fits config key.side

theorem sound_new (config : Config) : Sound config (new config) := by
  refine ⟨rfl, ?_⟩
  intro key transaction found
  cases found

/-- The invoke IDs do not matter. -/
theorem Sound.of_live {before after : Transactions} {config : Config} (sound : before.Sound config)
    (live : after.live = before.live) (config_eq : after.config = before.config) :
    after.Sound config := by
  refine ⟨config_eq.trans sound.config_eq, ?_⟩
  intro key transaction found
  rw [find?, live] at found
  exact sound.fits key transaction found

theorem Sound.proceed {transactions : Transactions} {config : Config}
    (sound : transactions.Sound config) {reaction : Reaction Transaction}
    (proper : Transaction.Proper config key.side reaction) :
    Sound config (transactions.proceed timers now key reaction.progress).1 := by
  refine ⟨?_, ?_⟩
  · rw [config_proceed, sound.config_eq]
  · intro other transaction found
    by_cases same : key = other
    · subst same
      rw [find?_proceed_self] at found
      rcases Progress.of_leaves_eq_some found with ⟨-, stays⟩ | ⟨span, restarts⟩
      · exact sound.fits key transaction stays
      · exact proper.fits transaction span restarts
    · rw [find?_proceed_of_ne _ _ _ _ _ same] at found
      exact sound.fits other transaction found

end Transactions

namespace Endpoint

/-- What a transaction wants done is done in its name, and in no other one. -/
theorem countP_named (kind : TransactionEffect → Bool) (key : TransactionKey) {peer : Address}
    {invokeId : UInt8} (effects : List TransactionEffect) :
    (effects.map fun effect => (⟨key.peer, key.invokeId, effect⟩ : TransactionAction)).countP
        (fun action => action.peer = peer ∧ action.invokeId = invokeId ∧ kind action.effect) =
      if key.peer = peer ∧ key.invokeId = invokeId then effects.countP kind else 0 := by
  rw [List.countP_map]
  split
  · next same =>
    apply List.countP_congr
    intro effect _
    simp [same]
  · next other =>
    rw [List.countP_eq_zero]
    intro effect _
    simp only [Function.comp, decide_eq_true_eq]
    rintro ⟨samePeer, sameId, _⟩
    exact other ⟨samePeer, sameId⟩

/-- Every reaction to an event is proper. -/
theorem Reacts.proper {config : Config} {key : TransactionKey} {found : Option Transaction}
    {asks : Bool} {reaction : Reaction Transaction} (reacts : Reacts config key found asks reaction)
    (fits : ∀ transaction, found = some transaction → transaction.Fits config key.side) :
    Transaction.Proper config key.side reaction := by
  cases reacts with
  | asks side service parameters plan =>
    rw [side]
    exact Transaction.proper_client (ClientTransaction.proper_start service parameters plan)
  | asked side request =>
    rw [side]
    exact Transaction.proper_server (ServerTransaction.proper_start request)
  | discards => exact Transaction.proper_ignore key.side
  | receives transaction apdu => exact (fits transaction rfl).proper_receive apdu
  | responds server outcome working =>
    have side : Side.server = key.side := (fits (.server server) rfl).side_eq
    rw [← side]
    exact Transaction.proper_server (ServerTransaction.proper_respond server outcome)
  | aborts transaction reason => exact (fits transaction rfl).proper_abort reason
  | expires transaction => exact (fits transaction rfl).proper_timeout

theorem sound_of_effect {config : Config} {before : Endpoint} {now : Nat} {after : EndpointStep}
    (effect : Effect before now after) (sound : before.transactions.Sound config) :
    after.endpoint.transactions.Sound config := by
  cases effect with
  | idle live config_eq same => exact sound.of_live live config_eq
  | stale popped other => exact sound
  | @reacts transactions timers key asks reaction live config_eq reacts waits =>
    rw [sound.config_eq] at reacts
    exact (sound.of_live live config_eq).proceed timers now key (reacts.proper (sound.fits key))

theorem sound_step {config : Config} {before : Endpoint} (sound : before.transactions.Sound config)
    (now : Nat) (event : EndpointEvent) :
    (before.step now event).endpoint.transactions.Sound config :=
  sound_of_effect (effect_step before now event) sound

theorem sound_run {config : Config} {before : Endpoint}
    (sound : before.transactions.Sound config) (events : List (Nat × EndpointEvent)) :
    (before.run events).transactions.Sound config := by
  induction events generalizing before with
  | nil => exact sound
  | cons first rest ih => exact ih (sound_step sound first.1 first.2)

end Endpoint

end BACnet
