import BACnet.Proofs.Transaction.Endpoint

/-!
# One outcome for each request

A request that has been given a name ends with one outcome, in the step in which its transaction
ends, whatever else happens. In every step the outcomes and the requests that are still open
afterwards are as many as the requests that were open and those that have been made
(`effect_balance`); summed up over a run, the outcomes and the open requests are as many as the
requests that have been made.
-/

namespace BACnet

/-- One if there is something and zero if not. -/
def present {σ : Type} (found : Option σ) : Nat := if found.isSome then 1 else 0

@[simp] theorem present_none {σ : Type} : present (none : Option σ) = 0 := rfl

theorem TransactionKey.eq_client {key : TransactionKey} (side : key.side = .client) :
    key = .client key.peer key.invokeId := by
  cases key
  cases side
  rfl

/-- A new request waits for something. -/
theorem ClientTransaction.start_restarts (config : Config) (invokeId service : UInt8)
    (parameters : Octets) (plan : RequestPlan) :
    ∃ client span, (start config invokeId service parameters plan).progress =
      .restart client span := by
  unfold start transmit
  dsimp only
  split
  · exact ⟨_, _, rfl⟩
  · exact ⟨_, _, rfl⟩

namespace Reaction

variable {σ : Type}

/-- The number of outcomes that are given. -/
def outcomeCount (reaction : Reaction σ) : Nat := reaction.effects.countP (·.isOutcome)

/-- On the side that asks, the reaction of a transaction gives an outcome just when nothing is left
of it. -/
theorem Proper.outcomes_add_present {fit : σ → Prop} {reaction : Reaction σ}
    (proper : reaction.Proper 1 fit) (state : σ) :
    reaction.outcomeCount + present (reaction.progress.leaves (some state)) = 1 := by
  rw [outcomeCount, proper.outcomes]
  cases reaction.progress <;> rfl

end Reaction

namespace Endpoint

/-- Whether the action is the outcome of this exchange. -/
def confirms (peer : Address) (invokeId : UInt8) (action : TransactionAction) : Bool :=
  action.peer = peer ∧ action.invokeId = invokeId ∧ action.effect.isOutcome

/-- Whether a request of this name has no outcome yet. -/
def awaits (endpoint : Endpoint) (peer : Address) (invokeId : UInt8) : Bool :=
  endpoint.transactions.contains (.client peer invokeId)

end Endpoint

namespace EndpointStep

/-- The number of outcomes that are given for an exchange. -/
def confirmed (peer : Address) (invokeId : UInt8) (step : EndpointStep) : Nat :=
  step.actions.countP (Endpoint.confirms peer invokeId)

/-- Whether a request has been sent under this name. -/
def grants (peer : Address) (invokeId : UInt8) (step : EndpointStep) : Bool :=
  step.granted = some (.client peer invokeId)

end EndpointStep

namespace Endpoint

variable {config : Config} {peer : Address} {invokeId : UInt8}

theorem toNat_awaits (endpoint : Endpoint) :
    (endpoint.awaits peer invokeId).toNat =
      present (endpoint.transactions.find? (.client peer invokeId)) := by
  rw [awaits, Transactions.contains_eq_isSome]
  cases endpoint.transactions.find? (.client peer invokeId) <;> rfl

theorem countP_confirms (key : TransactionKey) (reaction : Reaction Transaction) :
    (reaction.effects.map (⟨key.peer, key.invokeId, ·⟩)).countP (confirms peer invokeId) =
      if key.peer = peer ∧ key.invokeId = invokeId then reaction.outcomeCount else 0 :=
  countP_named (·.isOutcome) key reaction.effects

/-- A request goes on to be open, and a name that is taken is not given to a request. -/
theorem Reacts.opens {key : TransactionKey} {found : Option Transaction}
    {reaction : Reaction Transaction} (reacts : Reacts config key found true reaction) :
    found = none ∧ ∃ state span, reaction.progress = .restart state span := by
  cases reacts with
  | asks side service parameters plan =>
    obtain ⟨client, span, restarts⟩ :=
      @ClientTransaction.start_restarts config key.invokeId service parameters plan
    refine ⟨rfl, .client client, span, ?_⟩
    rw [Reaction.map, restarts]
    rfl

/-- In the reaction of a transaction of the side that asks, what was there or has been asked for is
afterwards still there or has its outcome. -/
theorem Reacts.balance {key : TransactionKey} {found : Option Transaction} {asks : Bool}
    {reaction : Reaction Transaction} (reacts : Reacts config key found asks reaction)
    (side : key.side = .client)
    (fits : ∀ transaction, found = some transaction → transaction.Fits config key.side) :
    reaction.outcomeCount + present (reaction.progress.leaves found) =
      present found + asks.toNat := by
  have proper := reacts.proper fits
  rw [side] at proper
  cases asks with
  | true =>
    obtain ⟨rfl, state, span, restarts⟩ := reacts.opens
    rw [Reaction.outcomeCount, proper.outcomes, restarts]
    rfl
  | false =>
    cases found with
    | some transaction => exact proper.outcomes_add_present transaction
    | none =>
      cases reacts with
      | asked answers request =>
        rw [side] at answers
        cases answers
      | discards => rfl

/-- On the side that answers no outcomes are given. -/
theorem outcomes_of_server {key : TransactionKey} {reaction : Reaction Transaction}
    (proper : Transaction.Proper config key.side reaction) (side : key.side = .server) :
    reaction.outcomeCount = 0 := by
  rw [side] at proper
  rw [Reaction.outcomeCount, proper.outcomes]
  exact ite_self 0

/-- The outcomes that a step gives and the requests that are open after it are those that were open
and those that the step has made. -/
theorem effect_balance {before : Endpoint} {now : Nat} {after : EndpointStep}
    (sound : before.transactions.Sound config) (effect : Effect before now after) :
    after.confirmed peer invokeId + (after.endpoint.awaits peer invokeId).toNat =
      (before.awaits peer invokeId).toNat + (after.grants peer invokeId).toNat := by
  cases effect with
  | idle live config_eq same =>
    rw [toNat_awaits, toNat_awaits, Transactions.find?, Transactions.find?, live]
    exact Nat.zero_add _
  | stale popped other => exact Nat.zero_add _
  | @reacts transactions timers key asks reaction live config_eq reacts waits =>
    rw [sound.config_eq] at reacts
    have view : ∀ other, transactions.find? other = before.transactions.find? other := by
      intro other
      rw [Transactions.find?, live, Transactions.find?]
    have proper := reacts.proper (sound.fits key)
    show (reaction.effects.map _).countP _ + _ = _
    rw [countP_confirms, toNat_awaits, toNat_awaits]
    by_cases same : key = .client peer invokeId
    · -- The request itself reacts.
      subst same
      have balance := reacts.balance rfl (sound.fits _)
      rw [if_pos ⟨rfl, rfl⟩]
      show _ + present ((transactions.proceed timers now _ reaction.progress).1.find? _) = _
      rw [Transactions.find?_proceed_self, view, balance]
      cases asks <;> simp [EndpointStep.grants]
    · -- Another transaction reacts. Under the same name it stands on the side that answers.
      have none : (if key.peer = peer ∧ key.invokeId = invokeId then reaction.outcomeCount
          else 0) = 0 := by
        split
        · next named =>
          apply outcomes_of_server proper
          cases side : key.side with
          | server => rfl
          | client =>
            obtain ⟨rfl, rfl⟩ := named
            exact absurd (TransactionKey.eq_client side) same
        · rfl
      rw [none]
      show 0 + present ((transactions.proceed timers now _ reaction.progress).1.find? _) = _
      rw [Transactions.find?_proceed_of_ne _ _ _ _ _ same, view]
      cases asks <;> simp [EndpointStep.grants, same]

/-- A request is sent under a name that is free, and is open afterwards. -/
theorem effect_opens {before : Endpoint} {now : Nat} {after : EndpointStep}
    (effect : Effect before now after) (granted : after.grants peer invokeId) :
    before.awaits peer invokeId = false ∧ after.endpoint.awaits peer invokeId = true := by
  rw [← Bool.toNat_eq_zero, ← Bool.toNat_eq_one, toNat_awaits, toNat_awaits]
  cases effect with
  | idle live config_eq same => simp [EndpointStep.grants] at granted
  | stale popped other => simp [EndpointStep.grants, waits] at granted
  | @reacts transactions timers key asks reaction live config_eq reacts waits =>
    cases asks with
    | false => simp [EndpointStep.grants] at granted
    | true =>
      have same : key = .client peer invokeId := by simpa [EndpointStep.grants] using granted
      subst same
      obtain ⟨absent, state, span, restarts⟩ := reacts.opens
      refine ⟨by rw [absent, present_none], ?_⟩
      show present ((transactions.proceed timers now _ reaction.progress).1.find? _) = 1
      rw [Transactions.find?_proceed_self, restarts]
      rfl

/-- An outcome is given in the step in which the request ceases to be open. -/
theorem effect_closes {before : Endpoint} {now : Nat} {after : EndpointStep}
    (sound : before.transactions.Sound config) (effect : Effect before now after)
    (confirmed : 0 < after.confirmed peer invokeId) :
    before.awaits peer invokeId = true ∧ after.endpoint.awaits peer invokeId = false := by
  have balance := @effect_balance config peer invokeId before now after sound effect
  cases granted : after.grants peer invokeId with
  | true =>
    obtain ⟨free, taken⟩ := effect_opens effect granted
    rw [granted, free, taken] at balance
    simp at balance
    omega
  | false =>
    rw [granted] at balance
    cases asked : before.awaits peer invokeId <;>
      cases still : after.endpoint.awaits peer invokeId <;>
        simp [asked, still] at balance ⊢ <;> omega

/-- Over a run that starts anywhere, the outcomes and the open requests at its end are those that
were open at its start and those that have been made. -/
theorem run_balance (peer : Address) (invokeId : UInt8) {before : Endpoint}
    (sound : before.transactions.Sound config) (events : List (Nat × EndpointEvent)) :
    ((before.steps events).flatMap (·.actions)).countP (confirms peer invokeId) +
        ((before.run events).awaits peer invokeId).toNat =
      (before.awaits peer invokeId).toNat +
        (before.steps events).countP (·.grants peer invokeId) := by
  induction events generalizing before with
  | nil => exact Nat.zero_add _
  | cons first rest ih =>
    obtain ⟨now, event⟩ := first
    have rest_balance := ih (sound_step sound now event)
    have first_balance := @effect_balance config peer invokeId before now _ sound
      (effect_step before now event)
    rw [EndpointStep.confirmed] at first_balance
    simp only [steps, run, List.flatMap_cons, List.countP_append, List.countP_cons]
    cases granted : (before.step now event).grants peer invokeId <;>
      simp [granted] at first_balance ⊢ <;> omega

/-- In every run of a device from its start, and under every name, as many outcomes have been given
as requests have been made, but for the one that is open. An outcome is only given in the step that
ends its transaction, and the name of an open request is not given to another one. -/
theorem confirmed_once (config : Config) (events : List (Nat × EndpointEvent)) (peer : Address)
    (invokeId : UInt8) :
    ((new config).steps events).countP (·.grants peer invokeId) =
        (((new config).steps events).flatMap (·.actions)).countP (confirms peer invokeId) +
          (if ((new config).run events).awaits peer invokeId then 1 else 0) ∧
      ∀ now event,
        (0 < (((new config).run events).step now event).confirmed peer invokeId →
          ((new config).run events).awaits peer invokeId = true ∧
            (((new config).run events).step now event).endpoint.awaits peer invokeId = false) ∧
        ((((new config).run events).step now event).grants peer invokeId = true →
          ((new config).run events).awaits peer invokeId = false) := by
  have sound : (new config).transactions.Sound config := Transactions.sound_new config
  refine ⟨?_, ?_⟩
  · have balance := run_balance peer invokeId sound events
    have closed : (new config).awaits peer invokeId = false := rfl
    rw [closed] at balance
    cases still : ((new config).run events).awaits peer invokeId <;>
      simp [still] at balance ⊢ <;> omega
  · intro now event
    have reached := sound_run sound events
    refine ⟨effect_closes reached (effect_step _ now event), ?_⟩
    intro granted
    exact (effect_opens (effect_step _ now event) granted).1

end Endpoint

end BACnet
