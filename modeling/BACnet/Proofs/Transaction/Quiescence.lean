import BACnet.Proofs.Transaction.Exchange
import BACnet.Proofs.Transaction.Orderly
import BACnet.Proofs.Transaction.Outcomes

/-!
# Transactions that are left alone

A device that hears nothing more and is asked for nothing more comes to rest: its timers run out one
after the other, and each of them ends a transaction or uses up one of the attempts that it has
left.

How many timers can still run out is told by the transactions (`Endpoint.firingsLeft`). A request
that has been sent in segments and awaits its answer starts over with all its attempts, but does so
only once, because nobody acknowledges its segments any more.
-/

namespace BACnet

/-! ## Weights of tables -/

namespace Table

variable {κ α : Type}

/-- The sum of the weights of the values in a list of pairs. -/
def weigh (weight : α → Nat) : List (κ × α) → Nat
  | [] => 0
  | (_, value) :: rest => weight value + weigh weight rest

/-- The sum of the weights of all values. -/
def total (weight : α → Nat) (table : Table κ α) : Nat := weigh weight table.entries

variable [DecidableEq κ] (weight : α → Nat)

theorem weigh_write (key : κ) (value : α) (entries : List (κ × α)) :
    weigh weight (write key value entries) + ((lookup key entries).map weight).getD 0 =
      weigh weight entries + weight value := by
  induction entries with
  | nil => simp [write, lookup, weigh]
  | cons entry rest ih =>
    obtain ⟨first, old⟩ := entry
    by_cases same : first = key
    · simp only [write, lookup, weigh, if_pos same, Option.map_some, Option.getD_some]
      omega
    · simp only [write, lookup, weigh, if_neg same]
      omega

theorem weigh_filter_ne (key : κ) (entries : List (κ × α)) :
    weigh weight (entries.filter (·.1 ≠ key)) + ((lookup key entries).map weight).getD 0 ≤
      weigh weight entries := by
  induction entries with
  | nil => simp [lookup, weigh]
  | cons entry rest ih =>
    obtain ⟨first, old⟩ := entry
    by_cases same : first = key
    · simp only [List.filter_cons, lookup, weigh, same, if_pos, ne_eq, not_true_eq_false,
        decide_false, Bool.false_eq_true, if_false, Option.map_some, Option.getD_some]
      simp only [ne_eq] at ih
      omega
    · simp only [List.filter_cons, lookup, weigh, same, ne_eq, not_false_eq_true, decide_true,
        if_true, if_false]
      simp only [ne_eq] at ih
      omega

theorem total_insert (table : Table κ α) (key : κ) (value : α) :
    (table.insert key value).total weight + ((table.find? key).map weight).getD 0 =
      table.total weight + weight value :=
  weigh_write weight key value table.entries

theorem total_erase (table : Table κ α) (key : κ) :
    (table.erase key).total weight + ((table.find? key).map weight).getD 0 ≤
      table.total weight :=
  weigh_filter_ne weight key table.entries

theorem isEmpty_of_find? {table : Table κ α} (absent : ∀ key, table.find? key = none) :
    table.isEmpty = true := by
  obtain ⟨entries⟩ := table
  cases entries with
  | nil => rfl
  | cons entry rest =>
    have missing := absent entry.1
    simp [find?, lookup] at missing

end Table

/-! ## Attempts that are left -/

/-- How often the timer of a request can run out if nothing else happens. -/
def ClientTransaction.firings (retries : Nat) (client : ClientTransaction) : Nat :=
  match client.phase with
  | .segmentedRequest => retries - client.send.retries + 1
  | .awaitingAck =>
    -- The segments are sent once more, with all attempts that they have.
    if client.send.isSegmented ∧ client.retries < retries then retries + 2
    else retries - client.retries + 1
  | .segmentedReceive _ => 1

/-- How often the timer of a request of another device can run out if nothing else happens. -/
def ServerTransaction.firings (retries : Nat) (server : ServerTransaction) : Nat :=
  match server.phase with
  | .segmentedReceive _ => 1
  | .processing => 1
  | .segmentedResponse window => retries - window.retries + 1

/-- How often the timer of a transaction can run out if nothing else happens. -/
def Transaction.firings (retries : Nat) : Transaction → Nat
  | client transaction => transaction.firings retries
  | server transaction => transaction.firings retries

/-- The reaction to the end of a timer: applications are told of nothing but a request without
answer, and if the transaction goes on it has fewer attempts left. -/
structure Reaction.WearsOut {σ : Type} (firings : σ → Nat) (left : Nat) (reaction : Reaction σ) :
    Prop where
  told : ∀ effect ∈ reaction.effects, effect.isTold → effect = .confirm (.error .timeout)
  fewer : ∀ state span, reaction.progress = .restart state span → firings state + 1 ≤ left

namespace Reaction

variable {σ τ : Type} {firings : σ → Nat} {left : Nat}

theorem wearsOut_finish {effects : List TransactionEffect}
    (told : ∀ effect ∈ effects, effect.isTold → effect = .confirm (.error .timeout)) :
    WearsOut firings left (⟨effects, .finish⟩ : Reaction σ) := by
  refine ⟨told, ?_⟩
  rintro _ _ ⟨⟩

theorem wearsOut_restart {effects : List TransactionEffect}
    (silent : ∀ effect ∈ effects, effect.isTold = false) {state : σ}
    (fewer : firings state + 1 ≤ left) (span : Nat) :
    WearsOut firings left ⟨effects, .restart state span⟩ := by
  refine ⟨?_, ?_⟩
  · intro effect member told
    rw [silent effect member] at told
    cases told
  · rintro _ _ ⟨⟩
    exact fewer

theorem WearsOut.map {reaction : Reaction σ} (wears : reaction.WearsOut firings left)
    {embed : σ → τ} {firings' : τ → Nat} (same : ∀ state, firings' (embed state) = firings state) :
    (reaction.map embed).WearsOut firings' left := by
  refine ⟨wears.told, ?_⟩
  intro state span restarts
  obtain ⟨old, goesOn, rfl⟩ := exists_restart_of_map restarts
  rw [same]
  exact wears.fewer old span goesOn

end Reaction

namespace ClientTransaction

variable (client : ClientTransaction) (config : Config) (invokeId : UInt8)

theorem firings_pos (retries : Nat) : 0 < client.firings retries := by
  unfold firings
  split
  · exact Nat.succ_pos _
  · split <;> exact Nat.succ_pos _
  · exact Nat.one_pos

theorem untold_sendSegments (segments : List Segment) :
    ∀ effect ∈ client.sendSegments config invokeId segments, effect.isTold = false := by
  intro effect member
  obtain ⟨segment, _, rfl⟩ := List.mem_map.mp member
  rfl

theorem wearsOut_conclude {firings : ClientTransaction → Nat} {left : Nat} :
    (conclude (.error .timeout)).WearsOut firings left :=
  Reaction.wearsOut_finish fun _ member _ => List.mem_singleton.mp member

/-- A request that is sent anew has fewer attempts left than one that has just been given up. -/
theorem wearsOut_transmit {left : Nat}
    (segmented : client.send.isSegmented → config.apduRetries.toNat + 2 ≤ left)
    (whole : ¬ client.send.isSegmented →
      config.apduRetries.toNat - client.retries + 2 ≤ left) :
    (client.transmit config invokeId).WearsOut (firings config.apduRetries.toNat) left := by
  unfold transmit
  dsimp only
  split
  · next several =>
    refine Reaction.wearsOut_restart (untold_sendSegments _ _ _ _) ?_ _
    have enough := segmented several
    show config.apduRetries.toNat - 0 + 1 + 1 ≤ left
    omega
  · next single =>
    have enough := whole single
    refine Reaction.wearsOut_restart (List.forall_mem_singleton.mpr rfl) ?_ _
    unfold firings
    dsimp only
    rw [if_neg (fun both => single both.1)]
    exact enough

theorem wearsOut_timeout :
    (client.timeout config invokeId).WearsOut (firings config.apduRetries.toNat)
      (client.firings config.apduRetries.toNat) := by
  unfold timeout
  split
  · next phase =>
    split
    · next more =>
      refine Reaction.wearsOut_restart (untold_sendSegments _ _ _ _) ?_ _
      simp only [firings, phase, SendWindow.countRetry]
      omega
    · exact wearsOut_conclude
  · next phase =>
    split
    · next more =>
      apply wearsOut_transmit
      · intro several
        simp only [firings, phase, several, more, and_self, if_true]
        exact Nat.le_refl _
      · intro single
        simp only [firings, phase, single, false_and, if_false, Bool.false_eq_true]
        omega
    · exact wearsOut_conclude
  · exact wearsOut_conclude

end ClientTransaction

namespace ServerTransaction

variable (server : ServerTransaction) (config : Config) (invokeId : UInt8)

theorem firings_pos (retries : Nat) : 0 < server.firings retries := by
  unfold firings
  split <;> exact Nat.succ_pos _

theorem wearsOut_timeout :
    (server.timeout config invokeId).WearsOut (firings config.apduRetries.toNat)
      (server.firings config.apduRetries.toNat) := by
  unfold timeout
  split
  · exact Reaction.wearsOut_finish (List.forall_mem_nil _)
  · apply Reaction.wearsOut_finish
    intro effect member told
    rw [List.mem_singleton.mp member] at told
    cases told
  · next window phase =>
    split
    · next more =>
      refine Reaction.wearsOut_restart ?_ ?_ _
      · intro effect member
        obtain ⟨segment, _, rfl⟩ := List.mem_map.mp member
        rfl
      · simp only [firings, phase, SendWindow.countRetry]
        omega
    · exact Reaction.wearsOut_finish (List.forall_mem_nil _)

end ServerTransaction

namespace Transaction

variable (transaction : Transaction) (config : Config) (invokeId : UInt8)

theorem firings_pos (retries : Nat) : 0 < transaction.firings retries := by
  cases transaction with
  | client client => exact client.firings_pos retries
  | server server => exact server.firings_pos retries

theorem wearsOut_timeout :
    (transaction.timeout config invokeId).WearsOut (firings config.apduRetries.toNat)
      (transaction.firings config.apduRetries.toNat) := by
  cases transaction with
  | client client => exact (client.wearsOut_timeout config invokeId).map fun _ => rfl
  | server server => exact (server.wearsOut_timeout config invokeId).map fun _ => rfl

end Transaction

/-! ## Timers that run out -/

namespace Endpoint

/-- The earliest timer of a transaction runs out. Timers for something else may stand before it. -/
inductive Fires : Endpoint → EndpointStep → Prop where
  | earliest {endpoint : Endpoint} {handle : TimerHandle} {key : TransactionKey}
    {before after : List (TimerHandle × TimerEvent)} (now : Nat)
    (queue : endpoint.timers.entries = before ++ (handle, .transaction key) :: after)
    (foreign : ∀ entry ∈ before, entry.2.isTransaction = false)
    (due : handle.deadline ≤ now) :
    Fires endpoint <| took <|
      endpoint.transactions.timeout (endpoint.timers.cancel handle) now handle key

/-- Timers run out one after the other, and nothing else happens. -/
inductive Firings : Endpoint → List EndpointStep → Endpoint → Prop where
  | none (endpoint : Endpoint) : Firings endpoint [] endpoint
  | next {endpoint last : Endpoint} {step : EndpointStep} {steps : List EndpointStep}
    (fires : Fires endpoint step) (rest : Firings step.endpoint steps last) :
    Firings endpoint (step :: steps) last

/-- There is no transaction and no timer of one. -/
structure Quiet (endpoint : Endpoint) : Prop where
  transactions : endpoint.transactions.isEmpty = true
  timers : ∀ entry ∈ endpoint.timers.entries, entry.2.isTransaction = false

/-- How often the timers of all transactions can run out if nothing else happens. -/
def firingsLeft (endpoint : Endpoint) : Nat :=
  endpoint.transactions.live.total
    (·.transaction.firings endpoint.transactions.config.apduRetries.toNat)

variable {config : Config} {endpoint : Endpoint}

/-- When a timer runs out its transaction reacts, and may do so. -/
theorem Invariant.fires (invariant : endpoint.Invariant config) {step : EndpointStep}
    (fires : Fires endpoint step) :
    ∃ (timers : TimerQueue TimerEvent) (now : Nat) (key : TransactionKey) (live : LiveTransaction),
      endpoint.transactions.live.find? key = some live ∧
      Ready endpoint.transactions timers key ∧
      step = took (endpoint.transactions.react timers now key
        (live.transaction.timeout config key.invokeId)) := by
  obtain ⟨now, queue, foreign, due⟩ := fires
  next handle key before after =>
  have entered : (handle, TimerEvent.transaction key) ∈ endpoint.timers.entries := by
    rw [queue]
    exact List.mem_append_right _ List.mem_cons_self
  obtain ⟨live, found, rfl⟩ := invariant.exists_live entered
  have own := Transactions.timer?_of_live found
  refine ⟨endpoint.timers.cancel live.timer, now, key, live, found, ?_, ?_⟩
  · obtain ⟨-, others, mine⟩ := invariant.ready key
    rw [own] at others mine
    have again : (endpoint.timers.cancel live.timer).cancel? (some live.timer) =
        endpoint.timers.cancel? (some live.timer) := TimerQueue.cancel_cancel _ _
    refine ⟨invariant.wellFormed.cancel live.timer, ?_, ?_⟩
    · intro other ne
      rw [own, again]
      exact others other ne
    · rw [own, again]
      exact mine
  · rw [Transactions.timeout, found]
    dsimp only
    rw [if_pos rfl, invariant.sound.config_eq]

theorem Invariant.fits (invariant : endpoint.Invariant config) {key : TransactionKey}
    {live : LiveTransaction} (found : endpoint.transactions.live.find? key = some live) :
    live.transaction.Fits config key.side := by
  exact invariant.sound.fits key live.transaction (Transactions.find?_of_live found)

theorem Invariant.of_fires (invariant : endpoint.Invariant config) {step : EndpointStep}
    (fires : Fires endpoint step) : step.endpoint.Invariant config := by
  obtain ⟨timers, now, key, live, found, ready, rfl⟩ := invariant.fires fires
  have moves : (live.transaction.timeout config key.invokeId).progress ≠ .keep :=
    live.transaction.timeout_ne_keep
  have proper : Transaction.Proper config key.side
      (live.transaction.timeout config key.invokeId) :=
    (invariant.fits found).proper_timeout
  obtain ⟨wellFormed, timed⟩ := ready.proceed now moves
  exact ⟨invariant.sound.proceed timers now key proper, wellFormed, timed⟩

theorem Invariant.of_firings (invariant : endpoint.Invariant config) {steps : List EndpointStep}
    {last : Endpoint} (firings : Firings endpoint steps last) : last.Invariant config := by
  induction firings with
  | none => exact invariant
  | next fires _ ih => exact ih (invariant.of_fires fires)

/-- A device is quiet just when no timer of a transaction can run out any more. -/
theorem Invariant.quiet_iff (invariant : endpoint.Invariant config) :
    endpoint.Quiet ↔ ∀ step, ¬ Fires endpoint step := by
  constructor
  · rintro quiet _ ⟨now, queue, foreign, due⟩
    next handle key before after =>
    have calm := quiet.timers (handle, .transaction key) (by
      rw [queue]
      exact List.mem_append_right _ List.mem_cons_self)
    cases calm
  · intro idle
    have foreign : ∀ entry ∈ endpoint.timers.entries, entry.2.isTransaction = false := by
      apply Classical.byContradiction
      intro some
      -- The first timer of a transaction can run out.
      have found : (endpoint.timers.entries.find? (·.2.isTransaction)).isSome := by
        rw [List.find?_isSome]
        simpa using some
      obtain ⟨⟨handle, event⟩, first⟩ := Option.isSome_iff_exists.mp found
      obtain ⟨own, before, after, queue, others⟩ := List.find?_eq_some_iff_append.mp first
      cases event with
      | transaction key =>
        refine idle _ (.earliest handle.deadline queue ?_ (Nat.le_refl _))
        intro entry member
        simpa using others entry member
      | routeResolution network => cases own
      | communicationControl => cases own
    refine ⟨Table.isEmpty_of_find? ?_, foreign⟩
    intro key
    cases found : endpoint.transactions.live.find? key with
    | none => rfl
    | some live =>
      -- A transaction has a timer in the queue.
      have entered : (live.timer, TimerEvent.transaction key) ∈ endpoint.timers.entries := by
        rw [← TimerQueue.mem_handlesOf, invariant.handlesOf_live found]
        exact List.mem_singleton_self _
      cases foreign _ entered

/-! ## The bound -/

/-- A timer that runs out is one less that is left to run out. -/
theorem Invariant.firingsLeft_lt (invariant : endpoint.Invariant config) {step : EndpointStep}
    (fires : Fires endpoint step) : step.endpoint.firingsLeft + 1 ≤ endpoint.firingsLeft := by
  obtain ⟨timers, now, key, live, found, ready, rfl⟩ := invariant.fires fires
  have wears := live.transaction.wearsOut_timeout config key.invokeId
  have moves : (live.transaction.timeout config key.invokeId).progress ≠ .keep :=
    live.transaction.timeout_ne_keep
  have some := live.transaction.firings_pos config.apduRetries.toNat
  have config_eq := invariant.sound.config_eq
  generalize live.transaction.timeout config key.invokeId = reaction at wears moves
  obtain ⟨effects, progress⟩ := reaction
  unfold firingsLeft
  cases progress with
  | keep => exact absurd rfl moves
  | finish =>
    show (endpoint.transactions.live.erase key).total
      (·.transaction.firings endpoint.transactions.config.apduRetries.toNat) + 1 ≤ _
    have erased := endpoint.transactions.live.total_erase
      (·.transaction.firings endpoint.transactions.config.apduRetries.toNat) key
    rw [found, Option.map_some, Option.getD_some, config_eq] at erased
    rw [config_eq]
    omega
  | restart next span =>
    have fewer := wears.fewer next span rfl
    obtain ⟨timer, inserted⟩ : ∃ timer, (took (endpoint.transactions.react timers now key
        ⟨effects, .restart next span⟩)).endpoint.transactions.live =
        endpoint.transactions.live.insert key ⟨next, timer⟩ := ⟨_, rfl⟩
    rw [inserted]
    show (endpoint.transactions.live.insert key ⟨next, timer⟩).total
      (·.transaction.firings endpoint.transactions.config.apduRetries.toNat) + 1 ≤ _
    have written := endpoint.transactions.live.total_insert
      (·.transaction.firings endpoint.transactions.config.apduRetries.toNat) key ⟨next, timer⟩
    rw [found, Option.map_some, Option.getD_some, config_eq] at written
    change _ = _ + next.firings config.apduRetries.toNat at written
    rw [config_eq]
    omega

theorem Invariant.length_le_firingsLeft (invariant : endpoint.Invariant config)
    {steps : List EndpointStep} {last : Endpoint} (firings : Firings endpoint steps last) :
    steps.length + last.firingsLeft ≤ endpoint.firingsLeft := by
  induction firings with
  | none => exact Nat.le_of_eq (Nat.zero_add _)
  | next fires _ ih =>
    have rest := ih (invariant.of_fires fires)
    have first := invariant.firingsLeft_lt fires
    rw [List.length_cons]
    omega

/-- Timers can run out until the device is quiet. -/
theorem Invariant.exists_quiet (invariant : endpoint.Invariant config) :
    ∃ steps last, Firings endpoint steps last ∧ last.Quiet := by
  generalize bound : endpoint.firingsLeft = left
  -- The induction is on the number of timers that are left to run out.
  induction left using Nat.strongRecOn generalizing endpoint with
  | ind left ih =>
    by_cases quiet : endpoint.Quiet
    · exact ⟨[], endpoint, .none endpoint, quiet⟩
    · rw [invariant.quiet_iff, Classical.not_forall] at quiet
      obtain ⟨step, fires⟩ := quiet
      have fires := Classical.not_not.mp fires
      have fewer := invariant.firingsLeft_lt fires
      obtain ⟨steps, last, rest, quiet⟩ :=
        ih _ (by omega) (invariant.of_fires fires) rfl
      exact ⟨step :: steps, last, .next fires rest, quiet⟩

/-! ## What applications are told -/

theorem Invariant.told_of_fires (invariant : endpoint.Invariant config) {step : EndpointStep}
    (fires : Fires endpoint step) :
    ∀ action ∈ step.actions, action.effect.isTold → action.effect = .confirm (.error .timeout) := by
  obtain ⟨timers, now, key, live, found, ready, rfl⟩ := invariant.fires fires
  intro action member told
  obtain ⟨effect, caused, rfl⟩ := List.mem_map.mp member
  exact (live.transaction.wearsOut_timeout config key.invokeId).told effect caused told

/-- When a timer runs out a request gets its outcome just when it ceases to be open. -/
theorem Invariant.balance_of_fires (invariant : endpoint.Invariant config) {step : EndpointStep}
    (fires : Fires endpoint step) (peer : Address) (invokeId : UInt8) :
    step.confirmed peer invokeId + (step.endpoint.awaits peer invokeId).toNat =
      (endpoint.awaits peer invokeId).toNat := by
  obtain ⟨timers, now, key, live, found, ready, rfl⟩ := invariant.fires fires
  have proper : Transaction.Proper config key.side
      (live.transaction.timeout config key.invokeId) :=
    (invariant.fits found).proper_timeout
  have standing := Transactions.find?_of_live found
  show (List.map _ _).countP _ + _ = _
  rw [countP_confirms, toNat_awaits, toNat_awaits]
  generalize live.transaction.timeout config key.invokeId = reaction at proper
  show _ + present ((endpoint.transactions.proceed timers now key
    reaction.progress).1.find? _) = _
  by_cases same : key = .client peer invokeId
  · subst same
    rw [if_pos ⟨rfl, rfl⟩, Transactions.find?_proceed_self, standing]
    exact proper.outcomes_add_present live.transaction
  · rw [Transactions.find?_proceed_of_ne _ _ _ _ _ same]
    have none : (if key.peer = peer ∧ key.invokeId = invokeId then reaction.outcomeCount
        else 0) = 0 := by
      split
      · next named =>
        apply outcomes_of_server proper
        cases side : key.side with
        | server => rfl
        | client =>
          obtain ⟨rfl, rfl⟩ := named
          exact absurd (TransactionKey.eq_client side) same
      · rfl
    rw [none, Nat.zero_add]

theorem Invariant.told_of_firings (invariant : endpoint.Invariant config)
    {steps : List EndpointStep} {last : Endpoint} (firings : Firings endpoint steps last) :
    ∀ action ∈ steps.flatMap (·.actions),
      action.effect.isTold → action.effect = .confirm (.error .timeout) := by
  induction firings with
  | none => exact List.forall_mem_nil _
  | next fires _ ih =>
    rw [List.flatMap_cons]
    exact List.forall_mem_append.mpr
      ⟨invariant.told_of_fires fires, ih (invariant.of_fires fires)⟩

theorem Invariant.balance_of_firings (invariant : endpoint.Invariant config)
    {steps : List EndpointStep} {last : Endpoint} (firings : Firings endpoint steps last)
    (peer : Address) (invokeId : UInt8) :
    (steps.flatMap (·.actions)).countP (confirms peer invokeId) +
        (last.awaits peer invokeId).toNat = (endpoint.awaits peer invokeId).toNat := by
  induction firings with
  | none => exact Nat.zero_add _
  | next fires _ ih =>
    have rest := ih (invariant.of_fires fires)
    have first := invariant.balance_of_fires fires peer invokeId
    rw [EndpointStep.confirmed] at first
    rw [List.flatMap_cons, List.countP_append]
    omega

/-- Where applications are told of nothing but requests without answer, the outcomes of an exchange
are as many copies of this one. -/
theorem filter_confirms {actions : List TransactionAction}
    (told : ∀ action ∈ actions,
      action.effect.isTold → action.effect = .confirm (.error .timeout))
    (peer : Address) (invokeId : UInt8) :
    actions.filter (confirms peer invokeId) =
      List.replicate (actions.countP (confirms peer invokeId))
        ⟨peer, invokeId, .confirm (.error .timeout)⟩ := by
  rw [List.eq_replicate_iff]
  refine ⟨List.countP_eq_length_filter.symm, ?_⟩
  intro action member
  obtain ⟨happened, confirmed⟩ := List.mem_filter.mp member
  obtain ⟨rfl, rfl, outcome⟩ := of_decide_eq_true confirmed
  have tells : action.effect.isTold = true := by
    cases effect : action.effect with
    | confirm outcome => rfl
    | send apdu =>
      rw [effect] at outcome
      cases outcome
    | indicate service parameters => rfl
  rw [← told action happened tells]

theorem Quiet.awaits_eq_false (quiet : endpoint.Quiet) (peer : Address) (invokeId : UInt8) :
    endpoint.awaits peer invokeId = false := by
  have empty : endpoint.transactions.live.entries = [] := List.isEmpty_iff.mp quiet.transactions
  rw [awaits, Transactions.contains, Table.contains, Table.find?, empty]
  rfl

/-- Whatever a device has done, if it is left alone its timers run out, the earliest first, until it
has no transactions and no timers of transactions. This takes no more firings than its transactions
and the number of retries tell. Then each request that was open has had one outcome, that there is
no answer, and applications have been told nothing else. -/
theorem quiesces (config : Config) (events : List (Nat × EndpointEvent)) :
    (∃ steps last, Firings ((new config).run events) steps last ∧ last.Quiet) ∧
      ∀ steps last, Firings ((new config).run events) steps last →
        steps.length ≤ ((new config).run events).firingsLeft ∧
        (last.Quiet ↔ ∀ step, ¬ Fires last step) ∧
        (∀ action ∈ steps.flatMap (·.actions),
          action.effect.isTold → action.effect = .confirm (.error .timeout)) ∧
        (last.Quiet → ∀ peer invokeId,
          (steps.flatMap (·.actions)).filter (confirms peer invokeId) =
            if ((new config).run events).awaits peer invokeId then
              [⟨peer, invokeId, .confirm (.error .timeout)⟩]
            else []) := by
  have invariant : ((new config).run events).Invariant config :=
    invariant_run (invariant_new config) events
  refine ⟨invariant.exists_quiet, ?_⟩
  intro steps last firings
  have bound := invariant.length_le_firingsLeft firings
  have told := invariant.told_of_firings firings
  refine ⟨by omega, (invariant.of_firings firings).quiet_iff, told, ?_⟩
  intro quiet peer invokeId
  have balance := invariant.balance_of_firings firings peer invokeId
  rw [quiet.awaits_eq_false, Bool.toNat_false, Nat.add_zero] at balance
  rw [filter_confirms told, balance]
  cases ((new config).run events).awaits peer invokeId <;> rfl

end Endpoint

end BACnet
