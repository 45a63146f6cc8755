import BACnet.Proofs.Transaction.Lone
import BACnet.Proofs.Transaction.Unanswered

/-!
# The life of a transaction

What a transaction does as long as it is there. All of it comes to its reactions: if each of them
does only what is allowed, and leaves the transaction in a state that is fit, then so does the whole
life (`Steady.doneInLife`), whatever else happens at the device.
-/

namespace BACnet

namespace Endpoint

/-- What is done in the name of a transaction in the course of events, until it is over. -/
def doneInLife (key : TransactionKey) (endpoint : Endpoint) :
    List (Nat × EndpointEvent) → List TransactionEffect
  | [] => []
  | (now, event) :: rest =>
    if endpoint.transactions.contains key then
      (endpoint.step now event).effectsOf key ++
        (endpoint.step now event).endpoint.doneInLife key rest
    else []

/-- A transaction is there from the beginning of events to their end. -/
def Lives (key : TransactionKey) (endpoint : Endpoint) : List (Nat × EndpointEvent) → Prop
  | [] => endpoint.transactions.contains key = true
  | (now, event) :: rest =>
    endpoint.transactions.contains key = true ∧ (endpoint.step now event).endpoint.Lives key rest

instance decidableLives (key : TransactionKey) (endpoint : Endpoint) :
    (events : List (Nat × EndpointEvent)) → Decidable (endpoint.Lives key events)
  | [] => inferInstanceAs (Decidable (_ = true))
  | (now, event) :: rest =>
    have := decidableLives key (endpoint.step now event).endpoint rest
    inferInstanceAs (Decidable
      (_ = true ∧ (endpoint.step now event).endpoint.Lives key rest))

variable {config : Config} {endpoint : Endpoint} {key : TransactionKey}

theorem Lives.exists_find? {events : List (Nat × EndpointEvent)}
    (lives : endpoint.Lives key events) :
    ∃ transaction, endpoint.transactions.find? key = some transaction := by
  have there : endpoint.transactions.contains key = true := by
    cases events with
    | nil => exact lives
    | cons first rest => exact lives.1
  rw [Transactions.contains_eq_isSome] at there
  exact Option.isSome_iff_exists.mp there

/-- Nothing is done in the name of a transaction that is over. -/
theorem doneInLife_of_gone (gone : endpoint.transactions.find? key = none)
    (events : List (Nat × EndpointEvent)) : endpoint.doneInLife key events = [] := by
  cases events with
  | nil => rfl
  | cons first rest =>
    have absent : endpoint.transactions.contains key = false := by
      rw [Transactions.contains_eq_isSome, gone]
      rfl
    rw [doneInLife, absent]
    rfl

/-! ## Steps -/

/-- What is done with an event that is meant for a transaction, and what becomes of it. -/
theorem Invariant.reacts_of_selects (invariant : endpoint.Invariant config) {now : Nat}
    {event : EndpointEvent} (selected : endpoint.selects? now event = some key) :
    (endpoint.step now event).effectsOf key =
        (event.reaction config key (endpoint.transactions.find? key)).effects ∧
      (endpoint.step now event).endpoint.transactions.find? key =
        (event.reaction config key (endpoint.transactions.find? key)).progress.leaves
          (endpoint.transactions.find? key) := by
  obtain ⟨timers, -, does⟩ := invariant.step_eq selected
  obtain ⟨service, voiced⟩ := invariant.voiced_reaction selected
  rw [does]
  exact ⟨effectsOf_react _ _ _ voiced, Transactions.find?_proceed_self _ _ _ _ _⟩

/-- An event that is not meant for a transaction that is there passes it by. -/
theorem Invariant.passesBy_of_find? (invariant : endpoint.Invariant config)
    {transaction : Transaction} (found : endpoint.transactions.find? key = some transaction)
    {now : Nat} {event : EndpointEvent} (other : endpoint.selects? now event ≠ some key) :
    PassesBy key endpoint (endpoint.step now event) := by
  refine invariant.passesBy other fun granted => ?_
  have effect := effect_step endpoint now event
  generalize endpoint.step now event = step at granted effect
  cases effect with
  | idle => cases granted
  | stale => cases granted
  | @reacts _ _ _ asks _ _ _ reacts _ =>
    -- A name that is given to a new request is not in use.
    cases asks with
    | false => cases granted
    | true =>
      cases granted
      rw [found] at reacts
      cases reacts

end Endpoint

/-- Whatever happens to a transaction that is fit, what it does is allowed, and it stays fit. -/
structure Steady (config : Config) (key : TransactionKey) (allowed : TransactionEffect → Prop)
    (fit : Transaction → Prop) : Prop where
  receives : ∀ transaction apdu, fit transaction →
    (transaction.receive config key.invokeId apdu).Obeys allowed fit
  responds : ∀ server outcome, fit (.server server) → server.phase = .processing →
    ((server.respond config key.invokeId outcome).map Transaction.server).Obeys allowed fit
  aborts : ∀ transaction reason, fit transaction →
    (transaction.abort key.invokeId reason).Obeys allowed fit
  expires : ∀ transaction, fit transaction →
    (transaction.timeout config key.invokeId).Obeys allowed fit

namespace Steady

open Endpoint

variable {config : Config} {endpoint : Endpoint} {key : TransactionKey}
  {allowed : TransactionEffect → Prop} {fit : Transaction → Prop} {transaction : Transaction}

theorem reaction (steady : Steady config key allowed fit) (fits : fit transaction)
    (event : EndpointEvent) :
    (event.reaction config key (some transaction)).Obeys allowed fit := by
  cases event with
  | receive peer apdu => exact steady.receives transaction apdu fits
  | abort other reason => exact steady.aborts transaction reason fits
  | expire => exact steady.expires transaction fits
  | respond peer invokeId outcome =>
    cases transaction with
    | client client => exact Reaction.obeys_ignore
    | server server =>
      dsimp only [EndpointEvent.reaction]
      split
      · next working => exact steady.responds server outcome fits working
      · exact Reaction.obeys_ignore
  | request _ _ _ _ | schedule _ _ | cancel _ => exact Reaction.obeys_ignore

/-- A transaction that is fit does only what is allowed, and is fit after each event if it is still
there. -/
theorem step (steady : Steady config key allowed fit) (invariant : endpoint.Invariant config)
    (found : endpoint.transactions.find? key = some transaction) (fits : fit transaction)
    (now : Nat) (event : EndpointEvent) :
    (∀ effect ∈ (endpoint.step now event).effectsOf key, allowed effect) ∧
      ∀ next, (endpoint.step now event).endpoint.transactions.find? key = some next →
        fit next := by
  by_cases selected : endpoint.selects? now event = some key
  · obtain ⟨effects, after⟩ := invariant.reacts_of_selects selected
    have obeys := steady.reaction fits event
    rw [effects, after, found]
    refine ⟨obeys.effects, fun next left => ?_⟩
    rcases Progress.of_leaves_eq_some left with ⟨-, stays⟩ | ⟨span, restarts⟩
    · cases stays
      exact fits
    · exact obeys.fits next span restarts
  · have passes := invariant.passesBy_of_find? found selected
    rw [passes.effectsOf_eq, Transactions.find?, passes.live]
    refine ⟨List.forall_mem_nil _, fun next same => ?_⟩
    cases found.symm.trans same
    exact fits

/-- In its life a transaction does only what is allowed. -/
theorem doneInLife (steady : Steady config key allowed fit)
    (invariant : endpoint.Invariant config)
    (fits : ∀ transaction, endpoint.transactions.find? key = some transaction → fit transaction)
    (events : List (Nat × EndpointEvent)) :
    ∀ effect ∈ endpoint.doneInLife key events, allowed effect := by
  induction events generalizing endpoint with
  | nil => exact List.forall_mem_nil _
  | cons first rest ih =>
    obtain ⟨now, event⟩ := first
    cases found : endpoint.transactions.find? key with
    | none =>
      rw [doneInLife_of_gone found]
      exact List.forall_mem_nil _
    | some transaction =>
      have there : endpoint.transactions.contains key = true := by
        rw [Transactions.contains_eq_isSome, found]
        rfl
      obtain ⟨does, stays⟩ := steady.step invariant found (fits transaction found) now event
      rw [Endpoint.doneInLife, if_pos there]
      exact List.forall_mem_append.mpr
        ⟨does, ih (invariant_of_effect (effect_step endpoint now event) invariant) stays⟩

/-- As long as it lives a transaction is fit. -/
theorem run (steady : Steady config key allowed fit) (invariant : endpoint.Invariant config)
    (fits : ∀ transaction, endpoint.transactions.find? key = some transaction → fit transaction)
    {events : List (Nat × EndpointEvent)} (lives : endpoint.Lives key events) :
    ∃ transaction, (endpoint.run events).transactions.find? key = some transaction ∧
      fit transaction := by
  induction events generalizing endpoint with
  | nil =>
    obtain ⟨transaction, found⟩ := lives.exists_find?
    exact ⟨transaction, found, fits transaction found⟩
  | cons first rest ih =>
    obtain ⟨now, event⟩ := first
    obtain ⟨transaction, found⟩ := lives.exists_find?
    obtain ⟨-, stays⟩ := steady.step invariant found (fits transaction found) now event
    exact ih (invariant_of_effect (effect_step endpoint now event) invariant) stays lives.2

end Steady

end BACnet
