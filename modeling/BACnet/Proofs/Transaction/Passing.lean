import BACnet.Proofs.Transaction.Isolation
import BACnet.Proofs.Transaction.Voice

/-!
# Events that pass a transaction by

Whatever is done is done in the name of one transaction (`TransactionAction.name`), which is told by
what is done. An event that is not meant for a transaction, and does not begin it, passes it by:
neither it nor its timer changes, and nothing is done in its name (`Endpoint.Invariant.passesBy`).
-/

namespace BACnet

/-! ## Names of actions -/

/-- The side that does this. -/
def TransactionEffect.side : TransactionEffect → Side
  | send apdu => if apdu.recipient = .server then .client else .server
  | indicate _ _ => .server
  | confirm _ => .client

/-- The transaction in whose name this is done. -/
def TransactionAction.name (action : TransactionAction) : TransactionKey :=
  ⟨action.peer, action.invokeId, action.effect.side⟩

theorem TransactionEffect.IsOf.side_eq {effect : TransactionEffect} {key : TransactionKey}
    {service : UInt8} (own : effect.IsOf key service) : effect.side = key.side := by
  cases effect with
  | indicate asked parameters => exact own.1.symm
  | confirm outcome => exact Eq.symm own
  | send apdu =>
    have other := own.side
    unfold side
    cases here : key.side <;> cases there : apdu.recipient <;> simp_all

variable {config : Config} {key name : TransactionKey} {service : UInt8}

/-- What a transaction wants done is done in its name. -/
theorem Reaction.name_of_mem {reaction : Reaction Transaction}
    (voiced : Transaction.Voiced name service reaction) {action : TransactionAction}
    (member : action ∈ reaction.effects.map (⟨name.peer, name.invokeId, ·⟩)) :
    action.name = name := by
  obtain ⟨effect, caused, rfl⟩ := List.mem_map.mp member
  show TransactionKey.mk name.peer name.invokeId effect.side = name
  rw [(voiced.effects effect caused).side_eq]

namespace Endpoint

variable {endpoint : Endpoint} {now : Nat} {event : EndpointEvent}

/-- The reaction to an event is in the voice of the transaction for which it is meant. -/
theorem Invariant.voiced_reaction (invariant : endpoint.Invariant config)
    (selected : endpoint.selects? now event = some name) :
    ∃ service, Transaction.Voiced name service
      (event.reaction config name (endpoint.transactions.find? name)) := by
  have silent : ∃ service, Transaction.Voiced name service .ignore := ⟨0, Reaction.obeys_ignore⟩
  have side := fun transaction found => (invariant.sound.fits name transaction found).side_eq
  cases found : endpoint.transactions.find? name with
  | none =>
    cases event with
    | receive peer apdu =>
      cases apdu with
      | confirmedRequest request =>
        cases selected
        exact ⟨_, Transaction.voiced_server (ServerTransaction.voiced_start request)⟩
      | _ => exact silent
    | _ => exact silent
  | some transaction =>
    have side := side transaction found
    cases event with
    | receive peer apdu => exact ⟨_, transaction.voiced_receive side apdu⟩
    | abort other reason => exact ⟨_, transaction.voiced_abort side reason⟩
    | expire => exact ⟨_, transaction.voiced_timeout side⟩
    | respond peer invokeId outcome =>
      cases transaction with
      | client client => exact silent
      | server server =>
        cases selected
        dsimp only [EndpointEvent.reaction]
        split
        · exact ⟨_, Transaction.voiced_server (server.voiced_respond outcome)⟩
        · exact silent
    | request peer service parameters known => cases selected
    | schedule deadline event => cases selected
    | cancel handle => cases selected

/-- The step leaves the transaction and its timer alone, and nothing is done in its name. -/
structure PassesBy (key : TransactionKey) (before : Endpoint) (step : EndpointStep) : Prop where
  live : step.endpoint.transactions.live.find? key = before.transactions.live.find? key
  actions : ∀ action ∈ step.actions, action.name ≠ key

theorem passesBy_react (endpoint : Endpoint) (timers : TimerQueue TimerEvent) (now : Nat)
    {reaction : Reaction Transaction} (other : name ≠ key)
    (voiced : Transaction.Voiced name service reaction) :
    PassesBy key endpoint (took (endpoint.transactions.react timers now name reaction)) := by
  refine ⟨Transactions.liveFind?_proceed_of_ne _ _ _ _ _ other, fun action member same => ?_⟩
  exact other ((Reaction.name_of_mem voiced member).symm.trans same)

theorem passesBy_waits (timers : TimerQueue TimerEvent) :
    PassesBy key endpoint (endpoint.waits timers) :=
  ⟨rfl, List.forall_mem_nil _⟩

/-- A request is made as it has been planned. -/
def begun (endpoint : Endpoint) (now : Nat) (peer : Address) (service : UInt8)
    (parameters : Octets) (plan : RequestPlan) (id : UInt8) (invokeIds : InvokeIds) :
    EndpointStep :=
  { took (Transactions.react { endpoint.transactions with invokeIds } endpoint.timers now
      (.client peer id) ((ClientTransaction.start endpoint.transactions.config id service parameters
        plan).map .client)) with
    granted := some (.client peer id) }

/-- A request is refused and changes nothing but the invoke IDs, or it is made as it has been
planned. -/
theorem step_request (endpoint : Endpoint) (now : Nat) (peer : Address) (service : UInt8)
    (parameters : Octets) (known : Option Peer) :
    (∃ invokeIds, endpoint.step now (.request peer service parameters known) =
      ⟨none, [], ⟨{ endpoint.transactions with invokeIds }, endpoint.timers⟩⟩) ∨
    ∃ plan id invokeIds,
      RequestPlan.new endpoint.transactions.config parameters.length known = .ok plan ∧
      endpoint.transactions.find? (.client peer id) = none ∧
      endpoint.step now (.request peer service parameters known) =
        endpoint.begun now peer service parameters plan id invokeIds := by
  unfold step Transactions.request
  dsimp only
  split
  · exact .inl ⟨endpoint.transactions.invokeIds, rfl⟩
  · next plan planned =>
    split
    · exact .inl ⟨_, rfl⟩
    · next id given =>
      exact .inr ⟨plan, id, _, planned,
        Transactions.find?_eq_none (InvokeIds.not_inUse_of_allocate given), rfl⟩

theorem passesBy_begun (endpoint : Endpoint) (now : Nat) {peer : Address} {id : UInt8}
    (other : TransactionKey.client peer id ≠ key) (service : UInt8) (parameters : Octets)
    (plan : RequestPlan) (invokeIds : InvokeIds) :
    PassesBy key endpoint (endpoint.begun now peer service parameters plan id invokeIds) := by
  have voiced : Transaction.Voiced (.client peer id) service
      ((ClientTransaction.start endpoint.transactions.config id service parameters plan).map
        .client) :=
    Transaction.voiced_client (ClientTransaction.voiced_start service parameters plan)
  have passes := passesBy_react ⟨{ endpoint.transactions with invokeIds }, endpoint.timers⟩
    endpoint.timers now other voiced
  exact ⟨passes.live, passes.actions⟩

/-- An event that is not meant for a transaction, and does not begin it, passes it by. -/
theorem Invariant.passesBy (invariant : endpoint.Invariant config)
    (meant : endpoint.selects? now event ≠ some key)
    (begins : (endpoint.step now event).granted ≠ some key) :
    PassesBy key endpoint (endpoint.step now event) := by
  cases selected : endpoint.selects? now event with
  | some name =>
    obtain ⟨timers, -, does⟩ := invariant.step_eq selected
    obtain ⟨service, voiced⟩ := invariant.voiced_reaction selected
    rw [does]
    exact passesBy_react endpoint timers now (fun same => meant (same ▸ selected)) voiced
  | none =>
    cases event with
    | request peer service parameters known =>
      rcases endpoint.step_request now peer service parameters known with
        ⟨invokeIds, does⟩ | ⟨plan, id, invokeIds, -, -, does⟩
      · rw [does]
        exact ⟨rfl, List.forall_mem_nil _⟩
      · rw [does] at begins ⊢
        exact passesBy_begun endpoint now (fun same => begins (congrArg some same)) _ _ _ _
    | receive peer apdu =>
      change Transactions.keyOf? peer apdu = none at selected
      rw [step, Transactions.receive, selected]
      exact ⟨rfl, List.forall_mem_nil _⟩
    | respond peer invokeId outcome => cases selected
    | abort name reason => cases selected
    | expire =>
      unfold step
      dsimp only
      rw [selects?] at selected
      split
      · exact passesBy_waits _
      · next handle name timers popped =>
        rw [popped] at selected
        cases selected
      · exact passesBy_waits _
    | schedule deadline event => exact passesBy_waits _
    | cancel handle => exact passesBy_waits _

end Endpoint

end BACnet
