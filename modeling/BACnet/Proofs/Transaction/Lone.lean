import BACnet.Proofs.Transaction.Exchange

/-!
# Devices with one transaction

A device that makes one request, or answers one, has transactions under one name only. Whatever
happens to it comes to the reactions of this transaction, so that what all of these obey holds of
the device: `Endpoint.keeps_receive`, `Endpoint.keeps_respond`, `Endpoint.keeps_expire` and
`Endpoint.keeps_request` are all that is needed to know about the events.
-/

namespace BACnet

/-! ## Reactions -/

/-- Everything that is to be done is allowed, and if a state is entered it is fit. -/
structure Reaction.Obeys {σ : Type} (allowed : TransactionEffect → Prop) (fit : σ → Prop)
    (reaction : Reaction σ) : Prop where
  effects : ∀ effect ∈ reaction.effects, allowed effect
  fits : ∀ state span, reaction.progress = .restart state span → fit state

namespace Reaction

variable {σ τ : Type} {allowed : TransactionEffect → Prop} {fit : σ → Prop}

theorem obeys_ignore : (ignore : Reaction σ).Obeys allowed fit := by
  refine ⟨List.forall_mem_nil _, ?_⟩
  rintro _ _ ⟨⟩

theorem obeys_finish {effects : List TransactionEffect}
    (each : ∀ effect ∈ effects, allowed effect) :
    Obeys allowed fit (⟨effects, .finish⟩ : Reaction σ) := by
  refine ⟨each, ?_⟩
  rintro _ _ ⟨⟩

theorem obeys_restart {effects : List TransactionEffect}
    (each : ∀ effect ∈ effects, allowed effect) {state : σ} (fits : fit state) (span : Nat) :
    Obeys allowed fit ⟨effects, .restart state span⟩ := by
  refine ⟨each, ?_⟩
  rintro _ _ ⟨⟩
  exact fits

theorem Obeys.after {reaction : Reaction σ} (obeys : reaction.Obeys allowed fit)
    {effects : List TransactionEffect} (each : ∀ effect ∈ effects, allowed effect) :
    (after effects reaction).Obeys allowed fit :=
  ⟨List.forall_mem_append.mpr ⟨each, obeys.effects⟩, obeys.fits⟩

theorem Obeys.map {reaction : Reaction σ} (obeys : reaction.Obeys allowed fit) {embed : σ → τ}
    {fit' : τ → Prop} (fits : ∀ state, fit state → fit' (embed state)) :
    (reaction.map embed).Obeys allowed fit' := by
  refine ⟨obeys.effects, ?_⟩
  intro state span restarts
  obtain ⟨old, goesOn, rfl⟩ := exists_restart_of_map restarts
  exact fits old (obeys.fits old span goesOn)

end Reaction

/-! ## Transactions under one name -/

/-- There is no transaction under any other name, and the one under this name, if there is one, is
fit. -/
structure Transactions.Lone (config : Config) (key : TransactionKey) (fit : Transaction → Prop)
    (transactions : Transactions) : Prop where
  config_eq : transactions.config = config
  others : ∀ other, key ≠ other → transactions.find? other = none
  fits : ∀ transaction, transactions.find? key = some transaction → fit transaction

/-- What has happened is allowed, and there is still no transaction under another name. -/
structure EndpointStep.Keeps (config : Config) (key : TransactionKey)
    (allowed : TransactionEffect → Prop) (fit : Transaction → Prop) (step : EndpointStep) :
    Prop where
  lone : step.endpoint.transactions.Lone config key fit
  actions : ∀ action ∈ step.actions,
    ∃ effect, allowed effect ∧ action = ⟨key.peer, key.invokeId, effect⟩

variable {config : Config} {key : TransactionKey} {allowed : TransactionEffect → Prop}
  {fit : Transaction → Prop}

theorem EndpointStep.Keeps.granting {step : EndpointStep}
    (keeps : step.Keeps config key allowed fit) (granted : Option TransactionKey) :
    Keeps config key allowed fit { step with granted } :=
  ⟨keeps.lone, keeps.actions⟩

namespace Transactions

variable {transactions : Transactions}

theorem lone_new (config : Config) : (new config).Lone config key fit := by
  refine ⟨rfl, fun _ _ => rfl, ?_⟩
  rintro _ ⟨⟩

/-- The invoke IDs do not matter. -/
theorem Lone.withInvokeIds (lone : transactions.Lone config key fit) (invokeIds : InvokeIds) :
    Lone config key fit { transactions with invokeIds } :=
  ⟨lone.config_eq, lone.others, lone.fits⟩

theorem Lone.keeps_react (lone : transactions.Lone config key fit) (timers : TimerQueue TimerEvent)
    (now : Nat) {reaction : Reaction Transaction} (obeys : reaction.Obeys allowed fit) :
    (Endpoint.took (transactions.react timers now key reaction)).Keeps config key allowed fit := by
  refine ⟨⟨?_, ?_, ?_⟩, ?_⟩
  · show (transactions.proceed timers now key reaction.progress).1.config = config
    rw [config_proceed, lone.config_eq]
  · intro other ne
    show (transactions.proceed timers now key reaction.progress).1.find? other = none
    rw [find?_proceed_of_ne _ _ _ _ _ ne, lone.others other ne]
  · intro transaction found
    change (transactions.proceed timers now key reaction.progress).1.find? key = _ at found
    rw [find?_proceed_self] at found
    rcases Progress.of_leaves_eq_some found with ⟨-, stays⟩ | ⟨span, restarts⟩
    · exact lone.fits transaction stays
    · exact obeys.fits transaction span restarts
  · intro action member
    obtain ⟨effect, caused, rfl⟩ := List.mem_map.mp member
    exact ⟨effect, obeys.effects effect caused, rfl⟩

end Transactions

/-! ## Events -/

namespace Endpoint

variable {endpoint : Endpoint}

theorem keeps_waits (lone : endpoint.transactions.Lone config key fit)
    (timers : TimerQueue TimerEvent) : (endpoint.waits timers).Keeps config key allowed fit :=
  ⟨lone, List.forall_mem_nil _⟩

theorem keeps_receive (lone : endpoint.transactions.Lone config key fit) (now : Nat)
    {peer : Address} {apdu : Apdu} (named : Transactions.keyOf? peer apdu = some key)
    (obeys : (ExchangeView.reaction config key.invokeId apdu
      (endpoint.transactions.find? key)).Obeys allowed fit) :
    (endpoint.step now (.receive peer apdu)).Keeps config key allowed fit := by
  rw [endpoint.step_receive now named, lone.config_eq]
  exact lone.keeps_react _ _ obeys

theorem keeps_respond {peer : Address} {invokeId : UInt8}
    (lone : endpoint.transactions.Lone config (.server peer invokeId) fit) (now : Nat)
    (outcome : Outcome)
    (obeys : ∀ server, fit (.server server) →
      ((server.respond config invokeId outcome).map Transaction.server).Obeys allowed fit) :
    (endpoint.step now (.respond peer invokeId outcome)).Keeps config (.server peer invokeId)
      allowed fit := by
  unfold step Transactions.respond
  dsimp only
  cases found : endpoint.transactions.find? (.server peer invokeId) with
  | none => exact keeps_waits lone _
  | some transaction =>
    cases transaction with
    | client client => exact keeps_waits lone _
    | server server =>
      dsimp only
      by_cases working : server.phase = .processing
      · rw [if_pos working, lone.config_eq]
        exact lone.keeps_react _ _ (obeys server (lone.fits _ found))
      · rw [if_neg working]
        exact keeps_waits lone _

theorem keeps_expire (lone : endpoint.transactions.Lone config key fit) (now : Nat)
    (obeys : ∀ transaction, fit transaction →
      (transaction.timeout config key.invokeId).Obeys allowed fit) :
    (endpoint.step now .expire).Keeps config key allowed fit := by
  unfold step
  dsimp only
  split
  · exact keeps_waits lone _
  · next handle other timers popped =>
    unfold Transactions.timeout
    split
    · next live found =>
      have standing := Transactions.find?_of_live found
      split
      · have same : key = other := by
          apply Classical.byContradiction
          intro ne
          rw [lone.others other ne] at standing
          cases standing
        subst same
        rw [lone.config_eq]
        exact lone.keeps_react _ _ (obeys _ (lone.fits _ standing))
      · exact ⟨lone, List.forall_mem_nil _⟩
    · exact ⟨lone, List.forall_mem_nil _⟩
  · exact keeps_waits lone _

/-- A request of a device without transactions is either refused or the first one under its name. -/
theorem keeps_request (config : Config) (now : Nat) (peer : Address) (service : UInt8)
    (parameters : Octets) (known : Option Peer) :
    (((new config).step now (.request peer service parameters known)).granted = none ∧
      ((new config).step now (.request peer service parameters known)).actions = [] ∧
      ((new config).step now (.request peer service parameters known)).endpoint.transactions.live =
        .empty) ∨
    ∃ cut id, RequestPlan.new config parameters.length known = .ok cut ∧
      ((new config).step now (.request peer service parameters known)).granted =
        some (.client peer id) ∧
      ∀ allowed fit,
        ((ClientTransaction.start config id service parameters cut).map Transaction.client).Obeys
          allowed fit →
        ((new config).step now (.request peer service parameters known)).Keeps config
          (.client peer id) allowed fit := by
  unfold step Transactions.request
  dsimp only
  split
  · exact .inl ⟨rfl, rfl, rfl⟩
  · next cut planned =>
    split
    · exact .inl ⟨rfl, rfl, rfl⟩
    · next id given =>
      refine .inr ⟨cut, id, planned, rfl, ?_⟩
      intro allowed fit obeys
      apply EndpointStep.Keeps.granting
      exact ((Transactions.lone_new config).withInvokeIds _).keeps_react _ now obeys

end Endpoint

end BACnet
