import BACnet.Proofs.Transaction.Indications
import BACnet.Proofs.Transaction.Isolation
import BACnet.Proofs.Transaction.RequestMessages

/-!
# What transactions say

All messages of a transaction carry its invoke ID and tell the side from which they come, and what
it gives to the application is a request for its service. The service never changes, whatever the
messages say that arrive for the transaction: it is the one that has been named when the transaction
began (`Transactions.inVoice_receive`).
-/

namespace BACnet

/-- The message is one that this device says in the exchange with this name. -/
structure Apdu.BelongsTo (apdu : Apdu) (key : TransactionKey) : Prop where
  invokeId : apdu.invokeId? = some key.invokeId
  side : apdu.recipient ≠ key.side

/-- What is done in the exchange with this name, which is about this service. -/
def TransactionEffect.IsOf (key : TransactionKey) (service : UInt8) : TransactionEffect → Prop
  | send apdu => apdu.BelongsTo key
  | indicate asked _ => key.side = .server ∧ asked = service
  | confirm _ => key.side = .client

/-- The service that the exchange is about. -/
def Transaction.service : Transaction → UInt8
  | client transaction => transaction.service
  | server transaction => transaction.service

variable {config : Config} {peer : Address} {invokeId : UInt8}

/-! ## The side that asks -/

namespace ClientTransaction

variable {client : ClientTransaction} {service : UInt8}

/-- All that is done is done in an exchange of this side, which stays about the same service. -/
abbrev Voiced (peer : Address) (invokeId service : UInt8) (reaction : Reaction ClientTransaction) :
    Prop :=
  reaction.Obeys (·.IsOf (.client peer invokeId) service) (·.service = service)

theorem isOf_request (client : ClientTransaction) (segment : Option SegmentHeader)
    (parameters : Octets) :
    (client.request config invokeId segment parameters).IsOf (.client peer invokeId) service :=
  ⟨rfl, nofun⟩

theorem isOf_sendSegments (client : ClientTransaction) (segments : List Segment) :
    ∀ effect ∈ client.sendSegments config invokeId segments,
      effect.IsOf (.client peer invokeId) service := by
  intro effect member
  obtain ⟨segment, -, rfl⟩ := List.mem_map.mp member
  exact isOf_request client _ _

theorem isOf_of_isControl {effects : List TransactionEffect}
    (controls : ∀ effect ∈ effects, effect.IsControl invokeId) :
    ∀ effect ∈ effects, effect.IsOf (.client peer invokeId) service := by
  intro effect member
  have control := controls effect member
  cases effect with
  | send apdu =>
    cases apdu with
    | segmentAck ack =>
      obtain ⟨asks, rfl⟩ := control
      refine ⟨rfl, ?_⟩
      simp [Apdu.recipient, asks, TransactionKey.client]
    | abort server id reason =>
      obtain ⟨rfl, rfl⟩ := control
      exact ⟨rfl, nofun⟩
    | _ => cases control
  | indicate asked parameters => cases control
  | confirm outcome => cases control

theorem voiced_goOn {effects : List TransactionEffect} {next : ClientTransaction} {span : Nat}
    (each : ∀ effect ∈ effects, effect.IsOf (.client peer invokeId) service)
    (same : next.service = service) :
    Voiced peer invokeId service ⟨effects, .restart next span⟩ := by
  refine ⟨each, ?_⟩
  rintro _ _ ⟨⟩
  exact same

theorem voiced_conclude (outcome : Outcome) : Voiced peer invokeId service (conclude outcome) :=
  Reaction.obeys_finish (List.forall_mem_singleton.mpr rfl)

theorem voiced_abort (reason : AbortReason) :
    Voiced peer invokeId service (abort invokeId reason) :=
  (voiced_conclude _).after (isOf_of_isControl (isControl_abort invokeId reason))

/-- All that a request does is done in its name. -/
theorem Utters.voiced {client : ClientTransaction} {reaction : Reaction ClientTransaction}
    (utters : Utters client config invokeId reaction) :
    Voiced peer invokeId client.service reaction := by
  cases utters with
  | ends controls outcome => exact (voiced_conclude outcome).after (isOf_of_isControl controls)
  | ignores => exact Reaction.obeys_ignore
  | goesOn controls same => exact voiced_goOn (isOf_of_isControl controls) same.service
  | whole single same =>
    exact voiced_goOn (List.forall_mem_singleton.mpr (isOf_request client _ _)) same.service
  | parts sending cut same => exact voiced_goOn (isOf_sendSegments client _) same.service

theorem voiced_start (service : UInt8) (parameters : Octets) (plan : RequestPlan) :
    Voiced peer invokeId service (start config invokeId service parameters plan) :=
  (utters_start config invokeId service parameters plan).voiced

end ClientTransaction

/-! ## The side that answers -/

namespace ServerTransaction

variable {service : UInt8}

/-- All that is done is done in an exchange of this side, which stays about the same service. -/
abbrev Voiced (peer : Address) (invokeId service : UInt8) (reaction : Reaction ServerTransaction) :
    Prop :=
  reaction.Obeys (·.IsOf (.server peer invokeId) service) (·.service = service)

theorem isOf_sendSegments (server : ServerTransaction) (segments : List Segment) :
    ∀ effect ∈ server.sendSegments invokeId segments,
      effect.IsOf (.server peer invokeId) service := by
  intro effect member
  obtain ⟨segment, -, rfl⟩ := List.mem_map.mp member
  exact ⟨rfl, nofun⟩

theorem isOf_ack (negative : Bool) (number size : UInt8) :
    ∀ effect ∈ [ack invokeId negative number size],
      effect.IsOf (.server peer invokeId) service :=
  List.forall_mem_singleton.mpr ⟨rfl, nofun⟩

theorem voiced_goOn {effects : List TransactionEffect} {next : ServerTransaction} {span : Nat}
    (each : ∀ effect ∈ effects, effect.IsOf (.server peer invokeId) service)
    (same : next.service = service) :
    Voiced peer invokeId service ⟨effects, .restart next span⟩ := by
  refine ⟨each, ?_⟩
  rintro _ _ ⟨⟩
  exact same

theorem voiced_conclude {apdu : Apdu} (own : apdu.BelongsTo (.server peer invokeId)) :
    Voiced peer invokeId service (conclude apdu) :=
  Reaction.obeys_finish (List.forall_mem_singleton.mpr own)

theorem voiced_abort (reason : AbortReason) :
    Voiced peer invokeId service (abort invokeId reason) :=
  voiced_conclude ⟨rfl, nofun⟩

theorem voiced_process (server : ServerTransaction) (parameters : Octets) :
    Voiced peer invokeId server.service (server.process config parameters) := by
  refine voiced_goOn (List.forall_mem_singleton.mpr ?_) rfl
  exact ⟨rfl, rfl⟩

theorem voiced_await (server : ServerTransaction) {effects : List TransactionEffect}
    (each : ∀ effect ∈ effects, effect.IsOf (.server peer invokeId) server.service)
    (window : ReceiveWindow) :
    Voiced peer invokeId server.service (server.await config effects window) :=
  voiced_goOn each rfl

theorem voiced_startReceive (server : ServerTransaction) (segment : Segment) :
    Voiced peer invokeId server.service (server.startReceive config invokeId segment) := by
  unfold startReceive
  split
  · exact voiced_abort _
  · split
    · exact voiced_abort _
    · split
      · exact voiced_abort _
      · apply Reaction.Obeys.after _ (isOf_ack _ _ _)
        split
        · exact voiced_await server (List.forall_mem_nil _) _
        · exact voiced_process server _

theorem voiced_start (request : ConfirmedRequest) :
    Voiced peer request.invokeId request.service (start config request) := by
  unfold start
  dsimp only
  split
  · exact @voiced_process config peer request.invokeId ⟨_, _, _, _, _⟩ _
  · exact @voiced_startReceive config peer request.invokeId ⟨_, _, _, _, _⟩ _

theorem voiced_collect (server : ServerTransaction) (window : ReceiveWindow) (segment : Segment) :
    Voiced peer invokeId server.service (server.collect config invokeId window segment) := by
  unfold collect
  split
  · exact voiced_abort _
  · exact voiced_await server (isOf_ack _ _ _) _
  · exact voiced_await server (List.forall_mem_nil _) _
  · exact voiced_await server (isOf_ack _ _ _) _
  · exact (voiced_process server _).after (isOf_ack _ _ _)

theorem voiced_respond (server : ServerTransaction) (outcome : Outcome) :
    Voiced peer invokeId server.service (server.respond config invokeId outcome) := by
  unfold respond
  split
  · exact voiced_conclude ⟨rfl, nofun⟩
  · unfold respondComplex
    dsimp only
    split
    · exact voiced_conclude ⟨rfl, nofun⟩
    · split
      · exact voiced_abort _
      · split
        · exact voiced_abort _
        · exact voiced_goOn (isOf_sendSegments _ _) rfl
  · exact voiced_conclude ⟨rfl, nofun⟩
  · exact voiced_conclude ⟨rfl, nofun⟩
  · exact voiced_abort _
  · exact voiced_abort _

theorem voiced_acknowledge (server : ServerTransaction) (window : SendWindow)
    (received : SegmentAck) :
    Voiced peer invokeId server.service (server.acknowledge config invokeId window received) := by
  unfold acknowledge
  split
  dsimp only
  split
  · exact voiced_goOn (List.forall_mem_nil _) rfl
  · exact Reaction.obeys_finish (List.forall_mem_nil _)
  · exact voiced_goOn (isOf_sendSegments _ _) rfl

theorem voiced_receive (server : ServerTransaction) (apdu : Apdu) :
    Voiced peer invokeId server.service (server.receive config invokeId apdu) := by
  unfold receive
  split
  · exact Reaction.obeys_finish (List.forall_mem_nil _)
  · split
    · exact voiced_collect server _ _
    · exact voiced_abort _
  · exact voiced_acknowledge server _ _
  · exact Reaction.obeys_ignore

theorem voiced_timeout (server : ServerTransaction) :
    Voiced peer invokeId server.service (server.timeout config invokeId) := by
  unfold timeout
  split
  · exact Reaction.obeys_finish (List.forall_mem_nil _)
  · exact voiced_abort _
  · split
    · exact voiced_goOn (isOf_sendSegments _ _) rfl
    · exact Reaction.obeys_finish (List.forall_mem_nil _)

end ServerTransaction

/-! ## Both sides -/

namespace Transaction

/-- All that is done is done in the exchange with this name, which stays about the same service. -/
abbrev Voiced (key : TransactionKey) (service : UInt8) (reaction : Reaction Transaction) : Prop :=
  reaction.Obeys (·.IsOf key service) (·.service = service)

theorem voiced_client {service : UInt8} {reaction : Reaction ClientTransaction}
    (voiced : ClientTransaction.Voiced peer invokeId service reaction) :
    Voiced (.client peer invokeId) service (reaction.map client) :=
  Reaction.Obeys.map voiced fun _ same => same

theorem voiced_server {service : UInt8} {reaction : Reaction ServerTransaction}
    (voiced : ServerTransaction.Voiced peer invokeId service reaction) :
    Voiced (.server peer invokeId) service (reaction.map server) :=
  Reaction.Obeys.map voiced fun _ same => same

variable {key : TransactionKey}

theorem voiced_receive (transaction : Transaction) (side : transaction.side = key.side)
    (apdu : Apdu) :
    Voiced key transaction.service (transaction.receive config key.invokeId apdu) := by
  obtain ⟨peer, invokeId, _⟩ := key
  cases transaction with
  | client client =>
    cases side
    exact voiced_client (client.utters_receive config invokeId apdu).voiced
  | server server =>
    cases side
    exact voiced_server (server.voiced_receive apdu)

theorem voiced_abort (transaction : Transaction) (side : transaction.side = key.side)
    (reason : AbortReason) :
    Voiced key transaction.service (transaction.abort key.invokeId reason) := by
  obtain ⟨peer, invokeId, _⟩ := key
  cases transaction with
  | client client =>
    cases side
    exact voiced_client (ClientTransaction.voiced_abort reason)
  | server server =>
    cases side
    exact voiced_server (ServerTransaction.voiced_abort reason)

theorem voiced_timeout (transaction : Transaction) (side : transaction.side = key.side) :
    Voiced key transaction.service (transaction.timeout config key.invokeId) := by
  obtain ⟨peer, invokeId, _⟩ := key
  cases transaction with
  | client client =>
    cases side
    exact voiced_client (client.utters_timeout config invokeId).voiced
  | server server =>
    cases side
    exact voiced_server server.voiced_timeout

end Transaction

/-! ## Steps -/

/-- All that is done is done in the exchange with this name, which is about this service and stays
so, and no other exchange changes. -/
structure TransactionStep.InVoice (key : TransactionKey) (service : UInt8) (before : Transactions)
    (step : TransactionStep) : Prop where
  actions : ∀ action ∈ step.actions,
    action.peer = key.peer ∧ action.invokeId = key.invokeId ∧ action.effect.IsOf key service
  own : ∀ transaction, step.transactions.find? key = some transaction →
    transaction.service = service
  others : ∀ other, key ≠ other → step.transactions.find? other = before.find? other

/-- Nothing is done, and no exchange changes. -/
structure TransactionStep.Idle (before : Transactions) (step : TransactionStep) : Prop where
  actions : step.actions = []
  live : step.transactions.live = before.live

namespace Transactions

variable {transactions : Transactions} {timers : TimerQueue TimerEvent} {now : Nat}
  {key : TransactionKey} {service : UInt8}

theorem inVoice_react {reaction : Reaction Transaction}
    (voiced : Transaction.Voiced key service reaction)
    (own : ∀ transaction, transactions.find? key = some transaction →
      transaction.service = service) :
    (transactions.react timers now key reaction).InVoice key service transactions := by
  refine ⟨?_, ?_, fun other ne => find?_proceed_of_ne _ _ _ _ _ ne⟩
  · intro action member
    obtain ⟨effect, caused, rfl⟩ := List.mem_map.mp member
    exact ⟨rfl, rfl, voiced.effects effect caused⟩
  · intro transaction found
    change (transactions.proceed timers now key reaction.progress).1.find? key = _ at found
    rw [find?_proceed_self] at found
    rcases Progress.of_leaves_eq_some found with ⟨-, stays⟩ | ⟨span, restarts⟩
    · exact own transaction stays
    · exact voiced.fits transaction span restarts

/-- The reaction of a transaction is in its voice. -/
theorem inVoice_of_find? {transaction : Transaction}
    (found : transactions.find? key = some transaction) {reaction : Reaction Transaction}
    (voiced : Transaction.Voiced key transaction.service reaction) :
    (transactions.react timers now key reaction).InVoice key transaction.service transactions := by
  refine inVoice_react voiced fun other same => ?_
  rw [Option.some.inj (found.symm.trans same)]

/-- Under this name there is an exchange about this service. -/
def Carries (transactions : Transactions) (key : TransactionKey) (service : UInt8) : Prop :=
  ∃ transaction, transactions.find? key = some transaction ∧ transaction.service = service

theorem find?_of_idle {step : TransactionStep} (idle : step.Idle transactions)
    (key : TransactionKey) : step.transactions.find? key = transactions.find? key := by
  rw [find?, idle.live, find?]

theorem carries_of_idle {step : TransactionStep} (idle : step.Idle transactions)
    (carries : step.transactions.Carries key service) : transactions.Carries key service := by
  rw [Carries, find?_of_idle idle] at carries
  exact carries

/-- A message belongs to an exchange that is going on, begins one, or means nothing. -/
theorem inVoice_receive (sound : transactions.Sound config) (timers : TimerQueue TimerEvent)
    (now : Nat) (peer : Address) (apdu : Apdu) :
    (transactions.receive timers now peer apdu).Idle transactions ∨
      ∃ key service, keyOf? peer apdu = some key ∧
        (transactions.receive timers now peer apdu).InVoice key service transactions ∧
        (transactions.Carries key service ∨ transactions.find? key = none ∧
          ∃ request, apdu = .confirmedRequest request ∧ key = .server peer request.invokeId ∧
            request.service = service) := by
  unfold receive
  cases named : keyOf? peer apdu with
  | none => exact .inl ⟨rfl, rfl⟩
  | some key =>
    dsimp only
    cases found : transactions.find? key with
    | some transaction =>
      have side := (sound.fits key transaction found).side_eq
      exact .inr ⟨key, transaction.service, rfl,
        inVoice_of_find? found (transaction.voiced_receive side apdu),
        .inl ⟨transaction, found, rfl⟩⟩
    | none =>
      cases apdu with
      | confirmedRequest request =>
        cases named
        refine .inr ⟨_, request.service, rfl, ?_, .inr ⟨found, request, rfl, rfl, rfl⟩⟩
        refine inVoice_react (Transaction.voiced_server (ServerTransaction.voiced_start request)) ?_
        intro transaction present
        cases found.symm.trans present
      | _ => exact .inl ⟨rfl, rfl⟩

/-- A request that is sent begins an exchange. -/
theorem inVoice_request (transactions : Transactions) (timers : TimerQueue TimerEvent) (now : Nat)
    (peer : Address) (service : UInt8) (parameters : Octets) (known : Option Peer) :
    (transactions.request timers now peer service parameters known).2.Idle transactions ∨
      ∃ id, transactions.find? (.client peer id) = none ∧
        (transactions.request timers now peer service parameters known).2.InVoice
          (.client peer id) service transactions := by
  unfold request
  split
  · exact .inl ⟨rfl, rfl⟩
  · dsimp only
    split
    · exact .inl ⟨rfl, rfl⟩
    · next id given =>
      have absent := find?_eq_none (InvokeIds.not_inUse_of_allocate given)
      have voice := fun config plan invokeIds =>
        @inVoice_react { transactions with invokeIds } timers now (.client peer id) service
          ((ClientTransaction.start config id service parameters plan).map .client)
          (Transaction.voiced_client (ClientTransaction.voiced_start service parameters plan))
          fun transaction found => by cases absent.symm.trans found
      exact .inr ⟨id, absent, ⟨(voice _ _ _).actions, (voice _ _ _).own, (voice _ _ _).others⟩⟩

theorem inVoice_respond {peer : Address} {invokeId : UInt8} {outcome : Outcome}
    {step : TransactionStep}
    (responds : transactions.respond timers now peer invokeId outcome = .ok step) :
    ∃ service, transactions.Carries (.server peer invokeId) service ∧
      step.InVoice (.server peer invokeId) service transactions := by
  unfold respond at responds
  dsimp only at responds
  split at responds
  · next server found =>
    split at responds
    · cases responds
      exact ⟨server.service, ⟨_, found, rfl⟩,
        inVoice_of_find? found (Transaction.voiced_server (server.voiced_respond outcome))⟩
    · cases responds
  · cases responds

theorem inVoice_abort (sound : transactions.Sound config) (timers : TimerQueue TimerEvent)
    (now : Nat) (key : TransactionKey) (reason : AbortReason) :
    (transactions.abort timers now key reason).Idle transactions ∨
      ∃ service, transactions.Carries key service ∧
        (transactions.abort timers now key reason).InVoice key service transactions := by
  unfold abort
  split
  · next transaction found =>
    have side := (sound.fits key transaction found).side_eq
    exact .inr ⟨transaction.service, ⟨transaction, found, rfl⟩,
      inVoice_of_find? found (transaction.voiced_abort side reason)⟩
  · exact .inl ⟨rfl, rfl⟩

theorem inVoice_timeout (sound : transactions.Sound config) (timers : TimerQueue TimerEvent)
    (now : Nat) (handle : TimerHandle) (key : TransactionKey) :
    (transactions.timeout timers now handle key).Idle transactions ∨
      ∃ service, transactions.Carries key service ∧
        (transactions.timeout timers now handle key).InVoice key service transactions := by
  unfold timeout
  split
  · next live found =>
    have standing := Transactions.find?_of_live found
    have side := (sound.fits key live.transaction standing).side_eq
    split
    · exact .inr ⟨live.transaction.service, ⟨live.transaction, standing, rfl⟩,
        inVoice_of_find? standing (live.transaction.voiced_timeout side)⟩
    · exact .inl ⟨rfl, rfl⟩
  · exact .inl ⟨rfl, rfl⟩

end Transactions

/-! ## Steps that give nothing to the application -/

theorem ServerStage.Leads.eq_zero_of_late {first last : ServerStage} {count : Nat}
    (leads : first.Leads last count) (late : first ≠ .collecting) : count = 0 := by
  cases leads with
  | stays => rfl
  | indicates => exact absurd rfl late
  | answers => rfl

/-- After the first stage nothing is given to the application. -/
theorem Reaction.Advances.indicationCount_eq_zero {σ : Type} {stage : σ → ServerStage}
    {first : ServerStage} {reaction : Reaction σ} (advances : reaction.Advances stage first)
    (late : first ≠ .collecting) : reaction.indicationCount = 0 := by
  by_cases restarts : ∃ state span, reaction.progress = .restart state span
  · obtain ⟨state, span, goesOn⟩ := restarts
    exact (advances.leads state span goesOn).eq_zero_of_late late
  · exact advances.silent fun state span goesOn => restarts ⟨state, span, goesOn⟩

theorem ServerTransaction.indicationCount_timeout (server : ServerTransaction) :
    (server.timeout config invokeId).indicationCount = 0 := by
  unfold timeout
  split
  · rfl
  · rfl
  · split
    · exact unheard_sendSegments _ _
    · rfl

theorem Transaction.indicationCount_timeout (transaction : Transaction) :
    (transaction.timeout config invokeId).indicationCount = 0 := by
  cases transaction with
  | client client => exact (client.utters_timeout config invokeId).unheard.indicationCount_eq_zero
  | server server => exact server.indicationCount_timeout

theorem Transaction.indicationCount_abort (transaction : Transaction) (reason : AbortReason) :
    (transaction.abort invokeId reason).indicationCount = 0 := by
  cases transaction <;> rfl

/-- Nothing is given to the application. -/
def TransactionStep.Unheard (step : TransactionStep) : Prop :=
  ∀ action ∈ step.actions, action.effect.isIndication = false

theorem TransactionStep.Unheard.not_indicates {step : TransactionStep} (unheard : step.Unheard) :
    ∀ action ∈ step.actions, action.effect.isIndication = true → False :=
  fun action member indicates => Bool.false_ne_true ((unheard action member).symm.trans indicates)

namespace Transactions

variable {transactions : Transactions} {timers : TimerQueue TimerEvent} {now : Nat}
  {key : TransactionKey}

theorem unheard_react {reaction : Reaction Transaction} (silent : reaction.indicationCount = 0) :
    (transactions.react timers now key reaction).Unheard := by
  intro action member
  obtain ⟨effect, caused, rfl⟩ := List.mem_map.mp member
  exact Bool.eq_false_iff.mpr (List.countP_eq_zero.mp silent effect caused)

theorem unheard_unchanged : (transactions.unchanged timers).Unheard := List.forall_mem_nil _

theorem unheard_respond {peer : Address} {invokeId : UInt8} {outcome : Outcome}
    {step : TransactionStep}
    (responds : transactions.respond timers now peer invokeId outcome = .ok step) :
    step.Unheard := by
  unfold respond at responds
  dsimp only at responds
  split at responds
  · next server _ =>
    split at responds
    · cases responds
      exact unheard_react
        ((server.advances_respond outcome).indicationCount_eq_zero ServerStage.noConfusion)
    · cases responds
  · cases responds

theorem unheard_abort (key : TransactionKey) (reason : AbortReason) :
    (transactions.abort timers now key reason).Unheard := by
  unfold abort
  split
  · next transaction _ => exact unheard_react (transaction.indicationCount_abort reason)
  · exact unheard_unchanged

theorem unheard_timeout (handle : TimerHandle) (key : TransactionKey) :
    (transactions.timeout timers now handle key).Unheard := by
  unfold timeout
  split
  · next live _ =>
    split
    · exact unheard_react live.transaction.indicationCount_timeout
    · exact unheard_unchanged
  · exact unheard_unchanged

theorem unheard_request (peer : Address) (service : UInt8) (parameters : Octets)
    (known : Option Peer) :
    (transactions.request timers now peer service parameters known).2.Unheard := by
  unfold request
  split
  · exact unheard_unchanged
  · dsimp only
    split
    · exact unheard_unchanged
    · next plan _ _ id _ =>
      have unheard := (ClientTransaction.utters_start transactions.config id service parameters
        plan).unheard
      exact @unheard_react { transactions with invokeIds := _ } timers now _ _
        unheard.indicationCount_eq_zero

end Transactions

end BACnet
