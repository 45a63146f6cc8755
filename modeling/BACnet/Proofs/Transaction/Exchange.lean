import BACnet.Proofs.Transaction.Endpoint
import BACnet.Proofs.Transaction.Flowing

/-!
# Exchanges between two devices

A client asks a server for a service, and the application of the server answers. Between them are
two links that keep what they carry and its order. `ExchangeView` is all that matters about the
exchange: the two transactions, what is on its way, and what the applications have been told; what
happens at the devices is what happens to the view (`Exchange.Shows.step`).
-/

namespace BACnet

/-! ## Plans -/

/-- A request and its answer, between two devices that send and receive segments and have room for
what they get in segments. -/
structure ExchangePlan where
  clientAddress : Address
  serverAddress : Address
  client : Config
  server : Config
  service : UInt8
  request : Octets
  answer : Octets
  clientSegments : client.segmentation = .both
  serverSegments : server.segmentation = .both
  requestFits : client.maxApdu.size < RequestPlan.headLength + request.length →
    server.Admits (requestPayload client request)
  answerFits : client.maxApdu.size < ServerTransaction.headLength + answer.length →
    client.Admits (answerPayload client.maxApdu.size answer)

/-! ## What is wanted of links and applications -/

namespace TransactionEffect

/-- The message that is to be sent. -/
def apdu? : TransactionEffect → Option Apdu
  | send apdu => some apdu
  | _ => none

/-- Whether an application is told something. -/
def isTold : TransactionEffect → Bool
  | send _ => false
  | _ => true

/-- Whether an application is given a request. -/
def isIndication : TransactionEffect → Bool
  | indicate _ _ => true
  | _ => false

end TransactionEffect

namespace TransactionAction

/-- The messages that are to be sent to a device. -/
def apdusTo (peer : Address) (actions : List TransactionAction) : List Apdu :=
  (actions.filter (·.peer = peer)).filterMap (·.effect.apdu?)

/-- What an application is told. -/
def told (actions : List TransactionAction) : List TransactionAction :=
  actions.filter (·.effect.isTold)

/-- The requests that an application is given. -/
def indications (actions : List TransactionAction) : List TransactionAction :=
  actions.filter (·.effect.isIndication)

end TransactionAction

/-! ## Exchanges -/

/-- Two devices and what is between them. -/
structure Exchange where
  client : Endpoint
  server : Endpoint
  /-- The messages on their way to the server, the oldest first. -/
  toServer : List Apdu
  /-- The messages on their way to the client, the oldest first. -/
  toClient : List Apdu
  /-- What the application of the client has been told. -/
  clientTold : List TransactionAction
  /-- What the application of the server has been told. -/
  serverTold : List TransactionAction
  /-- The requests that the application of the server has not answered yet. -/
  unanswered : List TransactionAction
  deriving DecidableEq, Repr

namespace Exchange

variable (plan : ExchangePlan)

/-- What has happened at the client takes its course. -/
def clientTakes (exchange : Exchange) (step : EndpointStep) : Exchange :=
  { exchange with
    client := step.endpoint
    toServer := exchange.toServer ++ TransactionAction.apdusTo plan.serverAddress step.actions
    clientTold := exchange.clientTold ++ TransactionAction.told step.actions }

/-- What has happened at the server takes its course. -/
def serverTakes (exchange : Exchange) (step : EndpointStep) : Exchange :=
  { exchange with
    server := step.endpoint
    toClient := exchange.toClient ++ TransactionAction.apdusTo plan.clientAddress step.actions
    serverTold := exchange.serverTold ++ TransactionAction.told step.actions
    unanswered := exchange.unanswered ++ TransactionAction.indications step.actions }

/-- The client asks for the service. -/
def ask (client : Endpoint) (now : Nat) : EndpointStep :=
  client.step now (.request plan.serverAddress plan.service plan.request none)

/-- The exchange after the client has asked. -/
def start (client server : Endpoint) (now : Nat) : Exchange :=
  clientTakes plan ⟨client, server, [], [], [], [], []⟩ (ask plan client now)

/-- What can happen: a message arrives, or the application answers. What arrives is the oldest of
what is on its way, and the time does not matter. -/
inductive Step : Exchange → Exchange → Prop where
  | serverReceives {exchange apdu rest} (now : Nat) (oldest : exchange.toServer = apdu :: rest) :
    Step exchange (serverTakes plan { exchange with toServer := rest }
      (exchange.server.step now (.receive plan.clientAddress apdu)))
  | clientReceives {exchange apdu rest} (now : Nat) (oldest : exchange.toClient = apdu :: rest) :
    Step exchange (clientTakes plan { exchange with toClient := rest }
      (exchange.client.step now (.receive plan.serverAddress apdu)))
  | answers {exchange action rest} (now : Nat) (oldest : exchange.unanswered = action :: rest) :
    Step exchange (serverTakes plan { exchange with unanswered := rest }
      (exchange.server.step now
        (.respond action.peer action.invokeId (.ok (.complex plan.answer)))))

/-- A number of steps. -/
inductive Run : Exchange → Nat → Exchange → Prop where
  | refl (exchange : Exchange) : Run exchange 0 exchange
  | step {first next last : Exchange} {length : Nat} (step : Step plan first next)
    (run : Run next length last) : Run first (length + 1) last

/-- The exchange is over: both applications have been told once what they should be, no transaction
is left, and nothing is on its way. -/
structure Completed (invokeId : UInt8) (exchange : Exchange) : Prop where
  client : exchange.client.transactions.contains (.client plan.serverAddress invokeId) = false
  server : exchange.server.transactions.contains (.server plan.clientAddress invokeId) = false
  toServer : exchange.toServer = []
  toClient : exchange.toClient = []
  unanswered : exchange.unanswered = []
  serverTold : exchange.serverTold =
    [⟨plan.clientAddress, invokeId, .indicate plan.service plan.request⟩]
  clientTold : exchange.clientTold =
    [⟨plan.serverAddress, invokeId, .confirm (.ok (.complex plan.answer))⟩]

end Exchange

/-! ## Views -/

/-- What matters about an exchange. -/
structure ExchangeView where
  client : Option Transaction
  server : Option Transaction
  toServer : List Apdu
  toClient : List Apdu
  clientTold : List TransactionEffect
  serverTold : List TransactionEffect
  unanswered : List TransactionEffect

namespace ExchangeView

/-- The transaction of the client reacts. -/
def clientReacts (view : ExchangeView) (reaction : Reaction Transaction) : ExchangeView :=
  { view with
    client := reaction.progress.leaves view.client
    toServer := view.toServer ++ reaction.effects.filterMap (·.apdu?)
    clientTold := view.clientTold ++ reaction.effects.filter (·.isTold) }

/-- The transaction of the server reacts. -/
def serverReacts (view : ExchangeView) (reaction : Reaction Transaction) : ExchangeView :=
  { view with
    server := reaction.progress.leaves view.server
    toClient := view.toClient ++ reaction.effects.filterMap (·.apdu?)
    serverTold := view.serverTold ++ reaction.effects.filter (·.isTold)
    unanswered := view.unanswered ++ reaction.effects.filter (·.isIndication) }

/-- What a message means to a transaction that there may be. -/
def reaction (config : Config) (invokeId : UInt8) (apdu : Apdu) :
    Option Transaction → Reaction Transaction
  | some transaction => transaction.receive config invokeId apdu
  | none => Transactions.reactionToNew config apdu

/-- What can happen to a view. -/
inductive Moves (plan : ExchangePlan) (invokeId : UInt8) : ExchangeView → ExchangeView → Prop where
  | serverReceives {view apdu rest reacted} (oldest : view.toServer = apdu :: rest)
    (reacts : reaction plan.server invokeId apdu view.server = reacted) :
    Moves plan invokeId view (serverReacts { view with toServer := rest } reacted)
  | clientReceives {view apdu rest reacted} (oldest : view.toClient = apdu :: rest)
    (reacts : reaction plan.client invokeId apdu view.client = reacted) :
    Moves plan invokeId view (clientReacts { view with toClient := rest } reacted)
  | answers {view effect rest server reacted} (oldest : view.unanswered = effect :: rest)
    (working : view.server = some (.server server)) (phase : server.phase = .processing)
    (reacts : server.respond plan.server invokeId (.ok (.complex plan.answer)) = reacted) :
    Moves plan invokeId view (serverReacts { view with unanswered := rest } (reacted.map .server))

/-- What is on its way belongs to the exchange, and requests are unanswered only while the server
works on one. -/
structure Own (plan : ExchangePlan) (invokeId : UInt8) (view : ExchangeView) : Prop where
  toServer : ∀ apdu ∈ view.toServer,
    Transactions.keyOf? plan.clientAddress apdu = some (.server plan.clientAddress invokeId)
  toClient : ∀ apdu ∈ view.toClient,
    Transactions.keyOf? plan.serverAddress apdu = some (.client plan.serverAddress invokeId)
  unanswered : view.unanswered ≠ [] →
    ∃ server, view.server = some (.server server) ∧ server.phase = .processing

end ExchangeView

namespace Exchange

/-- The view of an exchange. -/
structure Shows (plan : ExchangePlan) (invokeId : UInt8) (exchange : Exchange)
    (view : ExchangeView) : Prop where
  clientConfig : exchange.client.transactions.config = plan.client
  serverConfig : exchange.server.transactions.config = plan.server
  client : exchange.client.transactions.find? (.client plan.serverAddress invokeId) = view.client
  server : exchange.server.transactions.find? (.server plan.clientAddress invokeId) = view.server
  toServer : exchange.toServer = view.toServer
  toClient : exchange.toClient = view.toClient
  clientTold : exchange.clientTold = view.clientTold.map (⟨plan.serverAddress, invokeId, ·⟩)
  serverTold : exchange.serverTold = view.serverTold.map (⟨plan.clientAddress, invokeId, ·⟩)
  unanswered : exchange.unanswered = view.unanswered.map (⟨plan.clientAddress, invokeId, ·⟩)

end Exchange

/-! ## What happens at the devices is what happens to the view -/

namespace Endpoint

/-- What has happened at a device is the reaction of one transaction. -/
structure Reacted (before : Endpoint) (key : TransactionKey) (reaction : Reaction Transaction)
    (step : EndpointStep) : Prop where
  actions : step.actions = reaction.effects.map (⟨key.peer, key.invokeId, ·⟩)
  config : step.endpoint.transactions.config = before.transactions.config
  found : step.endpoint.transactions.find? key =
    reaction.progress.leaves (before.transactions.find? key)

theorem reacted_react (before : Endpoint) (now : Nat) (key : TransactionKey)
    (reaction : Reaction Transaction) {transactions : Transactions}
    (live : transactions.live = before.transactions.live)
    (config : transactions.config = before.transactions.config) (granted : Option TransactionKey) :
    Reacted before key reaction
      { took (transactions.react before.timers now key reaction) with granted } := by
  have view : transactions.find? key = before.transactions.find? key := by
    rw [Transactions.find?, live, Transactions.find?]
  refine ⟨rfl, ?_, ?_⟩
  · rw [← config]
    exact transactions.config_proceed before.timers now key reaction.progress
  · rw [← view]
    exact transactions.find?_proceed_self before.timers now key reaction.progress

/-- A message makes the transaction react to which it belongs. -/
theorem step_receive (before : Endpoint) (now : Nat) {peer : Address} {apdu : Apdu}
    {key : TransactionKey} (named : Transactions.keyOf? peer apdu = some key) :
    before.step now (.receive peer apdu) =
      took (before.transactions.react before.timers now key
        (ExchangeView.reaction before.transactions.config key.invokeId apdu
          (before.transactions.find? key))) := by
  show took (before.transactions.receive before.timers now peer apdu) = _
  rw [Transactions.receive, named]
  dsimp only
  cases before.transactions.find? key <;> rfl

theorem reacted_receive (before : Endpoint) (now : Nat) {peer : Address} {apdu : Apdu}
    {key : TransactionKey} (named : Transactions.keyOf? peer apdu = some key) :
    Reacted before key
      (ExchangeView.reaction before.transactions.config key.invokeId apdu
        (before.transactions.find? key))
      (before.step now (.receive peer apdu)) := by
  rw [before.step_receive now named]
  exact before.reacted_react now key _ rfl rfl none

theorem reacted_respond (before : Endpoint) (now : Nat) {peer : Address} {invokeId : UInt8}
    {server : ServerTransaction}
    (found : before.transactions.find? (.server peer invokeId) = some (.server server))
    (working : server.phase = .processing) (outcome : Outcome) :
    Reacted before (.server peer invokeId)
      ((server.respond before.transactions.config invokeId outcome).map .server)
      (before.step now (.respond peer invokeId outcome)) := by
  have responds : before.transactions.respond before.timers now peer invokeId outcome =
      .ok (before.transactions.react before.timers now (.server peer invokeId)
        ((server.respond before.transactions.config invokeId outcome).map .server)) := by
    rw [Transactions.respond, found]
    exact if_pos working
  have step : before.step now (.respond peer invokeId outcome) =
      took (before.transactions.react before.timers now (.server peer invokeId)
        ((server.respond before.transactions.config invokeId outcome).map .server)) := by
    rw [Endpoint.step, responds]
  rw [step]
  exact before.reacted_react now _ _ rfl rfl none

/-- A request that can be planned is sent as long as an invoke ID is free. -/
theorem reacted_request (before : Endpoint) (now : Nat) {peer : Address} (service : UInt8)
    {parameters : Octets} {known : Option Peer} {cut : RequestPlan}
    (planned : RequestPlan.new before.transactions.config parameters.length known = .ok cut)
    {free : UInt8} (unused : before.transactions.contains (.client peer free) = false) :
    ∃ id, before.transactions.find? (.client peer id) = none ∧
      (before.step now (.request peer service parameters known)).granted =
        some (.client peer id) ∧
      Reacted before (.client peer id)
        ((ClientTransaction.start before.transactions.config id service parameters cut).map .client)
        (before.step now (.request peer service parameters known)) := by
  obtain ⟨id, given⟩ := before.transactions.invokeIds.exists_allocate peer
    (fun id => before.transactions.contains (.client peer id)) unused
  have idle := Transactions.find?_eq_none (InvokeIds.not_inUse_of_allocate given)
  obtain ⟨transactions, live, config, asks⟩ : ∃ transactions : Transactions,
      transactions.live = before.transactions.live ∧
      transactions.config = before.transactions.config ∧
      before.transactions.request before.timers now peer service parameters known =
        (.ok id, transactions.react before.timers now (.client peer id)
          ((ClientTransaction.start before.transactions.config id service parameters cut).map
            .client)) := by
    refine ⟨⟨before.transactions.config, before.transactions.live,
      (before.transactions.invokeIds.allocate peer fun id =>
        before.transactions.contains (.client peer id)).2⟩, rfl, rfl, ?_⟩
    rw [Transactions.request, planned]
    dsimp only
    rw [given]
  refine ⟨id, idle, ?_, ?_⟩
  · rw [step, asks]
    rfl
  · rw [step, asks]
    exact before.reacted_react now _ _ live config _

end Endpoint

namespace Exchange

variable {plan : ExchangePlan} {invokeId : UInt8} {exchange : Exchange} {view : ExchangeView}

theorem apdusTo_map (peer : Address) (effects : List TransactionEffect) :
    TransactionAction.apdusTo peer (effects.map (⟨peer, invokeId, ·⟩)) =
      effects.filterMap (·.apdu?) := by
  induction effects with
  | nil => rfl
  | cons effect rest ih =>
    have step : TransactionAction.apdusTo peer ((effect :: rest).map (⟨peer, invokeId, ·⟩)) =
        effect.apdu?.toList ++
          TransactionAction.apdusTo peer (rest.map (⟨peer, invokeId, ·⟩)) := by
      cases effect <;> simp [TransactionAction.apdusTo, TransactionEffect.apdu?]
    rw [step, ih]
    cases effect <;> simp [TransactionEffect.apdu?]

theorem told_map (peer : Address) (effects : List TransactionEffect) :
    TransactionAction.told (effects.map (⟨peer, invokeId, ·⟩)) =
      (effects.filter (·.isTold)).map (⟨peer, invokeId, ·⟩) := by
  rw [TransactionAction.told, List.filter_map]
  rfl

theorem indications_map (peer : Address) (effects : List TransactionEffect) :
    TransactionAction.indications (effects.map (⟨peer, invokeId, ·⟩)) =
      (effects.filter (·.isIndication)).map (⟨peer, invokeId, ·⟩) := by
  rw [TransactionAction.indications, List.filter_map]
  rfl

theorem Shows.clientTakes (shown : exchange.Shows plan invokeId view)
    {reaction : Reaction Transaction} {step : EndpointStep}
    (reacted : exchange.client.Reacted (.client plan.serverAddress invokeId) reaction step) :
    (exchange.clientTakes plan step).Shows plan invokeId (view.clientReacts reaction) := by
  obtain ⟨actions, config, found⟩ := reacted
  refine { shown with
    clientConfig := config.trans shown.clientConfig
    client := ?_, toServer := ?_, clientTold := ?_ }
  · show _ = reaction.progress.leaves view.client
    rw [← shown.client]
    exact found
  · show exchange.toServer ++ _ = view.toServer ++ _
    rw [shown.toServer, actions]
    exact congrArg (view.toServer ++ ·) (apdusTo_map _ _)
  · show exchange.clientTold ++ _ = List.map _ (view.clientTold ++ _)
    rw [shown.clientTold, actions, List.map_append]
    exact congrArg (_ ++ ·) (told_map _ _)

theorem Shows.serverTakes (shown : exchange.Shows plan invokeId view)
    {reaction : Reaction Transaction} {step : EndpointStep}
    (reacted : exchange.server.Reacted (.server plan.clientAddress invokeId) reaction step) :
    (exchange.serverTakes plan step).Shows plan invokeId (view.serverReacts reaction) := by
  obtain ⟨actions, config, found⟩ := reacted
  refine { shown with
    serverConfig := config.trans shown.serverConfig
    server := ?_, toClient := ?_, serverTold := ?_, unanswered := ?_ }
  · show _ = reaction.progress.leaves view.server
    rw [← shown.server]
    exact found
  · show exchange.toClient ++ _ = view.toClient ++ _
    rw [shown.toClient, actions]
    exact congrArg (view.toClient ++ ·) (apdusTo_map _ _)
  · show exchange.serverTold ++ _ = List.map _ (view.serverTold ++ _)
    rw [shown.serverTold, actions, List.map_append]
    exact congrArg (_ ++ ·) (told_map _ _)
  · show exchange.unanswered ++ _ = List.map _ (view.unanswered ++ _)
    rw [shown.unanswered, actions, List.map_append]
    exact congrArg (_ ++ ·) (indications_map _ _)

/-- Every step moves the view. -/
theorem Shows.step (shown : exchange.Shows plan invokeId view) (own : view.Own plan invokeId)
    {next : Exchange} (step : Step plan exchange next) :
    ∃ moved, view.Moves plan invokeId moved ∧ next.Shows plan invokeId moved := by
  cases step with
  | @serverReceives apdu rest now oldest =>
    have arrives : view.toServer = apdu :: rest := shown.toServer.symm.trans oldest
    have named := own.toServer apdu (arrives ▸ List.mem_cons_self)
    have reacted := exchange.server.reacted_receive now named
    rw [shown.serverConfig, shown.server] at reacted
    have taken : Shows plan invokeId { exchange with toServer := rest }
        { view with toServer := rest } := { shown with toServer := rfl }
    exact ⟨_, .serverReceives arrives rfl, taken.serverTakes reacted⟩
  | @clientReceives apdu rest now oldest =>
    have arrives : view.toClient = apdu :: rest := shown.toClient.symm.trans oldest
    have named := own.toClient apdu (arrives ▸ List.mem_cons_self)
    have reacted := exchange.client.reacted_receive now named
    rw [shown.clientConfig, shown.client] at reacted
    have taken : Shows plan invokeId { exchange with toClient := rest }
        { view with toClient := rest } := { shown with toClient := rfl }
    exact ⟨_, .clientReceives arrives rfl, taken.clientTakes reacted⟩
  | @answers action rest now oldest =>
    -- The application answers the request on which the server works.
    have names := shown.unanswered.symm.trans oldest
    obtain ⟨effect, others, asked, rfl, rfl⟩ := List.map_eq_cons_iff.mp names
    obtain ⟨server, working, phase⟩ := own.unanswered (by rw [asked]; nofun)
    have reacted := exchange.server.reacted_respond now (shown.server.trans working) phase
      (.ok (.complex plan.answer))
    rw [shown.serverConfig] at reacted
    have taken : Shows plan invokeId
        { exchange with unanswered := others.map (⟨plan.clientAddress, invokeId, ·⟩) }
        { view with unanswered := others } := { shown with unanswered := rfl }
    exact ⟨_, .answers asked working phase rfl, taken.serverTakes reacted⟩

/-- As long as something is on its way or unanswered, something can happen. -/
theorem Shows.exists_step (shown : exchange.Shows plan invokeId view)
    (waits : view.toServer ≠ [] ∨ view.toClient ≠ [] ∨ view.unanswered ≠ []) :
    ∃ next, Step plan exchange next := by
  rcases waits with waits | waits | waits
  · rw [← shown.toServer] at waits
    obtain ⟨apdu, rest, oldest⟩ := List.exists_cons_of_ne_nil waits
    exact ⟨_, .serverReceives 0 oldest⟩
  · rw [← shown.toClient] at waits
    obtain ⟨apdu, rest, oldest⟩ := List.exists_cons_of_ne_nil waits
    exact ⟨_, .clientReceives 0 oldest⟩
  · have waits : exchange.unanswered ≠ [] := by
      rw [shown.unanswered]
      exact fun none => waits (List.map_eq_nil_iff.mp none)
    obtain ⟨action, rest, oldest⟩ := List.exists_cons_of_ne_nil waits
    exact ⟨_, .answers 0 oldest⟩

end Exchange

end BACnet
