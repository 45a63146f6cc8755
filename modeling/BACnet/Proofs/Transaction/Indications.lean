import BACnet.Proofs.Transaction.Exchange
import BACnet.Proofs.Transaction.Lone
import BACnet.Proofs.Transaction.RequestMessages

/-!
# One indication for each request

A request of another device goes through stages: its segments are collected, the application works
on it, its answer is sent in segments. It never goes back. The application is given the request in
the step from the first stage to the second one, and can answer it in the second one only
(`ServerStage.Leads`), so that a request is given to the application at most once while its
transaction is live, and is answered at most once.
-/

namespace BACnet

/-! ## Stages -/

/-- How far the work on a request of another device has come. -/
inductive ServerStage where
  /-- There is no request, or its segments are collected. -/
  | collecting
  /-- The application works on it. -/
  | working
  /-- The segments of its answer are sent. -/
  | answering
  deriving DecidableEq, Repr

/-- What can come after a stage, and how often the application is given a request in between. -/
inductive ServerStage.Leads : ServerStage → ServerStage → Nat → Prop where
  | stays (stage : ServerStage) : Leads stage stage 0
  | indicates : Leads collecting working 1
  | answers : Leads working answering 0

/-- The application is given nothing as long as the stage is the same. -/
theorem ServerStage.Leads.eq_zero {first last : ServerStage} {count : Nat}
    (leads : first.Leads last count) (same : first = last) : count = 0 := by
  cases leads with
  | stays stage => rfl
  | indicates => cases same
  | answers => rfl

/-- The application is given a request just between the first two stages. -/
theorem ServerStage.Leads.indicates_of_pos {first last : ServerStage} {count : Nat}
    (leads : first.Leads last count) (given : 0 < count) :
    first = .collecting ∧ last = .working ∧ count = 1 := by
  cases leads with
  | stays stage => cases given
  | indicates => exact ⟨rfl, rfl, rfl⟩
  | answers => cases given

/-- How often the application has been given a request at this stage. -/
def ServerStage.told : ServerStage → Nat
  | collecting => 0
  | working => 1
  | answering => 1

theorem ServerStage.told_le_one (stage : ServerStage) : stage.told ≤ 1 := by
  cases stage <;> decide

theorem ServerStage.Leads.told_add {first last : ServerStage} {count : Nat}
    (leads : first.Leads last count) : first.told + count = last.told := by
  cases leads <;> rfl

/-- The stage of a request of another device. -/
def ServerTransaction.stage (server : ServerTransaction) : ServerStage :=
  match server.phase with
  | .segmentedReceive _ => .collecting
  | .processing => .working
  | .segmentedResponse _ => .answering

/-- The stage of a transaction. A request of this device is never given to its application. -/
def Transaction.stage : Transaction → ServerStage
  | client _ => .collecting
  | server transaction => transaction.stage

/-- The stage of a transaction, if there is one. -/
def Transaction.stageOf (found : Option Transaction) : ServerStage :=
  (found.map stage).getD .collecting

namespace Reaction

variable {σ τ : Type} {stage : σ → ServerStage} {first : ServerStage}

/-- How often the application is given a request. -/
def indicationCount (reaction : Reaction σ) : Nat := reaction.effects.countP (·.isIndication)

/-- A transaction that goes on goes to a later stage or stays, and the application is given a
request just when it is time. -/
structure Advances (stage : σ → ServerStage) (first : ServerStage) (reaction : Reaction σ) :
    Prop where
  leads : ∀ state span, reaction.progress = .restart state span →
    first.Leads (stage state) reaction.indicationCount
  silent : (∀ state span, reaction.progress ≠ .restart state span) → reaction.indicationCount = 0

theorem advances_ignore : (ignore : Reaction σ).Advances stage first := ⟨nofun, fun _ => rfl⟩

theorem advances_finish {effects : List TransactionEffect}
    (silent : effects.countP (·.isIndication) = 0) :
    Advances stage first (⟨effects, .finish⟩ : Reaction σ) :=
  ⟨nofun, fun _ => silent⟩

theorem advances_restart {effects : List TransactionEffect} {state : σ} (span : Nat)
    (leads : first.Leads (stage state) (effects.countP (·.isIndication))) :
    Advances stage first ⟨effects, .restart state span⟩ := by
  refine ⟨?_, fun ends => absurd rfl (ends state span)⟩
  rintro _ _ ⟨⟩
  exact leads

theorem Advances.after {reaction : Reaction σ} (advances : reaction.Advances stage first)
    {effects : List TransactionEffect} (silent : effects.countP (·.isIndication) = 0) :
    (after effects reaction).Advances stage first := by
  have same : (Reaction.after effects reaction).indicationCount = reaction.indicationCount := by
    show (effects ++ reaction.effects).countP (·.isIndication) = _
    rw [List.countP_append, silent, Nat.zero_add]
    rfl
  refine ⟨?_, ?_⟩
  · intro state span restarts
    rw [same]
    exact advances.leads state span restarts
  · intro ends
    rw [same]
    exact advances.silent ends

theorem Advances.map {reaction : Reaction σ} (advances : reaction.Advances stage first)
    {embed : σ → τ} {stage' : τ → ServerStage}
    (stages : ∀ state, stage' (embed state) = stage state) :
    (reaction.map embed).Advances stage' first := by
  refine ⟨?_, ?_⟩
  · intro state span restarts
    obtain ⟨old, goesOn, rfl⟩ := exists_restart_of_map restarts
    rw [stages]
    exact advances.leads old span goesOn
  · intro ends
    apply advances.silent
    intro state span restarts
    refine ends (embed state) span ?_
    rw [Reaction.map, restarts]
    rfl

theorem Obeys.indicationCount_eq_zero {fit : σ → Prop} {reaction : Reaction σ}
    (obeys : reaction.Obeys (·.isIndication = false) fit) : reaction.indicationCount = 0 := by
  rw [indicationCount, List.countP_eq_zero]
  intro effect member
  rw [obeys.effects effect member]
  exact Bool.false_ne_true

/-- A reaction that gives nothing to the application and goes on at the same stage. -/
theorem Obeys.advances {reaction : Reaction σ}
    (obeys : reaction.Obeys (·.isIndication = false) fun state => stage state = first) :
    reaction.Advances stage first := by
  have silent := obeys.indicationCount_eq_zero
  refine ⟨?_, fun _ => silent⟩
  intro state span restarts
  rw [silent, obeys.fits state span restarts]
  exact .stays first

end Reaction

/-! ## The side that asks -/

namespace ClientTransaction

variable {config : Config} {invokeId : UInt8}

/-- The reactions of this side, which give no request to the application. -/
abbrev Unheard (reaction : Reaction ClientTransaction) : Prop :=
  reaction.Obeys (·.isIndication = false) fun _ => True

theorem unheard_sendSegments (client : ClientTransaction) (segments : List Segment) :
    ∀ effect ∈ client.sendSegments config invokeId segments, effect.isIndication = false := by
  intro effect member
  obtain ⟨segment, _, rfl⟩ := List.mem_map.mp member
  rfl

theorem unheard_of_isControl {effects : List TransactionEffect}
    (controls : ∀ effect ∈ effects, effect.IsControl invokeId) :
    ∀ effect ∈ effects, effect.isIndication = false := by
  intro effect member
  have control := controls effect member
  cases effect with
  | send apdu => rfl
  | indicate service parameters => cases control
  | confirm outcome => rfl

theorem unheard_conclude (outcome : Outcome) : Unheard (conclude outcome) :=
  Reaction.obeys_finish (List.forall_mem_singleton.mpr rfl)

theorem unheard_abort (reason : AbortReason) : Unheard (abort invokeId reason) :=
  (unheard_conclude _).after (List.forall_mem_singleton.mpr rfl)

/-- A request of this device gives no request to its application. -/
theorem Utters.unheard {client : ClientTransaction} {reaction : Reaction ClientTransaction}
    (utters : Utters client config invokeId reaction) : Unheard reaction := by
  cases utters with
  | ends controls outcome => exact (unheard_conclude outcome).after (unheard_of_isControl controls)
  | ignores => exact Reaction.obeys_ignore
  | goesOn controls same => exact Reaction.obeys_restart (unheard_of_isControl controls) trivial _
  | whole single same =>
    refine Reaction.obeys_restart ?_ trivial _
    exact List.forall_mem_singleton.mpr rfl
  | parts sending cut same => exact Reaction.obeys_restart (unheard_sendSegments _ _) trivial _

end ClientTransaction

/-! ## The side that answers -/

namespace ServerTransaction

variable {config : Config} {invokeId : UInt8} {first : ServerStage}

/-- The reactions of this side at a stage. -/
abbrev Advances (first : ServerStage) (reaction : Reaction ServerTransaction) : Prop :=
  reaction.Advances stage first

theorem unheard_sendSegments (server : ServerTransaction) (segments : List Segment) :
    (server.sendSegments invokeId segments).countP (·.isIndication) = 0 := by
  rw [List.countP_eq_zero]
  intro effect member
  obtain ⟨segment, _, rfl⟩ := List.mem_map.mp member
  exact Bool.false_ne_true

theorem advances_conclude (apdu : Apdu) : Advances first (conclude apdu) :=
  Reaction.advances_finish rfl

/-- The application is given the request. -/
theorem advances_process (server : ServerTransaction) (parameters : Octets) :
    Advances .collecting (server.process config parameters) :=
  Reaction.advances_restart _ .indicates

theorem advances_await (server : ServerTransaction) {effects : List TransactionEffect}
    (silent : effects.countP (·.isIndication) = 0) (window : ReceiveWindow) :
    Advances .collecting (server.await config effects window) := by
  apply Reaction.advances_restart
  rw [silent]
  exact .stays _

/-- The segments of the answer are sent. -/
theorem advances_answering (server : ServerTransaction) {effects : List TransactionEffect}
    (silent : effects.countP (·.isIndication) = 0) (window : SendWindow) (span : Nat)
    (leads : first.Leads .answering 0) :
    Advances first ⟨effects, .restart { server with phase := .segmentedResponse window } span⟩ := by
  apply Reaction.advances_restart
  rw [silent]
  exact leads

theorem advances_startReceive (server : ServerTransaction) (segment : Segment) :
    Advances .collecting (server.startReceive config invokeId segment) := by
  unfold startReceive
  split
  · exact advances_conclude _
  · split
    · exact advances_conclude _
    · split
      · exact advances_conclude _
      · apply Reaction.Advances.after _ rfl
        split
        · exact advances_await server rfl _
        · exact advances_process server _

theorem advances_start (request : ConfirmedRequest) :
    Advances .collecting (start config request) := by
  unfold start
  dsimp only
  split
  · exact advances_process _ _
  · exact advances_startReceive _ _

theorem advances_collect (server : ServerTransaction) (window : ReceiveWindow) (segment : Segment) :
    Advances .collecting (server.collect config invokeId window segment) := by
  unfold collect
  split
  · exact advances_conclude _
  · exact advances_await server rfl _
  · exact advances_await server rfl _
  · exact advances_await server rfl _
  · exact (advances_process server _).after rfl

theorem advances_respond (server : ServerTransaction) (outcome : Outcome) :
    Advances .working (server.respond config invokeId outcome) := by
  unfold respond
  split
  · exact advances_conclude _
  · unfold respondComplex
    dsimp only
    split
    · exact advances_conclude _
    · split
      · exact advances_conclude _
      · split
        · exact advances_conclude _
        · exact advances_answering server (unheard_sendSegments _ _) _ _ .answers
  · exact advances_conclude _
  · exact advances_conclude _
  · exact advances_conclude _
  · exact advances_conclude _

theorem advances_acknowledge (server : ServerTransaction) (window : SendWindow)
    (received : SegmentAck) :
    Advances .answering (server.acknowledge config invokeId window received) := by
  unfold acknowledge
  split
  dsimp only
  split
  · exact advances_answering server rfl _ _ (.stays _)
  · exact Reaction.advances_finish rfl
  · exact advances_answering server (unheard_sendSegments _ _) _ _ (.stays _)

theorem advances_receive (server : ServerTransaction) (apdu : Apdu) :
    Advances server.stage (server.receive config invokeId apdu) := by
  unfold receive
  split
  · exact Reaction.advances_finish rfl
  · next window phase =>
    have collecting : server.stage = .collecting := by rw [stage, phase]
    rw [collecting]
    split
    · exact advances_collect server window _
    · exact advances_conclude _
  · next window phase =>
    have answering : server.stage = .answering := by rw [stage, phase]
    rw [answering]
    exact advances_acknowledge server _ _
  · exact Reaction.advances_ignore

theorem advances_timeout (server : ServerTransaction) :
    Advances server.stage (server.timeout config invokeId) := by
  unfold timeout
  split
  · exact Reaction.advances_finish rfl
  · exact advances_conclude _
  · next window phase =>
    have answering : server.stage = .answering := by rw [stage, phase]
    rw [answering]
    split
    · exact advances_answering server (unheard_sendSegments _ _) _ _ (.stays _)
    · exact Reaction.advances_finish rfl

end ServerTransaction

/-! ## Both sides -/

namespace Transaction

variable {config : Config} {invokeId : UInt8}

/-- The reactions of a transaction at a stage. -/
abbrev Advances (first : ServerStage) (reaction : Reaction Transaction) : Prop :=
  reaction.Advances stage first

theorem advances_client {reaction : Reaction ClientTransaction}
    (unheard : ClientTransaction.Unheard reaction) :
    Advances .collecting (reaction.map client) := by
  apply Reaction.Obeys.advances
  exact unheard.map fun _ _ => rfl

theorem advances_server {first : ServerStage} {reaction : Reaction ServerTransaction}
    (advances : ServerTransaction.Advances first reaction) :
    Advances first (reaction.map server) :=
  Reaction.Advances.map advances fun _ => rfl

theorem advances_receive (transaction : Transaction) (apdu : Apdu) :
    Advances transaction.stage (transaction.receive config invokeId apdu) := by
  cases transaction with
  | client client => exact advances_client (client.utters_receive config invokeId apdu).unheard
  | server server => exact advances_server (server.advances_receive apdu)

theorem advances_abort (transaction : Transaction) (reason : AbortReason) :
    Advances transaction.stage (transaction.abort invokeId reason) := by
  cases transaction with
  | client client => exact advances_client (ClientTransaction.unheard_abort reason)
  | server server => exact advances_server (ServerTransaction.advances_conclude _)

theorem advances_timeout (transaction : Transaction) :
    Advances transaction.stage (transaction.timeout config invokeId) := by
  cases transaction with
  | client client => exact advances_client (client.utters_timeout config invokeId).unheard
  | server server => exact advances_server server.advances_timeout

/-- A reaction on the side that asks gives nothing to the application. -/
theorem silent_of_client {reaction : Reaction Transaction}
    (proper : Proper config .client reaction) (advances : Advances .collecting reaction) :
    reaction.indicationCount = 0 := by
  by_cases restarts : ∃ state span, reaction.progress = .restart state span
  · obtain ⟨state, span, goesOn⟩ := restarts
    have leads := advances.leads state span goesOn
    have side := (proper.fits state span goesOn).side_eq
    cases state with
    | server server => cases side
    | client client => exact leads.eq_zero rfl
  · apply advances.silent
    intro state span goesOn
    exact restarts ⟨state, span, goesOn⟩

/-- An application that has answered does not work on the request any more. -/
theorem stageOf_respond (server : ServerTransaction) (outcome : Outcome) :
    stageOf (((server.respond config invokeId outcome).map Transaction.server).progress.leaves
      (some (.server server))) ≠ .working := by
  unfold ServerTransaction.respond ServerTransaction.respondComplex
  dsimp only
  repeat' split
  all_goals nofun

/-- The application works on the request just when its transaction waits for the application. -/
theorem stageOf_eq_working_iff (found : Option Transaction) :
    stageOf found = .working ↔ found.map state = some .processing := by
  cases found with
  | none => simp [stageOf]
  | some transaction =>
    obtain ⟨⟨_, _, _, phase⟩⟩ | ⟨⟨_, _, _, _, phase⟩⟩ := transaction <;> cases phase <;>
      simp [stageOf, stage, ServerTransaction.stage, state]

end Transaction

/-! ## Endpoints -/

namespace Endpoint

/-- Whether the action gives the request of this name to the application. -/
def indicates (peer : Address) (invokeId : UInt8) (action : TransactionAction) : Bool :=
  action.peer = peer ∧ action.invokeId = invokeId ∧ action.effect.isIndication

/-- Whether the request of this name is not over. -/
def serves (endpoint : Endpoint) (peer : Address) (invokeId : UInt8) : Bool :=
  endpoint.transactions.contains (.server peer invokeId)

/-- Whether the application works on the request of this name. -/
def works (endpoint : Endpoint) (peer : Address) (invokeId : UInt8) : Bool :=
  endpoint.transactions.state? (.server peer invokeId) = some .processing

/-- Whether the event is an answer of the application to the request of this name, and is taken. -/
def accepts (endpoint : Endpoint) (peer : Address) (invokeId : UInt8) (now : Nat) :
    EndpointEvent → Bool
  | .respond other id outcome =>
    other = peer ∧ id = invokeId ∧
      (endpoint.transactions.respond endpoint.timers now other id outcome).isOk
  | _ => false

/-- How many answers to requests of this name are taken. -/
def accepted (peer : Address) (invokeId : UInt8) (endpoint : Endpoint) :
    List (Nat × EndpointEvent) → Nat
  | [] => 0
  | (now, event) :: rest =>
    (endpoint.accepts peer invokeId now event).toNat +
      accepted peer invokeId (endpoint.step now event).endpoint rest

end Endpoint

namespace EndpointStep

/-- How often the request of this name is given to the application. -/
def indicated (peer : Address) (invokeId : UInt8) (step : EndpointStep) : Nat :=
  step.actions.countP (Endpoint.indicates peer invokeId)

/-- How often the request of this name has been given to the application after one more step. The
count begins anew when there is no transaction. -/
def givenAfter (peer : Address) (invokeId : UInt8) (count : Nat) (step : EndpointStep) : Nat :=
  if step.endpoint.serves peer invokeId then count + step.indicated peer invokeId else 0

/-- How often the request of this name has been given to the application since its transaction
began. -/
def given (peer : Address) (invokeId : UInt8) (steps : List EndpointStep) : Nat :=
  steps.foldl (givenAfter peer invokeId) 0

end EndpointStep

namespace Endpoint

variable {config : Config} {peer : Address} {invokeId : UInt8}

/-- The stage of the request of this name. -/
def stage (endpoint : Endpoint) (peer : Address) (invokeId : UInt8) : ServerStage :=
  Transaction.stageOf (endpoint.transactions.find? (.server peer invokeId))

theorem works_iff (endpoint : Endpoint) :
    endpoint.works peer invokeId = true ↔ endpoint.stage peer invokeId = .working := by
  rw [works, decide_eq_true_iff, stage, Transaction.stageOf_eq_working_iff]
  rfl

theorem countP_indicates (key : TransactionKey) (reaction : Reaction Transaction) :
    (reaction.effects.map (⟨key.peer, key.invokeId, ·⟩)).countP (indicates peer invokeId) =
      if key.peer = peer ∧ key.invokeId = invokeId then reaction.indicationCount else 0 :=
  countP_named (·.isIndication) key reaction.effects

/-- Every reaction to an event leads to a later stage or stays. -/
theorem Reacts.advances {key : TransactionKey} {found : Option Transaction} {asks : Bool}
    {reaction : Reaction Transaction} (reacts : Reacts config key found asks reaction) :
    Transaction.Advances (Transaction.stageOf found) reaction := by
  cases reacts with
  | asks side service parameters plan =>
    exact Transaction.advances_client (ClientTransaction.utters_start _ _ _ _ plan).unheard
  | asked side request =>
    exact Transaction.advances_server (ServerTransaction.advances_start request)
  | discards => exact Reaction.advances_ignore
  | receives transaction apdu => exact transaction.advances_receive apdu
  | responds server outcome working =>
    have stage : Transaction.stageOf (some (.server server)) = .working := by
      show server.stage = .working
      rw [ServerTransaction.stage, working]
    rw [stage]
    exact Transaction.advances_server (server.advances_respond outcome)
  | aborts transaction reason => exact transaction.advances_abort reason
  | expires transaction => exact transaction.advances_timeout

theorem stage_of_not_serves {endpoint : Endpoint} (done : endpoint.serves peer invokeId = false) :
    endpoint.stage peer invokeId = .collecting := by
  rw [serves, Transactions.contains_eq_isSome, Option.isSome_eq_false_iff,
    Option.isNone_iff_eq_none] at done
  rw [stage, done]
  rfl

/-- What a step does to the request of a name: it is live afterwards and has come to a later stage
or stayed where it was, or there is none and nothing has been given to the application. -/
inductive Course (before : Endpoint) (peer : Address) (invokeId : UInt8) (after : EndpointStep) :
    Prop where
  | goesOn (live : after.endpoint.serves peer invokeId = true)
    (leads : (before.stage peer invokeId).Leads (after.endpoint.stage peer invokeId)
      (after.indicated peer invokeId))
  | ends (done : after.endpoint.serves peer invokeId = false)
    (silent : after.indicated peer invokeId = 0)

/-- The transaction itself has not changed, and the application has been given nothing. -/
theorem course_of_same {before : Endpoint} {after : EndpointStep}
    (same : after.endpoint.transactions.find? (.server peer invokeId) =
      before.transactions.find? (.server peer invokeId))
    (silent : after.indicated peer invokeId = 0) : Course before peer invokeId after := by
  cases live : after.endpoint.serves peer invokeId with
  | false => exact .ends live silent
  | true =>
    refine .goesOn live ?_
    rw [silent, stage, stage, same]
    exact .stays _

theorem course_of_effect {before : Endpoint} {now : Nat} {after : EndpointStep}
    (sound : before.transactions.Sound config) (effect : Effect before now after) :
    Course before peer invokeId after := by
  cases effect with
  | @idle transactions timers live config_eq same =>
    apply course_of_same
    · show transactions.find? _ = _
      rw [Transactions.find?, live, Transactions.find?]
    · rfl
  | stale popped other => exact course_of_same rfl rfl
  | @reacts transactions timers key asks reaction live config_eq reacts waits =>
    have view : ∀ other, transactions.find? other = before.transactions.find? other := by
      intro other
      rw [Transactions.find?, live, Transactions.find?]
    have advances := reacts.advances
    rw [sound.config_eq] at reacts
    have proper := reacts.proper (sound.fits key)
    have count := @countP_indicates peer invokeId key reaction
    have left : ∀ other,
        ({ took (transactions.react timers now key reaction) with
          granted := if asks then some key else none } : EndpointStep).endpoint.transactions.find?
            other = (transactions.proceed timers now key reaction.progress).1.find? other :=
      fun _ => rfl
    by_cases same : key = .server peer invokeId
    · -- The request itself reacts.
      subst same
      rw [if_pos ⟨rfl, rfl⟩] at count
      have remains := left (.server peer invokeId)
      rw [Transactions.find?_proceed_self, view] at remains
      by_cases restarts : ∃ state span, reaction.progress = .restart state span
      · obtain ⟨state, span, goesOn⟩ := restarts
        rw [goesOn] at remains
        refine .goesOn ?_ ?_
        · rw [serves, Transactions.contains_eq_isSome, remains]
          rfl
        · rw [stage, stage, remains, EndpointStep.indicated]
          exact count ▸ advances.leads state span goesOn
      · have silent := advances.silent fun state span goesOn => restarts ⟨state, span, goesOn⟩
        cases progress : reaction.progress with
        | restart state span => exact absurd ⟨state, span, progress⟩ restarts
        | keep =>
          rw [progress] at remains
          exact course_of_same remains (count.trans silent)
        | finish =>
          rw [progress] at remains
          refine .ends ?_ (count.trans silent)
          rw [serves, Transactions.contains_eq_isSome, remains]
          rfl
    · -- Another transaction reacts. Under the same name it stands on the side that asks.
      apply course_of_same
      · rw [left, Transactions.find?_proceed_of_ne _ _ _ _ _ same, view]
      · refine count.trans ?_
        split
        · next named =>
          cases side : key.side with
          | server =>
            obtain ⟨rfl, rfl⟩ := named
            obtain ⟨_, _, _⟩ := key
            cases side
            exact absurd rfl same
          | client =>
            have asking : Transaction.stageOf (before.transactions.find? key) = .collecting := by
              cases found : before.transactions.find? key with
              | none => rfl
              | some transaction =>
                have fits := (sound.fits key transaction found).side_eq
                cases transaction with
                | client client => rfl
                | server server => cases fits.trans side
            rw [asking] at advances
            rw [side] at proper
            exact Transaction.silent_of_client proper advances
        · rfl

theorem Course.works_le {before : Endpoint} {after : EndpointStep}
    (course : Course before peer invokeId after) :
    (after.endpoint.works peer invokeId).toNat ≤
      after.indicated peer invokeId + (before.works peer invokeId).toNat := by
  cases working : after.endpoint.works peer invokeId with
  | false => exact Nat.zero_le _
  | true =>
    have stage_eq := after.endpoint.works_iff.mp working
    cases course with
    | ends done silent => cases (stage_of_not_serves done).symm.trans stage_eq
    | goesOn live leads =>
      rw [stage_eq] at leads
      generalize earlier : before.stage peer invokeId = first at leads
      generalize after.indicated peer invokeId = count at leads
      cases leads with
      | stays =>
        rw [before.works_iff.mpr earlier]
        exact Nat.le_add_left _ _
      | indicates => exact Nat.le_add_right _ _

/-! ## Answers -/

theorem respond_of_not_works {endpoint : Endpoint} (idle : ¬ endpoint.works peer invokeId = true)
    (now : Nat) (outcome : Outcome) :
    endpoint.transactions.respond endpoint.timers now peer invokeId outcome =
      .error (.unknownTransaction (.server peer invokeId)) := by
  rw [works, decide_eq_true_iff, Transactions.state?] at idle
  unfold Transactions.respond
  dsimp only
  split
  · next server found =>
    split
    · next phase =>
      rw [found] at idle
      obtain ⟨_, _, _, _, _⟩ := server
      cases phase
      exact absurd rfl idle
    · rfl
  · rfl

/-- An answer is taken as long as the application works on the request. After it the application
does not work on the request any more. -/
theorem respond_of_works {endpoint : Endpoint} (working : endpoint.works peer invokeId = true)
    (now : Nat) (outcome : Outcome) :
    ∃ step, endpoint.transactions.respond endpoint.timers now peer invokeId outcome = .ok step ∧
      (took step).endpoint.works peer invokeId = false := by
  have state := of_decide_eq_true working
  rw [Transactions.state?] at state
  obtain ⟨transaction, found, processing⟩ := Option.map_eq_some_iff.mp state
  have phase : ∃ server, transaction = .server server ∧ server.phase = .processing := by
    obtain ⟨⟨_, _, _, phase⟩⟩ | ⟨⟨_, _, _, _, phase⟩⟩ := transaction <;> cases phase <;>
      cases processing
    exact ⟨_, rfl, rfl⟩
  obtain ⟨server, rfl, phase⟩ := phase
  have taken : endpoint.transactions.respond endpoint.timers now peer invokeId outcome =
      .ok (endpoint.transactions.react endpoint.timers now (.server peer invokeId)
        ((server.respond endpoint.transactions.config invokeId outcome).map .server)) := by
    rw [Transactions.respond, found]
    dsimp only
    rw [if_pos phase]
  refine ⟨_, taken, ?_⟩
  rw [Bool.eq_false_iff, ne_eq, works_iff, stage]
  show ¬ Transaction.stageOf ((endpoint.transactions.proceed endpoint.timers now _ _).1.find? _) = _
  rw [Transactions.find?_proceed_self, found]
  exact Transaction.stageOf_respond server outcome

theorem works_of_accepts {endpoint : Endpoint} {now : Nat} {event : EndpointEvent}
    (taken : endpoint.accepts peer invokeId now event = true) :
    endpoint.works peer invokeId = true ∧
      (endpoint.step now event).endpoint.works peer invokeId = false := by
  cases event with
  | respond other id outcome =>
    obtain ⟨rfl, rfl, ok⟩ := of_decide_eq_true taken
    by_cases working : endpoint.works other id = true
    · obtain ⟨step, answered, idle⟩ := respond_of_works working now outcome
      refine ⟨working, ?_⟩
      rw [Endpoint.step, answered]
      exact idle
    · rw [respond_of_not_works working] at ok
      cases ok
  | _ => cases taken

/-- An answer that is taken ends the work on a request that has been given to the application. -/
theorem accepts_add_works_le {before : Endpoint} (sound : before.transactions.Sound config)
    (now : Nat) (event : EndpointEvent) :
    (before.accepts peer invokeId now event).toNat +
        ((before.step now event).endpoint.works peer invokeId).toNat ≤
      (before.step now event).indicated peer invokeId + (before.works peer invokeId).toNat := by
  cases taken : before.accepts peer invokeId now event with
  | false =>
    rw [Bool.toNat_false, Nat.zero_add]
    exact (course_of_effect sound (effect_step before now event)).works_le
  | true =>
    obtain ⟨working, idle⟩ := works_of_accepts taken
    rw [working, idle]
    exact Nat.le_add_left _ _

/-! ## Runs -/

/-- In every stretch of a run, no more answers are taken than requests have been given to the
application, but for one on which it has been working before. -/
theorem accepted_le {before : Endpoint} (sound : before.transactions.Sound config)
    (events : List (Nat × EndpointEvent)) :
    before.accepted peer invokeId events + ((before.run events).works peer invokeId).toNat ≤
      ((before.steps events).flatMap (·.actions)).countP (indicates peer invokeId) +
        (before.works peer invokeId).toNat := by
  induction events generalizing before with
  | nil => exact Nat.le_refl _
  | cons first rest ih =>
    obtain ⟨now, event⟩ := first
    have later := ih (sound_step sound now event)
    have here := @accepts_add_works_le config peer invokeId before sound now event
    rw [EndpointStep.indicated] at here
    simp only [accepted, steps, run, List.flatMap_cons, List.countP_append]
    omega

/-- The application has been given the request of a live transaction once, if it is past the first
stage. -/
theorem given_run {before : Endpoint} (sound : before.transactions.Sound config) {count : Nat}
    (told : count = (before.stage peer invokeId).told) (events : List (Nat × EndpointEvent)) :
    (before.steps events).foldl (EndpointStep.givenAfter peer invokeId) count =
      ((before.run events).stage peer invokeId).told := by
  induction events generalizing before count with
  | nil => exact told
  | cons first rest ih =>
    obtain ⟨now, event⟩ := first
    refine ih (sound_step sound now event) ?_
    rw [EndpointStep.givenAfter]
    cases @course_of_effect config peer invokeId before now _ sound
        (effect_step before now event) with
    | goesOn live leads =>
      rw [if_pos live, told]
      exact leads.told_add
    | ends done silent =>
      rw [if_neg (Bool.eq_false_iff.mp done), stage_of_not_serves done]
      rfl

/-- In every run of a device from its start, and under every name, the application is given a
request at most once while its transaction is live, and only when it has not been given it before;
then it works on the request. In every stretch of the run it has as many answers taken as it has
been given requests, but for one more if it was already working on one. An answer is taken just when
it works on the request, and otherwise there is no such transaction, and nothing happens. -/
theorem indicated_once (config : Config) (events : List (Nat × EndpointEvent)) (peer : Address)
    (invokeId : UInt8) :
    EndpointStep.given peer invokeId ((new config).steps events) ≤ 1 ∧
      (∀ now event, 0 < (((new config).run events).step now event).indicated peer invokeId →
        EndpointStep.given peer invokeId ((new config).steps events) = 0 ∧
          (((new config).run events).step now event).indicated peer invokeId = 1 ∧
          (((new config).run events).step now event).endpoint.works peer invokeId = true) ∧
      (∀ later, ((new config).run events).accepted peer invokeId later +
          ((((new config).run events).run later).works peer invokeId).toNat ≤
        ((((new config).run events).steps later).flatMap (·.actions)).countP
            (indicates peer invokeId) +
          (((new config).run events).works peer invokeId).toNat) ∧
      ∀ now outcome,
        (((new config).run events).works peer invokeId = true →
          ∃ step, ((new config).run events).transactions.respond
              ((new config).run events).timers now peer invokeId outcome = .ok step ∧
            (took step).endpoint.works peer invokeId = false) ∧
        (¬ ((new config).run events).works peer invokeId = true →
          ((new config).run events).transactions.respond ((new config).run events).timers now peer
              invokeId outcome = .error (.unknownTransaction (.server peer invokeId)) ∧
            ((new config).run events).step now (.respond peer invokeId outcome) =
              ⟨none, [], (new config).run events⟩) := by
  have sound : (new config).transactions.Sound config := Transactions.sound_new config
  have reached := sound_run sound events
  have told : EndpointStep.given peer invokeId ((new config).steps events) =
      (((new config).run events).stage peer invokeId).told :=
    given_run sound rfl events
  refine ⟨?_, ?_, accepted_le reached, ?_⟩
  · rw [told]
    exact ServerStage.told_le_one _
  · intro now event indicated
    cases @course_of_effect config peer invokeId _ now _ reached (effect_step _ now event) with
    | ends done silent => omega
    | goesOn live leads =>
      obtain ⟨first, last, once⟩ := leads.indicates_of_pos indicated
      refine ⟨?_, once, (works_iff _).mpr last⟩
      rw [told, first]
      rfl
  · intro now outcome
    refine ⟨fun working => respond_of_works working now outcome, ?_⟩
    intro idle
    have refused := respond_of_not_works idle now outcome
    refine ⟨refused, ?_⟩
    rw [step, refused]
    rfl

end Endpoint

end BACnet
