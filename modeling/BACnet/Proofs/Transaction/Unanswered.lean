import BACnet.Proofs.Transaction.Flowing
import BACnet.Proofs.Transaction.Passing

/-!
# Requests that nobody answers

A request to a device that stays silent is sent as often as the configuration says, at equal
intervals and always with the same octets: wholly if it fits one message, and if it does not, its
first segment alone. One interval after the last attempt the application is told that no answer has
come, and nothing is left of the request (`Endpoint.unanswered_run`).
-/

namespace BACnet

/-! ## Plans -/

namespace RequestPlan

variable {config : Config} {parameters : Octets} {known : Option Peer} {plan : RequestPlan}

/-- A request is sent wholly if it is short enough for that, and else in segments of the size that
the peer leaves room for, of which the peer accepts as many. -/
theorem new_cases {length : Nat} (planned : new config length known = .ok plan) :
    headLength + length ≤ longestApdu config known ∧ plan = ⟨max length 1, 1⟩ ∨
      longestApdu config known < headLength + length ∧
        plan = segmented (longestApdu config known) length ∧
        checkPeer plan.segments known = .ok () := by
  unfold new at planned
  dsimp only at planned
  split at planned
  · next short =>
    cases planned
    exact .inl ⟨short, rfl⟩
  · next long =>
    split at planned
    · cases planned
    · cases accepted : checkPeer (segmented (longestApdu config known) length).segments known with
      | error reason =>
        rw [accepted] at planned
        cases planned
      | ok _ =>
        rw [accepted] at planned
        cases planned
        exact .inr ⟨Nat.not_le.mp long, rfl, accepted⟩

theorem segmentSize_pos {length : Nat} (planned : new config length known = .ok plan) :
    1 ≤ plan.segmentSize := by
  rcases new_cases planned with ⟨-, rfl⟩ | ⟨-, rfl, -⟩
  · exact Nat.le_max_right _ _
  · exact Nat.le_max_right _ _

/-- A request is cut into as many segments as planned. -/
theorem count_eq (planned : new config parameters.length known = .ok plan) :
    (Payload.new parameters plan.segmentSize).count = plan.segments := by
  rcases new_cases planned with ⟨-, rfl⟩ | ⟨-, rfl, -⟩
  · exact Payload.count_new_whole parameters
  · have same : max (segmented (longestApdu config known) parameters.length).segmentSize 1 =
        (segmented (longestApdu config known) parameters.length).segmentSize :=
      Nat.max_eq_left (Nat.le_max_right _ _)
    rw [Payload.new, same]
    rfl

/-- How long the answer to a request is awaited, or that to its first segment. -/
def span (plan : RequestPlan) (config : Config) : Nat :=
  if 1 < plan.segments then config.segmentSpan else config.answerSpan

/-- The message with which a request begins: the whole request, or its first segment. -/
def opening (plan : RequestPlan) (config : Config) (invokeId service : UInt8)
    (parameters : Octets) : Apdu :=
  let request : ConfirmedRequest :=
    ⟨config.segmentation.canReceive, config.maxSegments, config.maxApdu, invokeId, none, service,
      parameters⟩
  if 1 < plan.segments then
    .confirmedRequest { request with
      segment := some ⟨0, clampWindow config.proposedWindow, true⟩
      parameters := parameters.take plan.segmentSize }
  else .confirmedRequest request

/-- The segments of a request of which nothing has been acknowledged. -/
def window (plan : RequestPlan) (config : Config) (parameters : Octets) : SendWindow :=
  .new (.new parameters plan.segmentSize) config.proposedWindow

/-- The request after `attempt` further attempts. They are counted for the segments or for the whole
request. -/
def waiting (plan : RequestPlan) (config : Config) (service : UInt8) (parameters : Octets)
    (attempt : Nat) : ClientTransaction :=
  let send := plan.window config parameters
  if 1 < plan.segments then ⟨service, { send with retries := attempt }, 0, .segmentedRequest⟩
  else ⟨service, send, attempt, .awaitingAck⟩

end RequestPlan

namespace RequestPlan

variable {config : Config} {parameters : Octets} {known : Option Peer} {plan : RequestPlan}

theorem isSegmented_window (planned : new config parameters.length known = .ok plan) :
    (plan.window config parameters).isSegmented = decide (1 < plan.segments) := by
  rw [← count_eq planned]
  rfl

/-- As long as nothing is acknowledged, the first segment alone is sent. -/
theorem pending_window (planned : new config parameters.length known = .ok plan)
    (several : 1 < plan.segments) (attempt : Nat) :
    SendWindow.pending { plan.window config parameters with retries := attempt } =
      [⟨⟨0, clampWindow config.proposedWindow, true⟩, parameters.take plan.segmentSize⟩] := by
  have count := count_eq planned
  have inside : 0 < (Payload.new parameters plan.segmentSize).count :=
    Nat.lt_of_succ_lt (count ▸ several)
  have size : max plan.segmentSize 1 = plan.segmentSize :=
    Nat.max_eq_left (segmentSize_pos planned)
  have more : (Payload.new parameters plan.segmentSize).isLast 0 = false :=
    decide_eq_false (Nat.not_le_of_lt (count ▸ several))
  have data : (Payload.new parameters plan.segmentSize).segment? 0 =
      some (parameters.take plan.segmentSize) := by
    rw [Payload.segment?_eq_some inside, Nat.zero_mul, List.drop_zero, Payload.new, size]
  show SendWindow.segments _ 1 0 = _
  simp only [SendWindow.segments, SendWindow.segment?, window, SendWindow.new, data, more,
    Option.map_some, if_true]
  rfl

/-- A request that is sent from its beginning begins with the same message, whatever has been
counted before. -/
theorem transmit_eq (planned : new config parameters.length known = .ok plan)
    (invokeId service : UInt8) (retries : Nat) :
    ClientTransaction.transmit ⟨service, plan.window config parameters, retries, .awaitingAck⟩
        config invokeId =
      ⟨[.send (plan.opening config invokeId service parameters)],
        .restart ⟨service, plan.window config parameters, retries,
          if 1 < plan.segments then .segmentedRequest else .awaitingAck⟩ (plan.span config)⟩ := by
  have rewound : (plan.window config parameters).rewind = plan.window config parameters := rfl
  unfold ClientTransaction.transmit opening span
  dsimp only
  rw [rewound, isSegmented_window planned]
  by_cases several : 1 < plan.segments
  · have pending : (plan.window config parameters).pending = _ :=
      pending_window planned several 0
    rw [if_pos (decide_eq_true several), pending, if_pos several, if_pos several, if_pos several]
    rfl
  · rw [decide_eq_false several, if_neg several, if_neg several, if_neg several]
    rfl

theorem start_eq (planned : new config parameters.length known = .ok plan)
    (invokeId service : UInt8) :
    ClientTransaction.start config invokeId service parameters plan =
      ⟨[.send (plan.opening config invokeId service parameters)],
        .restart (plan.waiting config service parameters 0) (plan.span config)⟩ := by
  show ClientTransaction.transmit ⟨service, plan.window config parameters, 0, _⟩ config invokeId = _
  rw [transmit_eq planned, waiting]
  split <;> rfl

/-- A request that has attempts left is sent again as it was before. -/
theorem timeout_waiting (planned : new config parameters.length known = .ok plan)
    (invokeId service : UInt8) {attempt : Nat} (more : attempt < config.apduRetries.toNat) :
    (plan.waiting config service parameters attempt).timeout config invokeId =
      ⟨[.send (plan.opening config invokeId service parameters)],
        .restart (plan.waiting config service parameters (attempt + 1)) (plan.span config)⟩ := by
  by_cases several : 1 < plan.segments
  · simp only [waiting, opening, span, if_pos several]
    unfold ClientTransaction.timeout
    dsimp only
    rw [if_pos more, pending_window planned several attempt]
    rfl
  · have again := @transmit_eq config parameters known plan planned invokeId service (attempt + 1)
    simp only [waiting, if_neg several] at again ⊢
    rw [← again]
    exact if_pos more

/-- A request without further attempts is given up. -/
theorem timeout_waiting_last (plan : RequestPlan) (config : Config) (parameters : Octets)
    (invokeId service : UInt8) :
    (plan.waiting config service parameters config.apduRetries.toNat).timeout config invokeId =
      ClientTransaction.conclude (.error .timeout) := by
  unfold waiting
  dsimp only
  split
  · exact if_neg (Nat.lt_irrefl _)
  · exact if_neg (Nat.lt_irrefl _)

end RequestPlan

/-! ## What is done and when -/

/-- What is done in the name of a transaction. -/
def EndpointStep.effectsOf (step : EndpointStep) (key : TransactionKey) : List TransactionEffect :=
  (step.actions.filter (·.name = key)).map (·.effect)

namespace RequestPlan

/-- The attempt with this number, and when it is made. -/
def attempted (plan : RequestPlan) (config : Config) (invokeId service : UInt8)
    (parameters : Octets) (start attempt : Nat) : Nat × TransactionEffect :=
  (start + attempt * plan.span config, .send (plan.opening config invokeId service parameters))

/-- When the application is told that no answer has come. -/
def givenUp (plan : RequestPlan) (config : Config) (start : Nat) : Nat × TransactionEffect :=
  (start + (config.apduRetries.toNat + 1) * plan.span config, .confirm (.error .timeout))

/-- All attempts at a request that nobody answers, and the end of it. -/
def schedule (plan : RequestPlan) (config : Config) (invokeId service : UInt8)
    (parameters : Octets) (start : Nat) : List (Nat × TransactionEffect) :=
  (List.range (config.apduRetries.toNat + 1)).map
    (plan.attempted config invokeId service parameters start) ++ [plan.givenUp config start]

/-- The schedule from an attempt on. -/
def scheduleFrom (plan : RequestPlan) (config : Config) (invokeId service : UInt8)
    (parameters : Octets) (start attempt : Nat) : List (Nat × TransactionEffect) :=
  (List.range' attempt (config.apduRetries.toNat + 1 - attempt)).map
    (plan.attempted config invokeId service parameters start) ++ [plan.givenUp config start]

variable {config : Config} {plan : RequestPlan} {invokeId service : UInt8} {parameters : Octets}
  {start attempt : Nat}

theorem schedule_eq : plan.schedule config invokeId service parameters start =
    plan.scheduleFrom config invokeId service parameters start 0 := by
  rw [schedule, List.range_eq_range']
  rfl

theorem scheduleFrom_of_le (more : attempt ≤ config.apduRetries.toNat) :
    plan.scheduleFrom config invokeId service parameters start attempt =
      plan.attempted config invokeId service parameters start attempt ::
        plan.scheduleFrom config invokeId service parameters start (attempt + 1) := by
  have left : config.apduRetries.toNat + 1 - attempt =
      config.apduRetries.toNat + 1 - (attempt + 1) + 1 := by omega
  rw [scheduleFrom, left, List.range'_succ]
  rfl

theorem scheduleFrom_last :
    plan.scheduleFrom config invokeId service parameters start (config.apduRetries.toNat + 1) =
      [plan.givenUp config start] := by
  rw [scheduleFrom, Nat.sub_self]
  rfl

/-- The next attempt is made when its time has come. -/
theorem filter_scheduleFrom_of_le {last : Nat} (more : attempt ≤ config.apduRetries.toNat)
    (due : start + attempt * plan.span config ≤ last) :
    (plan.scheduleFrom config invokeId service parameters start attempt).filter (·.1 ≤ last) =
      plan.attempted config invokeId service parameters start attempt ::
        (plan.scheduleFrom config invokeId service parameters start (attempt + 1)).filter
          (·.1 ≤ last) := by
  rw [scheduleFrom_of_le more, List.filter_cons, attempted, if_pos (decide_eq_true due)]

/-- Nothing is done before the time of the next attempt. -/
theorem filter_scheduleFrom_of_lt {last : Nat} (within : attempt ≤ config.apduRetries.toNat + 1)
    (early : last < start + attempt * plan.span config) :
    (plan.scheduleFrom config invokeId service parameters start attempt).filter (·.1 ≤ last) =
      [] := by
  have late (other : Nat) (behind : attempt ≤ other) :
      last < start + other * plan.span config :=
    Nat.lt_of_lt_of_le early (Nat.add_le_add_left (Nat.mul_le_mul_right _ behind) start)
  rw [List.filter_eq_nil_iff]
  intro entry member
  rw [decide_eq_true_eq, Nat.not_le]
  rcases List.mem_append.mp member with tried | ended
  · obtain ⟨other, among, rfl⟩ := List.mem_map.mp tried
    exact late other (List.mem_range'_1.mp among).1
  · rw [List.mem_singleton.mp ended]
    exact late _ within

/-- In the end all has been done. -/
theorem filter_schedule_of_le {last : Nat}
    (past : start + (config.apduRetries.toNat + 1) * plan.span config ≤ last) :
    (plan.schedule config invokeId service parameters start).filter (·.1 ≤ last) =
      plan.schedule config invokeId service parameters start := by
  rw [List.filter_eq_self]
  intro entry member
  refine decide_eq_true (Nat.le_trans ?_ past)
  rcases List.mem_append.mp member with tried | ended
  · obtain ⟨attempt, among, rfl⟩ := List.mem_map.mp tried
    have before := Nat.le_of_lt (List.mem_range.mp among)
    exact Nat.add_le_add_left (Nat.mul_le_mul_right _ before) start
  · rw [List.mem_singleton.mp ended]
    exact Nat.le_refl _

end RequestPlan

namespace Endpoint

/-- When the timer of a transaction is due. -/
def deadline? (endpoint : Endpoint) (key : TransactionKey) : Option Nat :=
  (endpoint.transactions.timer? key).map (·.deadline)

/-- What is done in the name of a transaction in the course of events, and when. -/
def doneFor (key : TransactionKey) (endpoint : Endpoint) :
    List (Nat × EndpointEvent) → List (Nat × TransactionEffect)
  | [] => []
  | (now, event) :: rest =>
    ((endpoint.step now event).effectsOf key).map (now, ·) ++
      (endpoint.step now event).endpoint.doneFor key rest

/-- Nothing is meant for a transaction but the ends of its timer, each told when it is due, and its
name is not given to another one. -/
def LeftAlone (key : TransactionKey) (endpoint : Endpoint) : List (Nat × EndpointEvent) → Prop
  | [] => True
  | (now, event) :: rest =>
    (endpoint.selects? now event = some key →
      event = .expire ∧ endpoint.deadline? key = some now) ∧
    (endpoint.step now event).granted ≠ some key ∧
    (endpoint.step now event).endpoint.LeftAlone key rest

instance decidableLeftAlone (key : TransactionKey) (endpoint : Endpoint) :
    (events : List (Nat × EndpointEvent)) → Decidable (endpoint.LeftAlone key events)
  | [] => inferInstanceAs (Decidable True)
  | (now, event) :: rest =>
    have := decidableLeftAlone key (endpoint.step now event).endpoint rest
    inferInstanceAs (Decidable
      ((endpoint.selects? now event = some key →
        event = .expire ∧ endpoint.deadline? key = some now) ∧
      (endpoint.step now event).granted ≠ some key ∧
      (endpoint.step now event).endpoint.LeftAlone key rest))

variable {config : Config} {endpoint : Endpoint} {key : TransactionKey}

theorem PassesBy.effectsOf_eq {step : EndpointStep} (passes : PassesBy key endpoint step) :
    step.effectsOf key = [] := by
  rw [EndpointStep.effectsOf, List.map_eq_nil_iff, List.filter_eq_nil_iff]
  intro action member
  rw [decide_eq_true_eq]
  exact passes.actions action member

theorem PassesBy.deadline?_eq {step : EndpointStep} (passes : PassesBy key endpoint step) :
    step.endpoint.deadline? key = endpoint.deadline? key := by
  rw [deadline?, Transactions.timer?, passes.live]
  rfl

/-- A transaction that is over stays so if it is left alone, and nothing is done for it. -/
theorem gone_run (invariant : endpoint.Invariant config)
    (gone : endpoint.transactions.live.find? key = none) {events : List (Nat × EndpointEvent)}
    (alone : endpoint.LeftAlone key events) :
    endpoint.doneFor key events = [] ∧
      (endpoint.run events).transactions.live.find? key = none := by
  induction events generalizing endpoint with
  | nil => exact ⟨rfl, gone⟩
  | cons first rest ih =>
    obtain ⟨now, event⟩ := first
    obtain ⟨meant, begins, alone⟩ := alone
    have untimed : endpoint.deadline? key = none := by
      rw [deadline?, Transactions.timer?, gone]
      rfl
    have passes := invariant.passesBy (fun selected => by
      obtain ⟨-, due⟩ := meant selected
      rw [untimed] at due
      cases due) begins
    obtain ⟨silent, absent⟩ := ih (invariant_of_effect (effect_step endpoint now event) invariant)
      (passes.live.trans gone) alone
    refine ⟨?_, absent⟩
    rw [doneFor, passes.effectsOf_eq, silent]
    rfl

/-! ## Attempts -/

/-- The request waits, after `attempt` further attempts, for an answer or for the next attempt. -/
structure Waits (plan : RequestPlan) (config : Config) (key : TransactionKey) (service : UInt8)
    (parameters : Octets) (start attempt : Nat) (endpoint : Endpoint) : Prop where
  found : endpoint.transactions.find? key =
    some (.client (plan.waiting config service parameters attempt))
  deadline : endpoint.deadline? key = some (start + (attempt + 1) * plan.span config)

/-- What a transaction does is done in its name. -/
theorem effectsOf_react (transactions : Transactions) (timers : TimerQueue TimerEvent) (now : Nat)
    {service : UInt8} {reaction : Reaction Transaction}
    (voiced : Transaction.Voiced key service reaction) :
    (took (transactions.react timers now key reaction)).effectsOf key = reaction.effects := by
  have all : (took (transactions.react timers now key reaction)).actions.filter (·.name = key) =
      (took (transactions.react timers now key reaction)).actions :=
    List.filter_eq_self.mpr fun action member =>
      decide_eq_true (Reaction.name_of_mem voiced member)
  rw [EndpointStep.effectsOf, all]
  exact List.map_map.trans (List.map_id _)

/-- The end of its timer makes a transaction react. -/
theorem Invariant.step_expire (invariant : endpoint.Invariant config) {now : Nat}
    (selected : endpoint.selects? now .expire = some key) {transaction : Transaction}
    (found : endpoint.transactions.find? key = some transaction) :
    (endpoint.step now .expire).effectsOf key =
        (transaction.timeout config key.invokeId).effects ∧
      ∃ timers, endpoint.step now .expire = took
        (endpoint.transactions.react timers now key (transaction.timeout config key.invokeId)) := by
  obtain ⟨timers, -, does⟩ := invariant.step_eq selected
  obtain ⟨service, voiced⟩ := invariant.voiced_reaction selected
  rw [found] at does voiced
  refine ⟨?_, timers, does⟩
  rw [does]
  exact effectsOf_react _ _ _ voiced

/-- A transaction that goes on waits for its span from now on. -/
theorem deadline?_react (transactions : Transactions) (timers : TimerQueue TimerEvent) (now : Nat)
    (key : TransactionKey) (effects : List TransactionEffect) (state : Transaction) (span : Nat) :
    (took (transactions.react timers now key ⟨effects, .restart state span⟩)).endpoint.deadline?
      key = some (now + span) := by
  show (((transactions.live.insert key _).find? key).map _).map _ = _
  rw [Table.find?_insert, if_pos rfl]
  rfl

namespace Waits

variable {plan : RequestPlan} {service : UInt8} {parameters : Octets} {known : Option Peer}
  {start attempt now : Nat}

/-- The request waits after it has been sent once more. -/
theorem of_restart (transactions : Transactions) (timers : TimerQueue TimerEvent)
    (effects : List TransactionEffect) (due : now = start + attempt * plan.span config) :
    Waits plan config key service parameters start attempt
      (took (transactions.react timers now key ⟨effects,
        .restart (.client (plan.waiting config service parameters attempt))
          (plan.span config)⟩)).endpoint := by
  refine ⟨transactions.find?_proceed_self timers now key (.restart _ _), ?_⟩
  rw [deadline?_react, due, Nat.succ_mul, Nat.add_assoc]

theorem of_passesBy {step : EndpointStep}
    (waits : endpoint.Waits plan config key service parameters start attempt)
    (passes : PassesBy key endpoint step) :
    step.endpoint.Waits plan config key service parameters start attempt := by
  refine ⟨?_, passes.deadline?_eq.trans waits.deadline⟩
  rw [Transactions.find?, passes.live]
  exact waits.found

/-- A request that has attempts left is sent again when its timer has run out. -/
theorem step_again (planned : RequestPlan.new config parameters.length known = .ok plan)
    (invariant : endpoint.Invariant config)
    (waits : endpoint.Waits plan config key service parameters start attempt)
    (selected : endpoint.selects? now .expire = some key)
    (due : now = start + (attempt + 1) * plan.span config)
    (more : attempt < config.apduRetries.toNat) :
    (endpoint.step now .expire).effectsOf key =
        [.send (plan.opening config key.invokeId service parameters)] ∧
      (endpoint.step now .expire).endpoint.Waits plan config key service parameters start
        (attempt + 1) := by
  obtain ⟨effects, timers, does⟩ := invariant.step_expire selected waits.found
  have again := RequestPlan.timeout_waiting planned key.invokeId service more
  rw [Transaction.timeout, again] at effects does
  refine ⟨effects, ?_⟩
  rw [does]
  exact of_restart _ _ _ due

/-- A request without further attempts is given up when its timer has run out. -/
theorem step_last (invariant : endpoint.Invariant config)
    (waits : endpoint.Waits plan config key service parameters start config.apduRetries.toNat)
    (selected : endpoint.selects? now .expire = some key) :
    (endpoint.step now .expire).effectsOf key = [.confirm (.error .timeout)] ∧
      (endpoint.step now .expire).endpoint.transactions.live.find? key = none := by
  obtain ⟨effects, timers, does⟩ := invariant.step_expire selected waits.found
  have stops := plan.timeout_waiting_last config parameters key.invokeId service
  rw [Transaction.timeout, stops] at effects does
  refine ⟨effects, ?_⟩
  rw [does]
  show (endpoint.transactions.live.erase key).find? key = none
  rw [Table.find?_erase, if_pos rfl]

/-- Whatever else happens, the attempts that are left are made at their times. -/
theorem doneFor_eq (planned : RequestPlan.new config parameters.length known = .ok plan)
    (invariant : endpoint.Invariant config)
    (waits : endpoint.Waits plan config key service parameters start attempt)
    (within : attempt ≤ config.apduRetries.toNat) {events : List (Nat × EndpointEvent)}
    (alone : endpoint.LeftAlone key events) {last : Nat}
    (reached : ∀ entry ∈ events, entry.1 ≤ last)
    (punctual : ∀ due, (endpoint.run events).deadline? key = some due → last < due) :
    endpoint.doneFor key events =
        (plan.scheduleFrom config key.invokeId service parameters start (attempt + 1)).filter
          (·.1 ≤ last) ∧
      (start + (config.apduRetries.toNat + 1) * plan.span config ≤ last →
        (endpoint.run events).transactions.live.find? key = none) := by
  induction events generalizing endpoint attempt with
  | nil =>
    have early : last < start + (attempt + 1) * plan.span config := punctual _ waits.deadline
    refine ⟨(RequestPlan.filter_scheduleFrom_of_lt (Nat.succ_le_succ within) early).symm, ?_⟩
    intro past
    have ordered : (attempt + 1) * plan.span config ≤
        (config.apduRetries.toNat + 1) * plan.span config :=
      Nat.mul_le_mul_right _ (Nat.succ_le_succ within)
    omega
  | cons first rest ih =>
    obtain ⟨now, event⟩ := first
    obtain ⟨meant, begins, alone⟩ := alone
    obtain ⟨current, ahead⟩ := List.forall_mem_cons.mp reached
    have next := invariant_of_effect (effect_step endpoint now event) invariant
    by_cases selected : endpoint.selects? now event = some key
    · obtain ⟨rfl, deadline⟩ := meant selected
      have due : now = start + (attempt + 1) * plan.span config :=
        Option.some.inj (deadline.symm.trans waits.deadline)
      rcases Nat.lt_or_eq_of_le within with more | rfl
      · obtain ⟨effects, waits⟩ := waits.step_again planned invariant selected due more
        obtain ⟨does, ends⟩ := ih next waits more alone ahead punctual
        refine ⟨?_, ends⟩
        rw [doneFor, effects, does, RequestPlan.filter_scheduleFrom_of_le more (due ▸ current),
          RequestPlan.attempted, ← due]
        rfl
      · obtain ⟨effects, gone⟩ := waits.step_last invariant selected
        obtain ⟨silent, absent⟩ := gone_run next gone alone
        refine ⟨?_, fun _ => absent⟩
        rw [doneFor, effects, silent, RequestPlan.scheduleFrom_last, List.filter_cons,
          RequestPlan.givenUp, ← due, if_pos (decide_eq_true current)]
        rfl
    · have passes := invariant.passesBy selected begins
      obtain ⟨does, ends⟩ := ih next (waits.of_passesBy passes) within alone ahead punctual
      refine ⟨?_, ends⟩
      rw [doneFor, passes.effectsOf_eq, does]
      rfl

end Waits

/-- A request that has been made waits for its answer. -/
theorem Invariant.waits_request (invariant : endpoint.Invariant config) {start : Nat}
    {peer : Address} {service : UInt8} {parameters : Octets} {known : Option Peer}
    (granted : (endpoint.step start (.request peer service parameters known)).granted = some key) :
    ∃ plan, RequestPlan.new config parameters.length known = .ok plan ∧
      (endpoint.step start (.request peer service parameters known)).effectsOf key =
        [.send (plan.opening config key.invokeId service parameters)] ∧
      (endpoint.step start (.request peer service parameters known)).endpoint.Waits plan config key
        service parameters start 0 := by
  rcases endpoint.step_request start peer service parameters known with
    ⟨invokeIds, does⟩ | ⟨plan, id, invokeIds, planned, -, does⟩
  · rw [does] at granted
    cases granted
  · rw [does] at granted ⊢
    cases granted
    rw [invariant.sound.config_eq] at planned
    have voiced : Transaction.Voiced (.client peer id) service
        ((ClientTransaction.start config id service parameters plan).map .client) :=
      Transaction.voiced_client (ClientTransaction.voiced_start service parameters plan)
    have opens := RequestPlan.start_eq planned id service
    refine ⟨plan, planned, ?_, ?_⟩
    · have effects := effectsOf_react { endpoint.transactions with invokeIds } endpoint.timers start
        voiced
      rw [opens] at effects
      rw [begun, invariant.sound.config_eq, opens]
      exact effects
    · rw [begun, invariant.sound.config_eq, opens]
      exact Waits.of_restart { endpoint.transactions with invokeIds } endpoint.timers _ (by omega)

/-- A request to which no answer comes, at a device where each timer is told when it is due, is made
`config.apduRetries + 1` times, at intervals of the time allowed for an answer, or for an
acknowledgment if it is cut into segments, and always by the same message. One interval later the
application is told that no answer has come. Then nothing is left of the request, neither in the
list of the transactions nor among the timers, and nothing more is done for it. -/
theorem unanswered_run (config : Config) (earlier : List (Nat × EndpointEvent)) (start : Nat)
    (peer : Address) (service : UInt8) (parameters : Octets) (known : Option Peer)
    (key : TransactionKey)
    (granted : (((new config).run earlier).step start
      (.request peer service parameters known)).granted = some key)
    (later : List (Nat × EndpointEvent))
    (alone : (((new config).run earlier).step start
      (.request peer service parameters known)).endpoint.LeftAlone key later)
    (last : Nat) (begins : start ≤ last) (reached : ∀ entry ∈ later, entry.1 ≤ last)
    (punctual : ∀ due, (((new config).run earlier).run
      ((start, .request peer service parameters known) :: later)).deadline? key = some due →
        last < due) :
    ∃ plan, RequestPlan.new config parameters.length known = .ok plan ∧
      ((new config).run earlier).doneFor key
          ((start, .request peer service parameters known) :: later) =
        (plan.schedule config key.invokeId service parameters start).filter (·.1 ≤ last) ∧
      (start + (config.apduRetries.toNat + 1) * plan.span config ≤ last →
        ((new config).run earlier).doneFor key
            ((start, .request peer service parameters known) :: later) =
          plan.schedule config key.invokeId service parameters start ∧
        (((new config).run earlier).run
          ((start, .request peer service parameters known) :: later)).transactions.find? key =
            none ∧
        (((new config).run earlier).run
          ((start, .request peer service parameters known) :: later)).timers.handlesOf
            (.transaction key) = []) := by
  have invariant := invariant_run (invariant_new config) earlier
  have next := invariant_of_effect
    (effect_step _ start (.request peer service parameters known)) invariant
  obtain ⟨plan, planned, opens, waits⟩ := invariant.waits_request granted
  obtain ⟨does, ends⟩ := waits.doneFor_eq planned next (Nat.zero_le _) alone reached punctual
  have done : ((new config).run earlier).doneFor key
      ((start, .request peer service parameters known) :: later) =
        (plan.schedule config key.invokeId service parameters start).filter (·.1 ≤ last) := by
    have first : start + 0 * plan.span config = start := by omega
    rw [doneFor, opens, does, RequestPlan.schedule_eq,
      RequestPlan.filter_scheduleFrom_of_le (Nat.zero_le _) (first.symm ▸ begins),
      RequestPlan.attempted, first]
    rfl
  refine ⟨plan, planned, done, ?_⟩
  intro ended
  have gone := ends ended
  refine ⟨done.trans (RequestPlan.filter_schedule_of_le ended), ?_, ?_⟩
  · rw [Transactions.find?, run, gone]
    rfl
  · rw [run, (invariant_run next later).timed, Transactions.timer?, gone]
    rfl

/-- A short message is all that the device sends or accepts, so that longer ones are sent in
segments. -/
def shortMessages : Config :=
  { Config.standard with maxApdu := .up50, segmentation := .both }

/-- The timer of a request of three segments that is made at the beginning runs out four times. -/
def fourTimeouts : List (Nat × EndpointEvent) :=
  (List.range 4).map fun attempt => ((attempt + 1) * shortMessages.segmentSpan, .expire)

/-- The first segment of three is sent every one and a half seconds, and given up after six. -/
theorem unanswered_run_of_three_segments :
    ∃ plan, RequestPlan.new shortMessages 100 none = .ok plan ∧ plan.segments = 3 ∧
      (new shortMessages).doneFor (.client (.ofMac [20]) 1)
          ((0, .request (.ofMac [20]) 12 (List.replicate 100 1) none) :: fourTimeouts) =
        plan.schedule shortMessages 1 12 (List.replicate 100 1) 0 := by
  obtain ⟨plan, planned, -, ends⟩ := unanswered_run shortMessages [] 0 (.ofMac [20]) 12
    (List.replicate 100 1) none (.client (.ofMac [20]) 1) (by decide +kernel) fourTimeouts
    (by decide +kernel) (4 * shortMessages.segmentSpan) (by decide +kernel) (by decide +kernel)
    (by decide +kernel)
  have cut : RequestPlan.new shortMessages 100 none = .ok ⟨44, 3⟩ := by decide +kernel
  have same : plan = ⟨44, 3⟩ := Except.ok.inj (planned.symm.trans cut)
  subst same
  exact ⟨_, cut, rfl, (ends (by decide +kernel)).1⟩

end Endpoint

end BACnet
